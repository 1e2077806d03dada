import Smtp.Textproto.Conn
import Smtp.Lemmas.Strings

/-!
# Helpers for the wire: reading a line, writing a code

`ReadLine` over a line that ends in `\r\n` within the buffer returns the line and leaves what follows; conversely,
a line `ReadLine` returns has no `\n` and stands in the input before its terminator. A three-digit code is written as
three ASCII digits that `strconv.Atoi` reads back, and any number in the range of an `int64` as digits that
`fmt.Sscanf` and, with its sign, `strconv.Atoi` read back.
-/

namespace Smtp
namespace ConnAux

/-! ## `lineWithin` and `readSlice` -/

theorem lineWithin_append (l rest : Bytes) (n : Nat) (hl : Byte.lf ∉ l) (hn : l.length < n) :
    lineWithin n (l ++ Byte.lf :: rest) = some (l ++ [Byte.lf], rest) := by
  induction l generalizing n with
  | nil => cases n <;> simp_all [lineWithin]
  | cons b l ih =>
    obtain ⟨n, rfl⟩ : ∃ m, n = m + 1 := ⟨n - 1, by simp at hn; omega⟩
    simp only [List.mem_cons, not_or] at hl
    have := ih n hl.2 (by simp at hn; omega)
    show lineWithin (n + 1) (b :: (l ++ Byte.lf :: rest)) = _
    simp only [lineWithin, if_neg (Ne.symm hl.1), this, Option.map_some', List.cons_append]

theorem lineWithin_eq_some {n : Nat} {bs line rest : Bytes} (h : lineWithin n bs = some (line, rest)) :
    bs = line ++ rest ∧ line.length ≤ n ∧ ∃ x, line = x ++ [Byte.lf] ∧ Byte.lf ∉ x := by
  induction bs generalizing n line with
  | nil => cases n <;> simp [lineWithin] at h
  | cons b bs ih =>
    cases n with
    | zero => simp [lineWithin] at h
    | succ n =>
      simp only [lineWithin] at h
      split_ifs at h with hb
      · simp only [Option.some.injEq, Prod.mk.injEq] at h
        obtain ⟨rfl, rfl⟩ := h
        exact ⟨rfl, by simp, [], by simp [hb]⟩
      · obtain ⟨⟨l', r'⟩, h', heq⟩ := Option.map_eq_some'.mp h
        simp only [Prod.mk.injEq] at heq
        obtain ⟨rfl, rfl⟩ := heq
        obtain ⟨h1, h2, x, rfl, hx⟩ := ih h'
        refine ⟨by simp [h1], by simp at h2 ⊢; omega, b :: x, rfl, ?_⟩
        simp only [List.mem_cons, not_or]
        exact ⟨fun h => hb h.symm, hx⟩

theorem lineWithin_eq_none {n : Nat} {bs : Bytes} (h : lineWithin n bs = none) : Byte.lf ∉ bs.take n := by
  induction bs generalizing n with
  | nil => simp
  | cons b bs ih =>
    cases n with
    | zero => simp
    | succ n =>
      simp only [lineWithin] at h
      split_ifs at h with hb
      simp only [Option.map_eq_none'] at h
      simp only [List.take_succ_cons, List.mem_cons, not_or]
      exact ⟨fun h => hb h.symm, ih h⟩

/-- The three ways `ReadSlice` ends. -/
theorem readSlice_cases (r : BufReader) :
    (∃ line rest, lineWithin bufSize r.bytes = some (line, rest) ∧ readSlice r = (line, none, ⟨rest, r.err⟩)) ∨
    (lineWithin bufSize r.bytes = none ∧ bufSize ≤ r.bytes.length ∧
      readSlice r = (r.bytes.take bufSize, some .bufferFull, ⟨r.bytes.drop bufSize, r.err⟩)) ∨
    (lineWithin bufSize r.bytes = none ∧ r.bytes.length < bufSize ∧
      readSlice r = (r.bytes, some (.io r.err), ⟨[], r.err⟩)) := by
  unfold readSlice
  split
  · exact .inl ⟨_, _, ‹_›, rfl⟩
  · split
    · exact .inr (.inl ⟨‹_›, ‹_›, rfl⟩)
    · exact .inr (.inr ⟨‹_›, by omega, rfl⟩)

/-! ## `bufio.Reader.ReadLine` -/

theorem dropEOL_crlf (l : Bytes) : dropEOL (l ++ [Byte.cr, Byte.lf]) = l := by
  simp [dropEOL, ← List.append_assoc]

theorem bufReadLine_line (l R : Bytes) (e : ReadErr) (hl : Byte.lf ∉ l) (hlen : l.length + 2 ≤ bufSize) :
    bufReadLine ⟨l ++ crlf ++ R, e⟩ = (⟨l, false, none⟩, ⟨R, e⟩) := by
  have hcr : Byte.lf ∉ l ++ [Byte.cr] := by
    simp only [List.mem_append, List.mem_singleton, not_or]; exact ⟨hl, by decide⟩
  have : lineWithin bufSize (l ++ crlf ++ R) = some (l ++ [Byte.cr, Byte.lf], R) := by
    simpa [crlf] using lineWithin_append (l ++ [Byte.cr]) R bufSize hcr (by simp; omega)
  simp only [bufReadLine, readSlice, this, dropEOL_crlf]

/-- What a `ReadLine` that is not a prefix returns stands before its terminator in the input. -/
theorem bufReadLine_full {r r' : BufReader} {line : Bytes} (h : bufReadLine r = (⟨line, false, none⟩, r')) :
    Byte.lf ∉ line ∧ r'.err = r.err ∧
      ∃ t, r.bytes = line ++ t ++ r'.bytes ∧ (t = [Byte.lf] ∨ t = crlf ∨ (t = [] ∧ r'.bytes = [])) := by
  rcases readSlice_cases r with ⟨line', rest, hw, hs⟩ | ⟨-, -, hs⟩ | ⟨hw, hlen, hs⟩ <;>
    simp only [bufReadLine, hs] at h
  · simp only [Prod.mk.injEq, LineChunk.mk.injEq] at h
    obtain ⟨⟨rfl, -⟩, rfl⟩ := h
    obtain ⟨hbs, -, x, rfl, hx⟩ := lineWithin_eq_some hw
    rcases x.eq_nil_or_concat with rfl | ⟨y, c, rfl⟩
    · exact ⟨by simp [dropEOL], rfl, [Byte.lf], by simp [hbs, dropEOL], .inl rfl⟩
    rw [List.concat_eq_append] at hx hbs
    by_cases hc : c = Byte.cr
    · subst hc
      have hy : Byte.lf ∉ y := fun hm => hx (List.mem_append_left _ hm)
      have hd : dropEOL (y.concat Byte.cr ++ [Byte.lf]) = y := by
        rw [List.concat_eq_append, List.append_assoc, List.singleton_append, dropEOL_crlf]
      refine ⟨by rw [hd]; exact hy, rfl, crlf, ?_, .inr (.inl rfl)⟩
      rw [hd, hbs]; simp [crlf]
    · have hd : dropEOL (y ++ [c] ++ [Byte.lf]) = y ++ [c] := by simp [dropEOL, show c ≠ 13 from hc]
      exact ⟨by rw [List.concat_eq_append, hd]; exact hx, rfl, [Byte.lf], by
        rw [hbs, List.concat_eq_append, hd], .inl rfl⟩
  · split_ifs at h <;> simp at h
  · split_ifs at h <;> simp only [Prod.mk.injEq, LineChunk.mk.injEq] at h
    · simp at h
    · obtain ⟨⟨rfl, -⟩, rfl⟩ := h
      have := lineWithin_eq_none hw
      rw [List.take_of_length_le (by omega)] at this
      exact ⟨this, rfl, [], by simp, .inr (.inr ⟨rfl, rfl⟩)⟩

/-- A prefix `ReadLine` returns is a whole buffer, less a `\r` it puts back. -/
theorem bufReadLine_prefix_length {r r' : BufReader} {line : Bytes} {e : Option ReadErr}
    (h : bufReadLine r = (⟨line, true, e⟩, r')) : bufSize - 1 ≤ line.length := by
  rcases readSlice_cases r with ⟨line', rest, -, hs⟩ | ⟨-, hlen, hs⟩ | ⟨-, -, hs⟩ <;>
    simp only [bufReadLine, hs] at h
  · simp at h
  · split_ifs at h <;> simp only [Prod.mk.injEq, LineChunk.mk.injEq] at h <;> obtain ⟨⟨rfl, -⟩, -⟩ := h <;>
      simp only [List.length_dropLast, List.length_take] <;> omega
  · split_ifs at h <;> simp at h

/-! ## `Conn.ReadLine` -/

theorem readLine_line (maxLen : Nat) (l R : Bytes) (e : ReadErr) (hl : Byte.lf ∉ l) (hlen : l.length + 2 ≤ maxLen)
    (hmax : maxLen ≤ bufSize) : readLine maxLen ⟨l ++ crlf ++ R, e⟩ = (.ok l, ⟨R, e⟩) := by
  have hnot : ¬((l.length : Int) > (maxLen : Int) - 2) := by omega
  simp only [readLine, readLineLoop, bufReadLine_line l R e hl (by omega), List.nil_append, hnot, if_false]

/-- A line within the buffer but beyond the limit is refused, and consumed with its `\r\n`. -/
theorem readLine_tooLong (maxLen : Nat) (l R : Bytes) (e : ReadErr) (hl : Byte.lf ∉ l) (hlen : maxLen < l.length + 2)
    (hbuf : l.length + 2 ≤ bufSize) : readLine maxLen ⟨l ++ crlf ++ R, e⟩ = (.error .tooLong, ⟨R, e⟩) := by
  have h : (l.length : Int) > (maxLen : Int) - 2 := by omega
  simp only [readLine, readLineLoop, bufReadLine_line l R e hl hbuf, List.nil_append, h, if_true]

/-- A line that `ReadLine` returns, bounded below the buffer, has no `\n`, leaves room for `\r\n` within the limit,
and stands before its terminator. -/
theorem readLine_ok {maxLen : Nat} {r r' : BufReader} {line : Bytes} (hmax : maxLen < bufSize - 1)
    (h : readLine maxLen r = (.ok line, r')) :
    Byte.lf ∉ line ∧ line.length + 2 ≤ maxLen ∧ r'.err = r.err ∧
      ∃ t, r.bytes = line ++ t ++ r'.bytes ∧ (t = [Byte.lf] ∨ t = crlf ∨ (t = [] ∧ r'.bytes = [])) := by
  unfold readLine readLineLoop at h
  split at h
  · simp at h
  · split at h <;> simp only [Prod.mk.injEq, Except.ok.injEq] at h
    · simp at h
    · obtain ⟨rfl, rfl⟩ := h
      obtain ⟨hlf, hrest⟩ := bufReadLine_full ‹_›
      rw [List.nil_append] at *
      exact ⟨hlf, by omega, hrest⟩
  · have := bufReadLine_prefix_length ‹_›
    rw [if_pos (by simp; omega)] at h
    simp at h

/-! ## Three-digit codes -/

theorem digitsAux_succ (fuel n : Nat) (acc : Bytes) :
    digitsAux (fuel + 1) n acc =
      if n < 10 then (48 + n).toUInt8 :: acc else digitsAux fuel (n / 10) ((48 + n % 10).toUInt8 :: acc) := rfl

theorem decimal_three (n : Nat) (h1 : 100 ≤ n) (h2 : n < 1000) :
    decimal n = [(48 + n / 100).toUInt8, (48 + n / 10 % 10).toUInt8, (48 + n % 10).toUInt8] := by
  obtain ⟨m, rfl⟩ : ∃ m, n = m + 2 := ⟨n - 2, by omega⟩
  have h3 : (m + 2) / 10 / 10 = (m + 2) / 100 := by omega
  simp only [decimal, digitsAux_succ, if_neg (show ¬m + 2 < 10 by omega), if_neg (show ¬(m + 2) / 10 < 10 by omega),
    h3, if_pos (show (m + 2) / 100 < 10 by omega)]

/-- The ASCII digits, as `isDigit` sees them. -/
theorem digit_facts : ∀ k, k < 10 → isDigit (48 + k).toUInt8 = true ∧ ((48 + k).toUInt8).toNat = 48 + k ∧
    (48 + k).toUInt8 ≠ Byte.lf ∧ (48 + k).toUInt8 ≠ Byte.dash ∧ (48 + k).toUInt8 ≠ 43 := by
  decide

theorem formatInt_natCast (n : Nat) : formatInt n = decimal n := by
  rw [formatInt, if_neg (by omega), Int.natAbs_ofNat]

theorem formatInt_three (n : Nat) (h1 : 100 ≤ n) (h2 : n ≤ 999) :
    formatInt n = [(48 + n / 100).toUInt8, (48 + n / 10 % 10).toUInt8, (48 + n % 10).toUInt8] := by
  rw [formatInt_natCast, decimal_three _ h1 (by omega)]

theorem digitsAux_mem (b : UInt8) : ∀ (fuel n : Nat) (acc : Bytes), b ∈ digitsAux fuel n acc →
    b ∈ acc ∨ ∃ k, k < 10 ∧ b = (48 + k).toUInt8
  | 0, _, _, h => .inl h
  | fuel + 1, n, acc, h => by
    rw [digitsAux_succ] at h
    split_ifs at h with hn
    · rcases List.mem_cons.1 h with rfl | h
      · exact .inr ⟨n, hn, rfl⟩
      · exact .inl h
    · rcases digitsAux_mem b fuel _ _ h with h | h
      · rcases List.mem_cons.1 h with rfl | h
        · exact .inr ⟨n % 10, Nat.mod_lt _ (by omega), rfl⟩
        · exact .inl h
      · exact .inr h

theorem digitsAux_eq (fuel : Nat) : ∀ n acc, n < fuel → digitsAux fuel n acc = decimal n ++ acc := by
  induction fuel using Nat.strong_induction_on with
  | _ fuel ih =>
    intro n acc h
    obtain ⟨f, rfl⟩ : ∃ f, fuel = f + 1 := ⟨fuel - 1, by omega⟩
    rw [decimal, digitsAux_succ, digitsAux_succ]
    split_ifs with hn
    · rfl
    · obtain ⟨m, rfl⟩ : ∃ m, n = m + 1 := ⟨n - 1, by omega⟩
      rw [ih f (by omega) _ _ (by omega), ih (m + 1) (by omega) _ _ (by omega), List.append_assoc]
      rfl

/-- The digits of a number of two digits or more: those of its tenth, then the last one. -/
theorem decimal_of_ten_le (n : Nat) (h : 10 ≤ n) : decimal n = decimal (n / 10) ++ [(48 + n % 10).toUInt8] := by
  obtain ⟨m, rfl⟩ : ∃ m, n = m + 1 := ⟨n - 1, by omega⟩
  rw [decimal, digitsAux_succ, if_neg (by omega), digitsAux_eq _ _ _ (by omega)]

theorem length_decimal_le : ∀ k n, n < Nat.pow 10 (k + 1) → (decimal n).length ≤ k + 1
  | 0, n, h => by simp [decimal, digitsAux_succ, show n < 10 from h]
  | k + 1, n, h => by
    by_cases hn : n < 10
    · simp [decimal, digitsAux_succ, hn]
    · have := length_decimal_le k (n / 10) ((Nat.div_lt_iff_lt_mul (by decide)).2 h)
      rw [decimal_of_ten_le n (by omega), List.length_append, List.length_singleton]
      omega

/-- A number in the range of an `int64` takes at most twenty bytes, its sign included. -/
theorem length_formatInt_le (i : Int) (h : i.natAbs < 9223372036854775808) : (formatInt i).length ≤ 20 := by
  have := length_decimal_le 18 i.natAbs (lt_of_lt_of_le h (by decide))
  unfold formatInt; split
  · rw [List.length_cons]; omega
  · omega

/-- No decimal number has a `\n` in it. -/
theorem lf_not_mem_formatInt (i : Int) : Byte.lf ∉ formatInt i := by
  have hd : ∀ n, Byte.lf ∉ decimal n := fun n h => by
    rcases digitsAux_mem _ _ _ _ h with h | ⟨k, hk, hb⟩
    · simp at h
    · exact (digit_facts k hk).2.2.1 hb.symm
  unfold formatInt; split
  · simp only [List.mem_cons, not_or]; exact ⟨by decide, hd _⟩
  · exact hd _

theorem lf_not_mem_enhancedText (e : EnhancedCode) (l : Bytes) (hl : Byte.lf ∉ l) :
    Byte.lf ∉ enhancedText e l := by
  unfold enhancedText EnhancedCode.string; split
  · exact hl
  · simp only [List.mem_append, List.mem_singleton, or_assoc, not_or]
    exact ⟨lf_not_mem_formatInt _, by decide, lf_not_mem_formatInt _, by decide, lf_not_mem_formatInt _, by decide, hl⟩

/-! ## Decimal numbers -/

theorem mem_decimal {b : UInt8} {n : Nat} (h : b ∈ decimal n) : ∃ k, k < 10 ∧ b = (48 + k).toUInt8 :=
  (digitsAux_mem b _ _ _ h).resolve_left (List.not_mem_nil b)

theorem decimal_ne_nil (n : Nat) : decimal n ≠ [] := by
  by_cases hn : n < 10
  · simp [decimal, digitsAux_succ, hn]
  · simp [decimal_of_ten_le n (by omega)]

/-- The digits of a number have the number as their value. -/
theorem digitsValue_decimal (n : Nat) : digitsValue (decimal n) = n := by
  induction n using Nat.strong_induction_on with
  | _ n ih =>
    by_cases hn : n < 10
    · simp [decimal, digitsAux_succ, hn, digitsValue, (digit_facts n hn).2.1]
    · have hd := (digit_facts _ (Nat.mod_lt n (by omega : 10 > 0))).2.1
      rw [decimal_of_ten_le n (by omega), digitsValue, List.foldl_append, ← digitsValue, ih _ (by omega)]
      simp only [List.foldl, hd]
      omega

/-- The digits of a number, each an ASCII digit, the first no sign. -/
theorem decimal_digits (n : Nat) :
    (∀ b ∈ decimal n, isDigit b = true) ∧ ∃ d ds, decimal n = d :: ds ∧ ¬(d = Byte.dash ∨ d = 43) := by
  refine ⟨fun b hb => ?_, ?_⟩
  · obtain ⟨k, hk, rfl⟩ := mem_decimal hb
    exact (digit_facts k hk).1
  · obtain ⟨d, ds, hds⟩ := List.exists_cons_of_ne_nil (decimal_ne_nil n)
    obtain ⟨k, hk, rfl⟩ := mem_decimal (hds ▸ List.mem_cons_self d ds)
    have := digit_facts k hk
    exact ⟨_, ds, hds, by tauto⟩

/-- `strconv.ParseInt` reads back the digits of a number in the range of an `int64`. -/
theorem parseInt_decimal (n : Nat) (h : n < 9223372036854775808) : parseInt (decimal n) = some (n : Int) := by
  obtain ⟨hd, d, ds, hds, hsign⟩ := decimal_digits n
  have hany : (decimal n).any (fun d => !isDigit d) = false := by simpa using hd
  have hv := digitsValue_decimal n
  unfold parseInt
  simp only [hds] at hany hv ⊢
  simp only [not_or.1 hsign, if_false, hany, reduceCtorEq, or_false, hv, h, if_true, Bool.false_eq_true]

/-- `fmt.Sscanf` reads back the digits of a number in the range of an `int64`. -/
theorem sscanInt_decimal (n : Nat) (h : n < 9223372036854775808) : sscanInt (decimal n) = some (n : Int) := by
  obtain ⟨hd, d, ds, hds, hsign⟩ := decimal_digits n
  have htw : (decimal n).takeWhile isDigit = decimal n := List.takeWhile_eq_self_iff.2 hd
  have hp := parseInt_decimal n h
  unfold sscanInt
  simp only [hds] at htw hp ⊢
  simp only [if_neg hsign, htw, List.isEmpty_cons, Bool.false_eq_true, if_false, List.nil_append, hp]

theorem parseInt_formatInt (c : Int) (h1 : 100 ≤ c) (h2 : c ≤ 999) : parseInt (formatInt c) = some c := by
  obtain ⟨n, rfl⟩ : ∃ n : Nat, c = n := ⟨c.natAbs, by omega⟩
  rw [formatInt_natCast, parseInt_decimal n (by omega)]

theorem formatInt_lf (c : Int) (h1 : 100 ≤ c) (h2 : c ≤ 999) : Byte.lf ∉ formatInt c ∧ (formatInt c).length = 3 := by
  obtain ⟨n, rfl⟩ : ∃ n : Nat, c = n := ⟨c.natAbs, by omega⟩
  exact ⟨lf_not_mem_formatInt _, by rw [formatInt_three n (by omega) (by omega)]; rfl⟩

/-- A byte of a decimal number: its sign or a digit. -/
theorem mem_formatInt {b : UInt8} {i : Int} (h : b ∈ formatInt i) :
    b = Byte.dash ∨ ∃ k, k < 10 ∧ b = (48 + k).toUInt8 := by
  unfold formatInt at h; split at h
  · exact (List.mem_cons.1 h).imp_right mem_decimal
  · exact .inr (mem_decimal h)

/-- `strconv.ParseInt` reads back the digits `fmt` writes of every `int64`, its sign included. -/
theorem parseInt_formatInt_int64 (i : Int) (h1 : -9223372036854775808 ≤ i) (h2 : i < 9223372036854775808) :
    parseInt (formatInt i) = some i := by
  by_cases hneg : i < 0
  · obtain ⟨hd, -⟩ := decimal_digits i.natAbs
    have hany : (decimal i.natAbs).any (fun d => !isDigit d) = false := by simpa using hd
    rw [formatInt, if_pos hneg]
    unfold parseInt
    simp only [if_true, decimal_ne_nil, hany, digitsValue_decimal, false_or, Bool.false_eq_true, if_false,
      show i.natAbs ≤ 9223372036854775808 by omega]
    congr 1; omega
  · obtain ⟨n, rfl⟩ : ∃ n : Nat, i = n := ⟨i.natAbs, by omega⟩
    rw [formatInt_natCast, parseInt_decimal n (by omega)]

end ConnAux
end Smtp
