import Smtp.Lemmas.Conn

/-!
# Replies on the wire

`ReadReply` reads back what `WriteReply` and `SMTPError.WireLines` write, for codes of three digits and lines without
`\n` that fit the client's line limit, and leaves what follows unread. An empty error message goes out as `Error`.

What `ReadReply` accepts is a sequence of lines of at least three bytes whose first three `strconv.Atoi` reads,
continued by `-` and ended by ` ` or the end of the line; the code is that of the last line. `strconv.Atoi` reads a
sign as well as digits, so a line such as `-12 x` is a reply of code `-12` (`readReply_accepts_signed_code`).

`ParseEnhancedCode` reads back every enhanced code `EnhancedCode.String` writes, and takes as one every first token of
three parts joined by dots that `strconv.Atoi` reads, the first from 2 to 5: `+5.1.1`, `05.1.1` and `5.-1.2` among
them (`parseEnhancedCode_accepts_atoi`).
-/

namespace Smtp
open ConnAux StringsAux

/-- The lines a successful `ReadReply` consumed, returning `code`: at least three bytes each, the first three read by
`strconv.Atoi`, `-` after them on every line but the last, and ` ` or nothing on the last, whose first three bytes
give `code`. -/
def ReplyShape (code : Int) : List Bytes → Prop
  | [] => False
  | [l] => 3 ≤ l.length ∧ parseInt (l.take 3) = some code ∧ ((l.drop 3).head? = none ∨ (l.drop 3).head? = some Byte.sp)
  | l :: l' :: ls =>
    3 ≤ l.length ∧ parseInt (l.take 3) ≠ none ∧ (l.drop 3).head? = some Byte.dash ∧ ReplyShape code (l' :: ls)

namespace ReplyAux

theorem readLine_replyLine (c : Int) (hc : 100 ≤ c ∧ c ≤ 999) (sep : UInt8) (hsep : sep ≠ Byte.lf) (l R : Bytes)
    (e : ReadErr) (hl : Byte.lf ∉ l ∧ l.length ≤ 2042) :
    readLine maxReplyLineLen ⟨formatInt c ++ [sep] ++ l ++ crlf ++ R, e⟩ = (.ok (formatInt c ++ [sep] ++ l), ⟨R, e⟩) := by
  obtain ⟨hf, h3⟩ := formatInt_lf c hc.1 hc.2
  refine readLine_line _ _ _ _ ?_ (by simp [h3, maxReplyLineLen]; omega) (by decide)
  simp only [List.mem_append, List.mem_singleton, not_or]
  exact ⟨⟨hf, Ne.symm hsep⟩, hl.1⟩

theorem readReplyLoop_replyLines (c : Int) (hc : 100 ≤ c ∧ c ≤ 999) (R : Bytes) (e : ReadErr) :
    ∀ (L : List Bytes) (acc : List Bytes) (fuel : Nat), L ≠ [] → (∀ l ∈ L, Byte.lf ∉ l ∧ l.length ≤ 2042) →
      L.length ≤ fuel → readReplyLoop fuel acc ⟨replyLines c L ++ R, e⟩ = (.ok ⟨c, acc ++ L⟩, ⟨R, e⟩)
  | [], _, _, h, _, _ => absurd rfl h
  | l :: ls, acc, fuel + 1, _, hL, hf => by
    obtain ⟨-, h3⟩ := formatInt_lf c hc.1 hc.2
    have hp : ∀ sep : UInt8, parseInt ((formatInt c ++ [sep] ++ l).take 3) = some c := fun sep => by
      rw [List.append_assoc, List.take_left' h3, parseInt_formatInt c hc.1 hc.2]
    have hd : ∀ sep : UInt8, (formatInt c ++ [sep] ++ l).drop 3 = sep :: l := fun sep => by
      rw [List.append_assoc, List.drop_left' h3]; rfl
    have hlen : ∀ sep : UInt8, ¬(formatInt c ++ [sep] ++ l).length < 3 := by simp [h3]
    cases ls with
    | nil =>
      show readReplyLoop (fuel + 1) acc ⟨formatInt c ++ [Byte.sp] ++ l ++ crlf ++ R, e⟩ = _
      simp only [readReplyLoop, readLine_replyLine c hc Byte.sp (by decide) l R e (hL l (by simp)), hlen, if_false,
        hp, hd]
      rfl
    | cons l' ls =>
      have ih := readReplyLoop_replyLines c hc R e (l' :: ls) (acc ++ [l]) fuel (by simp)
        (fun x hx => hL x (List.mem_cons_of_mem _ hx)) (by simp at hf ⊢; omega)
      show readReplyLoop (fuel + 1) acc
        ⟨formatInt c ++ [Byte.dash] ++ l ++ crlf ++ replyLines c (l' :: ls) ++ R, e⟩ = _
      rw [List.append_assoc]
      simp only [readReplyLoop, readLine_replyLine c hc Byte.dash (by decide) l _ e (hL l (by simp)), hlen, if_false,
        hp, hd, if_true, ih]
      simp

theorem length_le_replyLines (c : Int) : ∀ L : List Bytes, L.length ≤ (replyLines c L).length
  | [] => le_refl _
  | [_] => by
    simp only [replyLines, List.length_append, List.length_singleton, crlf, List.length_cons, List.length_nil]
    omega
  | _ :: l' :: ls => by
    have := length_le_replyLines c (l' :: ls)
    simp only [replyLines, List.length_append, List.length_cons] at this ⊢; omega

theorem wireLinesOf_eq (c : Int) (e : EnhancedCode) :
    ∀ ls : List Bytes, wireLinesOf c e ls = replyLines c (ls.map (enhancedText e))
  | [] => rfl
  | [_] => rfl
  | x :: l' :: ls => by
    show formatInt c ++ [Byte.dash] ++ enhancedText e x ++ crlf ++ wireLinesOf c e (l' :: ls) = _
    rw [wireLinesOf_eq c e (l' :: ls)]; rfl

/-- `ReadReply` over the bytes of `WriteReply(c, L...)` returns `c` and `L` (`[""]` for no lines) and leaves what
follows. -/
theorem readReply_writeReply (c : Int) (L : List Bytes) (R : Bytes) (e : ReadErr) (h1 : 100 ≤ c) (h2 : c ≤ 999)
    (hL : ∀ l ∈ L, Byte.lf ∉ l ∧ l.length ≤ 2042) :
    readReply ⟨writeReply c L ++ R, e⟩ = (.ok ⟨c, if L = [] then [[]] else L⟩, ⟨R, e⟩) := by
  have hL' : ∀ l ∈ (if L = [] then [[]] else L), Byte.lf ∉ l ∧ l.length ≤ 2042 := by
    split_ifs <;> simp_all
  have hf := length_le_replyLines c (if L = [] then [[]] else L)
  rw [readReply, writeReply, readReplyLoop_replyLines c ⟨h1, h2⟩ R e _ [] _ (by split_ifs <;> simp_all) hL'
    (by simp only [List.length_append]; omega)]
  rfl

/-- A line `ReadReply` reads, with its terminator. -/
def Framed (p : Bytes × Bytes) : Prop := Byte.lf ∉ p.1 ∧ (p.2 = [Byte.lf] ∨ p.2 = crlf ∨ p.2 = [])

theorem readReplyLoop_ok : ∀ (fuel : Nat) (acc : List Bytes) (r r' : BufReader) (rep : Reply),
    readReplyLoop fuel acc r = (.ok rep, r') → ∃ ls : List (Bytes × Bytes),
      r.bytes = (ls.map fun p => p.1 ++ p.2).flatten ++ r'.bytes ∧ ReplyShape rep.code (ls.map Prod.fst) ∧
        rep.lines = acc ++ ls.map (fun p => p.1.drop 4) ∧ ∀ p ∈ ls, Framed p
  | 0, _, _, _, _, h => by simp [readReplyLoop] at h
  | fuel + 1, acc, r, r', rep, h => by
    unfold readReplyLoop at h
    split at h
    · simp at h
    rename_i line r1 hl
    obtain ⟨hlf, -, -, t, hr, ht⟩ := readLine_ok (by decide) hl
    have hfr : Framed (line, t) := ⟨hlf, ht.imp_right (Or.imp_right And.left)⟩
    have hd4 : line.drop 4 = (line.drop 3).drop 1 := (List.drop_drop 1 3 line).symm
    split_ifs at h with h3
    · simp at h
    split at h
    · simp at h
    rename_i code hc
    split at h
    · rename_i hd
      simp only [Prod.mk.injEq, Except.ok.injEq] at h
      obtain ⟨rfl, rfl⟩ := h
      exact ⟨[(line, t)], by simp [hr], ⟨show 3 ≤ line.length by omega, hc, .inl (by simp [hd])⟩, by simp [hd4, hd], by simpa using hfr⟩
    rename_i sep text hd
    split_ifs at h with hs hs'
    · obtain ⟨ls, h1, h2, h3', h4⟩ := readReplyLoop_ok fuel _ r1 r' rep h
      refine ⟨(line, t) :: ls, by simp [hr, h1], ?_, by simp [h3', hd4, hd], List.forall_mem_cons.2 ⟨hfr, h4⟩⟩
      cases hls : ls.map Prod.fst with
      | nil => rw [hls] at h2; exact h2.elim
      | cons l' ls' =>
        rw [hls] at h2
        simp only [List.map_cons, hls]
        exact ⟨by omega, by simp [hc], by simp [hd, hs], h2⟩
    · simp only [Prod.mk.injEq, Except.ok.injEq] at h
      obtain ⟨rfl, rfl⟩ := h
      exact ⟨[(line, t)], by simp [hr], ⟨show 3 ≤ line.length by omega, hc, .inr (by simp [hd, hs'])⟩, by simp [hd4, hd],
        by simpa using hfr⟩
    · simp at h

/-- `ReadReply` takes one line whose first three bytes `strconv.Atoi` reads, followed by ` ` or nothing, as a reply of
that code, and leaves what follows. -/
theorem readReply_line (l R : Bytes) (e : ReadErr) (c : Int) (hlf : Byte.lf ∉ l) (hlen : 3 ≤ l.length ∧ l.length ≤ 2046)
    (hc : parseInt (l.take 3) = some c) (hs : l.drop 3 = [] ∨ (l.drop 3).head? = some Byte.sp) :
    readReply ⟨l ++ crlf ++ R, e⟩ = (.ok ⟨c, [l.drop 4]⟩, ⟨R, e⟩) := by
  have h4 : l.drop 4 = (l.drop 3).drop 1 := (List.drop_drop 1 3 l).symm
  simp only [readReply, readReplyLoop, readLine_line maxReplyLineLen l R e hlf (by simp only [maxReplyLineLen]; omega)
    (by decide), show ¬l.length < 3 by omega, if_false, hc]
  rw [h4]
  rcases hd : l.drop 3 with _ | ⟨sep, text⟩
  · rfl
  · obtain rfl : sep = Byte.sp := by simpa [hd] using hs
    rfl

/-- `ParseEnhancedCode` reads three tokens that `strconv.Atoi` takes, joined by dots and ended by a space, when the
first is a class between 2 and 5. -/
theorem parseEnhancedCode_tokens (tc ts td r : Bytes) (c s d : Int)
    (hdot : Byte.dot ∉ tc ∧ Byte.dot ∉ ts ∧ Byte.dot ∉ td) (hsp : Byte.sp ∉ tc ++ [Byte.dot] ++ ts ++ [Byte.dot] ++ td)
    (hc : parseInt tc = some c) (hs : parseInt ts = some s) (hd : parseInt td = some d) (h25 : 2 ≤ c ∧ c ≤ 5) :
    parseEnhancedCode (tc ++ [Byte.dot] ++ ts ++ [Byte.dot] ++ td ++ Byte.sp :: r) = (⟨c, s, d⟩, r) := by
  have hsplit : split Byte.dot (tc ++ [Byte.dot] ++ ts ++ [Byte.dot] ++ td) = [tc, ts, td] := by
    rw [show tc ++ [Byte.dot] ++ ts ++ [Byte.dot] ++ td = tc ++ Byte.dot :: (ts ++ Byte.dot :: td) by simp,
      split_append _ _ _ hdot.1, split_append _ _ _ hdot.2.1, split_of_not_mem _ _ hdot.2.2]
  rw [parseEnhancedCode, cut_append _ _ _ hsp]
  simp only [hsplit, hc, hs, hd, if_neg (show ¬(c < 2 ∨ c > 5) by omega)]

/-- A decimal number is one token of an enhanced code: no dot and no space in it. -/
theorem formatInt_token (i : Int) : Byte.dot ∉ formatInt i ∧ Byte.sp ∉ formatInt i := by
  have hk : ∀ k, k < 10 → Byte.dot ≠ (48 + k).toUInt8 ∧ Byte.sp ≠ (48 + k).toUInt8 := by decide
  constructor <;> intro h <;> rcases mem_formatInt h with h | ⟨k, hk', h⟩
  · exact absurd h (by decide)
  · exact (hk k hk').1 h
  · exact absurd h (by decide)
  · exact (hk k hk').2 h

/-- `ParseEnhancedCode` reads back `e.String() + " " + text` for a class between 2 and 5 and fields that are `int`s. -/
theorem parseEnhancedCode_string (e : EnhancedCode) (text : Bytes) (h25 : 2 ≤ e.cls ∧ e.cls ≤ 5)
    (hs : -9223372036854775808 ≤ e.subject ∧ e.subject < 9223372036854775808)
    (hd : -9223372036854775808 ≤ e.detail ∧ e.detail < 9223372036854775808) :
    parseEnhancedCode (e.string ++ Byte.sp :: text) = (e, text) := by
  have hsp : Byte.sp ∉ e.string := by
    simp only [EnhancedCode.string, List.mem_append, List.mem_singleton, or_assoc, not_or]
    exact ⟨(formatInt_token _).2, by decide, (formatInt_token _).2, by decide, (formatInt_token _).2⟩
  exact parseEnhancedCode_tokens _ _ _ text _ _ _ ⟨(formatInt_token _).1, (formatInt_token _).1, (formatInt_token _).1⟩
    hsp (parseInt_formatInt_int64 _ (by omega) (by omega)) (parseInt_formatInt_int64 _ hs.1 hs.2)
    (parseInt_formatInt_int64 _ hd.1 hd.2) h25

end ReplyAux

open ReplyAux

/-- `ReadReply` inverts the reply encoders, and what it accepts is the reply's line structure with a code that
`strconv.Atoi` reads, a sign included. Over the bytes of `WriteReply(c, L...)` followed by any `R`, with `c` of three
digits and lines without `\n` within the client's limit, it returns `c` and `L` (`[""]` for no lines) and leaves `R`;
over `SMTPError.WireLines`, the code and the message's lines (`Error` for an empty message), each behind the enhanced
code when there is one. A reply it returns was read from lines of at least three bytes whose first three `Atoi`
reads, `-` after them on every line but the last, ` ` or nothing on the last; its code is that of the last line and
its lines are what follows the fourth byte of each. Every such single line is accepted, `-12 x` as code `-12`. -/
theorem readReply_accepts_signed_code :
    (∀ (c : Int) (L : List Bytes) (R : Bytes) (e : ReadErr), 100 ≤ c → c ≤ 999 →
      (∀ l ∈ L, Byte.lf ∉ l ∧ l.length ≤ 2042) →
      readReply ⟨writeReply c L ++ R, e⟩ = (.ok ⟨c, if L = [] then [[]] else L⟩, ⟨R, e⟩)) ∧
    (∀ (err : SMTPError) (R : Bytes) (e : ReadErr), 100 ≤ err.code → err.code ≤ 999 →
      (∀ l ∈ split Byte.lf (if err.message = [] then ascii "Error" else err.message),
        (enhancedText err.enhancedCode l).length ≤ 2042) →
      readReply ⟨err.wireLines ++ R, e⟩ =
        (.ok ⟨err.code, (split Byte.lf (if err.message = [] then ascii "Error" else err.message)).map
          (enhancedText err.enhancedCode)⟩, ⟨R, e⟩)) ∧
    (∀ (r r' : BufReader) (rep : Reply), readReply r = (.ok rep, r') → ∃ ls : List (Bytes × Bytes),
      r.bytes = (ls.map fun p => p.1 ++ p.2).flatten ++ r'.bytes ∧ ReplyShape rep.code (ls.map Prod.fst) ∧
        rep.lines = ls.map (fun p => p.1.drop 4) ∧
        ∀ p ∈ ls, Byte.lf ∉ p.1 ∧ (p.2 = [Byte.lf] ∨ p.2 = crlf ∨ p.2 = [])) ∧
    (∀ (l R : Bytes) (e : ReadErr) (c : Int), Byte.lf ∉ l → 3 ≤ l.length ∧ l.length ≤ 2046 →
      parseInt (l.take 3) = some c → l.drop 3 = [] ∨ (l.drop 3).head? = some Byte.sp →
      readReply ⟨l ++ crlf ++ R, e⟩ = (.ok ⟨c, [l.drop 4]⟩, ⟨R, e⟩)) := by
  refine ⟨readReply_writeReply, fun err R e h1 h2 hL => ?_, fun r r' rep h => ?_, readReply_line⟩
  · have hne : (split Byte.lf (if err.message = [] then ascii "Error" else err.message)).map
        (enhancedText err.enhancedCode) ≠ [] := by simp [split_ne_nil]
    have hw : err.wireLines = writeReply err.code ((split Byte.lf
        (if err.message = [] then ascii "Error" else err.message)).map (enhancedText err.enhancedCode)) := by
      rw [SMTPError.wireLines, wireLinesOf_eq, writeReply, if_neg hne]
    rw [hw, readReply_writeReply _ _ R e h1 h2 (fun l hl => ?_), if_neg hne]
    obtain ⟨x, hx, rfl⟩ := List.mem_map.1 hl
    exact ⟨lf_not_mem_enhancedText _ _ (not_mem_of_mem_split _ _ _ hx), hL x hx⟩
  · obtain ⟨ls, h1, h2, h3, h4⟩ := readReplyLoop_ok _ _ r r' rep h
    exact ⟨ls, h1, h2, by simpa using h3, h4⟩

/-- The line `-12 x`: `strconv.Atoi` reads `-12`, and `ReadReply` returns a reply of code `-12`. -/
theorem readReply_accepts_signed_code_minus12 :
    Byte.lf ∉ ascii "-12 x" ∧ (3 ≤ (ascii "-12 x").length ∧ (ascii "-12 x").length ≤ 2046) ∧
    parseInt ((ascii "-12 x").take 3) = some (-12) ∧
    ((ascii "-12 x").drop 3 = [] ∨ ((ascii "-12 x").drop 3).head? = some Byte.sp) ∧
    readReply ⟨ascii "-12 x" ++ crlf ++ [], .eof⟩ = (.ok ⟨-12, [ascii "x"]⟩, ⟨[], .eof⟩) :=
  ⟨by decide, by decide, by decide, by decide,
    readReply_accepts_signed_code.2.2.2 (ascii "-12 x") [] .eof (-12) (by decide) (by decide) (by decide) (by decide)⟩

/-- `ParseEnhancedCode` takes as an enhanced code every first token made of three parts joined by dots that
`strconv.Atoi` reads, the first between 2 and 5: a sign or leading zeros included, and a negative subject or detail.
In particular it reads back `e.String() + " " + r` for every code of class 2 to 5 whose fields are `int`s, and for
every `r`. -/
theorem parseEnhancedCode_accepts_atoi (tc ts td r : Bytes) (c s d : Int)
    (hdot : Byte.dot ∉ tc ∧ Byte.dot ∉ ts ∧ Byte.dot ∉ td) (hsp : Byte.sp ∉ tc ++ [Byte.dot] ++ ts ++ [Byte.dot] ++ td)
    (hc : parseInt tc = some c) (hs : parseInt ts = some s) (hd : parseInt td = some d) (h25 : 2 ≤ c ∧ c ≤ 5) :
    parseEnhancedCode (tc ++ [Byte.dot] ++ ts ++ [Byte.dot] ++ td ++ Byte.sp :: r) = (⟨c, s, d⟩, r) ∧
    ∀ (e : EnhancedCode) (r : Bytes), 2 ≤ e.cls ∧ e.cls ≤ 5 →
      -9223372036854775808 ≤ e.subject ∧ e.subject < 9223372036854775808 →
      -9223372036854775808 ≤ e.detail ∧ e.detail < 9223372036854775808 →
      parseEnhancedCode (e.string ++ Byte.sp :: r) = (e, r) :=
  ⟨parseEnhancedCode_tokens tc ts td r c s d hdot hsp hc hs hd h25, parseEnhancedCode_string⟩

/-- `+5.1.1 x`: the class has a sign, and is taken as class 5. -/
theorem parseEnhancedCode_accepts_atoi_plus :
    (Byte.dot ∉ ascii "+5" ∧ Byte.dot ∉ ascii "1" ∧ Byte.dot ∉ ascii "1") ∧
    Byte.sp ∉ ascii "+5" ++ [Byte.dot] ++ ascii "1" ++ [Byte.dot] ++ ascii "1" ∧
    parseInt (ascii "+5") = some 5 ∧ parseInt (ascii "1") = some 1 ∧ (2 ≤ (5 : Int) ∧ (5 : Int) ≤ 5) ∧
    parseEnhancedCode (ascii "+5.1.1 x") = (⟨5, 1, 1⟩, ascii "x") :=
  have h := (parseEnhancedCode_accepts_atoi (ascii "+5") (ascii "1") (ascii "1") (ascii "x") 5 1 1 (by decide)
    (by decide) (by decide) (by decide) (by decide) (by decide)).1
  ⟨by decide, by decide, by decide, by decide, by decide, h⟩

end Smtp
