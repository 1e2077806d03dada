import Smtp.Lemmas.Conn

/-!
# Lines on the wire

`Conn.ReadLine(maxLen)` reads a stream line by line. `frameLine` states the first line of a stream in the words of the
specification: the bytes before the first `\n`; its terminator, `\r\n` when a `\r` stands just before that `\n`, a
bare `\n` otherwise, nothing when the stream ends first; and what follows. For every `maxLen` from 3 to 4094, one call
consumes exactly that line and its terminator, and returns the line when it has at most `maxLen - 2` bytes, a
too-long error otherwise (`readLine_frames_lines`).

A line that does not fit the 4096-byte buffer comes from `bufio.Reader.ReadLine` in prefixes of the buffer's size, a
`\r` at the end of one put back (`bufReadLine_frame`). The first prefix already exceeds every such limit, and the drain
reads the rest of the line through its terminator (`drainLine_frame`). So successive calls give the lines of the
stream one by one, an over-long line as one error (`readLines_frameLinesAux`).
-/

namespace Smtp

/-! ## Lines as the specification frames them -/

/-- The first line of a stream: its bytes, its terminator (`\r\n`, a bare `\n`, or none where the stream ends first),
and what follows. -/
def frameLine : Bytes → Bytes × Bytes × Bytes
  | [] => ([], [], [])
  | b :: s =>
    if b = Byte.lf then ([], [Byte.lf], s)
    else if b = Byte.cr ∧ s.head? = some Byte.lf then ([], crlf, s.drop 1)
    else (b :: (frameLine s).1, (frameLine s).2)

/-- The lines of a stream with their terminators, one after the other; `fuel` bounds how many. -/
def frameLinesAux : Nat → Bytes → List (Bytes × Bytes)
  | 0, _ => []
  | _ + 1, [] => []
  | fuel + 1, b :: s =>
    ((frameLine (b :: s)).1, (frameLine (b :: s)).2.1) :: frameLinesAux fuel (frameLine (b :: s)).2.2

/-- The lines of a stream with their terminators. -/
def frameLines (s : Bytes) : List (Bytes × Bytes) := frameLinesAux s.length s

/-- What `ReadLine(maxLen)` returns for a line by the specification: the line when it has at most `maxLen - 2` bytes,
a too-long error otherwise. -/
def lineVerdict (maxLen : Nat) (line : Bytes) : Except LineErr Bytes :=
  if line.length ≤ maxLen - 2 then .ok line else .error .tooLong

/-- `n` successive calls of `ReadLine(maxLen)`: their results, and the reader after the last. -/
def readLines (maxLen : Nat) : Nat → BufReader → List (Except LineErr Bytes) × BufReader
  | 0, r => ([], r)
  | n + 1, r => ((readLine maxLen r).1 :: (readLines maxLen n (readLine maxLen r).2).1,
      (readLines maxLen n (readLine maxLen r).2).2)

namespace LineAux
open ConnAux

/-! ## `frameLine` -/

/-- The first line and its terminator stand at the head of the stream; the line has no `\n`; the terminator is
`\r\n`, a `\n` after a line that does not end in `\r`, or none at the end of the stream. -/
theorem frameLine_spec : ∀ s : Bytes, s = (frameLine s).1 ++ (frameLine s).2.1 ++ (frameLine s).2.2 ∧
    Byte.lf ∉ (frameLine s).1 ∧
    ((frameLine s).2.1 = crlf ∨ ((frameLine s).2.1 = [Byte.lf] ∧ (frameLine s).1.getLast? ≠ some Byte.cr) ∨
      ((frameLine s).2.1 = [] ∧ (frameLine s).2.2 = []))
  | [] => ⟨rfl, List.not_mem_nil _, .inr (.inr ⟨rfl, rfl⟩)⟩
  | b :: s => by
    rw [frameLine]
    split_ifs with hlf hcr
    · exact ⟨by rw [hlf]; rfl, List.not_mem_nil _, .inr (.inl ⟨rfl, by simp⟩)⟩
    · obtain ⟨rfl, hs⟩ := hcr
      obtain ⟨s', rfl⟩ : ∃ s', s = Byte.lf :: s' := by
        cases s <;> simp_all
      exact ⟨rfl, List.not_mem_nil _, .inl rfl⟩
    · obtain ⟨hs, hl, ht⟩ := frameLine_spec s
      refine ⟨by rw [List.cons_append, List.cons_append, ← hs], ?_, ?_⟩
      · simp only [List.mem_cons, not_or]; exact ⟨Ne.symm hlf, hl⟩
      · rcases ht with ht | ⟨ht, hlast⟩ | ht
        · exact .inl ht
        · refine .inr (.inl ⟨ht, ?_⟩)
          rcases hl' : (frameLine s).1 with _ | ⟨c, l⟩
          · rw [hs, hl', ht] at hcr
            simpa using hcr
          · rw [hl'] at hlast; rwa [List.getLast?_cons_cons]
        · exact .inr (.inr ht)

/-- Bytes without `\n` stand at the head of the first line, unless their `\r` and a `\n` after them end it. -/
theorem frameLine_append (R : Bytes) :
    ∀ c : Bytes, Byte.lf ∉ c → (c.getLast? ≠ some Byte.cr ∨ R.head? ≠ some Byte.lf) →
      frameLine (c ++ R) = (c ++ (frameLine R).1, (frameLine R).2)
  | [], _, _ => rfl
  | b :: c, hc, hcr => by
    simp only [List.mem_cons, not_or] at hc
    have hcr' : c.getLast? ≠ some Byte.cr ∨ R.head? ≠ some Byte.lf := by
      rcases c with _ | ⟨d, c⟩
      · exact .inl (by simp)
      · rwa [List.getLast?_cons_cons] at hcr
    have hnot : ¬(b = Byte.cr ∧ (c ++ R).head? = some Byte.lf) := by
      rintro ⟨rfl, hh⟩
      rcases c with _ | ⟨d, c⟩
      · simp_all
      · simp only [List.cons_append, List.head?_cons, Option.some.injEq] at hh
        exact hc.2 (hh ▸ List.mem_cons_self _ _)
    rw [List.cons_append, frameLine, if_neg (Ne.symm hc.1), if_neg hnot, frameLine_append R c hc.2 hcr']
    rfl

/-- A stream without `\n` is one line that the end of the stream terminates. -/
theorem frameLine_of_not_mem (s : Bytes) (hs : Byte.lf ∉ s) : frameLine s = (s, [], []) := by
  simpa [frameLine] using frameLine_append [] s hs (.inr (by simp))

/-- The line through the first `\n`, as `bufio.Reader.ReadSlice` returns it, less its terminator as
`bufio.Reader.ReadLine` drops it, is the first line. -/
theorem frameLine_lf (x rest : Bytes) (hx : Byte.lf ∉ x) :
    (frameLine (x ++ Byte.lf :: rest)).1 = dropEOL (x ++ [Byte.lf]) ∧
      (frameLine (x ++ Byte.lf :: rest)).2.2 = rest := by
  rcases x.eq_nil_or_concat with rfl | ⟨y, c, rfl⟩
  · exact ⟨by simp [frameLine, dropEOL], by simp [frameLine]⟩
  rw [List.concat_eq_append] at hx ⊢
  have hy : Byte.lf ∉ y := fun h => hx (List.mem_append_left _ h)
  by_cases hc : c = Byte.cr
  · subst hc
    have hf : frameLine (y ++ [Byte.cr] ++ Byte.lf :: rest) = (y, crlf, rest) := by
      rw [List.append_assoc, List.singleton_append, frameLine_append _ y hy (.inr (by simp))]
      simp [frameLine]
    rw [hf, List.append_assoc, List.singleton_append, dropEOL_crlf]
    exact ⟨rfl, rfl⟩
  · have hlast : (y ++ [c]).getLast? ≠ some Byte.cr := by simpa using hc
    rw [frameLine_append _ _ hx (.inl hlast)]
    simp [frameLine, dropEOL, show c ≠ 13 from hc]

/-- The rest after the first line of a nonempty stream is shorter than the stream. -/
theorem frameLine_rest_lt (s : Bytes) (hs : s ≠ []) : (frameLine s).2.2.length < s.length := by
  obtain ⟨he, -, ht⟩ := frameLine_spec s
  have hlen := congrArg List.length he
  simp only [List.length_append] at hlen
  rcases ht with ht | ⟨ht, -⟩ | ⟨ht, hr⟩
  · rw [ht] at hlen; simp [crlf] at hlen; omega
  · rw [ht] at hlen; simp at hlen; omega
  · rw [hr]; exact List.length_pos.2 hs

/-! ## One `bufio.Reader.ReadLine` -/

/-- What one `bufio.Reader.ReadLine` does to the first line: returns it whole and leaves what follows its terminator;
or returns a prefix of it of at least `bufSize - 1` bytes, the rest of the line standing at the head of what it
leaves; or, on an empty stream, returns the transport's error. -/
theorem bufReadLine_frame (r : BufReader) :
    (r.bytes ≠ [] ∧
      bufReadLine r = (⟨(frameLine r.bytes).1, false, none⟩, ⟨(frameLine r.bytes).2.2, r.err⟩)) ∨
    (∃ chunk R, bufReadLine r = (⟨chunk, true, none⟩, ⟨R, r.err⟩) ∧ r.bytes = chunk ++ R ∧
      bufSize - 1 ≤ chunk.length ∧ frameLine r.bytes = (chunk ++ (frameLine R).1, (frameLine R).2)) ∨
    (r.bytes = [] ∧ bufReadLine r = (⟨[], false, some r.err⟩, r)) := by
  rcases readSlice_cases r with ⟨line, rest, hw, hs⟩ | ⟨hw, hlen, hs⟩ | ⟨hw, hlen, hs⟩
  · -- a line through its `\n` within the buffer
    obtain ⟨hbs, -, x, rfl, hx⟩ := lineWithin_eq_some hw
    obtain ⟨h1, h2⟩ := frameLine_lf x rest hx
    rw [hbs, List.append_assoc, List.singleton_append] at *
    refine .inl ⟨by simp, ?_⟩
    rw [bufReadLine, hs, h1, h2]
  · -- a full buffer without `\n`, a `\r` at its end put back
    have hlf := lineWithin_eq_none hw
    have htake : (r.bytes.take bufSize).length = bufSize := List.length_take_of_le hlen
    have hbytes := (List.take_append_drop bufSize r.bytes).symm
    refine .inr (.inl ?_)
    by_cases hcr : (r.bytes.take bufSize).getLast? = some Byte.cr
    · have hne : r.bytes.take bufSize ≠ [] := fun h => by simp [h] at hcr
      have hd := List.dropLast_append_getLast hne
      rw [List.getLast?_eq_getLast _ hne, Option.some.injEq] at hcr
      rw [hcr] at hd
      refine ⟨(r.bytes.take bufSize).dropLast, Byte.cr :: r.bytes.drop bufSize, ?_, ?_, ?_, ?_⟩
      · simp only [bufReadLine, hs, List.getLast?_eq_getLast _ hne, hcr, if_true]
      · rw [← List.singleton_append, ← List.append_assoc, hd, List.take_append_drop]
      · simp only [List.length_dropLast, htake]; omega
      · have hc : Byte.lf ∉ (r.bytes.take bufSize).dropLast := fun h => hlf (List.dropLast_subset _ h)
        conv_lhs => rw [← List.take_append_drop bufSize r.bytes, ← hd, List.append_assoc, List.singleton_append]
        exact frameLine_append _ _ hc (.inr (by simp))
    · refine ⟨r.bytes.take bufSize, r.bytes.drop bufSize, ?_, hbytes, by omega, ?_⟩
      · simp only [bufReadLine, hs, hcr, if_false]
      · conv_lhs => rw [hbytes]
        exact frameLine_append _ _ hlf (.inl hcr)
  · -- the stream ends within the buffer, without `\n`
    have hlf := lineWithin_eq_none hw
    rw [List.take_of_length_le (by omega)] at hlf
    by_cases he : r.bytes = []
    · refine .inr (.inr ⟨he, ?_⟩)
      obtain ⟨bytes, err⟩ := r
      dsimp only at he hs ⊢
      subst he
      simp only [bufReadLine, hs, if_true]
    · refine .inl ⟨he, ?_⟩
      simp only [bufReadLine, hs, if_neg he, frameLine_of_not_mem _ hlf]

/-! ## The drain, and one `Conn.ReadLine` -/

/-- The drain of a line too long reads the rest of the line through its terminator, and leaves what follows. -/
theorem drainLine_frame : ∀ (fuel : Nat) (r : BufReader), r.bytes.length < fuel →
    drainLine fuel r = ⟨(frameLine r.bytes).2.2, r.err⟩
  | 0, _, h => absurd h (Nat.not_lt_zero _)
  | fuel + 1, r, h => by
    rcases bufReadLine_frame r with ⟨-, hb⟩ | ⟨chunk, R, hb, hbytes, hlen, hf⟩ | ⟨he, hb⟩
    · rw [drainLine, hb]
    · have hR : R.length < fuel := by
        rw [hbytes, List.length_append] at h; simp only [bufSize] at hlen; omega
      rw [drainLine, hb]
      dsimp only
      rw [drainLine_frame fuel ⟨R, r.err⟩ hR, hf]
    · rw [drainLine, hb]
      obtain ⟨bytes, err⟩ := r
      dsimp only at he ⊢
      rw [he]; rfl

variable {maxLen : Nat} (h3 : 3 ≤ maxLen) (h4 : maxLen ≤ 4094)
include h3 h4

/-- One `ReadLine(maxLen)` on a nonempty stream returns the verdict on its first line, and leaves what follows the
line's terminator. -/
theorem readLine_frame (S : Bytes) (e : ReadErr) (hS : S ≠ []) :
    readLine maxLen ⟨S, e⟩ = (lineVerdict maxLen (frameLine S).1, ⟨(frameLine S).2.2, e⟩) := by
  rcases bufReadLine_frame ⟨S, e⟩ with ⟨-, hb⟩ | ⟨chunk, R, hb, -, hlen, hf⟩ | ⟨he, -⟩
  · rw [readLine, readLineLoop, hb]
    dsimp only
    rw [List.nil_append, lineVerdict]
    by_cases hl : (frameLine S).1.length ≤ maxLen - 2
    · rw [if_neg (by omega), if_pos hl]
    · rw [if_pos (by omega), if_neg hl]
  · -- the first prefix already exceeds `maxLen`, and so does the line
    simp only [bufSize] at hlen
    have hlong : ¬(frameLine S).1.length ≤ maxLen - 2 := by rw [hf, List.length_append]; omega
    rw [readLine, readLineLoop, hb]
    dsimp only
    rw [List.nil_append, if_pos (by omega), drainLine_frame (R.length + 1) ⟨R, e⟩ (Nat.lt_succ_self _), lineVerdict,
      if_neg hlong, hf]
  · exact absurd he hS

/-- Successive calls over a stream return the verdicts on its lines one by one, and take the whole stream. -/
theorem readLines_frameLinesAux (e : ReadErr) : ∀ (fuel : Nat) (S : Bytes), S.length ≤ fuel →
    ((frameLinesAux fuel S).map fun p => p.1 ++ p.2).flatten = S ∧
    readLines maxLen (frameLinesAux fuel S).length ⟨S, e⟩ =
      ((frameLinesAux fuel S).map fun p => lineVerdict maxLen p.1, ⟨[], e⟩)
  | 0, S, h => by
    rw [List.eq_nil_of_length_eq_zero (Nat.le_zero.1 h)]; exact ⟨rfl, rfl⟩
  | fuel + 1, [], _ => ⟨rfl, rfl⟩
  | fuel + 1, b :: s, h => by
    have hlt := frameLine_rest_lt (b :: s) (List.cons_ne_nil b s)
    obtain ⟨hflat, hrun⟩ := readLines_frameLinesAux e fuel (frameLine (b :: s)).2.2
      (by simp only [List.length_cons] at h hlt; omega)
    refine ⟨?_, ?_⟩
    · rw [frameLinesAux, List.map_cons, List.flatten_cons, hflat]
      exact ((frameLine_spec (b :: s)).1).symm
    · rw [frameLinesAux, List.length_cons, readLines, readLine_frame h3 h4 _ e (List.cons_ne_nil b s), hrun]
      rfl

end LineAux

open LineAux

/-- Take `maxLen` from 3 to 4094. On every nonempty stream `S`, whatever error the transport reports after it, one
`Conn.ReadLine(maxLen)` consumes exactly the first line of `S` and its terminator: `\r\n`, a bare `\n`, or the end
of the stream. It returns the line, which has no `\n`, when it has at most `maxLen - 2` bytes, and a too-long error
otherwise, in both cases leaving what follows the terminator. So successive calls partition the stream into its lines:
one call per line, each returning the verdict on that line, an over-long line included, and the stream taken whole. -/
theorem readLine_frames_lines (maxLen : Nat) (h3 : 3 ≤ maxLen) (h4 : maxLen ≤ 4094) :
    (∀ (S : Bytes) (e : ReadErr) (line term rest : Bytes), S ≠ [] → frameLine S = (line, term, rest) →
      S = line ++ term ++ rest ∧ Byte.lf ∉ line ∧
      (term = crlf ∨ (term = [Byte.lf] ∧ line.getLast? ≠ some Byte.cr) ∨ (term = [] ∧ rest = [])) ∧
      readLine maxLen ⟨S, e⟩ = (lineVerdict maxLen line, ⟨rest, e⟩)) ∧
    (∀ (S : Bytes) (e : ReadErr), ((frameLines S).map fun p => p.1 ++ p.2).flatten = S ∧
      readLines maxLen (frameLines S).length ⟨S, e⟩ =
        ((frameLines S).map fun p => lineVerdict maxLen p.1, ⟨[], e⟩)) := by
  refine ⟨fun S e line term rest hS hf => ?_, fun S e => readLines_frameLinesAux h3 h4 e S.length S le_rfl⟩
  have hspec := frameLine_spec S
  rw [hf] at hspec
  exact ⟨hspec.1, hspec.2.1, hspec.2.2, by rw [readLine_frame h3 h4 S e hS, hf]⟩

/-- With `maxLen` 5, the stream `abc\r\nabcdef\nxy` reads as `abc`, a too-long error for `abcdef`, and `xy`. -/
theorem readLine_frames_lines_resync :
    readLines 5 3 ⟨ascii "abc\r\nabcdef\nxy", .eof⟩ =
      ([.ok (ascii "abc"), .error .tooLong, .ok (ascii "xy")], ⟨[], .eof⟩) := by
  have h := ((readLine_frames_lines 5 (by decide) (by decide)).2 (ascii "abc\r\nabcdef\nxy") .eof).2
  rw [show frameLines (ascii "abc\r\nabcdef\nxy") = [(ascii "abc", crlf), (ascii "abcdef", [Byte.lf]), (ascii "xy", [])]
    by decide] at h
  exact h

end Smtp
