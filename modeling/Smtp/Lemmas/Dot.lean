import Smtp.Textproto.Dot

/-!
# The dot reader against the spec's transducer

One `Read` loop, whatever the buffer length, emits a prefix of what the spec's transducer emits from the same state and
leaves a state and input from which the transducer emits the rest (`readLoop_agrees`), unless it stops on the `SawDotCR`
false alarm with one free byte, where it drops the buffered `\r`. A stream in which the transducer never takes that false
alarm is `Clean`, and on a clean stream any sequence of buffer lengths reads the transducer's body and stops right after
the terminator (`readCalls_clean`). What `dotWriter` writes is clean, and the transducer undoes it (`specRun_stuff`).
-/

namespace Smtp

namespace DotAux

/-! ## The spec's transducer -/

/-- The bytes `bs` emitted before a run's body. -/
def prepend (bs : Bytes) (r : Bytes × Option Bytes) : Bytes × Option Bytes := (bs ++ r.1, r.2)

@[simp] theorem prepend_nil (r : Bytes × Option Bytes) : prepend [] r = r := rfl

theorem prepend_prepend (a b : Bytes) (r : Bytes × Option Bytes) : prepend a (prepend b r) = prepend (a ++ b) r := by
  simp [prepend]

@[simp] theorem specRun_eof (inp : Bytes) : specRun .eof inp = ([], some inp) := by
  cases inp <;> rfl

theorem specRun_cons {s : DotState} (hs : s ≠ .eof) (b : UInt8) (inp : Bytes) :
    specRun s (b :: inp) = prepend (specStep s b).1 (specRun (specStep s b).2 inp) :=
  specRun.eq_3 s b inp hs

/-- At `SawCR` the transducer does what it does `InLine`. -/
theorem specStep_cr (b : UInt8) : specStep .cr b = specStep .line b := by
  simp only [specStep]
  split_ifs <;> simp_all

theorem specRun_cr (inp : Bytes) : specRun .cr inp = specRun .line inp := by
  cases inp with
  | nil => rfl
  | cons b inp => rw [specRun_cons (by decide), specRun_cons (by decide), specStep_cr]

/-- A byte `InLine` other than `\n`: the transducer emits it and stays on the line (at `SawCR` when it is `\r`). -/
theorem specRun_line_cons {b : UInt8} (hlf : b ≠ Byte.lf) (inp : Bytes) :
    specRun .line (b :: inp) = prepend [b] (specRun .line inp) := by
  rw [specRun_cons (by decide)]
  simp only [specStep, Byte.lf] at hlf ⊢
  split_ifs <;> simp [specRun_cr]

/-- The input left after the terminator is a suffix of the input. -/
theorem specRun_rest_length (s : DotState) (inp : Bytes) {R : Bytes} (h : (specRun s inp).2 = some R) :
    R.length ≤ inp.length := by
  induction inp generalizing s with
  | nil => cases s <;> simp_all [specRun]
  | cons b inp ih =>
    by_cases hs : s = .eof
    · subst hs
      simp_all
    · rw [specRun_cons hs] at h
      exact Nat.le_succ_of_le (ih _ h)

/-! ## Clean streams -/

/-- The transducer's run from `s` over `inp` never takes the `SawDotCR` false alarm: every `.\r` at a line start is followed
by `\n`, up to the end of the body. -/
def Clean : DotState → Bytes → Prop
  | .eof, _ => True
  | _, [] => True
  | s, b :: inp => (s = .dotCR → b = Byte.lf) ∧ Clean (specStep s b).2 inp

theorem clean_cons {s : DotState} (hs : s ≠ .eof) (b : UInt8) (inp : Bytes) :
    Clean s (b :: inp) ↔ (s = .dotCR → b = Byte.lf) ∧ Clean (specStep s b).2 inp := by
  cases s <;> first | exact absurd rfl hs | exact Iff.rfl

/-- `Clean`, computed. -/
def clean : DotState → Bytes → Bool
  | .eof, _ => true
  | _, [] => true
  | s, b :: inp => (s != .dotCR || b == Byte.lf) && clean (specStep s b).2 inp

theorem clean_iff (s : DotState) (inp : Bytes) : clean s inp = true ↔ Clean s inp := by
  induction inp generalizing s with
  | nil => cases s <;> simp [clean, Clean]
  | cons b inp ih =>
    cases s <;> simp [clean, Clean, ih, or_iff_not_imp_left]

instance (s : DotState) (inp : Bytes) : Decidable (Clean s inp) := decidable_of_iff _ (clean_iff s inp)

theorem clean_cr (inp : Bytes) : Clean .cr inp ↔ Clean .line inp := by
  cases inp with
  | nil => exact Iff.rfl
  | cons b inp =>
    rw [clean_cons (by decide), clean_cons (by decide), specStep_cr]
    simp

/-! ## One `Read` loop -/

@[simp] theorem emit_out (bs : Bytes) (l : DotLoop) : (l.emit bs).out = bs ++ l.out := rfl
@[simp] theorem emit_state (bs : Bytes) (l : DotLoop) : (l.emit bs).state = l.state := rfl
@[simp] theorem emit_rest (bs : Bytes) (l : DotLoop) : (l.emit bs).rest = l.rest := rfl
@[simp] theorem emit_stop (bs : Bytes) (l : DotLoop) : (l.emit bs).stop = l.stop := rfl

/-- Unless it stops on the short false alarm, a `Read` loop emits a prefix of the transducer's body, and the transducer
emits the rest from where the loop stopped. -/
theorem readLoop_agrees (room : Nat) (s : DotState) (inp : Bytes) (hs : s ≠ .eof)
    (hstop : (readLoop room s inp).stop ≠ .falseAlarmShort) :
    specRun s inp = prepend (readLoop room s inp).out (specRun (readLoop room s inp).state (readLoop room s inp).rest) := by
  induction room, s, inp using readLoop.induct with
  | case1 s inp => simp [readLoop]
  | case2 n s => simp [readLoop, specRun.eq_2 s hs]
  | case7 room b inp ih | case8 room b inp ih =>
    simp only [readLoop, emit_stop] at hstop ⊢
    rw [specRun_cons hs]
    simp only [specStep]
    rw [ih (by split_ifs <;> decide) hstop, prepend_prepend]
    rfl
  | case12 b inp hcr hlf hdot =>
    -- `.` then another byte with one free byte: the byte is pushed back and read again `InLine`
    simp only [readLoop, specRun_cons hs, specStep, if_neg hcr, if_neg hlf, if_neg hdot]
    rw [specRun_line_cons hlf, prepend_prepend]
    rfl
  | case15 b inp hlf => simp only [readLoop, if_neg hlf, ne_eq, not_true_eq_false] at hstop
  | case16 b inp hlf =>
    -- `.\r` then another byte with two free bytes: the byte is pushed back and read again `InLine`
    simp only [readLoop, specRun_cons hs, specStep, if_neg hlf]
    rw [specRun_line_cons hlf, prepend_prepend]
    rfl
  | case18 => exact absurd rfl hs
  | _ =>
    simp only [readLoop, ↓reduceIte, *] at hstop ⊢
    rw [specRun_cons (by decide)]
    simp_all [specStep, prepend_prepend]

/-- Bytes the reader has taken from the `bufio.Reader` and not yet emitted: the `.` of `SawDotAtBOL`, the `.\r` of
`SawDotCR`. -/
def pending : DotState → Nat
  | .dot => 1
  | .dotCR => 2
  | _ => 0

/-- Every byte a `Read` loop places in `p` uses up a byte it took from the `bufio.Reader` or one it held back. -/
theorem readLoop_progress (room : Nat) (s : DotState) (inp : Bytes) :
    (readLoop room s inp).out.length + (readLoop room s inp).rest.length + pending (readLoop room s inp).state ≤
      inp.length + pending s := by
  induction room, s, inp using readLoop.induct with
  | case1 s inp => simp [readLoop]
  | case2 n s => simp [readLoop]
  | case7 room b inp ih | case8 room b inp ih =>
    simp only [readLoop, emit_out, emit_rest, emit_state, List.length_cons, List.length_append, List.length_singleton]
    revert ih
    split_ifs <;> simp only [pending, List.length_nil] <;> omega
  | _ =>
    simp only [readLoop, ↓reduceIte, *]
    simp_all [pending] <;> omega

/-- A loop that stops with `p` full has placed `room` bytes. -/
theorem readLoop_full_length (room : Nat) (s : DotState) (inp : Bytes)
    (h : (readLoop room s inp).stop = .full ∨ (readLoop room s inp).stop = .falseAlarmShort) :
    (readLoop room s inp).out.length = room := by
  induction room, s, inp using readLoop.induct with
  | case1 s inp => simp [readLoop]
  | case2 n s => simp [readLoop] at h
  | _ =>
    simp only [readLoop, ↓reduceIte, *] at h ⊢
    simp_all

/-- The states a `Read` call leaves the reader in when it neither ends the body nor meets the end of the input. -/
def Idle (s : DotState) : Prop := s = .beginLine ∨ s = .line ∨ s = .cr

/-- A loop that stops with `p` full stops at a line start, in a line, or after `\r`: never holding back a `.`. -/
theorem readLoop_full_idle (room : Nat) (s : DotState) (inp : Bytes) (hs : Idle s ∨ 0 < room)
    (h : (readLoop room s inp).stop = .full) : Idle (readLoop room s inp).state := by
  induction room, s, inp using readLoop.induct with
  | case1 s inp => simpa [readLoop] using hs
  | case2 n s => simp [readLoop] at h
  | case7 room b inp ih | case8 room b inp ih =>
    simp only [readLoop, emit_stop, emit_state] at h ⊢
    exact ih (.inl (by unfold Idle; split_ifs <;> simp)) h
  | _ => simp only [readLoop, ↓reduceIte, *] at h ⊢ <;> simp_all [Idle]

/-- A loop that ends the body is in `dotStateEOF`; one that meets the end of the input has taken it all and is not. -/
theorem readLoop_stop_state (room : Nat) (s : DotState) (inp : Bytes) (hs : s ≠ .eof) :
    ((readLoop room s inp).stop = .terminated → (readLoop room s inp).state = .eof) ∧
      ((readLoop room s inp).stop = .inputEnd → (readLoop room s inp).rest = [] ∧ (readLoop room s inp).state ≠ .eof) := by
  induction room, s, inp using readLoop.induct with
  | case1 s inp => simp [readLoop]
  | case2 n s => simpa [readLoop] using hs
  | case7 room b inp ih | case8 room b inp ih =>
    simp only [readLoop, emit_stop, emit_state, emit_rest]
    exact ih (by split_ifs <;> decide)
  | case18 => exact absurd rfl hs
  | _ =>
    simp only [readLoop, ↓reduceIte, *]
    simp_all

/-- On a clean stream a loop never stops on the short false alarm, and what it leaves is clean. -/
theorem readLoop_clean (room : Nat) (s : DotState) (inp : Bytes) (hs : s ≠ .eof) (hc : Clean s inp) :
    (readLoop room s inp).stop ≠ .falseAlarmShort ∧ Clean (readLoop room s inp).state (readLoop room s inp).rest := by
  induction room, s, inp using readLoop.induct with
  | case1 s inp => simpa [readLoop] using hc
  | case2 n s => simp [readLoop, Clean]
  | case7 room b inp ih | case8 room b inp ih =>
    rw [clean_cons hs] at hc
    simp only [readLoop, emit_stop, emit_state, emit_rest]
    exact ih (by split_ifs <;> decide) hc.2
  | case12 b inp hcr hlf hdot =>
    rw [clean_cons hs] at hc
    simp only [readLoop, if_neg hcr, if_neg hlf, if_neg hdot]
    refine ⟨nofun, (clean_cons (by decide) _ _).2 ⟨nofun, ?_⟩⟩
    have h2 := hc.2
    simp only [specStep, if_neg hcr, if_neg hlf, if_neg hdot] at h2 ⊢
    exact h2
  | case15 b inp hlf | case16 b inp hlf | case17 b inp hlf _ _ =>
    exact absurd ((clean_cons hs b inp).1 hc).1 (by simpa using hlf)
  | case18 => exact absurd rfl hs
  | _ =>
    rw [clean_cons hs] at hc
    simp only [readLoop, ↓reduceIte, *]
    simp_all [specStep, Clean]

/-! ## Successive `Read` calls -/

/-- On a clean stream that holds a terminator, successive `Read` calls with buffer lengths of at least one return the
transducer's body, report `io.EOF`, and leave exactly the input after the terminator in the `bufio.Reader`. -/
theorem readCalls_clean (fuel : Nat) (ks : Nat → Nat) (hks : ∀ i, 0 < ks i) (s : DotState) (inp R : Bytes)
    (e : ReadErr) (hs : Idle s) (hc : Clean s inp) (hR : (specRun s inp).2 = some R)
    (hfuel : inp.length < fuel + R.length) :
    DotReader.readCalls ks fuel ⟨⟨inp, e⟩, s⟩ = ((specRun s inp).1, some .eof, ⟨⟨R, e⟩, .eof⟩) := by
  induction fuel generalizing ks s inp with
  | zero => exact absurd (specRun_rest_length s inp hR) (by omega)
  | succ fuel ih =>
    have hne : s ≠ .eof := by rcases hs with h | h | h <;> simp [h]
    have hp0 : pending s = 0 := by rcases hs with h | h | h <;> simp [h, pending]
    obtain ⟨hshort, hc'⟩ := readLoop_clean (ks 0) s inp hne hc
    have hagree := readLoop_agrees (ks 0) s inp hne hshort
    obtain ⟨hterm, hend⟩ := readLoop_stop_state (ks 0) s inp hne
    have hprog := readLoop_progress (ks 0) s inp
    simp only [DotReader.readCalls, DotReader.read, if_neg hne]
    generalize hl : readLoop (ks 0) s inp = l at hagree hc' hterm hend hprog hshort
    rcases l with ⟨out, st, rest, _ | _ | _ | _⟩
    · -- `p` full: the next calls read the rest
      have hlen := readLoop_full_length (ks 0) s inp (.inl (by rw [hl]))
      have hidle := readLoop_full_idle (ks 0) s inp (.inl hs) (by rw [hl])
      rw [hl] at hlen hidle
      simp only at hagree hc' hprog hlen hidle
      have hR' : (specRun st rest).2 = some R := by rw [← hR, hagree]; rfl
      have hrest := specRun_rest_length st rest hR'
      simp only
      rw [ih (fun i => ks (i + 1)) (fun i => hks (i + 1)) st rest hidle hc' hR' (by have := hks 0; omega), hagree]
      rfl
    · -- the terminator
      obtain rfl : st = .eof := hterm rfl
      simp only [specRun_eof] at hagree
      rw [hagree] at hR
      cases hR
      simp [hagree, prepend]
    · exact absurd rfl hshort
    · -- the input ran out before a terminator: impossible, the transducer found one
      obtain ⟨hrest, hst⟩ := hend rfl
      simp only at hagree hrest hst
      rw [hrest, specRun.eq_2 st hst] at hagree
      rw [hagree] at hR
      cases hR

/-- With a buffer longer than the input and what the reader holds back, a loop never fills `p`: it ends the body or meets
the end of the input, and emits what the transducer emits. -/
theorem readLoop_unbounded (room : Nat) (s : DotState) (inp : Bytes)
    (hroom : inp.length + pending s < room) :
    (readLoop room s inp).stop ≠ .full ∧ (readLoop room s inp).stop ≠ .falseAlarmShort := by
  have hprog := readLoop_progress room s inp
  constructor <;> intro h <;>
    have := readLoop_full_length room s inp (by simp [h]) <;> omega

/-! ## What `dotWriter` writes -/

/-- One `Read` call with a buffer longer than the input, against the transducer: the transducer's body, then
`io.EOF` and the bytes after the terminator when it finds one, else `nil` (or the transport's error on an empty body)
and `dotStateEOF`. -/
theorem read_unbounded (r : BufReader) (k : Nat) (hk : r.bytes.length < k) :
    ((newDotReader r).read k).out = (specRun .beginLine r.bytes).1 ∧
      (∀ R, (specRun .beginLine r.bytes).2 = some R →
        (newDotReader r).read k = ⟨(specRun .beginLine r.bytes).1, some .eof, ⟨⟨R, r.err⟩, .eof⟩⟩) ∧
      ((specRun .beginLine r.bytes).2 = none →
        (newDotReader r).read k =
          ⟨(specRun .beginLine r.bytes).1, if (specRun .beginLine r.bytes).1 = [] then some r.err else none,
            ⟨⟨[], r.err⟩, .eof⟩⟩) := by
  obtain ⟨hfull, hshort⟩ := readLoop_unbounded k .beginLine r.bytes (by simpa [pending] using hk)
  have hagree := readLoop_agrees k .beginLine r.bytes (by decide) hshort
  obtain ⟨hterm, hend⟩ := readLoop_stop_state k .beginLine r.bytes (by decide)
  simp only [newDotReader, DotReader.read, reduceCtorEq, ↓reduceIte]
  generalize readLoop k .beginLine r.bytes = l at hfull hshort hagree hterm hend
  rcases l with ⟨out, st, rest, _ | _ | _ | _⟩
  · exact absurd rfl hfull
  · obtain rfl : st = .eof := hterm rfl
    simp only [specRun_eof] at hagree
    simp [hagree, prepend]
  · exact absurd rfl hshort
  · obtain ⟨rfl, hst⟩ := hend rfl
    simp only at hst hagree
    rw [specRun.eq_2 st hst] at hagree
    simp [hagree, prepend]

/-- What `dotWriter.Write` writes for the bytes `B` from the line-start flag `bl`: a `.` at a line start twice. -/
def stuff : Bool → Bytes → Bytes
  | _, [] => []
  | bl, b :: bs => (if bl ∧ b = Byte.dot then [Byte.dot, b] else [b]) ++ stuff (b == Byte.lf) bs

/-- The line-start flag after the bytes `B`. -/
def endsLine : Bool → Bytes → Bool
  | bl, [] => bl
  | _, b :: bs => endsLine (b == Byte.lf) bs

theorem stuff_append (bl : Bool) (A B : Bytes) : stuff bl (A ++ B) = stuff bl A ++ stuff (endsLine bl A) B := by
  induction A generalizing bl with
  | nil => rfl
  | cons a A ih => simp [stuff, endsLine, ih]

theorem endsLine_append (bl : Bool) (A B : Bytes) : endsLine bl (A ++ B) = endsLine (endsLine bl A) B := by
  induction A generalizing bl with
  | nil => rfl
  | cons a A ih => simp [endsLine, ih]

/-- The line-start flag after a body is the one before it when the body is empty, else whether its last byte is `\n`. -/
theorem endsLine_eq (bl : Bool) (B : Bytes) : endsLine bl B = (B.getLast?.map (· == Byte.lf)).getD bl := by
  induction B generalizing bl with
  | nil => rfl
  | cons b B ih =>
    cases B with
    | nil => rfl
    | cons c B => simpa [endsLine, List.getLast?_cons_cons] using ih _

theorem endsLine_true (B : Bytes) : endsLine true B = true ↔ ¬(B ≠ [] ∧ B.getLast? ≠ some Byte.lf) := by
  rw [endsLine_eq]
  rcases B.eq_nil_or_concat with rfl | ⟨L, b, rfl⟩ <;> simp

theorem foldl_writeByte (B : Bytes) (d : DotWriter) :
    B.foldl DotWriter.writeByte d =
      { d with out := d.out ++ stuff d.beginLine B, beginLine := endsLine d.beginLine B } := by
  induction B generalizing d with
  | nil => simp [stuff, endsLine]
  | cons b B ih => simp [ih, DotWriter.writeByte, stuff, endsLine]

/-- Successive `Write` calls write what one `Write` of the whole body writes. -/
theorem foldl_write (ps : List Bytes) (d : DotWriter) (hd : d.closed = false) :
    ps.foldl (fun w p => (w.write p).1) d =
      { d with out := d.out ++ stuff d.beginLine ps.flatten, beginLine := endsLine d.beginLine ps.flatten } := by
  induction ps generalizing d with
  | nil => simp [stuff, endsLine]
  | cons p ps ih =>
    have h1 : (d.write p).1 = { d with out := d.out ++ stuff d.beginLine p, beginLine := endsLine d.beginLine p } := by
      simp [DotWriter.write, hd, foldl_writeByte]
    rw [List.foldl_cons, h1, ih { d with out := d.out ++ stuff d.beginLine p, beginLine := endsLine d.beginLine p } hd]
    simp [stuff_append, endsLine_append]

theorem dotWrite_out (ps : List Bytes) :
    (dotWrite ps).out =
      stuff true ps.flatten ++ (if endsLine true ps.flatten then [] else crlf) ++ [Byte.dot, Byte.cr, Byte.lf] := by
  rw [dotWrite, foldl_write ps newDotWriter rfl]
  simp [DotWriter.close, newDotWriter]

/-! ## The transducer undoes the stuffing -/

/-- The transducer's state at the line-start flag `bl`. -/
def atLine (bl : Bool) : DotState := if bl then .beginLine else .line

/-- A byte the writer writes once: the transducer emits it, and is at a line start after `\n`. -/
theorem specRun_atLine_cons {bl : Bool} {b : UInt8} (h : ¬(bl ∧ b = Byte.dot)) (inp : Bytes) :
    specRun (atLine bl) (b :: inp) = prepend [b] (specRun (atLine (b == Byte.lf)) inp) ∧
      (Clean (atLine bl) (b :: inp) ↔ Clean (atLine (b == Byte.lf)) inp) := by
  cases bl <;> simp only [atLine, Bool.false_eq_true, ↓reduceIte, true_and] at h ⊢ <;>
    rw [specRun_cons (by decide), clean_cons (by decide)] <;>
    simp only [specStep, h, ↓reduceIte] <;> by_cases hcr : b = Byte.cr <;> by_cases hlf : b = Byte.lf <;>
    simp_all [specRun_cr, clean_cr]

theorem specRun_stuff (bl : Bool) (B tail : Bytes) :
    specRun (atLine bl) (stuff bl B ++ tail) = prepend B (specRun (atLine (endsLine bl B)) tail) ∧
      (Clean (atLine bl) (stuff bl B ++ tail) ↔ Clean (atLine (endsLine bl B)) tail) := by
  induction B generalizing bl with
  | nil => simp [stuff, endsLine]
  | cons b B ih =>
    simp only [stuff, endsLine, List.append_assoc]
    by_cases hd : bl ∧ b = Byte.dot
    · -- a `.` at a line start, written twice: the transducer destuffs it
      obtain ⟨rfl, rfl⟩ := hd
      have h1 : specStep .beginLine Byte.dot = ([], .dot) := rfl
      have h2 : specStep .dot Byte.dot = ([Byte.dot], .line) := rfl
      simp only [and_self, ↓reduceIte, List.cons_append, List.singleton_append, atLine]
      rw [specRun_cons (by decide), specRun_cons (by decide), clean_cons (by decide), clean_cons (by decide), h1, h2]
      have := ih false
      simp only [atLine, Bool.false_eq_true, ↓reduceIte] at this
      have h3 : (Byte.dot == Byte.lf) = false := rfl
      simp only [h3, List.nil_append, prepend_nil]
      rw [this.1, this.2, prepend_prepend]
      exact ⟨rfl, by simp⟩
    · simp only [hd, ↓reduceIte, List.singleton_append]
      rw [(specRun_atLine_cons hd _).1, (specRun_atLine_cons hd _).2, (ih _).1, (ih _).2, prepend_prepend]
      exact ⟨rfl, Iff.rfl⟩

/-- What `dotWriter` writes, then any bytes: the transducer reads the body back, with `\r\n` where the body did not end a
line, and stops right before the bytes after it; and it never takes the false alarm. -/
theorem specRun_dotWrite (ps : List Bytes) (R : Bytes) :
    specRun .beginLine ((dotWrite ps).out ++ R) = (ps.flatten ++ (if endsLine true ps.flatten then [] else crlf), some R) ∧
      Clean .beginLine ((dotWrite ps).out ++ R) := by
  obtain ⟨h1, h2⟩ := specRun_stuff true ps.flatten
    ((if endsLine true ps.flatten then [] else crlf) ++ ([Byte.dot, Byte.cr, Byte.lf] ++ R))
  simp only [atLine, ↓reduceIte] at h1 h2
  simp only [dotWrite_out, List.append_assoc]
  rw [h1, h2]
  cases endsLine true ps.flatten <;> simp [crlf, specRun_cons, specStep, prepend, clean_cons, Clean]

end DotAux

end Smtp
