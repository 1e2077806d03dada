import Smtp.Lemmas.Dot

/-!
# The dot-stuffed body: chunking, truncation, round trip

Section 4.1 of the spec and the round-trip law of section 8. One `Read` with a buffer longer than the input is the spec's
transducer (`dotReader_read_unbounded`), and on a stream where the transducer never takes the `SawDotCR` false alarm any
sequence of buffer lengths reads the same (`dotReader_chunking_clean`). Where it does take it, a caller whose buffer has
one free byte loses the `\r` (`dotReader_chunking_loses_cr`). A body cut off before its terminator, or a transport that
fails, reads as a complete body ending in `io.EOF` (`dotReader_eof_without_terminator`). What `dotWriter` writes reads
back through `dotReader`, with any buffer lengths, and nothing after the terminator is consumed (`dot_round_trip`).
-/

namespace Smtp

open DotAux

/-- One `Read` call with a buffer longer than the input is the spec's transducer: it returns the transducer's body; when
the transducer finds the terminator the call reports `io.EOF` and leaves the bytes after it, and when it does not the call
reports `nil` (or the transport's error, if it returned nothing) and the reader is at `dotStateEOF`. -/
theorem dotReader_read_unbounded (r : BufReader) (k : Nat) (hk : r.bytes.length < k) :
    ((newDotReader r).read k).out = (specRun .beginLine r.bytes).1 ∧
      (∀ R, (specRun .beginLine r.bytes).2 = some R →
        (newDotReader r).read k = ⟨(specRun .beginLine r.bytes).1, some .eof, ⟨⟨R, r.err⟩, .eof⟩⟩) ∧
      ((specRun .beginLine r.bytes).2 = none →
        (newDotReader r).read k =
          ⟨(specRun .beginLine r.bytes).1, if (specRun .beginLine r.bytes).1 = [] then some r.err else none,
            ⟨⟨[], r.err⟩, .eof⟩⟩) :=
  read_unbounded r k hk

/-- `Hi\r\n.\r\n` in one call of sixteen bytes: `Hi\r\n`. -/
theorem dotReader_read_unbounded_hi :
    ((newDotReader ⟨ascii "Hi\r\n.\r\n", .eof⟩).read 16).out = ascii "Hi\r\n" :=
  (dotReader_read_unbounded ⟨ascii "Hi\r\n.\r\n", .eof⟩ 16 (by decide)).1.trans (by decide)

/-- Where the transducer never takes the `SawDotCR` false alarm, the buffer lengths do not matter: successive `Read`
calls with any lengths of at least one return what one call with a buffer longer than the input returns, and leave the
same bytes unread. -/
theorem dotReader_chunking_clean (r : BufReader) (R : Bytes) (ks : Nat → Nat) (hks : ∀ i, 0 < ks i)
    (hc : Clean .beginLine r.bytes) (hR : (specRun .beginLine r.bytes).2 = some R) (fuel : Nat)
    (hfuel : r.bytes.length < fuel + R.length) :
    DotReader.readCalls ks fuel (newDotReader r) =
      DotReader.readCalls (fun _ => r.bytes.length + 1) 1 (newDotReader r) := by
  have h := readCalls_clean fuel ks hks .beginLine r.bytes R r.err (.inl rfl) hc hR hfuel
  have hone := (dotReader_read_unbounded r (r.bytes.length + 1) (Nat.lt_succ_self _)).2.1 R hR
  rw [newDotReader, h]
  simp only [DotReader.readCalls]
  rw [newDotReader] at hone
  simp [hone]

/-- `..a\r\n.\r\n` then `QUIT\r\n`, one byte at a time: the same as in one call. -/
theorem dotReader_chunking_clean_stuffed :
    DotReader.readCalls (fun _ => 1) 9 (newDotReader ⟨ascii "..a\r\n.\r\nQUIT\r\n", .eof⟩) =
      DotReader.readCalls (fun _ => (ascii "..a\r\n.\r\nQUIT\r\n").length + 1) 1
        (newDotReader ⟨ascii "..a\r\n.\r\nQUIT\r\n", .eof⟩) :=
  dotReader_chunking_clean ⟨ascii "..a\r\n.\r\nQUIT\r\n", .eof⟩ (ascii "QUIT\r\n") (fun _ => 1)
    (fun _ => Nat.one_pos) (by decide) (by decide) 9 (by decide)

/-- `.\r` at a line start, then a byte other than `\n`, read one byte at a time: the `\r` is lost. In one call, and by
the spec's transducer, the three bytes come out. -/
theorem dotReader_chunking_loses_cr :
    (DotReader.readCalls (fun _ => 1) 6 (newDotReader ⟨ascii ".\rX\r\n.\r\n", .eof⟩)).1 = ascii ".X\r\n" ∧
      (DotReader.readCalls (fun _ => 9) 1 (newDotReader ⟨ascii ".\rX\r\n.\r\n", .eof⟩)).1 = ascii ".\rX\r\n" ∧
      (specRun .beginLine (ascii ".\rX\r\n.\r\n")).1 = ascii ".\rX\r\n" := by
  decide

/-- A body that ends before its terminator reads, with a buffer longer than the input, as the bytes then `io.EOF`: the
transport's own error, whatever it was, is not reported, and the reader cannot be told from one that met `.\r\n`. -/
theorem dotReader_eof_without_terminator (r : BufReader) (k : Nat) (hk : r.bytes.length < k)
    (hnone : (specRun .beginLine r.bytes).2 = none) (hbody : (specRun .beginLine r.bytes).1 ≠ []) :
    DotReader.readCalls (fun _ => k) 2 (newDotReader r) = ((specRun .beginLine r.bytes).1, some .eof, ⟨⟨[], r.err⟩, .eof⟩) := by
  have h := (dotReader_read_unbounded r k hk).2.2 hnone
  simp only [DotReader.readCalls]
  rw [h]
  simp [hbody, DotReader.read]

/-- The connection fails after `Hi`: the reader returns `Hi`, then `io.EOF`. -/
theorem dotReader_eof_without_terminator_hi :
    (ascii "Hi").length < 64 ∧ (specRun .beginLine (ascii "Hi")).2 = none ∧ (specRun .beginLine (ascii "Hi")).1 ≠ [] ∧
      DotReader.readCalls (fun _ => 64) 2 (newDotReader ⟨ascii "Hi", .failed⟩) =
        ((specRun .beginLine (ascii "Hi")).1, some .eof, ⟨⟨[], .failed⟩, .eof⟩) :=
  ⟨by decide, by decide, by decide, dotReader_eof_without_terminator ⟨ascii "Hi", .failed⟩ 64 (by decide) (by decide)
    (by decide)⟩

/-- Dot-stuffing round trip: a body written through `dotWriter` in any `Write` calls and closed, followed by any bytes,
read through `dotReader` with any buffer lengths of at least one, gives the body back, with `\r\n` added when it is
non-empty and does not end in `\n`, then `io.EOF`; the bytes after the terminator are left unread. -/
theorem dot_round_trip (ps : List Bytes) (R : Bytes) (e : ReadErr) (ks : Nat → Nat) (hks : ∀ i, 0 < ks i)
    (fuel : Nat) (hfuel : (dotWrite ps).out.length < fuel) :
    DotReader.readCalls ks fuel (newDotReader ⟨(dotWrite ps).out ++ R, e⟩) =
      (ps.flatten ++ (if ps.flatten ≠ [] ∧ ps.flatten.getLast? ≠ some Byte.lf then crlf else []), some .eof,
        ⟨⟨R, e⟩, .eof⟩) := by
  obtain ⟨hrun, hclean⟩ := specRun_dotWrite ps R
  rw [newDotReader, readCalls_clean fuel ks hks .beginLine _ R e (.inl rfl) hclean (by rw [hrun])
    (by simp only [List.length_append]; omega), hrun]
  by_cases h : ps.flatten ≠ [] ∧ ps.flatten.getLast? ≠ some Byte.lf
  · have : endsLine true ps.flatten = false := by
      cases hb : endsLine true ps.flatten
      · rfl
      · exact absurd ((endsLine_true _).1 hb) (not_not.2 h)
    rw [if_pos h, this]
    rfl
  · rw [if_neg h, (endsLine_true _).2 h]
    rfl

/-- `a` and `.b` written in two calls, `QUIT\r\n` pipelined after the body, read one byte at a time. -/
theorem dot_round_trip_two_writes :
    (∀ i, 0 < (fun _ => 1 : Nat → Nat) i) ∧ (dotWrite [ascii "a", ascii ".b"]).out.length < 16 ∧
      DotReader.readCalls (fun _ => 1) 16 (newDotReader ⟨(dotWrite [ascii "a", ascii ".b"]).out ++ ascii "QUIT\r\n", .eof⟩) =
        ([ascii "a", ascii ".b"].flatten ++
            (if [ascii "a", ascii ".b"].flatten ≠ [] ∧ [ascii "a", ascii ".b"].flatten.getLast? ≠ some Byte.lf then crlf
              else []), some .eof, ⟨⟨ascii "QUIT\r\n", .eof⟩, .eof⟩) :=
  ⟨fun _ => Nat.one_pos, by decide,
    dot_round_trip [ascii "a", ascii ".b"] (ascii "QUIT\r\n") .eof (fun _ => 1) (fun _ => Nat.one_pos) 16 (by decide)⟩

end Smtp
