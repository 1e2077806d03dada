import Smtp.Bytes

/-!
# The dot-stuffed body: `dotReader` and `dotWriter`

`internal/textproto/dot.go`. The reader is a byte-level state machine over the connection's `bufio.Reader`: one `Read`
call fills the caller's buffer of length `k`, and where a two- or three-byte output does not fit it pushes the last byte
back (`UnreadByte`). The writer doubles a `.` at the start of a line and `Close` writes the terminator.

The spec's transducer (section 4.1, "Dot-stuffing reader"), byte by byte and with no bound on what it emits, is
`specStep`; `specRun` runs it to the end of the body. The two are compared in `Lemmas/Dot.lean`.
-/

namespace Smtp

/-- The states of `dotReader`, `dotStateBeginLine` to `dotStateEOF`. -/
inductive DotState
  | beginLine
  | line
  | cr
  | dot
  | dotCR
  | eof
  deriving DecidableEq, Repr

/-! ## `dotReader.Read` -/

/-- How the loop of one `Read` call stops. -/
inductive LoopStop
  /-- `n` reached `len(p)`. -/
  | full
  /-- The terminator: `return n, io.EOF`. -/
  | terminated
  /-- `.` and `\r` at a line start, a byte other than `\n`, one free byte: the byte is pushed back, `return n, nil`. -/
  | falseAlarmShort
  /-- `ReadByte` failed. -/
  | inputEnd
  deriving DecidableEq, Repr

/-- Where the loop of one `Read` call stops: the bytes it placed in `p`, the state, the bytes left in the `bufio.Reader`,
and why it stopped. -/
structure DotLoop where
  out : Bytes
  state : DotState
  rest : Bytes
  stop : LoopStop
  deriving DecidableEq, Repr

/-- `bs` placed in `p` before what the rest of the loop places. -/
def DotLoop.emit (bs : Bytes) (l : DotLoop) : DotLoop := { l with out := bs ++ l.out }

/-- The `for n < len(p)` loop of `dotReader.Read` (dot.go, lines 35 to 142) with `room = len(p) - n`, over the bytes
`inp` the `bufio.Reader` still holds. `UnreadByte` puts the byte back in front of the rest. The `switch` has no case for
`dotStateEOF`, so in that state a byte is read and dropped. -/
def readLoop : Nat → DotState → Bytes → DotLoop
  | 0, s, inp => ⟨[], s, inp, .full⟩
  | _ + 1, s, [] => ⟨[], s, [], .inputEnd⟩
  | room + 1, s, b :: inp =>
    match s with
    | .beginLine =>
      if b = Byte.dot then readLoop (room + 1) .dot inp
      else if b = Byte.cr then (readLoop room .cr inp).emit [b]
      else if b = Byte.lf then (readLoop room .beginLine inp).emit [b]
      else (readLoop room .line inp).emit [b]
    | .line => (readLoop room (if b = Byte.cr then .cr else if b = Byte.lf then .beginLine else .line) inp).emit [b]
    | .cr => (readLoop room (if b = Byte.lf then .beginLine else if b = Byte.cr then .cr else .line) inp).emit [b]
    | .dot =>
      if b = Byte.cr then readLoop (room + 1) .dotCR inp
      else if b = Byte.lf then ⟨[], .eof, inp, .terminated⟩
      else if b = Byte.dot then (readLoop room .line inp).emit [Byte.dot]
      else match room with
        | 0 => ⟨[Byte.dot], .line, b :: inp, .full⟩
        | room + 1 => (readLoop room .line inp).emit [Byte.dot, b]
    | .dotCR =>
      if b = Byte.lf then ⟨[], .eof, inp, .terminated⟩
      else match room with
        | 0 => ⟨[Byte.dot], .line, b :: inp, .falseAlarmShort⟩
        | 1 => ⟨[Byte.dot, Byte.cr], .line, b :: inp, .full⟩
        | room + 2 => (readLoop room .line inp).emit [Byte.dot, Byte.cr, b]
    | .eof => readLoop (room + 1) .eof inp

/-- A `dotReader`: the connection's `bufio.Reader` and the state. -/
structure DotReader where
  r : BufReader
  state : DotState
  deriving DecidableEq, Repr

/-- `newDotReader`. -/
def newDotReader (r : BufReader) : DotReader := ⟨r, .beginLine⟩

/-- What one `Read` call returns: the bytes placed in `p` (its `n`), the error (`none` for `nil`), and the reader after. -/
structure DotRead where
  out : Bytes
  err : Option ReadErr
  next : DotReader
  deriving DecidableEq, Repr

/-- `dotReader.Read(p)` with `len(p) = k` (dot.go, lines 29 to 144). When `ReadByte` fails the state becomes
`dotStateEOF`, and the error is returned only if no byte was placed in `p`. -/
def DotReader.read (d : DotReader) (k : Nat) : DotRead :=
  if d.state = .eof then ⟨[], some .eof, d⟩
  else
    let l := readLoop k d.state d.r.bytes
    match l.stop with
    | .full | .falseAlarmShort => ⟨l.out, none, ⟨⟨l.rest, d.r.err⟩, l.state⟩⟩
    | .terminated => ⟨l.out, some .eof, ⟨⟨l.rest, d.r.err⟩, l.state⟩⟩
    | .inputEnd => ⟨l.out, if l.out = [] then some d.r.err else none, ⟨⟨[], d.r.err⟩, .eof⟩⟩

/-- Successive `Read` calls with buffer lengths `ks 0`, `ks 1`, ..., at most `fuel` of them, stopping at the first that
reports an error, as `io.ReadAll` and `io.Copy` do: the bytes returned, the error that stopped them, and the reader. -/
def DotReader.readCalls (ks : Nat → Nat) : Nat → DotReader → Bytes × Option ReadErr × DotReader
  | 0, d => ([], none, d)
  | fuel + 1, d =>
    match (d.read (ks 0)).err with
    | some e => ((d.read (ks 0)).out, some e, (d.read (ks 0)).next)
    | none =>
      let r := readCalls (fun i => ks (i + 1)) fuel (d.read (ks 0)).next
      ((d.read (ks 0)).out ++ r.1, r.2)

/-! ## The spec's transducer -/

/-- The dot-stuffing reader of the spec (section 4.1), one byte at a time with no bound on what it emits: the bytes it
emits and the state after. At `SawDotCR` a byte other than `\n` emits the buffered `.` and `\r`, then the byte. -/
def specStep : DotState → UInt8 → Bytes × DotState
  | .beginLine, b =>
    if b = Byte.dot then ([], .dot)
    else if b = Byte.cr then ([b], .cr)
    else if b = Byte.lf then ([b], .beginLine)
    else ([b], .line)
  | .line, b => ([b], if b = Byte.cr then .cr else if b = Byte.lf then .beginLine else .line)
  | .cr, b => ([b], if b = Byte.lf then .beginLine else if b = Byte.cr then .cr else .line)
  | .dot, b =>
    if b = Byte.cr then ([], .dotCR)
    else if b = Byte.lf then ([], .eof)
    else if b = Byte.dot then ([Byte.dot], .line)
    else ([Byte.dot, b], .line)
  | .dotCR, b => if b = Byte.lf then ([], .eof) else ([Byte.dot, Byte.cr, b], .line)
  | .eof, _ => ([], .eof)

/-- The spec's transducer run over the input until it ends the body: the body, and the input left after the terminator
(`none` when the input runs out first). -/
def specRun : DotState → Bytes → Bytes × Option Bytes
  | .eof, inp => ([], some inp)
  | _, [] => ([], none)
  | s, b :: inp => ((specStep s b).1 ++ (specRun (specStep s b).2 inp).1, (specRun (specStep s b).2 inp).2)

/-! ## `dotWriter` -/

/-- The error of a `Write` after `Close`. -/
inductive WriteErr
  /-- `io.ErrClosedPipe`. -/
  | closedPipe
  deriving DecidableEq, Repr

/-- A `dotWriter`: what it has written to the connection's `bufio.Writer` (writes to it are taken to succeed), the
`beginLine` flag and `closed`. -/
structure DotWriter where
  out : Bytes
  beginLine : Bool
  closed : Bool
  deriving DecidableEq, Repr

/-- `newDotWriter`. -/
def newDotWriter : DotWriter := ⟨[], true, false⟩

/-- One byte of the loop of `dotWriter.Write`: a `.` at the start of a line is written twice. -/
def DotWriter.writeByte (d : DotWriter) (b : UInt8) : DotWriter :=
  { d with out := d.out ++ (if d.beginLine ∧ b = Byte.dot then [Byte.dot, b] else [b]), beginLine := b == Byte.lf }

/-- `dotWriter.Write(p)` (dot.go, lines 159 to 181): the writer after, and the call's `(n, err)`. -/
def DotWriter.write (d : DotWriter) (p : Bytes) : DotWriter × Nat × Option WriteErr :=
  if d.closed then (d, 0, some .closedPipe) else (p.foldl DotWriter.writeByte d, p.length, none)

/-- `dotWriter.Close()` (dot.go, lines 185 to 201): `\r\n` unless at the start of a line, then `.\r\n`; a second `Close`
writes nothing. -/
def DotWriter.close (d : DotWriter) : DotWriter :=
  if d.closed then d
  else { d with out := d.out ++ (if d.beginLine then [] else crlf) ++ [Byte.dot, Byte.cr, Byte.lf], closed := true }

/-- A body written through a fresh `dotWriter` in the `Write` calls `ps`, then closed: the writer after. -/
def dotWrite (ps : List Bytes) : DotWriter :=
  (ps.foldl (fun w p => (w.write p).1) newDotWriter).close

end Smtp
