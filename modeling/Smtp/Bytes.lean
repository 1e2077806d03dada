import Mathlib.Data.List.Basic

/-!
# Bytes

Go strings and byte slices as lists of bytes, the ASCII bytes the wire protocol names, and the transport under the
connection's `bufio.Reader`: the bytes it still holds and the error its reads report once they run out.
-/

namespace Smtp

/-- A Go `string` or `[]byte`: its bytes, in order. -/
abbrev Bytes := List UInt8

/-- The bytes of an ASCII literal. -/
def ascii (s : String) : Bytes := s.toList.map fun c => c.toNat.toUInt8

/-! ## The bytes the protocol names -/

namespace Byte

@[simp] def nul : UInt8 := 0
@[simp] def lf : UInt8 := 10
@[simp] def cr : UInt8 := 13
@[simp] def sp : UInt8 := 32
@[simp] def dash : UInt8 := 45
@[simp] def dot : UInt8 := 46

end Byte

/-- `\r\n`. -/
def crlf : Bytes := [Byte.cr, Byte.lf]

/-! ## The transport -/

/-- What a read reports once the transport's bytes run out. -/
inductive ReadErr
  /-- `io.EOF`: the peer closed the connection. -/
  | eof
  /-- `io.ErrUnexpectedEOF`, as `io.ReadFull` reports a stream that ends inside the bytes it was asked for. -/
  | unexpectedEOF
  /-- Any other transport error: a reset, an expired read deadline. -/
  | failed
  deriving DecidableEq, Repr

/-- A `bufio.Reader` over the connection: the bytes it will still yield, then the error its reads report. -/
structure BufReader where
  bytes : Bytes
  err : ReadErr
  deriving DecidableEq, Repr

end Smtp
