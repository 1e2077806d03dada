import Smtp.Reply

/-!
# The wire: lines and replies

`internal/textproto/conn.go`. `NewConn` reads through a `bufio.Reader` of 4096 bytes; `Conn.ReadLine` reads a line
with `bufio.Reader.ReadLine` and bounds its length; `WriteReply` writes a reply and `ReadReply` reads one back.

`bufio.Reader.ReadSlice` is modelled over the stream its buffer reads from: the line through the first `\n` if that
comes within 4096 bytes, else the first 4096 bytes (`ErrBufferFull`), else, the stream ending first, what is left with
the stream's error. The transport is taken to report its error on a read of its own, after its last bytes, as a
`net.Conn` does.
-/

namespace Smtp

/-- Results compare by their error or value, so that the model's runs evaluate by `decide`. -/
instance exceptDecidableEq {ε α : Type} [DecidableEq ε] [DecidableEq α] : DecidableEq (Except ε α)
  | .error a, .error b => if h : a = b then isTrue (h ▸ rfl) else isFalse fun h' => h (Except.error.inj h')
  | .ok a, .ok b => if h : a = b then isTrue (h ▸ rfl) else isFalse fun h' => h (Except.ok.inj h')
  | .error _, .ok _ => isFalse Except.noConfusion
  | .ok _, .error _ => isFalse Except.noConfusion

/-- `MaxCommandLineLen`. -/
def maxCommandLineLen : Nat := 512

/-- `MaxReplyLineLen`. -/
def maxReplyLineLen : Nat := 2048

/-- The size `NewConn` gives its `bufio.Reader`. -/
def bufSize : Nat := 4096

/-! ## `bufio.Reader` -/

/-- The line of `bs` through its first `\n`, and the bytes after it, if that `\n` is among the first `n` bytes. -/
def lineWithin : Nat → Bytes → Option (Bytes × Bytes)
  | 0, _ => none
  | _ + 1, [] => none
  | n + 1, b :: bs => if b = Byte.lf then some ([b], bs) else (lineWithin n bs).map fun p => (b :: p.1, p.2)

/-- Why `bufio.Reader.ReadSlice` stopped short of a `\n`. -/
inductive SliceErr
  /-- `bufio.ErrBufferFull`. -/
  | bufferFull
  /-- The stream ended. -/
  | io (e : ReadErr)
  deriving DecidableEq, Repr

/-- `bufio.Reader.ReadSlice('\n')`: the slice, the error, and the reader after. -/
def readSlice (r : BufReader) : Bytes × Option SliceErr × BufReader :=
  match lineWithin bufSize r.bytes with
  | some (line, rest) => (line, none, ⟨rest, r.err⟩)
  | none =>
    if bufSize ≤ r.bytes.length then (r.bytes.take bufSize, some .bufferFull, ⟨r.bytes.drop bufSize, r.err⟩)
    else (r.bytes, some (.io r.err), ⟨[], r.err⟩)

/-- A line without its `\n` or `\r\n`. -/
def dropEOL (line : Bytes) : Bytes :=
  if line.getLast? = some Byte.lf then
    (if line.dropLast.getLast? = some Byte.cr then line.dropLast.dropLast else line.dropLast)
  else line

/-- What `bufio.Reader.ReadLine` returns: the line, `isPrefix`, and the error. -/
structure LineChunk where
  line : Bytes
  isPrefix : Bool
  err : Option ReadErr
  deriving DecidableEq, Repr

/-- `bufio.Reader.ReadLine`, and the reader after. On a full buffer that ends in `\r` the `\r` is put back, so that the
next call sees `\r\n` whole. -/
def bufReadLine (r : BufReader) : LineChunk × BufReader :=
  match readSlice r with
  | (line, some .bufferFull, r') =>
    if line.getLast? = some Byte.cr then (⟨line.dropLast, true, none⟩, ⟨Byte.cr :: r'.bytes, r'.err⟩)
    else (⟨line, true, none⟩, r')
  | (line, some (.io e), r') => if line = [] then (⟨[], false, some e⟩, r') else (⟨line, false, none⟩, r')
  | (line, none, r') => (⟨dropEOL line, false, none⟩, r')

/-! ## `Conn.ReadLine` -/

/-- The errors of `Conn.ReadLine`. -/
inductive LineErr
  /-- The transport's error, through `bufio.Reader.ReadLine`. -/
  | io (e : ReadErr)
  /-- `"smtp: line too long"`. -/
  | tooLong
  deriving DecidableEq, Repr

/-- The drain of a line that is too long: `ReadLine` again while `isPrefix`, until an error; `fuel` bounds the calls. -/
def drainLine : Nat → BufReader → BufReader
  | 0, r => r
  | fuel + 1, r =>
    match bufReadLine r with
    | (⟨_, true, none⟩, r') => drainLine fuel r'
    | (_, r') => r'

/-- The loop of `Conn.ReadLine(maxLen)` after the bytes `line`; `fuel` bounds the `ReadLine` calls. -/
def readLineLoop (maxLen : Nat) : Nat → Bytes → BufReader → Except LineErr Bytes × BufReader
  | 0, _, r => (.error .tooLong, r)
  | fuel + 1, line, r =>
    match bufReadLine r with
    | (⟨_, _, some e⟩, r') => (.error (.io e), r')
    | (⟨chunk, false, none⟩, r') =>
      if ((line ++ chunk).length : Int) > (maxLen : Int) - 2 then (.error .tooLong, r') else (.ok (line ++ chunk), r')
    | (⟨chunk, true, none⟩, r') =>
      if (line ++ chunk).length > maxLen then (.error .tooLong, drainLine (r'.bytes.length + 1) r')
      else readLineLoop maxLen fuel (line ++ chunk) r'

/-- `Conn.ReadLine(maxLen)`: the line without its `\r\n`, and the reader after. Each `ReadLine` call that does not end
the loop takes at least one byte, so the length of the input bounds the calls. -/
def readLine (maxLen : Nat) (r : BufReader) : Except LineErr Bytes × BufReader :=
  readLineLoop maxLen (r.bytes.length + 1) [] r

/-! ## Replies -/

/-- The lines of `WriteReply(code, lines...)` from the `i`-th on: `"%d%c%s"` with `-` before the last line and ` ` on
it, then `\r\n`. -/
def replyLines (code : Int) : List Bytes → Bytes
  | [] => []
  | [l] => formatInt code ++ [Byte.sp] ++ l ++ crlf
  | l :: ls => formatInt code ++ [Byte.dash] ++ l ++ crlf ++ replyLines code ls

/-- The bytes `Conn.WriteReply(code, lines...)` writes; no lines is one empty line. -/
def writeReply (code : Int) (lines : List Bytes) : Bytes := replyLines code (if lines = [] then [[]] else lines)

/-- `Reply`. -/
structure Reply where
  code : Int
  lines : List Bytes
  deriving DecidableEq, Repr

/-- The errors of `Conn.ReadReply`. -/
inductive ReplyErr
  /-- `"smtp: reading reply"`, wrapping the error of `ReadLine`. -/
  | read (e : LineErr)
  /-- `"smtp: reply line too short"`. -/
  | tooShort
  /-- `"smtp: invalid reply code"`. -/
  | badCode
  /-- `"smtp: invalid reply separator"`. -/
  | badSep
  deriving DecidableEq, Repr

/-- The loop of `Conn.ReadReply` after the lines `lines`; `fuel` bounds the lines it reads. -/
def readReplyLoop : Nat → List Bytes → BufReader → Except ReplyErr Reply × BufReader
  | 0, _, r => (.error .tooShort, r)
  | fuel + 1, lines, r =>
    match readLine maxReplyLineLen r with
    | (.error e, r') => (.error (.read e), r')
    | (.ok line, r') =>
      if line.length < 3 then (.error .tooShort, r')
      else match parseInt (line.take 3) with
        | none => (.error .badCode, r')
        | some code =>
          match line.drop 3 with
          | [] => (.ok ⟨code, lines ++ [[]]⟩, r')
          | sep :: text =>
            if sep = Byte.dash then readReplyLoop fuel (lines ++ [text]) r'
            else if sep = Byte.sp then (.ok ⟨code, lines ++ [text]⟩, r')
            else (.error .badSep, r')

/-- `Conn.ReadReply`: a reply, and the reader after. Every line read takes at least one byte. -/
def readReply (r : BufReader) : Except ReplyErr Reply × BufReader := readReplyLoop (r.bytes.length + 1) [] r

/-- `ParseEnhancedCode`: the enhanced code at the start of a reply line and the text after it, or the zero code and
the whole text. -/
def parseEnhancedCode (text : Bytes) : EnhancedCode × Bytes :=
  match split Byte.dot (cut Byte.sp text).1 with
  | [c, s, d] =>
    match parseInt c, parseInt s, parseInt d with
    | some c, some s, some d => if c < 2 ∨ c > 5 then (.zero, text) else (⟨c, s, d⟩, (cut Byte.sp text).2.1)
    | _, _, _ => (.zero, text)
  | _ => (.zero, text)

end Smtp
