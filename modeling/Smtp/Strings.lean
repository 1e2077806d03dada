import Smtp.Bytes

/-!
# Strings

The functions of Go's `strings`, `unicode` and `unicode/utf8` packages the code calls, over the bytes of a Go string.
A string is ranged over as `for _, r := range s` decodes it (`utf8.DecodeRune`): an invalid or truncated sequence is the
rune `utf8.RuneError` of width one. `ToUpper`, `Fields` and `TrimSpace` are written over that decoding.

`unicode.ToUpper` is kept exactly where the code can observe it: on ASCII letters, and on the two non-ASCII runes whose
upper case is ASCII (`ı` to `I`, `ſ` to `S`). Every other rune is left as it is; the code only compares upper-cased text
with ASCII words, and no other rune upper-cases into ASCII.
-/

namespace Smtp

/-! ## UTF-8 -/

/-- `utf8.RuneError`, U+FFFD. -/
def runeError : Nat := 0xFFFD

/-- A byte within `[lo, hi]`. -/
def inRange (lo hi b : UInt8) : Bool := lo ≤ b && b ≤ hi

/-- The value of a continuation byte. -/
def contBits (b : UInt8) : Nat := b.toNat - 0x80

/-- `utf8.DecodeRune`: the first rune of a nonempty `s` and its width, `(RuneError, 1)` for an invalid or truncated
sequence. -/
def decodeRune : Bytes → Nat × Nat
  | [] => (runeError, 0)
  | b0 :: rest =>
    if b0 < 0x80 then (b0.toNat, 1)
    else if b0 < 0xC2 then (runeError, 1)
    else if b0 < 0xE0 then
      match rest with
      | b1 :: _ => if inRange 0x80 0xBF b1 then ((b0.toNat - 0xC0) * 64 + contBits b1, 2) else (runeError, 1)
      | [] => (runeError, 1)
    else if b0 < 0xF0 then
      match rest with
      | b1 :: b2 :: _ =>
        if inRange (if b0 = 0xE0 then 0xA0 else 0x80) (if b0 = 0xED then 0x9F else 0xBF) b1 && inRange 0x80 0xBF b2 then
          (((b0.toNat - 0xE0) * 64 + contBits b1) * 64 + contBits b2, 3)
        else (runeError, 1)
      | _ => (runeError, 1)
    else if b0 < 0xF5 then
      match rest with
      | b1 :: b2 :: b3 :: _ =>
        if inRange (if b0 = 0xF0 then 0x90 else 0x80) (if b0 = 0xF4 then 0x8F else 0xBF) b1 && inRange 0x80 0xBF b2 &&
            inRange 0x80 0xBF b3 then
          ((((b0.toNat - 0xF0) * 64 + contBits b1) * 64 + contBits b2) * 64 + contBits b3, 4)
        else (runeError, 1)
      | _ => (runeError, 1)
    else (runeError, 1)

/-- The runes of `s`, each with the bytes it is decoded from; `fuel` bounds how many. -/
def runesAux : Nat → Bytes → List (Nat × Bytes)
  | 0, _ => []
  | _ + 1, [] => []
  | fuel + 1, b :: s => ((decodeRune (b :: s)).1, (b :: s).take (decodeRune (b :: s)).2) ::
      runesAux fuel ((b :: s).drop (decodeRune (b :: s)).2)

/-- `for _, r := range s`: the runes of `s`, each with its bytes. -/
def runes (s : Bytes) : List (Nat × Bytes) := runesAux s.length s

/-- `utf8.EncodeRune` of a rune that is not a surrogate. -/
def encodeRune (r : Nat) : Bytes :=
  if r < 0x80 then [r.toUInt8]
  else if r < 0x800 then [(0xC0 + r / 64).toUInt8, (0x80 + r % 64).toUInt8]
  else if r < 0x10000 then [(0xE0 + r / 4096).toUInt8, (0x80 + r / 64 % 64).toUInt8, (0x80 + r % 64).toUInt8]
  else [(0xF0 + r / 262144).toUInt8, (0x80 + r / 4096 % 64).toUInt8, (0x80 + r / 64 % 64).toUInt8,
    (0x80 + r % 64).toUInt8]

/-- `utf8.ValidString`: no byte decodes as an invalid sequence. -/
def validString (s : Bytes) : Bool := (runes s).all fun p => !(p.1 = runeError && p.2.length = 1)

/-! ## `unicode` -/

/-- `unicode.ToUpper` on ASCII letters, `ı` and `ſ`, the runes whose upper case is ASCII and so all that a comparison
with an ASCII verb sees; other runes are kept as they are. -/
def toUpperRune (r : Nat) : Nat :=
  if 97 ≤ r ∧ r ≤ 122 then r - 32 else if r = 0x131 then 0x49 else if r = 0x17F then 0x53 else r

/-- `unicode.IsSpace`: the Latin-1 white space, and the `White_Space` runes above it. -/
def isSpaceRune (r : Nat) : Bool :=
  if r ≤ 0xFF then r = 9 || r = 10 || r = 11 || r = 12 || r = 13 || r = 32 || r = 0x85 || r = 0xA0
  else r = 0x1680 || (0x2000 ≤ r && r ≤ 0x200A) || r = 0x2028 || r = 0x2029 || r = 0x202F || r = 0x205F ||
    r = 0x3000

/-! ## `strings` -/

/-- `strings.ToUpper`: every rune upper-cased, an invalid byte written as `RuneError`. -/
def toUpper (s : Bytes) : Bytes := (runes s).flatMap fun p => encodeRune (toUpperRune p.1)

/-- The fields of `strings.Fields` after the bytes `acc` of the field being read. -/
def fieldsAux : List (Nat × Bytes) → Bytes → List Bytes
  | [], acc => if acc = [] then [] else [acc]
  | p :: ps, acc =>
    if isSpaceRune p.1 then (if acc = [] then fieldsAux ps [] else acc :: fieldsAux ps [])
    else fieldsAux ps (acc ++ p.2)

/-- `strings.Fields`: the maximal runs of runes that are not white space. -/
def fields (s : Bytes) : List Bytes := fieldsAux (runes s) []

/-- `strings.TrimSpace`: `s` without its leading and trailing white-space runes. -/
def trimSpace (s : Bytes) : Bytes :=
  (((runes s).dropWhile (isSpaceRune ·.1)).reverse.dropWhile (isSpaceRune ·.1)).reverse.flatMap (·.2)

/-- `strings.Cut(s, sep)` for a one-byte `sep`: the bytes before its first occurrence, those after, and whether it
occurs. -/
def cut (sep : UInt8) : Bytes → Bytes × Bytes × Bool
  | [] => ([], [], false)
  | b :: s => if b = sep then ([], s, true) else ((b :: (cut sep s).1), (cut sep s).2)

/-- `strings.Split(s, sep)` for a one-byte `sep`. -/
def split (sep : UInt8) : Bytes → List Bytes
  | [] => [[]]
  | b :: s =>
    if b = sep then [] :: split sep s
    else match split sep s with
      | l :: ls => (b :: l) :: ls
      | [] => [[b]]

/-- `strings.Join(elems, sep)` for a one-byte `sep`. -/
def join (sep : UInt8) (elems : List Bytes) : Bytes := List.intercalate [sep] elems

/-- `strings.Contains(s, sub)`. -/
def contains (sub : Bytes) : Bytes → Bool
  | [] => sub.isEmpty
  | b :: s => sub.isPrefixOf (b :: s) || contains sub s

/-- `strings.LastIndexByte(s, c)`, and `strings.LastIndex` of a one-byte string. -/
def lastIndexByte (c : UInt8) : Bytes → Option Nat
  | [] => none
  | b :: s =>
    match lastIndexByte c s with
    | some i => some (i + 1)
    | none => if b = c then some 0 else none

end Smtp
