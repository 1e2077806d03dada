import Smtp.Bytes

/-!
# Decimal numbers

The Go library functions the code formats and parses numbers with: `fmt.Sprintf("%d", ...)` (and `strconv.Itoa`),
`strconv.Atoi` (and `strconv.ParseInt(s, 10, 64)`, which it agrees with), and `fmt.Sscanf(s, "%d", &n)` into an `int64`.
A Go `int` is 64 bits wide: `ParseInt` fails outside `[-2^63, 2^63)`, that is `[-9223372036854775808, 9223372036854775808)`.
-/

namespace Smtp

/-- An ASCII decimal digit. -/
def isDigit (b : UInt8) : Bool := 48 ≤ b && b ≤ 57

/-- The digits of `n` in front of `acc`, most significant first; `fuel` bounds how many. -/
def digitsAux : Nat → Nat → Bytes → Bytes
  | 0, _, acc => acc
  | fuel + 1, n, acc =>
    if n < 10 then (48 + n).toUInt8 :: acc else digitsAux fuel (n / 10) ((48 + n % 10).toUInt8 :: acc)

/-- The decimal digits of a natural number. -/
def decimal (n : Nat) : Bytes := digitsAux (n + 1) n []

/-- `fmt.Sprintf("%d", i)`, `strconv.Itoa(i)`. -/
def formatInt (i : Int) : Bytes := if i < 0 then Byte.dash :: decimal i.natAbs else decimal i.natAbs

/-- The value of a string of decimal digits. -/
def digitsValue (ds : Bytes) : Nat := ds.foldl (fun acc d => acc * 10 + (d.toNat - 48)) 0

/-- `strconv.ParseInt(s, 10, 64)`, and `strconv.Atoi(s)`: an optional `+` or `-`, then one or more ASCII digits and
nothing else, in the range of an `int64`. -/
def parseInt (s : Bytes) : Option Int :=
  let (neg, ds) : Bool × Bytes :=
    match s with
    | b :: ds => if b = Byte.dash then (true, ds) else if b = 43 then (false, ds) else (false, s)
    | [] => (false, [])
  if ds = [] ∨ ds.any (fun d => !isDigit d) then none
  else if neg then (if digitsValue ds ≤ 9223372036854775808 then some (-(digitsValue ds : Int)) else none)
  else if digitsValue ds < 9223372036854775808 then some (digitsValue ds : Int) else none

/-- `fmt.Sscanf(s, "%d", &n)` with `n` an `int64`: an optional sign and the longest run of ASCII digits after it, at
least one, read by `strconv.ParseInt`; what follows is not looked at. -/
def sscanInt (s : Bytes) : Option Int :=
  let (sign, rest) : Bytes × Bytes :=
    match s with
    | b :: rest => if b = Byte.dash ∨ b = 43 then ([b], rest) else ([], s)
    | [] => ([], [])
  if (rest.takeWhile isDigit).isEmpty then none else parseInt (sign ++ rest.takeWhile isDigit)

end Smtp
