import Smtp.Strings

/-!
# Addresses

`address.go`: the mailbox and the two paths with their wire forms (`String`), and `ParseMailbox`,
`ParseReversePath` and `ParseForwardPath` with the checks they make of the local part and the domain. An error is
`none`; the session answers every parse error with the same reply, so the error texts are not kept.
-/

namespace Smtp

/-- `Mailbox`. -/
structure Mailbox where
  localPart : Bytes
  domain : Bytes
  deriving DecidableEq, Repr

/-- `ReversePath`; the zero value is `{}`. -/
structure ReversePath where
  mailbox : Mailbox := ⟨[], []⟩
  null : Bool := false
  deriving DecidableEq, Repr

/-- `ForwardPath`. -/
structure ForwardPath where
  mailbox : Mailbox
  deriving DecidableEq, Repr

/-- `Mailbox.String`: `local-part@domain`, and the empty text for the zero mailbox. -/
def Mailbox.string (m : Mailbox) : Bytes :=
  if m.localPart = [] ∧ m.domain = [] then [] else m.localPart ++ ascii "@" ++ m.domain

/-- `Mailbox.IsZero`. -/
def Mailbox.isZero (m : Mailbox) : Bool := m.localPart = [] && m.domain = []

/-- `ReversePath.String`: `<>` for the null path, otherwise the mailbox in brackets. -/
def ReversePath.string (rp : ReversePath) : Bytes :=
  if rp.null then ascii "<>" else ascii "<" ++ rp.mailbox.string ++ ascii ">"

/-- `ForwardPath.String`. -/
def ForwardPath.string (fp : ForwardPath) : Bytes := ascii "<" ++ fp.mailbox.string ++ ascii ">"

/-- `isAtext`. -/
def isAtext (r : Nat) : Bool :=
  (97 ≤ r && r ≤ 122) || (65 ≤ r && r ≤ 90) || (48 ≤ r && r ≤ 57) ||
    [33, 35, 36, 37, 38, 39, 42, 43, 45, 47, 61, 63, 94, 95, 96, 123, 124, 125, 126].contains r

/-- `isDotAtomChar`. -/
def isDotAtomChar (r : Nat) : Bool := r = 46 || isAtext r

/-- `isDomainChar`. -/
def isDomainChar (r : Nat) : Bool := (97 ≤ r && r ≤ 122) || (65 ≤ r && r ≤ 90) || (48 ≤ r && r ≤ 57) || r = 45 || r > 127

/-- `validateDotAtom`. -/
def validateDotAtom (s : Bytes) : Bool :=
  s ≠ [] && s.head? ≠ some Byte.dot && s.getLast? ≠ some Byte.dot && !contains [Byte.dot, Byte.dot] s &&
    (runes s).all fun p => isDotAtomChar p.1

/-- `validateQuotedLocalPart`: a backslash escapes the byte after it, and an unescaped `"` is refused. -/
def validateQuotedLocalPart : Bytes → Bool
  | [] => true
  | [92] => false
  | 92 :: _ :: s => validateQuotedLocalPart s
  | c :: s => c ≠ 34 && validateQuotedLocalPart s

/-- `validateLocalPart`. -/
def validateLocalPart (part : Bytes) : Bool :=
  part ≠ [] && part.length ≤ 64 &&
    (if 2 ≤ part.length ∧ part.head? = some 34 ∧ part.getLast? = some 34 then
      validateQuotedLocalPart (part.drop 1).dropLast
    else validateDotAtom part)

/-- One label of a DNS hostname. -/
def validLabel (label : Bytes) : Bool :=
  label ≠ [] && label.length ≤ 63 && validString label && label.head? ≠ some Byte.dash &&
    label.getLast? ≠ some Byte.dash && (runes label).all fun p => isDomainChar p.1

/-- `validateDomain`: an address literal `[...]`, or a hostname of valid labels. -/
def validateDomain (domain : Bytes) : Bool :=
  domain ≠ [] && domain.length ≤ 255 &&
    (if domain.head? = some 91 then domain.getLast? = some 93
    else domain.head? ≠ some Byte.dot && domain.getLast? ≠ some Byte.dot && (split Byte.dot domain).all validLabel)

/-- `ParseMailbox`: split at the last `@`. -/
def parseMailbox (s : Bytes) : Option Mailbox :=
  match lastIndexByte 64 s with
  | none => none
  | some i =>
    if i = 0 ∨ i = s.length - 1 then none
    else if validateLocalPart (s.take i) && validateDomain (s.drop (i + 1)) then some ⟨s.take i, s.drop (i + 1)⟩
    else none

/-- The inside of `<...>`, or `s` when it is not bracketed. -/
def stripBrackets (s : Bytes) : Bytes :=
  if s.head? = some 60 ∧ s.getLast? = some 62 ∧ s ≠ [] then (s.drop 1).dropLast else s

/-- `ParseReversePath`: `<>` or an empty inside is the null path. -/
def parseReversePath (s : Bytes) : Option ReversePath :=
  if trimSpace s = ascii "<>" ∨ stripBrackets (trimSpace s) = [] then some { null := true }
  else (parseMailbox (stripBrackets (trimSpace s))).map fun m => { mailbox := m }

/-- `ParseForwardPath`. -/
def parseForwardPath (s : Bytes) : Option ForwardPath :=
  if stripBrackets (trimSpace s) = [] then none else (parseMailbox (stripBrackets (trimSpace s))).map (⟨·⟩)

end Smtp
