import Smtp.Strconv

/-!
# The client's SASL mechanisms

`sasl.go`: `PlainAuth`, `LoginAuth` and `CramMD5Auth`, with their `Name`, `Start` and `Next`. The state of `loginAuth`,
its `step`, is a field of the mechanism, and `Next` returns the mechanism as it is after the call.

HMAC-MD5 (`hmac.New(md5.New, secret)`, then `Write` and `Sum`) comes from the crypto library. It is the parameter
`hmacMD5`, of the key and the message. `hex.EncodeToString` is `hexEncode`.
-/

namespace Smtp

/-- The built-in `SASLMechanism`s, each with the fields of its struct. -/
inductive SASLMechanism
  /-- `PlainAuth(identity, username, password)`. -/
  | plain (identity username password : Bytes)
  /-- `LoginAuth(username, password)` is `login username password 0`. -/
  | login (username password : Bytes) (step : Nat)
  /-- `CramMD5Auth(username, secret)`. -/
  | cramMD5 (username secret : Bytes)
  deriving DecidableEq

namespace SASLMechanism

/-- `Name`. -/
def name : SASLMechanism → Bytes
  | plain .. => ascii "PLAIN"
  | login .. => ascii "LOGIN"
  | cramMD5 .. => ascii "CRAM-MD5"

/-- `Start`: the initial response, `none` for `nil`. No built-in mechanism's `Start` fails. -/
def start : SASLMechanism → Option Bytes
  | plain identity username password => some (identity ++ [Byte.nul] ++ username ++ [Byte.nul] ++ password)
  | login .. => none
  | cramMD5 .. => none

/-- The digit of `hex.EncodeToString` for a value below 16. -/
def hexDigit (v : Nat) : UInt8 := if v < 10 then (48 + v).toUInt8 else (87 + v).toUInt8

/-- `hex.EncodeToString`: two lower-case digits a byte. -/
def hexEncode (s : Bytes) : Bytes := s.flatMap fun b => [hexDigit (b.toNat / 16), hexDigit (b.toNat % 16)]

/-- `Next(challenge)`: the response and the mechanism after, or the error's text. `PLAIN` has no challenge, `LOGIN`
answers two, and `CRAM-MD5` answers every one with the user name and the hex digest. -/
def next (hmacMD5 : Bytes → Bytes → Bytes) (challenge : Bytes) : SASLMechanism → Except Bytes (Bytes × SASLMechanism)
  | plain .. => .error (ascii "smtp: unexpected PLAIN challenge")
  | login username password 0 => .ok (username, login username password 1)
  | login username password 1 => .ok (password, login username password 2)
  | login _ _ step => .error (ascii "smtp: unexpected LOGIN challenge at step " ++ formatInt step)
  | cramMD5 username secret =>
    .ok (username ++ [Byte.sp] ++ hexEncode (hmacMD5 secret challenge), cramMD5 username secret)

end SASLMechanism

end Smtp
