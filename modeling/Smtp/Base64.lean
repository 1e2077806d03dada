import Smtp.Bytes

/-!
# Base64

`encoding/base64.StdEncoding` as the session uses it: `EncodeToString` for the AUTH challenges and `DecodeString` for
the client's answers. The decoder skips `\r` and `\n` wherever they stand, wants the input in whole quanta of four
symbols, allows `=` padding only in the last quantum, and ignores the unused bits of a padded quantum (the encoding is
not strict).
-/

namespace Smtp

/-- The value of a symbol of the standard alphabet. -/
def b64Value (c : UInt8) : Option Nat :=
  if 65 ≤ c ∧ c ≤ 90 then some (c.toNat - 65)
  else if 97 ≤ c ∧ c ≤ 122 then some (c.toNat - 71)
  else if 48 ≤ c ∧ c ≤ 57 then some (c.toNat + 4)
  else if c = 43 then some 62
  else if c = 47 then some 63
  else none

/-- The symbol of a six-bit value. -/
def b64Symbol (v : Nat) : UInt8 :=
  if v < 26 then (65 + v).toUInt8 else if v < 52 then (71 + v).toUInt8 else if v < 62 then (v - 4).toUInt8
  else if v = 62 then 43 else 47

/-- `=`. -/
def padChar : UInt8 := 61

/-- `EncodeToString`: three bytes to four symbols, a last group of one or two bytes padded with `=`. -/
def base64Encode : Bytes → Bytes
  | a :: b :: c :: rest =>
    let v := a.toNat * 65536 + b.toNat * 256 + c.toNat
    [b64Symbol (v / 262144), b64Symbol (v / 4096 % 64), b64Symbol (v / 64 % 64), b64Symbol (v % 64)] ++
      base64Encode rest
  | [a, b] =>
    let v := a.toNat * 65536 + b.toNat * 256
    [b64Symbol (v / 262144), b64Symbol (v / 4096 % 64), b64Symbol (v / 64 % 64), padChar]
  | [a] => let v := a.toNat * 65536; [b64Symbol (v / 262144), b64Symbol (v / 4096 % 64), padChar, padChar]
  | [] => []

/-- The quanta of `DecodeString` once `\r` and `\n` are dropped: four symbols give three bytes, and the last quantum may
end in `==` (one byte) or `=` (two bytes). -/
def decodeQuanta : Bytes → Option Bytes
  | [] => some []
  | a :: b :: c :: d :: rest =>
    match b64Value a, b64Value b, b64Value c, b64Value d with
    | some va, some vb, some vc, some vd =>
      let v := ((va * 64 + vb) * 64 + vc) * 64 + vd
      (decodeQuanta rest).map ([(v / 65536).toUInt8, (v / 256 % 256).toUInt8, (v % 256).toUInt8] ++ ·)
    | some va, some vb, some vc, none =>
      if d = padChar ∧ rest = [] then some [((va * 64 + vb) / 16).toUInt8, ((vb * 64 + vc) / 4 % 256).toUInt8]
      else none
    | some va, some vb, none, none =>
      if c = padChar ∧ d = padChar ∧ rest = [] then some [((va * 64 + vb) / 16).toUInt8] else none
    | _, _, _, _ => none
  | _ => none

/-- `DecodeString`; `none` where it returns an error. -/
def base64Decode (s : Bytes) : Option Bytes := decodeQuanta (s.filter fun c => c ≠ Byte.cr ∧ c ≠ Byte.lf)

end Smtp
