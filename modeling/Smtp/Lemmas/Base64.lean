import Smtp.Base64

/-!
# Base64: what `DecodeString` makes of what `EncodeToString` writes

`base64Decode_encode`: decoding gives back every byte string encoded, the padded last group included. The alphabet is
checked once, over its 64 values (`b64Value_symbol`), and each group's bytes are put back together by arithmetic on
their 24 bits (`quantum_bytes`).
-/

namespace Smtp

namespace Base64Aux

/-- A number is a byte's value modulo 256. -/
theorem toUInt8_toNat_eq {n : Nat} {a : UInt8} (h : n % 256 = a.toNat) : n.toUInt8 = a := UInt8.toNat.inj h

/-- Every six-bit value is the value of its symbol. -/
theorem b64Value_symbol : ∀ v, v < 64 → b64Value (b64Symbol v) = some v := by decide

/-- `=` is not a symbol of the alphabet. -/
theorem b64Value_pad : b64Value padChar = none := by decide

/-- Every symbol written is of the alphabet. -/
theorem b64Value_symbol_ne (v : Nat) : b64Value (b64Symbol v) ≠ none := by
  by_cases h : v < 64
  · simp [b64Value_symbol v h]
  · simp only [b64Symbol, if_neg (show ¬v < 26 by omega), if_neg (show ¬v < 52 by omega),
      if_neg (show ¬v < 62 by omega), if_neg (show v ≠ 62 by omega)]
    decide

/-- A byte of the alphabet or `=` is not one the protocol gives a meaning to: not `NUL`, a space, a line end, or the
`*` that cancels an exchange. -/
theorem b64_byte (x : UInt8) (h : b64Value x ≠ none ∨ x = padChar) :
    x ≠ Byte.nul ∧ x ≠ Byte.sp ∧ x ≠ Byte.cr ∧ x ≠ Byte.lf ∧ x ≠ 42 := by
  refine ⟨?_, ?_, ?_, ?_, ?_⟩ <;> rintro rfl <;> revert h <;> decide

/-- Four six-bit values of a 24-bit number put back together give the number. -/
theorem sextets_recombine (v : Nat) :
    ((v / 262144 * 64 + v / 4096 % 64) * 64 + v / 64 % 64) * 64 + v % 64 = v / 262144 * 262144 + v % 262144 := by
  omega

/-- The three bytes of a quantum, put back together from its four six-bit values. -/
theorem quantum_bytes (a b c : UInt8) :
    let v := a.toNat * 65536 + b.toNat * 256 + c.toNat
    let v' := ((v / 262144 * 64 + v / 4096 % 64) * 64 + v / 64 % 64) * 64 + v % 64
    (v' / 65536).toUInt8 = a ∧ (v' / 256 % 256).toUInt8 = b ∧ (v' % 256).toUInt8 = c := by
  have ha : a.toNat < 256 := a.toNat_lt_size
  have hb : b.toNat < 256 := b.toNat_lt_size
  have hc : c.toNat < 256 := c.toNat_lt_size
  intro v v'
  have hv : v' = v := by
    simp only [v', sextets_recombine]; omega
  rw [hv]
  refine ⟨toUInt8_toNat_eq ?_, toUInt8_toNat_eq ?_, toUInt8_toNat_eq ?_⟩ <;> omega

/-- The quanta of `EncodeToString` decode to what it encoded, group by group. -/
theorem decodeQuanta_encode : ∀ s : Bytes, decodeQuanta (base64Encode s) = some s
  | a :: b :: c :: rest => by
    have hv : (a.toNat * 65536 + b.toNat * 256 + c.toNat) / 262144 < 64 := by
      have ha : a.toNat < 256 := a.toNat_lt_size; have hb : b.toNat < 256 := b.toNat_lt_size
      have hc : c.toNat < 256 := c.toNat_lt_size
      omega
    obtain ⟨h1, h2, h3⟩ := quantum_bytes a b c
    simp only [base64Encode, List.cons_append, List.append_eq, List.nil_append, decodeQuanta, b64Value_symbol _ hv,
      b64Value_symbol _ (Nat.mod_lt _ (by decide)), decodeQuanta_encode rest, Option.map_some', h1, h2, h3]
  | [a, b] => by
    have ha : a.toNat < 256 := a.toNat_lt_size; have hb : b.toNat < 256 := b.toNat_lt_size
    simp only [base64Encode, decodeQuanta,
      b64Value_symbol _ (show (a.toNat * 65536 + b.toNat * 256) / 262144 < 64 by omega),
      b64Value_symbol _ (Nat.mod_lt _ (by decide)), b64Value_pad, and_self, if_true, Option.some.injEq,
      List.cons.injEq, and_true]
    exact ⟨toUInt8_toNat_eq (by omega), toUInt8_toNat_eq (by omega)⟩
  | [a] => by
    have ha : a.toNat < 256 := a.toNat_lt_size
    simp only [base64Encode, decodeQuanta,
      b64Value_symbol _ (show (a.toNat * 65536) / 262144 < 64 by omega),
      b64Value_symbol _ (Nat.mod_lt _ (by decide)), b64Value_pad, and_self, if_true, Option.some.injEq,
      List.cons.injEq, and_true]
    exact toUInt8_toNat_eq (by omega)
  | [] => rfl

/-- `EncodeToString` writes symbols of the alphabet and `=`. -/
theorem base64Encode_symbols : ∀ s, ∀ x ∈ base64Encode s, b64Value x ≠ none ∨ x = padChar
  | a :: b :: c :: rest, x, hx => by
    simp only [base64Encode, List.cons_append, List.nil_append, List.mem_cons] at hx
    rcases hx with rfl | rfl | rfl | rfl | hx
    iterate 4 exact .inl (b64Value_symbol_ne _)
    exact base64Encode_symbols rest x hx
  | [a, b], x, hx => by
    simp only [base64Encode, List.mem_cons, List.not_mem_nil, or_false] at hx
    rcases hx with rfl | rfl | rfl | rfl
    iterate 3 exact .inl (b64Value_symbol_ne _)
    exact .inr rfl
  | [a], x, hx => by
    simp only [base64Encode, List.mem_cons, List.not_mem_nil, or_false] at hx
    rcases hx with rfl | rfl | rfl | rfl
    iterate 2 exact .inl (b64Value_symbol_ne _)
    all_goals exact .inr rfl
  | [], _, hx => absurd hx (List.not_mem_nil _)

/-- A byte `EncodeToString` writes is none of `NUL`, space, `\r`, `\n` and `*`. -/
theorem mem_base64Encode {s : Bytes} {x : UInt8} (hx : x ∈ base64Encode s) :
    x ≠ Byte.nul ∧ x ≠ Byte.sp ∧ x ≠ Byte.cr ∧ x ≠ Byte.lf ∧ x ≠ 42 :=
  b64_byte x (base64Encode_symbols s x hx)

/-- `DecodeString` reads back what `EncodeToString` writes. -/
theorem base64Decode_encode (s : Bytes) : base64Decode (base64Encode s) = some s := by
  rw [base64Decode, List.filter_eq_self.2 fun x hx => by
    simpa using And.intro (mem_base64Encode hx).2.2.1 (mem_base64Encode hx).2.2.2.1, decodeQuanta_encode]

end Base64Aux

end Smtp
