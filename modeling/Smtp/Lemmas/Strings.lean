import Smtp.Strings
import Mathlib.Data.List.DropRight

/-!
# Helpers for strings: runes, cuts and splits

`runes` decodes a string as `for _, r := range s` does. `decodeRune_high` says once what `utf8.DecodeRune` can do with
a first byte that is not ASCII: `RuneError` of width one, or a rune above 127 whose bytes are none of them ASCII. From
it: the runes' bytes put back together are the string (`flatMap_runes`), an ASCII byte is a rune of its own
(`mem_runes_ascii`), and a rune below 128 is an ASCII byte (`mem_runes_lt`). An ASCII prefix decodes byte by byte
(`runes_ascii_append`), so `ToUpper` works on it byte by byte, and `TrimSpace` keeps a string that starts and ends with
ASCII bytes that are not white space (`trimSpace_of_ends`). Decoding is prefix-closed, so `TrimSpace` is idempotent
(`trimSpace_trimSpace`). When only ASCII runes can have a property, every rune has it exactly when every byte does
(`forall_runes_iff`).

`strings.Split` is Mathlib's `List.splitOn` (`split_eq_splitOn`), so it and `strings.Join` invert each other
(`join_split`, `split_join`). `strings.Contains` is `List.IsInfix` (`contains_iff_isInfix`), and
`strings.LastIndexByte` finds the last occurrence (`lastIndexByte_eq_some`).
-/

namespace Smtp
namespace StringsAux

/-! ## Bytes as numbers -/

theorem lt_toNat {a b : UInt8} : a < b ↔ a.toNat < b.toNat := Iff.rfl

theorem eq_toNat {a b : UInt8} : a = b ↔ a.toNat = b.toNat := ⟨congrArg _, UInt8.toNat.inj⟩

theorem toNat_lit (n : Nat) : (no_index (OfNat.ofNat n) : UInt8).toNat = n % 256 := rfl

theorem inRange_toNat {lo hi b : UInt8} : inRange lo hi b = true ↔ lo.toNat ≤ b.toNat ∧ b.toNat ≤ hi.toNat := by
  simp only [inRange, Bool.and_eq_true, decide_eq_true_eq]; exact Iff.rfl

/-! ## `utf8.DecodeRune` -/

theorem decodeRune_ascii {x : UInt8} (hx : x < 0x80) (r : Bytes) : decodeRune (x :: r) = (x.toNat, 1) := by
  simp [decodeRune, hx]

/-- What `utf8.DecodeRune` returns for a first byte that is not ASCII: `RuneError` of width one, or a rune above 127
encoded in two to four bytes, none of them ASCII, within the input. -/
theorem decodeRune_high (x : UInt8) (r : Bytes) (hx : ¬x < 0x80) :
    ((decodeRune (x :: r)).2 = 1 ∧ (decodeRune (x :: r)).1 = runeError) ∨
      (128 ≤ (decodeRune (x :: r)).1 ∧ 2 ≤ (decodeRune (x :: r)).2 ∧ (decodeRune (x :: r)).2 ≤ r.length + 1 ∧
        ∀ b ∈ (x :: r).take (decodeRune (x :: r)).2, 128 ≤ b.toNat) := by
  have hx' : 128 ≤ x.toNat := Nat.le_of_not_lt hx
  generalize hd : decodeRune (x :: r) = p
  rcases r with _ | ⟨b1, _ | ⟨b2, _ | ⟨b3, t⟩⟩⟩ <;> dsimp only [decodeRune] at hd <;> rw [if_neg hx] at hd <;>
    simp only [ite_eq_iff] at hd <;> casesm* _ ∨ _, _ ∧ _ <;> subst p
  all_goals first
    | exact .inl ⟨rfl, rfl⟩
    | refine .inr ⟨?_, by simp, by simp, ?_⟩ <;>
      simp only [List.take, List.mem_cons, List.mem_singleton, List.not_mem_nil, or_false, forall_eq_or_imp, forall_eq,
        lt_toNat, eq_toNat, inRange_toNat, Bool.and_eq_true, contBits, toNat_lit, Nat.reduceMod, apply_ite UInt8.toNat]
        at * <;>
      first | omega | (split_ifs at * <;> omega)

/-- `utf8.DecodeRune` takes one byte at least, and no more than there are. -/
theorem decodeRune_width (x : UInt8) (r : Bytes) :
    1 ≤ (decodeRune (x :: r)).2 ∧ (decodeRune (x :: r)).2 ≤ r.length + 1 := by
  by_cases hx : x < 0x80
  · rw [decodeRune_ascii hx]; simp
  · rcases decodeRune_high x r hx with ⟨h, -⟩ | ⟨-, h, h', -⟩ <;> omega

/-! ## `runes` -/

theorem runesAux_nil (n : Nat) : runesAux n [] = [] := by cases n <;> rfl

theorem runesAux_fuel : ∀ (n m : Nat) (s : Bytes), s.length ≤ n → s.length ≤ m → runesAux n s = runesAux m s
  | n, m, [], _, _ => by rw [runesAux_nil, runesAux_nil]
  | n + 1, m + 1, x :: r, hn, hm => by
    have := decodeRune_width x r
    simp only [runesAux]
    rw [runesAux_fuel n m _ (by simp at hn ⊢; omega) (by simp at hm ⊢; omega)]
  | 0, _ + 1, _ :: _, hn, _ => absurd hn (by simp)
  | _ + 1, 0, _ :: _, _, hm => absurd hm (by simp)

/-- The first rune of a string, then the runes of the rest. -/
theorem runes_cons (x : UInt8) (r : Bytes) :
    runes (x :: r) = ((decodeRune (x :: r)).1, (x :: r).take (decodeRune (x :: r)).2) ::
      runes ((x :: r).drop (decodeRune (x :: r)).2) := by
  have := decodeRune_width x r
  rw [runes, List.length_cons, runesAux, runes, runesAux_fuel _ _ _ (by simp; omega) le_rfl]

theorem runes_nil : runes [] = [] := rfl

/-- A property of every rune decoded at some position holds of every rune of a string. -/
theorem forall_mem_runes (P : Nat × Bytes → Prop)
    (h : ∀ x r, P ((decodeRune (x :: r)).1, (x :: r).take (decodeRune (x :: r)).2)) :
    ∀ s, ∀ p ∈ runes s, P p := by
  intro s
  generalize hs : s.length = n
  induction n using Nat.strong_induction_on generalizing s with
  | _ n ih =>
    intro p hp
    rcases s with _ | ⟨x, r⟩
    · simp [runes_nil] at hp
    · rw [runes_cons, List.mem_cons] at hp
      rcases hp with rfl | hp
      · exact h x r
      · have := decodeRune_width x r
        exact ih _ (by simp at hs ⊢; omega) _ rfl p hp

/-- The bytes of the runes, put back together, are the string. -/
theorem flatMap_runes (s : Bytes) : (runes s).flatMap (·.2) = s := by
  generalize hs : s.length = n
  induction n using Nat.strong_induction_on generalizing s with
  | _ n ih =>
    rcases s with _ | ⟨x, r⟩
    · rfl
    · have := decodeRune_width x r
      rw [runes_cons, List.flatMap_cons, ih _ (by simp at hs ⊢; omega) _ rfl, List.take_append_drop]

/-- Every rune has a byte. -/
theorem mem_runes_ne_nil {s : Bytes} {p : Nat × Bytes} (hp : p ∈ runes s) : p.2 ≠ [] :=
  forall_mem_runes (fun p => p.2 ≠ []) (fun x r => by
    have := decodeRune_width x r
    simp only [ne_eq, List.take_eq_nil_iff, List.cons_ne_nil, or_false]; omega) s p hp

/-- An ASCII byte is a rune of its own. -/
theorem mem_runes_ascii {s : Bytes} {p : Nat × Bytes} (hp : p ∈ runes s) {b : UInt8} (hb : b ∈ p.2)
    (hlt : b < 0x80) : p = (b.toNat, [b]) := by
  refine forall_mem_runes (fun p => ∀ b ∈ p.2, b < 0x80 → p = (b.toNat, [b])) (fun x r b hb hlt => ?_) s p hp b hb hlt
  by_cases hx : x < 0x80
  · simp only [decodeRune_ascii hx, List.take, List.mem_singleton] at hb ⊢
    rw [hb]
  · rcases decodeRune_high x r hx with ⟨h1, -⟩ | ⟨-, -, -, h⟩
    · simp only [h1, List.take, List.mem_singleton] at hb
      exact absurd (hb ▸ hlt) hx
    · exact absurd (lt_toNat.1 hlt) (by simpa using h b hb)

/-- A rune below 128 is an ASCII byte. -/
theorem mem_runes_lt {s : Bytes} {p : Nat × Bytes} (hp : p ∈ runes s) (hlt : p.1 < 128) :
    ∃ b, b < 0x80 ∧ p = (b.toNat, [b]) := by
  refine forall_mem_runes (fun p => p.1 < 128 → ∃ b, b < 0x80 ∧ p = (b.toNat, [b])) (fun x r hlt => ?_) s p hp hlt
  by_cases hx : x < 0x80
  · exact ⟨x, hx, by simp [decodeRune_ascii hx]⟩
  · rcases decodeRune_high x r hx with ⟨-, h⟩ | ⟨h, -⟩
    · exact absurd hlt (by simp [h, runeError])
    · exact absurd hlt (by simpa using h)

/-- Over runes that can only be ASCII, a property of every rune is a property of every byte. -/
theorem forall_runes_iff (P : Nat → Prop) (hP : ∀ r, P r → r < 128) (s : Bytes) :
    (∀ p ∈ runes s, P p.1) ↔ ∀ b ∈ s, P b.toNat := by
  constructor
  · intro h b hb
    rw [← flatMap_runes s, List.mem_flatMap] at hb
    obtain ⟨p, hp, hbp⟩ := hb
    obtain ⟨b', -, rfl⟩ := mem_runes_lt hp (hP _ (h p hp))
    rw [List.mem_singleton] at hbp
    exact hbp ▸ h _ hp
  · intro h p hp
    obtain ⟨b, hb⟩ := List.exists_mem_of_ne_nil _ (mem_runes_ne_nil hp)
    have hbs : b ∈ s := by rw [← flatMap_runes s]; exact List.mem_flatMap.2 ⟨p, hp, hb⟩
    rw [mem_runes_ascii hp hb (lt_toNat.2 (hP _ (h b hbs)))]
    exact h b hbs

/-- An ASCII prefix decodes byte by byte. -/
theorem runes_ascii_append : ∀ (p q : Bytes), (∀ b ∈ p, b < 0x80) →
    runes (p ++ q) = p.map (fun b => (b.toNat, [b])) ++ runes q
  | [], _, _ => rfl
  | x :: p, q, h => by
    have hx := h x (List.mem_cons_self x p)
    rw [List.cons_append, runes_cons, decodeRune_ascii hx, List.take, List.take_zero, List.drop_one, List.tail_cons,
      runes_ascii_append p q fun b hb => h b (List.mem_cons_of_mem x hb), List.map_cons, List.cons_append]

theorem runes_ascii (p : Bytes) (hp : ∀ b ∈ p, b < 0x80) : runes p = p.map fun b => (b.toNat, [b]) := by
  simpa [runes_nil] using runes_ascii_append p [] hp

/-! ## `strings.ToUpper` and `strings.TrimSpace` -/

/-- `ToUpper` works on an ASCII prefix on its own. -/
theorem toUpper_ascii_append (p q : Bytes) (hp : ∀ b ∈ p, b < 0x80) : toUpper (p ++ q) = toUpper p ++ toUpper q := by
  rw [toUpper, toUpper, toUpper, runes_ascii_append p q hp, runes_ascii p hp, List.flatMap_append]

/-- The last rune of a string that ends with an ASCII byte is that byte. -/
theorem runes_concat_ascii (s : Bytes) (y : UInt8) (hy : y < 0x80) :
    ∃ L, runes (s ++ [y]) = L ++ [(y.toNat, [y])] := by
  have hf := flatMap_runes (s ++ [y])
  rcases List.eq_nil_or_concat (runes (s ++ [y])) with h | ⟨L, p, h⟩
  · rw [h] at hf; simp at hf
  · rw [List.concat_eq_append] at h
    refine ⟨L, ?_⟩
    have hp : p ∈ runes (s ++ [y]) := h ▸ List.mem_append_right _ (List.mem_singleton_self _)
    rw [h, List.flatMap_append, List.flatMap_singleton] at hf
    have hlast := congrArg List.getLast? hf
    rw [List.getLast?_append_of_ne_nil _ (mem_runes_ne_nil hp), List.getLast?_concat] at hlast
    rw [h, mem_runes_ascii hp (List.mem_of_getLast?_eq_some hlast) hy]

/-- `TrimSpace` keeps a string that starts and ends with ASCII bytes that are not white space. -/
theorem trimSpace_of_ends (x y : UInt8) (m : Bytes) (hx : x < 0x80) (hxs : isSpaceRune x.toNat = false)
    (hy : y < 0x80) (hys : isSpaceRune y.toNat = false) : trimSpace (x :: (m ++ [y])) = x :: (m ++ [y]) := by
  obtain ⟨L, hL⟩ := runes_concat_ascii (x :: m) y hy
  have hfirst : runes (x :: (m ++ [y])) = (x.toNat, [x]) :: runes (m ++ [y]) := by
    rw [runes_cons, decodeRune_ascii hx]; rfl
  rw [List.cons_append] at hL
  unfold trimSpace
  rw [hfirst, List.dropWhile_cons_of_neg (by simpa using hxs), ← hfirst, hL, List.reverse_append,
    List.reverse_singleton (y.toNat, [y]), List.singleton_append, List.dropWhile_cons_of_neg (by simpa using hys),
    List.reverse_cons, List.reverse_reverse, ← hL, flatMap_runes]

/-! ## Decoding is prefix-closed, and `strings.TrimSpace` idempotent -/

/-- A rune of two bytes or more is decoded from its own bytes, whatever follows them. -/
theorem decodeRune_take_append (s q : Bytes) (h : 2 ≤ (decodeRune s).2) :
    decodeRune (s.take (decodeRune s).2 ++ q) = decodeRune s := by
  rcases s with _ | ⟨x, s⟩
  · simp [decodeRune] at h
  generalize hd : decodeRune (x :: s) = p at h ⊢
  rcases s with _ | ⟨b1, _ | ⟨b2, _ | ⟨b3, t⟩⟩⟩ <;> dsimp only [decodeRune] at hd <;>
    simp only [ite_eq_iff] at hd <;> casesm* _ ∨ _, _ ∧ _ <;> subst p
  all_goals first | (simp only at h; omega) | simp [decodeRune, *]

/-- A rune of one byte is that byte when it is ASCII, and `RuneError` when it is not. -/
theorem decodeRune_width_one (x : UInt8) (r : Bytes) (h : (decodeRune (x :: r)).2 = 1) :
    decodeRune (x :: r) = (if x < 0x80 then x.toNat else runeError, 1) := by
  by_cases hx : x < 0x80
  · rw [decodeRune_ascii hx, if_pos hx]
  · rcases decodeRune_high x r hx with ⟨h1, h2⟩ | ⟨_, h2, _⟩
    · rw [if_neg hx, ← h1, ← h2]
    · omega

/-- A rune read as one byte is read the same before any prefix of what follows it. -/
theorem decodeRune_extend (x : UInt8) (r r' : Bytes) (hp : r' <+: r) (h : (decodeRune (x :: r)).2 = 1) :
    decodeRune (x :: r') = decodeRune (x :: r) := by
  have hw' := decodeRune_width x r'
  by_cases h2 : 2 ≤ (decodeRune (x :: r')).2
  · obtain ⟨t, rfl⟩ := hp
    have he : (x :: r').take (decodeRune (x :: r')).2 ++ ((x :: r').drop (decodeRune (x :: r')).2 ++ t) =
        x :: (r' ++ t) := by rw [← List.append_assoc, List.take_append_drop, List.cons_append]
    have := decodeRune_take_append (x :: r') ((x :: r').drop (decodeRune (x :: r')).2 ++ t) h2
    rw [he] at this
    rw [this] at h
    omega
  · rw [decodeRune_width_one x r' (by omega), decodeRune_width_one x r h]

/-- The first rune of `s` is decoded the same from its bytes followed by any prefix of what follows them in `s`. -/
theorem decodeRune_take_extend (s q : Bytes) (hs : s ≠ []) (hq : q <+: s.drop (decodeRune s).2) :
    decodeRune (s.take (decodeRune s).2 ++ q) = decodeRune s := by
  by_cases h2 : 2 ≤ (decodeRune s).2
  · exact decodeRune_take_append s q h2
  · obtain ⟨x, r, rfl⟩ := List.exists_cons_of_ne_nil hs
    have h1 : (decodeRune (x :: r)).2 = 1 := by have := decodeRune_width x r; omega
    rw [h1] at hq ⊢
    exact decodeRune_extend x r q hq h1

/-- The runes of a string that start it are the runes of their bytes. -/
theorem runes_flatMap_init : ∀ (L R : List (Nat × Bytes)) (s : Bytes), runes s = L ++ R →
    runes (L.flatMap (·.2)) = L
  | [], _, _, _ => runes_nil
  | p :: L, R, s, h => by
    obtain ⟨x, r, rfl⟩ := List.exists_cons_of_ne_nil (fun hs : s = [] => by simp [hs, runes_nil] at h)
    rw [runes_cons, List.cons_append, List.cons.injEq] at h
    obtain ⟨rfl, hL⟩ := h
    have hs := flatMap_runes ((x :: r).drop (decodeRune (x :: r)).2)
    rw [hL, List.flatMap_append] at hs
    have hd := decodeRune_take_extend (x :: r) (L.flatMap (·.2)) (List.cons_ne_nil _ _) ⟨_, hs⟩
    have hw := decodeRune_width x r
    obtain ⟨r', hr'⟩ : ∃ r', (x :: r).take (decodeRune (x :: r)).2 = x :: r' :=
      ⟨r.take ((decodeRune (x :: r)).2 - 1), by rw [show (decodeRune (x :: r)).2 = _ + 1 from (Nat.succ_pred_eq_of_pos (by omega)).symm]; rfl⟩
    have hlen : ((x :: r).take (decodeRune (x :: r)).2).length = (decodeRune (x :: r)).2 := by simp; omega
    rw [List.flatMap_cons]
    dsimp only
    rw [hr', List.cons_append, runes_cons, ← List.cons_append, ← hr', hd, List.take_left' hlen, List.drop_left' hlen,
      runes_flatMap_init L R _ hL]

/-- What follows the runes that start a string has the rest of its runes. -/
theorem runes_drop_init : ∀ (L R : List (Nat × Bytes)) (s : Bytes), runes s = L ++ R →
    runes (s.drop (L.flatMap (·.2)).length) = R
  | [], _, _, h => by simpa using h
  | p :: L, R, s, h => by
    obtain ⟨x, r, rfl⟩ := List.exists_cons_of_ne_nil (fun hs : s = [] => by simp [hs, runes_nil] at h)
    rw [runes_cons, List.cons_append, List.cons.injEq] at h
    obtain ⟨rfl, hL⟩ := h
    have hw := decodeRune_width x r
    have hlen : ((x :: r).take (decodeRune (x :: r)).2).length = (decodeRune (x :: r)).2 := by simp; omega
    rw [List.flatMap_cons, List.length_append]
    dsimp only
    rw [hlen, ← List.drop_drop, runes_drop_init L R _ hL]

/-- `strings.TrimSpace` is idempotent: what it returns has no white space to trim at either end. -/
theorem trimSpace_trimSpace (s : Bytes) : trimSpace (trimSpace s) = trimSpace s := by
  have ht : ∀ u, trimSpace u = (((runes u).dropWhile (isSpaceRune ·.1)).rdropWhile (isSpaceRune ·.1)).flatMap (·.2) :=
    fun _ => rfl
  generalize hY : (runes s).dropWhile (isSpaceRune ·.1) = Y
  have hpre := List.rdropWhile_prefix (isSpaceRune ·.1) Y
  have ⟨B, hB⟩ := hpre
  have hrun : runes ((Y.rdropWhile (isSpaceRune ·.1)).flatMap (·.2)) = Y.rdropWhile (isSpaceRune ·.1) := by
    refine runes_flatMap_init _ B _ (runes_drop_init ((runes s).takeWhile (isSpaceRune ·.1)) _ s ?_)
    rw [hB, ← hY, List.takeWhile_append_dropWhile]
  rw [ht s, hY, ht, hrun]
  congr 1
  have hd : (Y.rdropWhile (isSpaceRune ·.1)).dropWhile (isSpaceRune ·.1) = Y.rdropWhile (isSpaceRune ·.1) := by
    refine List.dropWhile_eq_self_iff.2 fun hl => ?_
    have hp := hpre.getElem hl
    have hl' : 0 < Y.length := lt_of_lt_of_le hl hpre.length_le
    have := List.dropWhile_get_zero_not (isSpaceRune ·.1) (runes s) (by rw [hY]; exact hl')
    simp only [List.get_eq_getElem] at this ⊢
    rw [hp]
    simpa [hY] using this
  rw [hd, List.rdropWhile_idempotent]

/-! ## `strings.Cut`, `strings.Split`, `strings.Join` and `strings.Contains` -/

theorem cut_append (sep : UInt8) (r : Bytes) : ∀ a : Bytes, sep ∉ a → cut sep (a ++ sep :: r) = (a, r, true)
  | [], _ => by simp [cut]
  | b :: a, h => by
    rw [List.mem_cons, not_or] at h
    rw [List.cons_append, cut, if_neg (Ne.symm h.1), cut_append sep r a h.2]

theorem cut_of_not_mem (sep : UInt8) : ∀ a : Bytes, sep ∉ a → cut sep a = (a, [], false)
  | [], _ => rfl
  | b :: a, h => by
    rw [List.mem_cons, not_or] at h
    rw [cut, if_neg (Ne.symm h.1), cut_of_not_mem sep a h.2]

theorem split_append (sep : UInt8) (r : Bytes) : ∀ a : Bytes, sep ∉ a → split sep (a ++ sep :: r) = a :: split sep r
  | [], _ => by simp [split]
  | b :: a, h => by
    rw [List.mem_cons, not_or] at h
    rw [List.cons_append, split, if_neg (Ne.symm h.1), split_append sep r a h.2]

theorem split_of_not_mem (sep : UInt8) : ∀ a : Bytes, sep ∉ a → split sep a = [a]
  | [], _ => rfl
  | b :: a, h => by
    rw [List.mem_cons, not_or] at h
    rw [split, if_neg (Ne.symm h.1), split_of_not_mem sep a h.2]

/-- `strings.Split` with a one-byte separator is Mathlib's `List.splitOn`. -/
theorem split_eq_splitOn (sep : UInt8) : ∀ s : Bytes, split sep s = s.splitOn sep
  | [] => rfl
  | b :: s => by
    rw [split, split_eq_splitOn sep s]
    simp only [List.splitOn, List.splitOnP_cons]
    by_cases h : b = sep
    · simp [h]
    · rw [if_neg h, if_neg (by simpa using h)]
      rcases hs : List.splitOnP (fun x => x == sep) s with _ | ⟨l, ls⟩
      · exact absurd hs (List.splitOnP_ne_nil _ _)
      · rfl

theorem split_ne_nil (sep : UInt8) (s : Bytes) : split sep s ≠ [] := by
  rw [split_eq_splitOn]; exact List.splitOnP_ne_nil _ _

theorem join_split (sep : UInt8) (s : Bytes) : join sep (split sep s) = s := by
  rw [join, split_eq_splitOn, List.intercalate_splitOn]

theorem split_join (sep : UInt8) (L : List Bytes) (hL : L ≠ []) (hsep : ∀ l ∈ L, sep ∉ l) :
    split sep (join sep L) = L := by
  rw [join, split_eq_splitOn, List.splitOn_intercalate L sep hsep hL]

theorem not_mem_of_mem_split (sep : UInt8) : ∀ (s l : Bytes), l ∈ split sep s → sep ∉ l
  | [], l, h => by simp only [split, List.mem_singleton] at h; simp [h]
  | b :: s, l, h => by
    rw [split] at h
    split_ifs at h with hb
    · rcases List.mem_cons.1 h with rfl | h
      · simp
      · exact not_mem_of_mem_split sep s l h
    · rcases hs : split sep s with _ | ⟨l', ls⟩
      · rw [hs, List.mem_singleton] at h
        simp [h, Ne.symm hb]
      · rw [hs] at h
        rcases List.mem_cons.1 h with rfl | h
        · simp only [List.mem_cons, not_or]
          exact ⟨Ne.symm hb, not_mem_of_mem_split sep s l' (hs ▸ List.mem_cons_self _ _)⟩
        · exact not_mem_of_mem_split sep s l (hs ▸ List.mem_cons_of_mem _ h)

/-- `strings.Contains` is `List.IsInfix`. -/
theorem contains_iff_isInfix (sub : Bytes) : ∀ s : Bytes, contains sub s = true ↔ sub <:+: s
  | [] => by cases sub <;> simp [contains]
  | b :: s => by
    rw [contains, Bool.or_eq_true, List.isPrefixOf_iff_prefix, contains_iff_isInfix sub s, List.infix_cons_iff]

/-! ## `strings.LastIndexByte` -/

theorem lastIndexByte_eq_none (c : UInt8) : ∀ s : Bytes, lastIndexByte c s = none ↔ c ∉ s
  | [] => by simp [lastIndexByte]
  | x :: s => by
    have ih := lastIndexByte_eq_none c s
    rw [lastIndexByte]
    rcases h : lastIndexByte c s with _ | j
    · by_cases hx : x = c <;> simp [hx, ih.1 h, Ne.symm]
    · have hs : c ∈ s := by_contra fun hn => by rw [ih.2 hn] at h; cases h
      simp [hs]

/-- The last `c` of `a ++ c :: b`, with no `c` in `b`, is at the length of `a`. -/
theorem lastIndexByte_append (c : UInt8) (b : Bytes) (hb : c ∉ b) :
    ∀ a : Bytes, lastIndexByte c (a ++ c :: b) = some a.length
  | [] => by simp [lastIndexByte, (lastIndexByte_eq_none c b).2 hb]
  | x :: a => by rw [List.cons_append, lastIndexByte, lastIndexByte_append c b hb a, List.length_cons]

/-- Where `strings.LastIndexByte` finds `c`: the bytes before it, and no `c` after it. -/
theorem lastIndexByte_eq_some (c : UInt8) : ∀ (s : Bytes) (i : Nat), lastIndexByte c s = some i →
    ∃ a b, s = a ++ c :: b ∧ c ∉ b ∧ a.length = i
  | [], i, h => nomatch h
  | x :: s, i, h => by
    rw [lastIndexByte] at h
    rcases hs : lastIndexByte c s with _ | j
    · rw [hs] at h
      split_ifs at h with hx
      cases h
      exact ⟨[], s, by rw [hx]; rfl, (lastIndexByte_eq_none c s).1 hs, rfl⟩
    · rw [hs] at h
      cases h
      obtain ⟨a, b, rfl, hb, rfl⟩ := lastIndexByte_eq_some c s j hs
      exact ⟨x :: a, b, rfl, hb, rfl⟩

end StringsAux
end Smtp
