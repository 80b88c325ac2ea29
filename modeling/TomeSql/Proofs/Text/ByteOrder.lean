/-
  The order of the bytes is the order of the characters.

  1. **Later bytes (`groups_append_lt`)** — of two numbers with the same first bits the smaller one has
     the smaller groups: they differ first where the numbers do.

  2. **First bytes (`firstByte_le`)** — the first byte grows with the number, and two characters that
     share it have as many bytes and the same first bits (`exists_laterBytes_eq_groups`).

  3. **Main result (`encode_lt_encode`)** — so the bytes of a character come before those of a
     greater one, whatever stands behind them, and texts are in the order of their bytes.
-/
import TomeSql.Proofs.Text.Utf8

namespace TomeSql.Text

/-! ## Later bytes -/

/-- Where the bits before it are equal, a group grows with the number. -/
theorem group_lt_group {v w n : Nat} (hbits : v / 64 ^ (n + 1) = w / 64 ^ (n + 1))
    (h : v / 64 ^ n < w / 64 ^ n) : group v n < group w n := by
  rw [Nat.pow_succ, ← Nat.div_div_eq_div_mul, ← Nat.div_div_eq_div_mul] at hbits
  rw [UInt8.lt_iff_toNat_lt, group_toNat, group_toNat]
  omega

theorem group_eq_group {v w n : Nat} (h : v / 64 ^ n = w / 64 ^ n) : group v n = group w n := by
  rw [group, group, h]

/-- Groups of bits compare as their numbers do, whatever follows. -/
theorem groups_append_lt {v w n : Nat} (hbits : v / 64 ^ (n + 1) = w / 64 ^ (n + 1)) (h : v < w)
    (s t : List UInt8) : groups v n ++ s < groups w n ++ t := by
  induction n with
  | zero =>
    have hgroup : group v 0 < group w 0 := group_lt_group hbits (by simpa using h)
    exact List.cons_lt_cons_iff.mpr (Or.inl hgroup)
  | succ n ih =>
    have hle : v / 64 ^ (n + 1) ≤ w / 64 ^ (n + 1) := Nat.div_le_div_right (Nat.le_of_lt h)
    rw [groups, groups, List.cons_append, List.cons_append, List.cons_lt_cons_iff]
    rcases Nat.lt_or_eq_of_le hle with hlt | heq
    · exact Or.inl (group_lt_group hbits hlt)
    · exact Or.inr ⟨group_eq_group heq, ih heq⟩

/-! ## First bytes -/

/-- The first byte grows with the number. -/
theorem firstByte_le {v w : Nat} (h : v ≤ w) (hw : w < 0x110000) : firstByte v ≤ firstByte w := by
  have hcases := firstByte_cases hw
  rw [UInt8.le_iff_toNat_le]
  rcases firstByte_cases (Nat.lt_of_le_of_lt h hw) with hone | htwo | hthree | hfour
  all_goals omega

/-- Characters with the same first byte have equally many bytes behind it. -/
theorem exists_laterBytes_eq_groups {v w : Nat} (h : v < w) (hw : w < 0x110000)
    (hfirst : firstByte v = firstByte w) :
    ∃ n, laterBytes v = groups v n ∧ laterBytes w = groups w n ∧ v / 64 ^ (n + 1) = w / 64 ^ (n + 1) := by
  have hv := firstByte_cases (Nat.lt_trans h hw)
  rw [← UInt8.toNat_inj] at hfirst
  -- the first bytes keep the lengths apart, so that both characters are in the same case
  rcases firstByte_cases hw with hone | ⟨hlow, hhigh, htwo, hlater⟩ | ⟨hlow, hhigh, hthree, hlater⟩ |
    ⟨hlow, hfour, hlater⟩
  · omega
  · obtain ⟨-, -, htwo', hlater'⟩ := (hv.resolve_left (by omega)).resolve_right (by omega)
    exact ⟨0, hlater', hlater, by omega⟩
  · obtain ⟨-, -, hthree', hlater'⟩ :=
      ((hv.resolve_left (by omega)).resolve_left (by omega)).resolve_right (by omega)
    exact ⟨1, hlater', hlater, by omega⟩
  · obtain ⟨-, hfour', hlater'⟩ :=
      ((hv.resolve_left (by omega)).resolve_left (by omega)).resolve_left (by omega)
    exact ⟨2, hlater', hlater, by omega⟩

/-! ## Texts -/

/-- The bytes of two characters compare as the characters do, whatever follows. -/
theorem encodeChar_append_lt {c d : Char} (h : c < d) (s t : List UInt8) :
    String.utf8EncodeChar c ++ s < String.utf8EncodeChar d ++ t := by
  have hlt : c.toNat < d.toNat := h
  have hd : d.toNat < 0x110000 := by
    have hranges := toNat_ranges d
    omega
  rw [encodeChar_eq, encodeChar_eq, List.cons_append, List.cons_append, List.cons_lt_cons_iff]
  rcases UInt8.lt_or_eq_of_le (firstByte_le (Nat.le_of_lt hlt) hd) with hfirst | hfirst
  · exact Or.inl hfirst
  · obtain ⟨n, hc, hd, hbits⟩ := exists_laterBytes_eq_groups hlt hd hfirst
    rw [hc, hd]
    exact Or.inr ⟨hfirst, groups_append_lt hbits hlt s t⟩

/-- **Texts are in the order of their bytes.** -/
theorem encode_lt_encode {a b : Text} (h : a < b) : encode a < encode b := by
  induction h with
  | nil =>
    rw [encode, encode, List.flatMap_nil, List.flatMap_cons, encodeChar_eq]
    exact List.nil_lt_cons _ _
  | rel h => exact encodeChar_append_lt h _ _
  | cons _ ih => exact List.append_left_lt ih

end TomeSql.Text
