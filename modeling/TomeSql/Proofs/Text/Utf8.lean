/-
  What is encoded is read back.

  1. **Crux (`Awaits`)** — what the decoder knows inside a sequence: the bits so far are those of the
     number that it reads, and the next six are let through.  One byte keeps this, so the bytes that are
     missing complete the number (`Awaits.unitsFrom_groups`).

  2. **First bytes (`encode_opens`)** — the first byte of a character brings this about: the number
     needs all of its bytes and is no surrogate, and just that is what the range of the second byte asks.

  3. **Main result (`decodeLossy_encode`)** — the text of the bytes of a text is the text.
-/
import TomeSql.Text.Utf8
import Mathlib.Algebra.Group.Nat.Defs

namespace TomeSql.Text

/-! ## Inside a sequence -/

/-- The byte with the `n`-th group of six bits of a number. -/
def group (v n : Nat) : UInt8 := UInt8.ofNat (v / 64 ^ n % 64 + 128)

/-- The last groups of a number, from the `n`-th one on. -/
def groups (v : Nat) : (n : Nat) → List UInt8
  | 0 => [group v 0]
  | n + 1 => group v (n + 1) :: groups v n

theorem group_toNat (v n : Nat) : (group v n).toNat = v / 64 ^ n % 64 + 128 := by
  have hlt : v / 64 ^ n % 64 < 64 := Nat.mod_lt _ (by decide)
  rw [group, UInt8.toNat_ofNat']
  omega

/-- The decoder is about to read the number `v`. -/
structure Awaits (p : Unfinished) (v : Nat) : Prop where
  bits_eq : p.bits = v / 64 ^ (p.missing + 1)
  least_le : p.least.toNat ≤ v / 64 ^ p.missing % 64 + 128
  le_greatest : v / 64 ^ p.missing % 64 + 128 ≤ p.greatest.toNat

namespace Awaits

variable {p : Unfinished} {v : Nat}

/-- The next byte of an awaited character is one that the decoder takes. -/
theorem inRange (h : Awaits p v) : p.least ≤ group v p.missing ∧ group v p.missing ≤ p.greatest := by
  rw [UInt8.le_iff_toNat_le, UInt8.le_iff_toNat_le, group_toNat]
  exact ⟨h.least_le, h.le_greatest⟩

/-- The next group belongs behind the bits so far. -/
theorem bits_step (h : Awaits p v) :
    p.bits * 64 + ((group v p.missing).toNat - 0x80) = v / 64 ^ p.missing := by
  rw [h.bits_eq, group_toNat, Nat.pow_succ, ← Nat.div_div_eq_div_mul]
  omega

/-- Behind the first byte every group is let through. -/
theorem of_bits (v n : Nat) : Awaits ⟨v / 64 ^ (n + 1), n, 0x80, 0xBF, by decide⟩ v where
  bits_eq := rfl
  least_le := Nat.le_add_left ..
  le_greatest := by
    have hlt : v / 64 ^ n % 64 < 64 := Nat.mod_lt _ (by decide)
    exact Nat.add_le_add_right (Nat.le_of_lt_succ hlt) 128

/-- The missing bytes complete the number. -/
theorem unitsFrom_groups (h : Awaits p v) (bs : List UInt8) :
    unitsFrom (some p) (groups v p.missing ++ bs) = some (Char.ofNat v) :: units bs := by
  obtain ⟨bits, n, least, greatest, hge⟩ := p
  induction n generalizing bits least greatest with
  | zero =>
    have hbits := h.bits_step
    have hrange := h.inRange
    simp only [Nat.pow_zero, Nat.div_one] at hbits
    simp only [groups, List.cons_append, List.nil_append, unitsFrom, stepUnit, if_pos hrange, hbits]
    rfl
  | succ n ih =>
    have hbits := h.bits_step
    have hrange := h.inRange
    simp only at hbits
    simp only [groups, List.cons_append, unitsFrom, stepUnit, if_pos hrange, hbits, List.nil_append]
    exact ih _ _ _ _ (of_bits v n)

end Awaits

/-! ## The first byte -/

variable {c : Char}

/-- The number of a character is no surrogate and not above U+10FFFF. -/
theorem toNat_ranges (c : Char) : c.toNat < 0xD800 ∨ 0xDFFF < c.toNat ∧ c.toNat < 0x110000 := c.valid

/-- What a byte opens, by the range that it is in. -/
theorem opening_ofNat {n : Nat} (h : n < 256) :
    opening (UInt8.ofNat n) =
      if n < 0x80 then .char (Char.ofNat n)
      else if n < 0xC2 then .broken
      else if n < 0xE0 then .sequence ⟨n - 0xC0, 0, 0x80, 0xBF, by decide⟩
      else if n = 0xE0 then .sequence ⟨0, 1, 0xA0, 0xBF, by decide⟩
      else if n = 0xED then .sequence ⟨0xD, 1, 0x80, 0x9F, by decide⟩
      else if n < 0xF0 then .sequence ⟨n - 0xE0, 1, 0x80, 0xBF, by decide⟩
      else if n = 0xF0 then .sequence ⟨0, 2, 0x90, 0xBF, by decide⟩
      else if n < 0xF4 then .sequence ⟨n - 0xF0, 2, 0x80, 0xBF, by decide⟩
      else if n = 0xF4 then .sequence ⟨4, 2, 0x80, 0x8F, by decide⟩
      else .broken := by
  have hn : (UInt8.ofNat n).toNat = n := by rw [UInt8.toNat_ofNat', Nat.mod_eq_of_lt h]
  simp only [opening, UInt8.lt_iff_toNat_lt, ← UInt8.toNat_inj, hn]
  rfl

/-- What the first byte of a character does, given the bytes behind it. -/
inductive Opens (c : Char) (b : UInt8) : (rest : List UInt8) → Prop
  | char (h : opening b = .char c) : Opens c b []
  | sequence {p : Unfinished} (h : opening b = .sequence p) (hp : Awaits p c.toNat) :
    Opens c b (groups c.toNat p.missing)

theorem opens_one (h : c.toNat < 0x80) : Opens c (UInt8.ofNat c.toNat) [] := by
  have hopening := opening_ofNat (n := c.toNat) (by omega)
  rw [if_pos h, Char.ofNat_toNat] at hopening
  exact .char hopening

theorem opens_two (hlow : 0x80 ≤ c.toNat) (hhigh : c.toNat < 0x800) :
    Opens c (UInt8.ofNat (c.toNat / 64 + 0xC0)) (groups c.toNat 0) := by
  have hopening := opening_ofNat (n := c.toNat / 64 + 0xC0) (by omega)
  rw [if_neg (by omega), if_neg (by omega), if_pos (by omega)] at hopening
  refine .sequence hopening ⟨?_, ?_, ?_⟩
  all_goals simp
  all_goals omega

theorem opens_three (hlow : 0x800 ≤ c.toNat) (hhigh : c.toNat < 0x10000) :
    Opens c (UInt8.ofNat (c.toNat / 4096 + 0xE0)) (groups c.toNat 1) := by
  have hranges := toNat_ranges c
  have hopening := opening_ofNat (n := c.toNat / 4096 + 0xE0) (by omega)
  rw [if_neg (by omega), if_neg (by omega), if_neg (by omega)] at hopening
  split at hopening
  · -- below 0x1000, where a number of two bytes would be overlong
    refine .sequence hopening ⟨?_, ?_, ?_⟩
    all_goals simp
    all_goals omega
  · split at hopening
    · -- from 0xD000 on, where the surrogates are
      refine .sequence hopening ⟨?_, ?_, ?_⟩
      all_goals simp
      all_goals omega
    · rw [if_pos (by omega)] at hopening
      refine .sequence hopening ⟨?_, ?_, ?_⟩
      all_goals simp
      all_goals omega

theorem opens_four (hlow : 0x10000 ≤ c.toNat) :
    Opens c (UInt8.ofNat (c.toNat / 262144 + 0xF0)) (groups c.toNat 2) := by
  have hranges := toNat_ranges c
  have hopening := opening_ofNat (n := c.toNat / 262144 + 0xF0) (by omega)
  rw [if_neg (by omega), if_neg (by omega), if_neg (by omega), if_neg (by omega),
    if_neg (by omega), if_neg (by omega)] at hopening
  split at hopening
  · -- below 0x40000, where a number of three bytes would be overlong
    refine .sequence hopening ⟨?_, ?_, ?_⟩
    all_goals simp
    all_goals omega
  · split at hopening
    · refine .sequence hopening ⟨?_, ?_, ?_⟩
      all_goals simp
      all_goals omega
    · -- the last quarter, which ends at 0x10FFFF
      rw [if_pos (by omega)] at hopening
      refine .sequence hopening ⟨?_, ?_, ?_⟩
      all_goals simp
      all_goals omega

/-- The first byte of the character with the number `v`. -/
def firstByte (v : Nat) : UInt8 :=
  if v < 0x80 then UInt8.ofNat v
  else if v < 0x800 then UInt8.ofNat (v / 64 + 0xC0)
  else if v < 0x10000 then UInt8.ofNat (v / 4096 + 0xE0)
  else UInt8.ofNat (v / 262144 + 0xF0)

/-- The bytes behind the first one. -/
def laterBytes (v : Nat) : List UInt8 :=
  if v < 0x80 then []
  else if v < 0x800 then groups v 0
  else if v < 0x10000 then groups v 1
  else groups v 2

/-- The number of a character tells how many bytes it has, and so does its first byte. -/
theorem firstByte_cases {v : Nat} (h : v < 0x110000) :
    (v < 0x80 ∧ (firstByte v).toNat = v) ∨
    (0x80 ≤ v ∧ v < 0x800 ∧ (firstByte v).toNat = v / 64 + 0xC0 ∧ laterBytes v = groups v 0) ∨
    (0x800 ≤ v ∧ v < 0x10000 ∧ (firstByte v).toNat = v / 4096 + 0xE0 ∧ laterBytes v = groups v 1) ∨
    (0x10000 ≤ v ∧ (firstByte v).toNat = v / 262144 + 0xF0 ∧ laterBytes v = groups v 2) := by
  have hbyte : ∀ n < 256, (UInt8.ofNat n).toNat = n := fun n hn => UInt8.toNat_ofNat_of_lt hn
  rw [firstByte, laterBytes]
  split
  · exact Or.inl ⟨by omega, hbyte _ (by omega)⟩
  · split
    · exact Or.inr (Or.inl ⟨by omega, by omega, hbyte _ (by omega), rfl⟩)
    · split
      · exact Or.inr (Or.inr (Or.inl ⟨by omega, by omega, hbyte _ (by omega), rfl⟩))
      · exact Or.inr (Or.inr (Or.inr ⟨by omega, hbyte _ (by omega), rfl⟩))

/-- The bytes of a character are its first byte and the groups of bits behind it. -/
theorem encodeChar_eq (c : Char) :
    String.utf8EncodeChar c = firstByte c.toNat :: laterBytes c.toNat := by
  have hranges := toNat_ranges c
  have hval : c.val.toNat = c.toNat := rfl
  simp only [String.utf8EncodeChar, hval, firstByte, laterBytes, ← Nat.lt_succ_iff]
  split
  · rfl
  · split
    · rw [Nat.mod_eq_of_lt (by omega)]
      simp [groups, group]
    · split
      · rw [Nat.mod_eq_of_lt (a := c.toNat / 4096) (by omega)]
        simp [groups, group]
      · rw [Nat.mod_eq_of_lt (a := c.toNat / 262144) (by omega)]
        simp [groups, group]

/-- The first byte of every character opens what is behind it. -/
theorem encode_opens (c : Char) : Opens c (firstByte c.toNat) (laterBytes c.toNat) := by
  rw [firstByte, laterBytes]
  split
  · exact opens_one (by omega)
  · split
    · exact opens_two (by omega) (by omega)
    · split
      · exact opens_three (by omega) (by omega)
      · exact opens_four (by omega)

/-! ## Whole texts -/

/-- A character is read back, whatever comes behind it. -/
theorem units_encodeChar_append (c : Char) (bs : List UInt8) :
    units (String.utf8EncodeChar c ++ bs) = some c :: units bs := by
  have hopens := encode_opens c
  rw [encodeChar_eq, List.cons_append, units, unitsFrom, stepUnit, startUnit]
  generalize laterBytes c.toNat = rest at hopens
  cases hopens with
  | char h => simp [h, units]
  | sequence h hp => simp [h, hp.unitsFrom_groups bs, Char.ofNat_toNat]

/-- **What is encoded is read back.** -/
theorem units_encode (t : Text) : units (encode t) = t.map some := by
  induction t with
  | nil => rfl
  | cons c t ih => rw [encode, List.flatMap_cons, units_encodeChar_append, ← encode, ih, List.map_cons]

/-- Decoding undoes encoding. -/
theorem decodeLossy_encode (t : Text) : decodeLossy (encode t) = t := by
  rw [decodeLossy, units_encode, List.map_map]
  exact List.map_id t

end TomeSql.Text
