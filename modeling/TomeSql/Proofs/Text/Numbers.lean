/-
  Decimal numbers: what is written is read back.

  1. **Digits** — reading digits gives their value, if the value is in the range
     (`readDigits_eq_ok`): the value so far only grows, so that no earlier digit can leave the range.

  2. **Numbers** — so every number of a range is read back from the digits that it is written with
     (`read_ofInt`), and two numbers that are written the same are the same.

  3. **Characters** — a number is written with digits and perhaps a minus sign in front, so that it
     ends where the first other character stands.
-/
import TomeSql.Proofs.Text.Basic

namespace TomeSql.Decimal

/-! ## Digits -/

theorem digit?_of_isDigit {c : Char} (h : c.isDigit = true) : digit? c = some (c.toNat - 48) :=
  if_pos h

theorem le_ofDigitChars (t : Text) (n : Nat) : n ≤ Nat.ofDigitChars 10 t n := by
  induction t generalizing n with
  | nil => exact Nat.le_refl n
  | cons c t ih =>
    rw [Nat.ofDigitChars_cons]
    exact Nat.le_trans (by omega) (ih _)

/-- Digits are read as the number that they write, within the bound. -/
theorem readDigits_eq_ok {bound : Nat} {beyond : Fault} {t : Text} {n : Nat}
    (hdigits : ∀ c ∈ t, c.isDigit = true) (hbound : Nat.ofDigitChars 10 t n ≤ bound) :
    readDigits bound beyond n t = .ok (Nat.ofDigitChars 10 t n) := by
  induction t generalizing n with
  | nil => rfl
  | cons c t ih =>
    rw [Nat.ofDigitChars_cons] at hbound ⊢
    have hstep : 10 * n + (c.toNat - 48) ≤ bound := Nat.le_trans (le_ofDigitChars t _) hbound
    rw [readDigits, digit?_of_isDigit (hdigits c List.mem_cons_self)]
    simp only [if_pos hstep]
    exact ih (fun d hd => hdigits d (List.mem_cons_of_mem c hd)) hbound

/-! ## Numbers -/

/-- The first character of a natural number is a digit. -/
theorem exists_ofNat_eq_cons (n : Nat) : ∃ c t, ofNat n = c :: t ∧ c.isDigit = true := by
  cases hd : ofNat n with
  | nil => exact absurd hd (ofNat_ne_nil n)
  | cons c t => exact ⟨c, t, rfl, isDigit_of_mem_ofNat (hd ▸ List.mem_cons_self)⟩

/-- A number is read back from its digits, within the bound. -/
theorem readMagnitude_ofNat {bound n : Nat} {beyond : Fault} (h : n ≤ bound) :
    readMagnitude bound beyond (ofNat n) = .ok n := by
  have hvalue : Nat.ofDigitChars 10 (ofNat n) 0 = n := Nat.ofDigitChars_ten_toDigits
  have hread : readDigits bound beyond 0 (ofNat n) = .ok n := by
    rw [readDigits_eq_ok (fun c hc => isDigit_of_mem_ofNat hc) (by rwa [hvalue]), hvalue]
  obtain ⟨c, t, hct, -⟩ := exists_ofNat_eq_cons n
  rw [hct] at hread ⊢
  exact hread

theorem read_ofNat {lo hi : Int} {n : Nat} (h : (n : Int) ≤ hi) : read lo hi (ofNat n) = .ok n := by
  have hmag : readMagnitude hi.toNat .tooLarge (ofNat n) = .ok n := readMagnitude_ofNat (by omega)
  obtain ⟨c, t, hct, hc⟩ := exists_ofNat_eq_cons n
  have hplus : c ≠ '+' := by
    rintro rfl
    exact absurd hc (by decide)
  have hminus : c ≠ '-' := by
    rintro rfl
    exact absurd hc (by decide)
  rw [hct] at hmag ⊢
  rw [read]
  · rw [hmag]
    rfl
  · simp
  · simp [hplus]
  · simp [hminus]

/-- Every number of a range is read back. -/
theorem read_ofInt {lo hi n : Int} (hlo : lo ≤ n) (hhi : n ≤ hi) : read lo hi (ofInt n) = .ok n := by
  cases n with
  | ofNat n => exact read_ofNat hhi
  | negSucc n =>
    have hmag : readMagnitude (-lo).toNat .tooSmall (ofNat (n + 1)) = .ok (n + 1) :=
      readMagnitude_ofNat (by omega)
    rw [ofInt, read, if_pos (by omega), hmag]
    rfl

/-- A number of the unsigned range is read back. -/
theorem readUInt32_ofNat (n : UInt32) : readUInt32 (ofNat n.toNat) = .ok n := by
  have hmax := n.toNat_lt
  rw [readUInt32, read_ofNat (by omega)]
  simp [Except.map]

/-- A number of the signed range is read back. -/
theorem readInt32_ofInt (n : Int32) : readInt32 (ofInt n.toInt) = .ok n := by
  have hmin := n.le_toInt
  have hmax := n.toInt_lt
  rw [readInt32, read_ofInt (by omega) (by omega)]
  simp [Except.map]

/-- Different numbers are written differently. -/
theorem ofNat_toNat_injective {m n : UInt32} (h : ofNat m.toNat = ofNat n.toNat) : m = n :=
  Except.ok.inj ((readUInt32_ofNat m).symm.trans (h ▸ readUInt32_ofNat n))

/-! ## Characters -/

/-- A numeral is made of digits only. -/
theorem not_mem_ofNat {c : Char} (h : c.isDigit = false) (n : Nat) : c ∉ ofNat n := by
  intro hmem
  rw [isDigit_of_mem_ofNat hmem] at h
  cases h

theorem not_mem_padded {c : Char} (h : c.isDigit = false) (width n : Nat) : c ∉ padded width n := by
  rw [padded, List.mem_append, not_or]
  refine ⟨?_, not_mem_ofNat h n⟩
  intro hzero
  rw [(List.mem_replicate.mp hzero).2] at h
  revert h
  decide

theorem isDigit_or_minus_of_mem_ofInt {c : Char} {n : Int} (h : c ∈ ofInt n) :
    c.isDigit = true ∨ c = '-' := by
  cases n with
  | ofNat n => exact Or.inl (isDigit_of_mem_ofNat h)
  | negSucc n =>
    rcases List.mem_cons.mp h with rfl | h
    · exact Or.inr rfl
    · exact Or.inl (isDigit_of_mem_ofNat h)

theorem not_mem_ofInt {c : Char} (h : c.isDigit = false) (hminus : c ≠ '-') (n : Int) :
    c ∉ ofInt n := by
  intro hmem
  rcases isDigit_or_minus_of_mem_ofInt hmem with hdigit | hc
  · rw [hdigit] at h
    cases h
  · exact hminus hc

/-- The first character of an integer is a minus sign or a digit. -/
theorem exists_ofInt_eq_cons (n : Int) :
    ∃ c t, ofInt n = c :: t ∧ (c = '-' ∨ c.isDigit = true) := by
  cases n with
  | ofNat n =>
    obtain ⟨c, t, hct, hc⟩ := exists_ofNat_eq_cons n
    exact ⟨c, t, hct, Or.inr hc⟩
  | negSucc n => exact ⟨'-', ofNat (n + 1), rfl, Or.inl rfl⟩

end TomeSql.Decimal
