/-
  Numerals: the texts that are read as numbers.

  1. **Numerals** — an optional sign with one ASCII digit or more behind it.  The digits may begin
     with zeros, and a minus sign needs a range with negative numbers, even in front of zero.

  2. **Digits** — reading goes from the left and stops at the first digit that leaves the range.  As
     the value so far only grows, a value in the range has stayed in it at every digit, so that
     nothing is lost by stopping early (`readDigits_eq_ok_iff`).

  3. **Main result (`read_eq_ok_iff`)** — a text is read as a number exactly when it is a numeral of
     that number and the number lies in the range.
-/
import TomeSql.Proofs.Fallible
import TomeSql.Proofs.Text.Numbers

namespace TomeSql.Decimal

/-! ## Numerals -/

/-- One ASCII digit or more. -/
def IsDigits (t : Text) : Prop := t ≠ [] ∧ ∀ c ∈ t, c.isDigit = true

/-- The number that digits stand for. -/
def valueOf (t : Text) : Nat := Nat.ofDigitChars 10 t 0

/-- The text is a numeral of the number: digits after an optional sign, which may be a minus sign
where numbers are signed. -/
inductive Numeral (signed : Bool) : Text → Int → Prop
  | bare {t : Text} (digits : IsDigits t) : Numeral signed t (valueOf t)
  | plus {t : Text} (digits : IsDigits t) : Numeral signed ('+' :: t) (valueOf t)
  | minus {t : Text} (negative : signed = true) (digits : IsDigits t) :
      Numeral signed ('-' :: t) (-(valueOf t : Int))

theorem isDigits_cons_iff {c : Char} {t : Text} :
    IsDigits (c :: t) ↔ c.isDigit = true ∧ ∀ d ∈ t, d.isDigit = true := by
  simp [IsDigits]

/-- Digits begin with no sign. -/
theorem not_isDigits_cons {c : Char} (h : c.isDigit = false) (t : Text) : ¬ IsDigits (c :: t) := by
  rw [isDigits_cons_iff, h]
  simp

theorem not_numeral_nil {signed : Bool} {n : Int} : ¬ Numeral signed [] n := by
  rintro ⟨⟨hne, -⟩⟩
  exact hne rfl

/-- A plus sign may stand before any numeral. -/
theorem numeral_plus_iff {signed : Bool} {t : Text} {n : Int} :
    Numeral signed ('+' :: t) n ↔ IsDigits t ∧ (valueOf t : Int) = n := by
  constructor
  · intro h
    cases h with
    | bare digits => exact absurd digits (not_isDigits_cons (by decide) t)
    | plus digits => exact ⟨digits, rfl⟩
  · rintro ⟨digits, rfl⟩
    exact .plus digits

/-- A minus sign may stand before a signed one. -/
theorem numeral_minus_iff {signed : Bool} {t : Text} {n : Int} :
    Numeral signed ('-' :: t) n ↔ signed = true ∧ IsDigits t ∧ -(valueOf t : Int) = n := by
  constructor
  · intro h
    cases h with
    | bare digits => exact absurd digits (not_isDigits_cons (by decide) t)
    | minus negative digits => exact ⟨negative, digits, rfl⟩
  · rintro ⟨negative, digits, rfl⟩
    exact .minus negative digits

theorem numeral_bare_iff {signed : Bool} {t : Text} {n : Int} (hplus : t.head? ≠ some '+')
    (hminus : t.head? ≠ some '-') : Numeral signed t n ↔ IsDigits t ∧ (valueOf t : Int) = n := by
  constructor
  · intro h
    cases h with
    | bare digits => exact ⟨digits, rfl⟩
    | plus => exact absurd rfl hplus
    | minus => exact absurd rfl hminus
  · rintro ⟨digits, rfl⟩
    exact .bare digits

/-! ## Digits -/

theorem isDigit_of_digit? {c : Char} {d : Nat} (h : digit? c = some d) :
    c.isDigit = true ∧ d = c.toNat - '0'.toNat := by
  rw [digit?] at h
  split at h
  · rename_i hc
    exact ⟨hc, (Option.some.inj h).symm⟩
  · cases h

/-- Reading digits succeeds exactly on digits whose number is within the bound. -/
theorem readDigits_eq_ok_iff {bound : Nat} {beyond : Fault} {t : Text} {n m : Nat} (hn : n ≤ bound) :
    readDigits bound beyond n t = .ok m ↔
      (∀ c ∈ t, c.isDigit = true) ∧ Nat.ofDigitChars 10 t n = m ∧ m ≤ bound := by
  constructor
  · intro h
    induction t generalizing n with
    | nil =>
      obtain rfl : n = m := Except.ok.inj h
      exact ⟨by simp, rfl, hn⟩
    | cons c t ih =>
      rw [readDigits] at h
      cases hd : digit? c with
      | none => simp [hd] at h
      | some d =>
        obtain ⟨hc, rfl⟩ := isDigit_of_digit? hd
        simp only [hd] at h
        split at h
        · rename_i hstep
          obtain ⟨hdigits, hvalue, hm⟩ := ih hstep h
          exact ⟨List.forall_mem_cons.mpr ⟨hc, hdigits⟩, by rw [Nat.ofDigitChars_cons, hvalue], hm⟩
        · cases h
  · rintro ⟨hdigits, rfl, hbound⟩
    exact readDigits_eq_ok hdigits hbound

/-- Reading a magnitude succeeds exactly where there is a digit, and nothing but digits. -/
theorem readMagnitude_eq_ok_iff {bound : Nat} {beyond : Fault} {t : Text} {m : Nat} :
    readMagnitude bound beyond t = .ok m ↔ IsDigits t ∧ valueOf t = m ∧ m ≤ bound := by
  cases t with
  | nil => simp [readMagnitude, IsDigits]
  | cons c t =>
    rw [readMagnitude, readDigits_eq_ok_iff (Nat.zero_le bound), IsDigits, valueOf]
    · simp
    · simp

/-! ## Numbers -/

/-- What digits without a minus sign are read as. -/
theorem map_readMagnitude_eq_ok_iff {lo hi n : Int} {t : Text} (hlo : lo ≤ 0) (hhi : 0 ≤ hi) :
    (readMagnitude hi.toNat .tooLarge t).map Int.ofNat = .ok n ↔
      (IsDigits t ∧ (valueOf t : Int) = n) ∧ lo ≤ n ∧ n ≤ hi := by
  rw [map_eq_ok_iff]
  simp only [readMagnitude_eq_ok_iff]
  constructor
  · rintro ⟨m, ⟨hdigits, rfl, hm⟩, rfl⟩
    have hcast : Int.ofNat (valueOf t) = (valueOf t : Int) := rfl
    exact ⟨⟨hdigits, rfl⟩, by omega, by omega⟩
  · rintro ⟨⟨hdigits, rfl⟩, -, hle⟩
    exact ⟨valueOf t, ⟨hdigits, rfl, by omega⟩, rfl⟩

/-- **What is read as a number.**  Exactly the numerals of the numbers of the range. -/
theorem read_eq_ok_iff {lo hi n : Int} {t : Text} (hlo : lo ≤ 0) (hhi : 0 ≤ hi) :
    read lo hi t = .ok n ↔ Numeral (lo < 0) t n ∧ lo ≤ n ∧ n ≤ hi := by
  rw [read.eq_def]
  split
  case h_1 => simp [not_numeral_nil]
  case h_2 t => rw [map_readMagnitude_eq_ok_iff hlo hhi, numeral_plus_iff]
  case h_3 t =>
    rw [numeral_minus_iff]
    split
    · rename_i hneg
      rw [map_eq_ok_iff]
      simp only [bind_eq_ok_iff, readMagnitude_eq_ok_iff]
      constructor
      · rintro ⟨_, ⟨m, ⟨hdigits, rfl, hm⟩, ⟨⟩⟩, rfl⟩
        exact ⟨⟨decide_eq_true hneg, hdigits, rfl⟩, by omega, by omega⟩
      · rintro ⟨⟨-, hdigits, rfl⟩, hge, -⟩
        exact ⟨valueOf t, ⟨valueOf t, ⟨hdigits, rfl, by omega⟩, rfl⟩, rfl⟩
    · rename_i hneg
      simp [hneg]
  case h_4 hne hplus hminus =>
    have hsign : t.head? ≠ some '+' ∧ t.head? ≠ some '-' := by
      cases t with
      | nil => simp
      | cons c t =>
        constructor
        · rintro ⟨rfl⟩
          exact hplus t rfl
        · rintro ⟨rfl⟩
          exact hminus t rfl
    rw [map_readMagnitude_eq_ok_iff hlo hhi, numeral_bare_iff hsign.1 hsign.2]

/-- An unsigned number is read exactly where a numeral of its range stands. -/
theorem exists_readUInt32_iff {t : Text} :
    (∃ n, readUInt32 t = .ok n) ↔ ∃ n, Numeral false t n ∧ 0 ≤ n ∧ n ≤ 4294967295 := by
  rw [readUInt32, exists_map_eq_ok_iff]
  exact exists_congr fun n => read_eq_ok_iff (by decide) (by decide)

/-- A signed number is read exactly where a numeral of its range stands. -/
theorem exists_readInt32_iff {t : Text} :
    (∃ n, readInt32 t = .ok n) ↔ ∃ n, Numeral true t n ∧ -2147483648 ≤ n ∧ n ≤ 2147483647 := by
  rw [readInt32, exists_map_eq_ok_iff]
  exact exists_congr fun n => read_eq_ok_iff (by decide) (by decide)

/-- The number that is read is the one that the numeral writes. -/
theorem readUInt32_eq_ok_iff {t : Text} {n : UInt32} :
    readUInt32 t = .ok n ↔ Numeral false t n.toNat := by
  rw [readUInt32, map_eq_ok_iff]
  constructor
  · rintro ⟨m, hm, rfl⟩
    obtain ⟨hnumeral, hge, hle⟩ := (read_eq_ok_iff (by decide) (by decide)).mp hm
    have hround : ((UInt32.ofNat m.toNat).toNat : Int) = m := by
      rw [UInt32.toNat_ofNat_of_lt' (by rw [UInt32.size]; omega)]
      omega
    rw [hround]
    exact hnumeral
  · intro h
    have hmax := n.toNat_lt
    exact ⟨n.toNat, (read_eq_ok_iff (by decide) (by decide)).mpr ⟨h, by omega, by omega⟩, by simp⟩

theorem readInt32_eq_ok_iff {t : Text} {n : Int32} :
    readInt32 t = .ok n ↔ Numeral true t n.toInt := by
  rw [readInt32, map_eq_ok_iff]
  constructor
  · rintro ⟨m, hm, rfl⟩
    obtain ⟨hnumeral, hge, hle⟩ := (read_eq_ok_iff (by decide) (by decide)).mp hm
    rw [Int32.toInt_ofInt_of_le (by omega) (by omega)]
    exact hnumeral
  · intro h
    have hmin := n.le_toInt
    have hmax := n.toInt_lt
    exact ⟨n.toInt, (read_eq_ok_iff (by decide) (by decide)).mpr ⟨h, by omega, by omega⟩, by simp⟩

end TomeSql.Decimal
