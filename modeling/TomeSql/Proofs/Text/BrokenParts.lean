/-
  Broken parts: the bytes that decoding gives up at once, because no character begins with more of them.

  1. **Broken parts (`BrokenPart`)** — where the bytes of no character stand, the longest piece that
     the bytes of some character begin with, or a single byte if there is no such piece.  It ends where
     it cannot go on, so there is one at most (`BrokenPart.unique`).

  2. **The crux (`Stands`)** — inside a sequence the decoder awaits numbers, and these are the ones of the
     characters whose bytes begin with what was read.  So it lets a byte through exactly when the bytes
     of some character go on with it (`Stands.begins_concat_iff`), and what it gives up is a broken part
     (`Stands.brokenPart`).

  3. **Steps** — this holds behind the first byte of a sequence (`stands_of_opening`), since the range of
     the second byte leaves out just the numbers that are none of a character of so many bytes.  Each
     byte that is let through keeps it (`Stands.step`), and the last one completes a character.
-/
import TomeSql.Proofs.Text.Utf8

namespace TomeSql.Text

/-! ## Broken parts -/

/-- The bytes of some character begin with these. -/
def Begins (bs : List UInt8) : Prop := ∃ c, bs <+: String.utf8EncodeChar c

/-- `part` is what is replaced at the front of bytes that go on with `rest`. -/
structure BrokenPart (part rest : List UInt8) : Prop where
  ne_nil : part ≠ []
  /-- The bytes of no character stand there. -/
  not_char : ∀ c, ¬ String.utf8EncodeChar c <+: part ++ rest
  /-- The bytes of some character begin with it, or it is a single byte. -/
  begins_or_single : Begins part ∨ ∃ b, part = [b]
  /-- With the next byte it begins those of none. -/
  maximal : ∀ b ∈ rest.head?, ¬ Begins (part ++ [b])

/-- What begins a character does so when it is cut short. -/
theorem Begins.shorten {as bs : List UInt8} (h : Begins bs) (hpre : as <+: bs) : Begins as := by
  obtain ⟨c, hc⟩ := h
  exact ⟨c, hpre.trans hc⟩

/-- The bytes of a character tell where they end. -/
theorem encodeChar_append_inj {c d : Char} {r s : List UInt8}
    (h : String.utf8EncodeChar c ++ r = String.utf8EncodeChar d ++ s) : c = d ∧ r = s := by
  have hunits := congrArg units h
  rw [units_encodeChar_append, units_encodeChar_append] at hunits
  cases (List.cons.inj hunits).1
  exact ⟨rfl, List.append_cancel_left h⟩

/-- The bytes of a character do not begin with those of another. -/
theorem eq_of_prefix_encodeChar {c d : Char}
    (h : String.utf8EncodeChar c <+: String.utf8EncodeChar d) : c = d := by
  obtain ⟨r, hr⟩ := h
  rw [← List.append_nil (String.utf8EncodeChar d)] at hr
  exact (encodeChar_append_inj hr).1

/-- A broken part does not go on with more of another one. -/
theorem BrokenPart.eq_nil_of_append {part more rest : List UInt8} (h : BrokenPart part (more ++ rest))
    (hlonger : BrokenPart (part ++ more) rest) : more = [] := by
  cases more with
  | nil => rfl
  | cons b more =>
    have hstop : ¬ Begins (part ++ [b]) := h.maximal b rfl
    rcases hlonger.begins_or_single with hbegins | ⟨d, hd⟩
    · refine absurd (hbegins.shorten ⟨more, ?_⟩) hstop
      simp
    · rcases List.append_eq_singleton_iff.mp hd with ⟨hnil, -⟩ | ⟨-, hnil⟩
      · exact absurd hnil h.ne_nil
      · cases hnil

/-- The broken part at the front of some bytes is determined. -/
theorem BrokenPart.unique {part part' rest rest' : List UInt8} (h : BrokenPart part rest)
    (h' : BrokenPart part' rest') (heq : part ++ rest = part' ++ rest') :
    part = part' ∧ rest = rest' := by
  rcases List.append_eq_append_iff.mp heq with ⟨more, rfl, rfl⟩ | ⟨more, rfl, rfl⟩
  · rw [h.eq_nil_of_append h']
    simp
  · rw [h'.eq_nil_of_append h]
    simp

/-! ## Where the decoder stands -/

/-- Behind the bytes `read` the decoder awaits the characters whose bytes begin with them. -/
structure Stands (read : List UInt8) (p : Unfinished) : Prop where
  ne_nil : read ≠ []
  least_le_greatest : p.least ≤ p.greatest
  greatest_le : p.greatest ≤ 0xBF
  awaits : ∀ c, read <+: String.utf8EncodeChar c → Awaits p c.toNat
  encodeChar_eq : ∀ v, Awaits p v →
    ∃ c : Char, c.toNat = v ∧ String.utf8EncodeChar c = read ++ groups v p.missing

theorem exists_groups_eq_cons (v n : Nat) : ∃ later, groups v n = group v n :: later := by
  cases n with
  | zero => exact ⟨[], rfl⟩
  | succ n => exact ⟨groups v n, rfl⟩

namespace Stands

variable {read rest : List UInt8} {p : Unfinished} {b : UInt8}

/-- A byte that is let through comes next in every number that goes on with it. -/
theorem awaits_of_bits (h : Stands read p) (hb : p.least ≤ b ∧ b ≤ p.greatest) {v : Nat}
    (hv : v / 64 ^ p.missing = p.bits * 64 + (b.toNat - 0x80)) :
    Awaits p v ∧ group v p.missing = b := by
  have hle : b.toNat ≤ 0xBF := UInt8.le_iff_toNat_le.mp (UInt8.le_trans hb.2 h.greatest_le)
  have hge : 0x80 ≤ b.toNat := UInt8.le_iff_toNat_le.mp (UInt8.le_trans p.least_ge hb.1)
  have hbits : p.bits = v / 64 ^ (p.missing + 1) := by
    rw [Nat.pow_succ, ← Nat.div_div_eq_div_mul, hv]
    omega
  have hgroup : v / 64 ^ p.missing % 64 + 128 = b.toNat := by
    rw [hv]
    omega
  refine ⟨⟨hbits, ?_, ?_⟩, ?_⟩
  · rw [hgroup]
    exact hb.1
  · rw [hgroup]
    exact hb.2
  · rw [← UInt8.toNat_inj, group_toNat, hgroup]

/-- A character whose bytes begin with what was read goes on with a group of its number. -/
theorem concat_group_prefix (h : Stands read p) {c : Char} (hc : read <+: String.utf8EncodeChar c) :
    read ++ [group c.toNat p.missing] <+: String.utf8EncodeChar c := by
  obtain ⟨d, hd, hbytes⟩ := h.encodeChar_eq _ (h.awaits c hc)
  obtain ⟨later, hlater⟩ := exists_groups_eq_cons c.toNat p.missing
  rw [Char.toNat_inj] at hd
  rw [hd] at hbytes
  exact ⟨later, by rw [hbytes, hlater, List.append_assoc, List.singleton_append]⟩

theorem eq_group (h : Stands read p) {c : Char} (hc : read ++ [b] <+: String.utf8EncodeChar c) :
    b = group c.toNat p.missing := by
  have hgroup := h.concat_group_prefix ((List.prefix_append read [b]).trans hc)
  have heq := (List.prefix_of_prefix_length_le hc hgroup (by simp)).eq_of_length (by simp)
  simpa using heq

/-- The decoder lets a byte through exactly when the bytes of some character go on with it. -/
theorem begins_concat_iff (h : Stands read p) :
    Begins (read ++ [b]) ↔ p.least ≤ b ∧ b ≤ p.greatest := by
  constructor
  · rintro ⟨c, hc⟩
    rw [h.eq_group hc]
    exact (h.awaits c ((List.prefix_append read [b]).trans hc)).inRange
  · intro hb
    -- the number with nothing but zeros behind this byte
    have hzeros : (p.bits * 64 + (b.toNat - 0x80)) * 64 ^ p.missing / 64 ^ p.missing =
        p.bits * 64 + (b.toNat - 0x80) := Nat.mul_div_cancel _ (Nat.pow_pos (by decide))
    obtain ⟨hawaits, hgroup⟩ := h.awaits_of_bits hb hzeros
    obtain ⟨c, hc, hbytes⟩ := h.encodeChar_eq _ hawaits
    have hnext := h.concat_group_prefix ⟨_, hbytes.symm⟩
    rw [hc, hgroup] at hnext
    exact ⟨c, hnext⟩

theorem begins (h : Stands read p) : Begins read := by
  have hleast : p.least ≤ p.least ∧ p.least ≤ p.greatest := ⟨UInt8.le_refl _, h.least_le_greatest⟩
  exact (h.begins_concat_iff.mpr hleast).shorten (List.prefix_append read [p.least])

/-- What was read is a broken part when the next byte is not let through. -/
theorem brokenPart (h : Stands read p) (hrest : ∀ b ∈ rest.head?, ¬ (p.least ≤ b ∧ b ≤ p.greatest)) :
    BrokenPart read rest where
  ne_nil := h.ne_nil
  begins_or_single := Or.inl h.begins
  maximal b hb := fun hbegins => hrest b hb (h.begins_concat_iff.mp hbegins)
  not_char c hc := by
    have hread : read <+: String.utf8EncodeChar c := by
      rcases List.prefix_or_prefix_of_prefix (List.prefix_append read rest) hc with hread | hshort
      · exact hread
      · obtain ⟨d, hd⟩ := h.begins
        rwa [eq_of_prefix_encodeChar (hshort.trans hd)]
    have hfront := (List.prefix_append_right_inj read).mp ((h.concat_group_prefix hread).trans hc)
    rw [List.singleton_prefix_iff_head?_eq_some] at hfront
    exact hrest _ hfront (h.awaits c hread).inRange

/-- A byte that is let through moves the decoder on, while more are missing. -/
theorem step {n : Nat} (h : Stands read p) (hb : p.least ≤ b ∧ b ≤ p.greatest)
    (hmissing : p.missing = n + 1) :
    Stands (read ++ [b]) ⟨p.bits * 64 + (b.toNat - 0x80), n, 0x80, 0xBF, by decide⟩ where
  ne_nil := by simp
  least_le_greatest := show (0x80 : UInt8) ≤ 0xBF by decide
  greatest_le := UInt8.le_refl 0xBF
  awaits c hc := by
    have hbits := (h.awaits c ((List.prefix_append read [b]).trans hc)).bits_step
    rw [← h.eq_group hc, hmissing] at hbits
    rw [hbits]
    exact Awaits.of_bits c.toNat n
  encodeChar_eq v hv := by
    have hbits : v / 64 ^ p.missing = p.bits * 64 + (b.toNat - 0x80) := by
      rw [hmissing]
      exact hv.bits_eq.symm
    obtain ⟨hawaits, hgroup⟩ := h.awaits_of_bits hb hbits
    obtain ⟨c, hc, hbytes⟩ := h.encodeChar_eq v hawaits
    rw [hmissing] at hbytes hgroup
    refine ⟨c, hc, ?_⟩
    rw [hbytes, groups, hgroup, List.append_assoc, List.singleton_append]

/-- The last byte completes a character. -/
theorem completes (h : Stands read p) (hb : p.least ≤ b ∧ b ≤ p.greatest) (hmissing : p.missing = 0) :
    String.utf8EncodeChar (Char.ofNat (p.bits * 64 + (b.toNat - 0x80))) = read ++ [b] := by
  have hv : (p.bits * 64 + (b.toNat - 0x80)) / 64 ^ p.missing = p.bits * 64 + (b.toNat - 0x80) := by
    rw [hmissing, Nat.pow_zero, Nat.div_one]
  obtain ⟨hawaits, hgroup⟩ := h.awaits_of_bits hb hv
  obtain ⟨c, hc, hbytes⟩ := h.encodeChar_eq _ hawaits
  rw [hmissing] at hbytes hgroup
  rw [← hc, Char.ofNat_toNat, hbytes, groups, hgroup]

end Stands

/-! ## The first byte -/

/-- A number that is no surrogate and not too large is that of a character. -/
theorem exists_encodeChar_eq {v n : Nat} {b : UInt8}
    (hranges : v < 0xD800 ∨ 0xDFFF < v ∧ v < 0x110000) (hfirst : (firstByte v).toNat = b.toNat)
    (hlater : laterBytes v = groups v n) :
    ∃ c : Char, c.toNat = v ∧ String.utf8EncodeChar c = [b] ++ groups v n := by
  have hnumber : (Char.ofNatAux v hranges).toNat = v := rfl
  rw [UInt8.toNat_inj] at hfirst
  exact ⟨Char.ofNatAux v hranges, hnumber, by rw [encodeChar_eq, hnumber, hfirst, hlater]; rfl⟩

/-- The bits behind a first byte of two make a character. -/
theorem exists_encodeChar_eq_two {v : Nat} {b : UInt8} (hlow : 0xC2 ≤ b.toNat) (hhigh : b.toNat < 0xE0)
    (hv : b.toNat - 0xC0 = v / 64) :
    ∃ c : Char, c.toNat = v ∧ String.utf8EncodeChar c = [b] ++ groups v 0 := by
  rcases firstByte_cases (v := v) (by omega) with hone | ⟨-, -, hfirst, hlater⟩ | hthree | hfour
  · omega
  · exact exists_encodeChar_eq (by omega) (by omega) hlater
  · omega
  · omega

/-- So do those behind a first byte of three, unless the number is too small or a surrogate's. -/
theorem exists_encodeChar_eq_three {v : Nat} {b : UInt8} (hlow : 0xE0 ≤ b.toNat) (hhigh : b.toNat < 0xF0)
    (hv : b.toNat - 0xE0 = v / 4096) (hlong : 0x800 ≤ v) (hranges : v < 0xD800 ∨ 0xDFFF < v) :
    ∃ c : Char, c.toNat = v ∧ String.utf8EncodeChar c = [b] ++ groups v 1 := by
  rcases firstByte_cases (v := v) (by omega) with hone | htwo | ⟨-, -, hfirst, hlater⟩ | hfour
  · omega
  · omega
  · exact exists_encodeChar_eq (by omega) (by omega) hlater
  · omega

/-- So do those behind a first byte of four, unless the number is too small or too large. -/
theorem exists_encodeChar_eq_four {v : Nat} {b : UInt8} (hlow : 0xF0 ≤ b.toNat)
    (hv : b.toNat - 0xF0 = v / 262144) (hlong : 0x10000 ≤ v) (hshort : v < 0x110000) :
    ∃ c : Char, c.toNat = v ∧ String.utf8EncodeChar c = [b] ++ groups v 2 := by
  rcases firstByte_cases hshort with hone | htwo | hthree | ⟨-, hfirst, hlater⟩
  · omega
  · omega
  · omega
  · exact exists_encodeChar_eq (by omega) (by omega) hlater

/-- The first bytes of sequences, each with what the decoder knows behind it. -/
inductive FirstOf (b : UInt8) : Unfinished → Prop
  | two (hlow : 0xC2 ≤ b.toNat) (hhigh : b.toNat < 0xE0) :
    FirstOf b ⟨b.toNat - 0xC0, 0, 0x80, 0xBF, by decide⟩
  | threeLeast (hb : b.toNat = 0xE0) : FirstOf b ⟨0, 1, 0xA0, 0xBF, by decide⟩
  | threeSurrogate (hb : b.toNat = 0xED) : FirstOf b ⟨0xD, 1, 0x80, 0x9F, by decide⟩
  | three (hlow : 0xE0 < b.toNat) (hne : b.toNat ≠ 0xED) (hhigh : b.toNat < 0xF0) :
    FirstOf b ⟨b.toNat - 0xE0, 1, 0x80, 0xBF, by decide⟩
  | fourLeast (hb : b.toNat = 0xF0) : FirstOf b ⟨0, 2, 0x90, 0xBF, by decide⟩
  | four (hlow : 0xF0 < b.toNat) (hhigh : b.toNat < 0xF4) :
    FirstOf b ⟨b.toNat - 0xF0, 2, 0x80, 0xBF, by decide⟩
  | fourGreatest (hb : b.toNat = 0xF4) : FirstOf b ⟨4, 2, 0x80, 0x8F, by decide⟩

/-- A byte that opens a sequence is the first one of some characters. -/
theorem firstOf_of_opening {b : UInt8} {p : Unfinished} (h : opening b = .sequence p) : FirstOf b p := by
  have hopening := opening_ofNat (UInt8.toNat_lt b)
  rw [UInt8.ofNat_toNat, h] at hopening
  repeat' split at hopening
  all_goals simp only [Opening.sequence.injEq, reduceCtorEq] at hopening
  all_goals subst hopening
  · exact .two (by omega) (by omega)
  · exact .threeLeast (by omega)
  · exact .threeSurrogate (by omega)
  · exact .three (by omega) (by omega) (by omega)
  · exact .fourLeast (by omega)
  · exact .four (by omega) (by omega)
  · exact .fourGreatest (by omega)

/-- The range of the second byte is not empty, and it ends where the later bytes of characters do. -/
theorem FirstOf.ranges {b : UInt8} {p : Unfinished} (h : FirstOf b p) :
    p.least ≤ p.greatest ∧ p.greatest ≤ 0xBF := by
  rw [UInt8.le_iff_toNat_le, UInt8.le_iff_toNat_le]
  cases h <;> simp

/-- The range of the second byte leaves out just the numbers that need fewer bytes, the surrogates, and
the numbers that are too large. -/
theorem FirstOf.encodeChar_eq {b : UInt8} {p : Unfinished} (h : FirstOf b p) {v : Nat}
    (hv : Awaits p v) :
    ∃ c : Char, c.toNat = v ∧ String.utf8EncodeChar c = [b] ++ groups v p.missing := by
  obtain ⟨hbits, hleast, hgreatest⟩ := hv
  cases h
  all_goals simp at hbits hleast hgreatest
  case two hlow hhigh => exact exists_encodeChar_eq_two hlow hhigh hbits
  case threeLeast hb =>
    exact exists_encodeChar_eq_three (by omega) (by omega) (by omega) (by omega) (by omega)
  case threeSurrogate hb =>
    exact exists_encodeChar_eq_three (by omega) (by omega) (by omega) (by omega) (by omega)
  case three hlow hne hhigh =>
    exact exists_encodeChar_eq_three (by omega) (by omega) (by omega) (by omega) (by omega)
  case fourLeast hb => exact exists_encodeChar_eq_four (by omega) (by omega) (by omega) (by omega)
  case four hlow hhigh => exact exists_encodeChar_eq_four (by omega) (by omega) (by omega) (by omega)
  case fourGreatest hb => exact exists_encodeChar_eq_four (by omega) (by omega) (by omega) (by omega)

/-- The first byte of a character is one, or opens the sequence of it. -/
theorem opening_of_prefix {b : UInt8} {c : Char} {bs : List UInt8}
    (h : [b] <+: String.utf8EncodeChar c ++ bs) :
    opening b = .char c ∨ ∃ p, opening b = .sequence p ∧ Awaits p c.toNat := by
  rw [encodeChar_eq, List.cons_append, List.cons_prefix_cons] at h
  have hopens := encode_opens c
  rw [← h.1] at hopens
  generalize laterBytes c.toNat = later at hopens
  cases hopens with
  | char hopening => exact Or.inl hopening
  | sequence hopening hp => exact Or.inr ⟨_, hopening, hp⟩

/-- After the first byte the decoder stands inside the characters that begin with it. -/
theorem stands_of_opening {b : UInt8} {p : Unfinished} (h : opening b = .sequence p) :
    Stands [b] p where
  ne_nil := List.cons_ne_nil b []
  least_le_greatest := (firstOf_of_opening h).ranges.1
  greatest_le := (firstOf_of_opening h).ranges.2
  encodeChar_eq v := (firstOf_of_opening h).encodeChar_eq
  awaits c hc := by
    rw [← List.append_nil (String.utf8EncodeChar c)] at hc
    rcases opening_of_prefix hc with hchar | ⟨q, hq, hawaits⟩
    · rw [h] at hchar
      cases hchar
    · rw [h] at hq
      cases hq
      exact hawaits

/-- A byte that opens nothing is a broken part by itself. -/
theorem brokenPart_of_opening {b : UInt8} (h : opening b = .broken) (rest : List UInt8) :
    BrokenPart [b] rest := by
  have hnone : ∀ c bs, ¬ [b] <+: String.utf8EncodeChar c ++ bs := by
    intro c bs hc
    rcases opening_of_prefix hc with hchar | ⟨q, hq, -⟩
    · rw [h] at hchar
      cases hchar
    · rw [h] at hq
      cases hq
  refine ⟨List.cons_ne_nil b [], ?_, Or.inr ⟨b, rfl⟩, ?_⟩
  · rintro c ⟨bs, hbs⟩
    refine hnone c bs ?_
    rw [hbs]
    exact List.prefix_append [b] rest
  · rintro d - ⟨c, hc⟩
    refine hnone c [] ?_
    rw [List.append_nil]
    exact (List.prefix_append [b] [d]).trans hc

/-- A byte that is a character is all of its bytes. -/
theorem encodeChar_of_opening {b : UInt8} {c : Char} (h : opening b = .char c) :
    String.utf8EncodeChar c = [b] := by
  have hopening := opening_ofNat (UInt8.toNat_lt b)
  rw [UInt8.ofNat_toNat, h] at hopening
  repeat' split at hopening
  all_goals simp only [Opening.char.injEq, reduceCtorEq] at hopening
  rename_i hascii
  have hnumber : c.toNat = b.toNat := by
    have hvalid : b.toNat.isValidChar := Or.inl (by omega)
    rw [hopening, Char.ofNat, dif_pos hvalid]
    rfl
  rw [encodeChar_eq, hnumber, firstByte, laterBytes, if_pos hascii, if_pos hascii, UInt8.ofNat_toNat]

end TomeSql.Text
