/-
  Bytes that are no text: which of them decoding replaces, and that none of it reaches past a line feed.

  1. **Units (`HasUnits`)** — bytes taken apart into the bytes of characters and broken parts.

  2. **Main result (`hasUnits_iff`)** — there is exactly one way to do so, and it is what the decoder
     finds: one way at most, since characters and broken parts both tell where they end
     (`HasUnits.unique`), and one at least, by a run of the decoder (`hasUnits_unitsFrom`).

  3. **Line feeds (`fields_decodeLossy`)** — a line feed is a byte of its own.  So the text between two of
     them is that of the bytes between them, whatever else is broken.
-/
import TomeSql.Proofs.Text.BrokenParts
import TomeSql.Proofs.Text.Pieces

namespace TomeSql.Text

/-! ## Units -/

/-- The bytes are these units, one behind the other: the bytes of a character, or a broken part. -/
inductive HasUnits : List UInt8 → List (Option Char) → Prop
  | nil : HasUnits [] []
  | char (c : Char) {bs : List UInt8} {us : List (Option Char)} (rest : HasUnits bs us) :
    HasUnits (String.utf8EncodeChar c ++ bs) (some c :: us)
  | broken {part bs : List UInt8} {us : List (Option Char)} (isBroken : BrokenPart part bs)
    (rest : HasUnits bs us) : HasUnits (part ++ bs) (none :: us)

/-- Bytes have units in one way at most. -/
theorem HasUnits.unique {bs : List UInt8} {us vs : List (Option Char)} (h : HasUnits bs us)
    (h' : HasUnits bs vs) : us = vs := by
  induction h generalizing vs with
  | nil =>
    generalize hbs : ([] : List UInt8) = bs at h'
    cases h' with
    | nil => rfl
    | char c => simp [encodeChar_eq] at hbs
    | broken isBroken => exact absurd (List.append_eq_nil_iff.mp hbs.symm).1 isBroken.ne_nil
  | @char c bs _ _ ih =>
    generalize hbs : String.utf8EncodeChar c ++ bs = whole at h'
    cases h' with
    | nil => simp [encodeChar_eq] at hbs
    | char d rest =>
      obtain ⟨rfl, rfl⟩ := encodeChar_append_inj hbs
      rw [ih rest]
    | broken isBroken => exact absurd ⟨bs, hbs⟩ (isBroken.not_char c)
  | @broken part bs _ isBroken _ ih =>
    generalize hbs : part ++ bs = whole at h'
    cases h' with
    | nil => exact absurd (List.append_eq_nil_iff.mp hbs).1 isBroken.ne_nil
    | char d rest => exact absurd ⟨_, hbs.symm⟩ (isBroken.not_char d)
    | broken isBroken' rest =>
      obtain ⟨rfl, rfl⟩ := isBroken.unique isBroken' hbs
      rw [ih rest]

/-! ## What the decoder finds -/

/-- The units that the decoder finds, at a boundary and inside a sequence. -/
theorem hasUnits_unitsFrom (bs : List UInt8) :
    HasUnits bs (units bs) ∧
      ∀ read p, Stands read p → HasUnits (read ++ bs) (unitsFrom (some p) bs) := by
  induction bs with
  | nil =>
    refine ⟨.nil, fun read p h => ?_⟩
    exact .broken (h.brokenPart (by simp)) .nil
  | cons b bs ih =>
    obtain ⟨hboundary, hinside⟩ := ih
    have hstart : HasUnits (b :: bs) (units (b :: bs)) := by
      rw [units, unitsFrom, stepUnit, startUnit]
      cases hopening : opening b with
      | char c =>
        rw [← List.singleton_append, ← encodeChar_of_opening hopening]
        exact .char c hboundary
      | sequence p => exact hinside [b] p (stands_of_opening hopening)
      | broken => exact .broken (brokenPart_of_opening hopening bs) hboundary
    refine ⟨hstart, fun read p h => ?_⟩
    rw [unitsFrom, stepUnit]
    split
    · rename_i hb
      rw [List.append_cons]
      split
      · rename_i hmissing
        rw [← h.completes hb hmissing]
        exact .char _ hboundary
      · rename_i n hmissing
        exact hinside _ _ (h.step hb hmissing)
    · rename_i hb
      exact .broken (h.brokenPart (by simpa using hb)) hstart

/-- **The units of bytes are what the decoder finds.** -/
theorem hasUnits_iff {bs : List UInt8} {us : List (Option Char)} : HasUnits bs us ↔ us = units bs := by
  have hunits := (hasUnits_unitsFrom bs).1
  constructor
  · intro h
    exact h.unique hunits
  · rintro rfl
    exact hunits

/-! ## Line feeds -/

/-- The bytes of a character that is found are among those that were read. -/
theorem HasUnits.mem_of_mem {bs : List UInt8} {us : List (Option Char)} (h : HasUnits bs us) {c : Char}
    (hc : some c ∈ us) {b : UInt8} (hb : b ∈ String.utf8EncodeChar c) : b ∈ bs := by
  induction h with
  | nil => cases hc
  | char d _ ih =>
    rw [List.mem_append]
    rcases List.mem_cons.mp hc with hd | hc
    · cases hd
      exact Or.inl hb
    · exact Or.inr (ih hc)
  | broken _ _ ih =>
    rcases List.mem_cons.mp hc with hnone | hc
    · cases hnone
    · exact List.mem_append_right _ (ih hc)

/-- Decoding brings no line feed that was not there. -/
theorem newline_not_mem_decodeLossy {bs : List UInt8} (h : 0x0A ∉ bs) : '\n' ∉ decodeLossy bs := by
  intro hmem
  obtain ⟨u, hu, hnewline⟩ := List.mem_map.mp hmem
  cases u with
  | none => exact absurd hnewline (by decide)
  | some c =>
    have hc : c = '\n' := hnewline
    rw [hc] at hu
    exact h ((hasUnits_unitsFrom bs).1.mem_of_mem hu (by decide))

/-- Decoding falls apart at a line feed. -/
theorem decodeLossy_append_newline (as bs : List UInt8) :
    decodeLossy (as ++ 0x0A :: bs) = decodeLossy as ++ '\n' :: decodeLossy bs :=
  decodeLossy_append_ascii as (by decide) bs

/-- **Between line feeds.**  The text between two line feeds is that of the bytes between them. -/
theorem fields_decodeLossy (bs : List UInt8) :
    fields '\n' (decodeLossy bs) = (bs.splitOn 0x0A).map decodeLossy := by
  by_cases hmem : 0x0A ∈ bs
  · obtain ⟨line, rest, rfl, hline⟩ := List.eq_append_cons_of_mem hmem
    have hsplit : (line ++ 0x0A :: rest).splitOn 0x0A = line :: rest.splitOn 0x0A := by
      rw [List.splitOn, List.splitOnP_append_cons _ _ (by decide), ← List.splitOn, ← List.splitOn,
        List.splitOn_eq_singleton hline, List.singleton_append]
    rw [decodeLossy_append_newline, fields_append_sep (newline_not_mem_decodeLossy hline),
      fields_decodeLossy rest, hsplit, List.map_cons]
  · rw [fields_of_not_mem (newline_not_mem_decodeLossy hmem), List.splitOn_eq_singleton hmem,
      List.map_singleton]
termination_by bs.length

end TomeSql.Text
