/-
  Texts and bytes: UTF-8.

  1. **Machine** — the decoder reads a byte at a time.  Between two bytes it either stands at a
     character boundary or waits inside a sequence (`Unfinished`), where it knows the bits so far, how
     many bytes are missing and which values the next byte may take; overlong forms, surrogates and
     numbers above U+10FFFF are cut off by that range at the second byte.

  2. **Units** — `units` gives a character for each well-formed sequence and `none` for each longest
     piece that begins like one and breaks off, or that begins none.  A byte that breaks a sequence
     off is read again from the boundary, so no damage reaches past it.

  3. `decodeLossy` writes U+FFFD for each broken piece; `decode?` refuses a text that has any.

  4. **Places** — a place in a text is the number of bytes before it.  `dropBytes` and `takeBytes` cut
     there, at the end of a character.
-/
import TomeSql.Text.Basic

namespace TomeSql.Text

/-! ## The machine -/

/-- Inside a sequence: the bits read so far, the number of bytes still missing (one more than
`missing`), and the least and greatest value that the next byte may take.  No ASCII byte may come
next. -/
structure Unfinished where
  bits : Nat
  missing : Nat
  least : UInt8
  greatest : UInt8
  least_ge : 0x80 ≤ least

/-- What a byte at a character boundary does: it is a character, opens a sequence, or is neither. -/
inductive Opening where
  | char (c : Char)
  | sequence (p : Unfinished)
  | broken

/-- Reads a byte at a character boundary. -/
def opening (b : UInt8) : Opening :=
  if b < 0x80 then .char (Char.ofNat b.toNat)
  else if b < 0xC2 then .broken
  else if b < 0xE0 then .sequence ⟨b.toNat - 0xC0, 0, 0x80, 0xBF, by decide⟩
  else if b = 0xE0 then .sequence ⟨0, 1, 0xA0, 0xBF, by decide⟩
  else if b = 0xED then .sequence ⟨0xD, 1, 0x80, 0x9F, by decide⟩
  else if b < 0xF0 then .sequence ⟨b.toNat - 0xE0, 1, 0x80, 0xBF, by decide⟩
  else if b = 0xF0 then .sequence ⟨0, 2, 0x90, 0xBF, by decide⟩
  else if b < 0xF4 then .sequence ⟨b.toNat - 0xF0, 2, 0x80, 0xBF, by decide⟩
  else if b = 0xF4 then .sequence ⟨4, 2, 0x80, 0x8F, by decide⟩
  else .broken

/-- The units that a byte at a boundary completes, and the state it leaves. -/
def startUnit (b : UInt8) : List (Option Char) × Option Unfinished :=
  match opening b with
  | .char c => ([some c], none)
  | .sequence p => ([], some p)
  | .broken => ([none], none)

/-- The units that the byte `b` completes in a state, and the state it leaves. -/
def stepUnit : Option Unfinished → UInt8 → List (Option Char) × Option Unfinished
  | none, b => startUnit b
  | some p, b =>
    if p.least ≤ b ∧ b ≤ p.greatest then
      let bits := p.bits * 64 + (b.toNat - 0x80)
      match p.missing with
      | 0 => ([some (Char.ofNat bits)], none)
      | n + 1 => ([], some ⟨bits, n, 0x80, 0xBF, by decide⟩)
    else
      let (us, s) := startUnit b
      (none :: us, s)

/-- The units of the bytes that follow a state; a sequence still open at the end is broken. -/
def unitsFrom : Option Unfinished → List UInt8 → List (Option Char)
  | none, [] => []
  | some _, [] => [none]
  | s, b :: bs => (stepUnit s b).1 ++ unitsFrom (stepUnit s b).2 bs

/-- The characters and broken pieces of a byte string. -/
def units (bs : List UInt8) : List (Option Char) := unitsFrom none bs

/-! ## Reading and writing -/

/-- The text of a byte string, with U+FFFD for each broken piece. -/
def decodeLossy (bs : List UInt8) : Text := (units bs).map (·.getD '\ufffd')

/-- The text of a byte string, if all of it is well formed. -/
def decode? (bs : List UInt8) : Option Text := (units bs).mapM id

/-- The bytes of a text. -/
def encode (t : Text) : List UInt8 := t.flatMap String.utf8EncodeChar

/-! ## Places -/

/-- How many bytes a text takes. -/
def byteCount : Text → Nat
  | [] => 0
  | c :: t => c.utf8Size + byteCount t

/-- What stands behind the first `n` bytes of a text. -/
def dropBytes : (n : Nat) → Text → Text
  | 0, t => t
  | _ + 1, [] => []
  | n + 1, c :: t => dropBytes (n + 1 - c.utf8Size) t

/-- The first `n` bytes of a text. -/
def takeBytes : (n : Nat) → Text → Text
  | 0, _ => []
  | _ + 1, [] => []
  | n + 1, c :: t => c :: takeBytes (n + 1 - c.utf8Size) t

/-! ## An ASCII byte is always a character of its own -/

/-- The units of an ASCII byte: what was open is broken off, and the byte is read as itself. -/
theorem stepUnit_ascii (s : Option Unfinished) {b : UInt8} (h : b < 0x80) :
    stepUnit s b = ((unitsFrom s []) ++ [some (Char.ofNat b.toNat)], none) := by
  have hstart : startUnit b = ([some (Char.ofNat b.toNat)], none) := by
    simp [startUnit, opening, h]
  cases s with
  | none => simp [stepUnit, unitsFrom, hstart]
  | some p =>
    have hlow : ¬ (p.least ≤ b ∧ b ≤ p.greatest) := by
      intro hb
      have hge := p.least_ge
      rw [UInt8.le_iff_toNat_le] at hge
      have hle := UInt8.le_iff_toNat_le.mp hb.1
      have hlt := UInt8.lt_iff_toNat_lt.mp h
      omega
    simp [stepUnit, hlow, unitsFrom, hstart]

/-- The decoder stands at a boundary behind every ASCII byte, whatever came before it. -/
theorem unitsFrom_append_ascii (s : Option Unfinished) (a : List UInt8) {b : UInt8} (h : b < 0x80)
    (c : List UInt8) :
    unitsFrom s (a ++ b :: c) = unitsFrom s a ++ some (Char.ofNat b.toNat) :: units c := by
  induction a generalizing s with
  | nil =>
    rw [List.nil_append, unitsFrom, stepUnit_ascii s h]
    simp [units]
  | cons d a ih =>
    rw [List.cons_append, unitsFrom, unitsFrom, ih, List.append_assoc]

/-- Lossy decoding falls apart at every ASCII byte. -/
theorem decodeLossy_append_ascii (a : List UInt8) {b : UInt8} (h : b < 0x80) (c : List UInt8) :
    decodeLossy (a ++ b :: c) = decodeLossy a ++ Char.ofNat b.toNat :: decodeLossy c := by
  simp [decodeLossy, units, unitsFrom_append_ascii none a h c]

example : decodeLossy [0x61, 0xE2, 0x82, 0x62] = "a\ufffdb".toList := by decide
example : decodeLossy [0xF0, 0x80, 0x0A] = "\ufffd\ufffd\n".toList := by decide
example : decode? [0xC3, 0xA9] = some ['é'] ∧ decode? [0xED, 0xA0, 0x80] = none := by decide
example : encode "é€😀".toList = [0xC3, 0xA9, 0xE2, 0x82, 0xAC, 0xF0, 0x9F, 0x98, 0x80] := by decide

end TomeSql.Text
