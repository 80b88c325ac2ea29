/-
  Which events of a log are shown.

  1. **Directives** — a directive sets a level.  It may name the part of the program that it is
     about, by the beginning of the part's name, and a field that an event must have.  One that
     names a span of the program, or the value of a field in a span, is about no event outside.

  2. **Choice** — of the directives that an event falls under, the most specific one decides: the
     longest part first, then the one with a field.  A later directive replaces an earlier one that is
     about the same events.  The event is shown if the directive's level reaches that far.

  3. **Texts** — directives are separated by commas: `warn`, `4`, `part`, `part=debug`,
     `part[span]=debug`, `part[{field}]=debug`.  A part without a level is shown in full.  A directive
     that cannot be read, be it for the value of a field, spoils the filter.

  4. **Blanks** — blanks at the ends of a directive are not looked at when its signs are searched
     for, but the pieces are cut out of the text with the blanks, at the places found without them.
     A place is a number of bytes.
-/
import TomeSql.Log
import TomeSql.Log.FieldTest
import TomeSql.Text.Utf8

namespace TomeSql.Log

/-! ## Directives -/

/-- A rule of a filter. -/
structure Directive where
  part : Option Text := none
  field : Option Text := none
  /-- It is about what happens inside spans, and there are none. -/
  inSpan : Bool := false
  level : Level
deriving DecidableEq

namespace Directive

/-- The event falls under the directive.  Each event has a message beside its fields. -/
def covers (d : Directive) (e : Event) : Bool :=
  !d.inSpan && d.part.all (·.isPrefixOf e.target) &&
    d.field.all fun f => f == "message".toList || e.fields.any (·.1 == f)

/-- The order of fields: no field comes before every field. -/
def fieldLe : Option Text → Option Text → Bool
  | none, _ => true
  | some _, none => false
  | some f, some g => !decide (g < f)

/-- The directive decides rather than `other`, which was given before it; both cover an event, so
parts of one length are one part. -/
def outranks (d other : Directive) : Bool :=
  let size (d : Directive) : Nat := d.part.elim 0 (·.length + 1)
  size other < size d || (size other == size d && fieldLe other.field d.field)

end Directive

/-! ## Filters -/

/-- The rules by which events are shown, in the order in which they were given. -/
structure Filter where
  directives : List Directive
deriving DecidableEq

namespace Filter

/-- The filter that shows all events up to a level. -/
def upTo (l : Level) : Filter := ⟨[{ level := l }]⟩

/-- The directive that decides on an event. -/
def deciding (f : Filter) (e : Event) : Option Directive :=
  (f.directives.filter (·.covers e)).foldl (fun best d =>
    match best with
    | none => some d
    | some other => if d.outranks other then some d else some other) none

/-- The event is shown. -/
def shows (f : Filter) (e : Event) : Bool := (f.deciding e).any fun d => e.shownAt d.level

end Filter

/-! ## Reading -/

/-- The rest of a directive, which is searched for signs.  Pieces are cut out of the directive as it
was given, between the places of the signs. -/
structure Cursor where
  look : Text
  given : Text
  /-- How many bytes of what is searched were passed. -/
  place : Nat := 0

namespace Cursor

/-- Behind the first characters, as many as `passed` has. -/
def behind (passed : Text) (c : Cursor) : Cursor :=
  { c with look := c.look.drop passed.length, place := c.place + Text.byteCount passed }

/-- Behind the next character. -/
def next (c : Cursor) : Cursor := c.behind (c.look.take 1)

/-- The directive as it was given, from the place on. -/
def rest (c : Cursor) : Text := Text.dropBytes c.place c.given

/-- The piece up to the first character that is one of the signs, and the cursor there. -/
def cut (isSign : Char → Bool) (c : Cursor) : Text × Cursor :=
  let passed := c.look.takeWhile fun ch => !isSign ch
  (Text.takeBytes (Text.byteCount passed) c.rest, c.behind passed)

end Cursor

namespace Directive

/-- The level behind an equals sign. -/
def levelBehind? (t : Text) : Option Level := if t.isEmpty then some .trace else Level.ofText? t

/-- Reads what follows the brackets: nothing, or an equals sign and a level. -/
def ofEnd? (d : Directive) (c : Cursor) : Option Directive :=
  match c.look with
  | [] => some d
  | '=' :: _ => (levelBehind? c.next.rest).map fun l => { d with level := l }
  | _ => none

/-- Reads the brackets behind a part: the name of a span, a field in braces, or both. -/
def ofBrackets? (part : Option Text) (c : Cursor) : Option Directive :=
  match c.cut fun ch => ch == ']' || ch == '\x7b' with
  | (name, c) =>
    match c.look with
    | ']' :: _ => ofEnd? { part := part, inSpan := true, level := .trace } c.next
    | '\x7b' :: _ =>
      match c.next.cut (· == '\x7d') with
      | (field, c) =>
        match c.look with
        | '\x7d' :: ']' :: _ =>
          match FieldTest.ofText? field with
          | none => none
          | some test => ofEnd?
            { part := part
              field := some test.name
              inSpan := !name.isEmpty || test.value.isSome
              level := .trace } c.next.next
        | _ => none
    | _ => none

/-- Reads a directive. -/
def ofText? (t : Text) : Option Directive :=
  match Text.trim t with
  | [] => none
  | '[' :: look => ofBrackets? none ⟨look, t, 1⟩
  | first :: look =>
    if !(Unicode.isAlphanumeric first || first == '-' || first == ':' || first == '_') then none
    else match Cursor.cut (fun ch => ch == '=' || ch == '[') ⟨first :: look, t, 0⟩ with
      | (part, c) =>
        match c.look with
        | [] =>
          match Level.ofText? t with
          | some l => some { level := l }
          | none => some { part := some t, level := .trace }
        | '=' :: _ => (levelBehind? c.next.rest).map fun l => { part := some part, level := l }
        | _ => ofBrackets? (some part) c.next

end Directive

/-- Reads a filter.  One without directives shows errors only. -/
def Filter.ofText? (t : Text) : Option Filter := do
  let ds ← ((Text.fields ',' t).filter fun d => !d.isEmpty).mapM Directive.ofText?
  return if ds.isEmpty then upTo .error else ⟨ds⟩

example : Filter.ofText? "warn,a::b=Debug,c".toList = some
    ⟨[{ level := .warn }, { part := some "a::b".toList, level := .debug },
      { part := some "c".toList, level := .trace }]⟩ := by decide +kernel
example : Filter.ofText? "a[\x7bcolumn\x7d]=4".toList = some
    ⟨[{ part := some "a".toList, field := some "column".toList, level := .debug }]⟩ := by decide +kernel
example : Filter.ofText? "a=b".toList = none ∧ Filter.ofText? "*".toList = none := by decide +kernel
example : Filter.ofText? " debug".toList =
    some ⟨[{ part := some " debug".toList, level := .trace }]⟩ := by decide +kernel

end TomeSql.Log
