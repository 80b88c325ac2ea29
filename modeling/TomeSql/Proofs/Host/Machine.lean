/-
  What the operations of a machine change.

  1. **Reading** takes away what is read of standard input, and changes nothing else (`read_snd`).

  2. **Putting** something at a place changes that place alone (`node?_put`).

  3. **Writing** follows the path to a place and to what is there (`findForWriting_eq_ok`).  Where it
     succeeds (`write_done`), a file, old or new, then holds the bytes and nothing else (`OnlyWrote`), or a
     device has them and the tree is as it was (`GaveToDevice`).

  4. **Failing** — where writing or printing fails (`write_failed`, `print_failed`), nothing changes, or
     one of the faults of the machine has let a part through (`Failed`).  So on a machine whose standard
     output and whose files here take all that they are given (`Dependable`) both are as before.
-/
import TomeSql.Host.Machine
import Mathlib.Data.List.Basic

namespace TomeSql.Machine

/-! ## Reading -/

/-- Reads a file whose path may be any text. -/
def read (m : Machine) (path : Text) : Except FileFault (List UInt8) × Machine :=
  if path.contains '\x00' then (.error .nulInPath, m) else m.readFile path

/-- Reads the file that is named, or standard input if none is. -/
def readInput (m : Machine) : (path : Option Text) → Except FileFault (List UInt8) × Machine
  | none => m.readStdin
  | some path => m.read path

theorem readStdin_snd (m : Machine) : ∃ rest, m.readStdin.2 = { m with stdin := rest } := by
  rw [readStdin]
  split <;> exact ⟨_, rfl⟩

/-- A file may be standard input under another name, so that reading it takes that away. -/
theorem readFile_snd (m : Machine) (path : Text) :
    ∃ rest, (m.readFile path).2 = { m with stdin := rest } := by
  rw [readFile]
  split
  -- of all files only the device of standard input is emptied
  case h_5 => exact readStdin_snd m
  all_goals exact ⟨_, rfl⟩

/-- Reading a file takes at most something of standard input away. -/
theorem read_snd (m : Machine) (path : Text) : ∃ rest, (m.read path).2 = { m with stdin := rest } := by
  rw [read]
  split
  · exact ⟨m.stdin, rfl⟩
  · exact readFile_snd m path

theorem readInput_snd (m : Machine) (path : Option Text) :
    ∃ rest, (m.readInput path).2 = { m with stdin := rest } := by
  cases path with
  | none => exact readStdin_snd m
  | some path => exact read_snd m path

theorem readStdin_stderr (m : Machine) (said : Text) :
    readStdin { m with stderr := said } = (m.readStdin.1, { m.readStdin.2 with stderr := said }) := by
  simp only [readStdin]
  cases m.faults.stdin <;> rfl

/-- What is read does not depend on standard error, which keeps what it holds. -/
theorem read_stderr (m : Machine) (said path : Text) :
    read { m with stderr := said } path = ((m.read path).1, { (m.read path).2 with stderr := said }) := by
  have hfind : find { m with stderr := said } path = m.find path := rfl
  rw [read, read]
  split
  · rfl
  · rw [readFile, readFile, hfind]
    split
    case h_5 => exact readStdin_stderr m said
    all_goals rfl

/-! ## Putting -/

theorem lookup_map_replace (nodes : List (Location × Node)) (l : Location) (n : Node)
    (l' : Location) :
    (nodes.map fun p => if p.1 = l then (l, n) else p).lookup l' =
      if l' = l then (nodes.lookup l).map fun _ => n else nodes.lookup l' := by
  induction nodes with
  | nil => simp
  | cons p nodes ih =>
    obtain ⟨k, v⟩ := p
    rw [List.map_cons, List.lookup_cons, List.lookup_cons]
    by_cases hk : k = l
    · subst hk
      by_cases hl : l' = k
      · simp [hl]
      · simp [hl, beq_false_of_ne hl, ih, List.lookup_cons]
    · by_cases hl : l' = l
      · subst hl
        simp [hk, beq_false_of_ne (Ne.symm hk), ih]
      · simp [hk, hl, ih, List.lookup_cons]

/-- Putting something at a place changes this place, and no other. -/
theorem node?_put (m : Machine) {l : Location} (hl : l ≠ []) (n : Node) (l' : Location) :
    (m.put l n).node? l' = if l' = l then some n else m.node? l' := by
  have hlookup : (m.put l n).nodes.lookup l' = if l' = l then some n else m.nodes.lookup l' := by
    rw [put]
    split
    · rename_i hsome
      obtain ⟨old, hold⟩ := Option.isSome_iff_exists.mp hsome
      rw [lookup_map_replace, hold, Option.map_some]
    · rename_i hnone
      have hnone : m.nodes.lookup l = none := Option.not_isSome_iff_eq_none.mp hnone
      rw [List.lookup_append]
      by_cases h : l' = l
      · simp [h, hnone]
      · simp [h, beq_false_of_ne h, List.lookup_cons]
  rw [node?, node?, hlookup]
  by_cases h : l' = l
  · simp [h, hl]
  · simp [h]

/-! ## Writing -/

/-- Writes a file whose path may be any text. -/
def write (m : Machine) (path : Text) (bytes : List UInt8) : Writing × Machine :=
  if path.contains '\x00' then (.notCreated .nulInPath, m) else m.writeFile path bytes

/-- A name that is not too long leads to the node of that name. -/
theorem entry_eq_ok {m : Machine} {directory : Location} {name : Text} {n : Option Node}
    (h : m.entry directory name = .ok n) : n = m.node? (directory ++ [name]) := by
  rw [entry] at h
  split at h
  · cases h
  · cases h
    rfl

/-- A path is followed to a place below the root where no directory is. -/
theorem findForWriting_eq_ok {m : Machine} {path : Text} {l : Location} {n : Option Node}
    (h : m.findForWriting path = .ok (l, n)) :
    l ≠ [] ∧ n = m.node? l ∧ n ≠ some .directory := by
  rw [findForWriting] at h
  cases htarget : m.target path with
  | error f => rw [htarget] at h; cases h
  | ok target =>
    rw [htarget] at h
    cases target with
    | directory => cases h
    | name directory name slash =>
      cases slash with
      | true => cases h
      | false =>
        cases hentry : m.entry directory name with
        | error f => simp [hentry, bind, Except.bind] at h
        | ok found =>
          simp only [hentry, bind, Except.bind] at h
          rw [if_neg Bool.false_ne_true] at h
          split at h
          · cases h
          · rename_i hnot
            cases h
            exact ⟨by simp, entry_eq_ok hentry, hnot⟩

/-- The file at `l` holds the bytes and nothing else; all else is as before, and nothing was printed. -/
structure OnlyWrote (m m' : Machine) (l : Location) (bytes : List UInt8) : Prop where
  stdout_eq : m'.stdout = m.stdout
  node?_self : m'.node? l = some (.file bytes)
  node?_other : ∀ l', l' ≠ l → m'.node? l' = m.node? l'

/-- The device took the bytes; no place is changed, and only standard output has them. -/
structure GaveToDevice (m m' : Machine) (d : Device) (bytes : List UInt8) : Prop where
  nodes_eq : m'.nodes = m.nodes
  stdout_eq : m'.stdout = if d = .stdout then m.stdout ++ Text.decodeLossy bytes else m.stdout

/-- Putting something at a place prints nothing. -/
theorem stdout_put (m : Machine) (l : Location) (n : Node) : (m.put l n).stdout = m.stdout := by
  rw [put]
  split <;> rfl

/-- A file that is put into its place is all that changes. -/
theorem onlyWrote_put (m : Machine) {l : Location} (hl : l ≠ []) (bytes : List UInt8) :
    OnlyWrote m (m.put l (.file bytes)) l bytes where
  stdout_eq := stdout_put m l (.file bytes)
  node?_self := by rw [node?_put m hl, if_pos rfl]
  node?_other := fun l' hne => by rw [node?_put m hl, if_neg hne]

/-- Printing succeeds only where standard output takes everything. -/
theorem print_eq_ok {m m' : Machine} {t : Text} (h : m.print t = (.ok (), m')) :
    m' = { m with stdout := m.stdout ++ t } := by
  rw [print] at h
  split at h <;> cases h
  rfl

theorem giveToStdout_done {m m' : Machine} {bytes : List UInt8}
    (h : m.giveToStdout bytes = (.done, m')) : GaveToDevice m m' .stdout bytes := by
  rw [giveToStdout] at h
  split at h <;> cases h
  rename_i hprint
  rw [print_eq_ok hprint]
  exact ⟨rfl, rfl⟩

/-- A file that takes all of the bytes holds them. -/
theorem fill_done {m m' : Machine} {l : Location} {bytes : List UInt8} (hl : l ≠ [])
    (h : m.fill l bytes = (.done, m')) : OnlyWrote m m' l bytes := by
  rw [fill] at h
  split at h <;> cases h
  exact onlyWrote_put m hl bytes

/-- Writing that succeeds has followed the path to a device or to a file, old or new. -/
theorem writeFile_done {m m' : Machine} {path : Text} {bytes : List UInt8}
    (h : m.writeFile path bytes = (.done, m')) :
    ∃ l, m.findForWriting path = .ok (l, m.node? l) ∧
      ((∃ d, m.node? l = some (.device d) ∧ GaveToDevice m m' d bytes) ∨
        (∀ d, m.node? l ≠ some (.device d)) ∧ OnlyWrote m m' l bytes) := by
  rw [writeFile] at h
  cases hfind : m.findForWriting path with
  | error f => simp [hfind] at h
  | ok found =>
    obtain ⟨l, n⟩ := found
    obtain ⟨hne, rfl, hdirectory⟩ := findForWriting_eq_ok hfind
    refine ⟨l, rfl, ?_⟩
    simp only [hfind] at h
    cases hnode : m.node? l with
    | none =>
      simp only [hnode] at h
      exact Or.inr ⟨by simp, fill_done hne h⟩
    | some n =>
      cases n with
      | directory => exact absurd hnode hdirectory
      | file old =>
        simp only [hnode] at h
        exact Or.inr ⟨by simp, fill_done hne h⟩
      | device d =>
        refine Or.inl ⟨d, rfl, ?_⟩
        simp only [hnode] at h
        cases d with
        | stdout => exact giveToStdout_done h
        | full | terminal => cases h
        | null | zero | stdin | stderr =>
          cases h
          exact ⟨rfl, rfl⟩

/-- Writing that succeeds gives the bytes to a device, or puts them into a file. -/
theorem write_done {m m' : Machine} {path : Text} {bytes : List UInt8}
    (h : m.write path bytes = (.done, m')) :
    ∃ l, m.findForWriting path = .ok (l, m.node? l) ∧
      ((∃ d, m.node? l = some (.device d) ∧ GaveToDevice m m' d bytes) ∨
        (∀ d, m.node? l ≠ some (.device d)) ∧ OnlyWrote m m' l bytes) := by
  rw [write] at h
  split at h
  · cases h
  · exact writeFile_done h

/-! ## Failing -/

/-- What an output leaves that did not take all the bytes: nothing, or a part of them on standard output
or in a file, as far as the fault lets them through. -/
inductive Failed (m m' : Machine) (bytes : List UInt8) : Prop
  | unchanged (eq : m' = m)
  | printed {n : Nat} {f : FileFault} (fault : m.faults.stdout = some (n, f))
    (eq : m' = { m with stdout := m.stdout ++ (Text.decodeLossy bytes).take n })
  | cut {l : Location} {n : Nat} {f : FileFault} (fault : m.faults.writing.lookup l = some (n, f))
    (only : OnlyWrote m m' l (bytes.take n))

/-- Printing that fails has printed as much as the fault lets through. -/
theorem print_failed {m m' : Machine} {t : Text} {f : FileFault} (h : m.print t = (.error f, m')) :
    ∃ n, m.faults.stdout = some (n, f) ∧ m' = { m with stdout := m.stdout ++ t.take n } := by
  rw [print] at h
  split at h <;> cases h
  exact ⟨_, ‹_›, rfl⟩

theorem giveToStdout_failed {m m' : Machine} {bytes : List UInt8} {w : Writing}
    (h : m.giveToStdout bytes = (w, m')) (hw : w ≠ .done) : Failed m m' bytes := by
  rw [giveToStdout] at h
  split at h <;> cases h
  · exact absurd rfl hw
  · obtain ⟨n, hfault, heq⟩ := print_failed ‹_›
    exact .printed hfault heq

/-- A file that breaks off holds what it took. -/
theorem fill_failed {m m' : Machine} {l : Location} {bytes : List UInt8} {w : Writing} (hl : l ≠ [])
    (h : m.fill l bytes = (w, m')) (hw : w ≠ .done) : Failed m m' bytes := by
  rw [fill] at h
  split at h <;> cases h
  · exact .unchanged rfl
  · exact .cut ‹_› (onlyWrote_put m hl _)
  · exact absurd rfl hw

/-- Where writing fails nothing changes, unless a fault of the machine lets a part of the bytes through. -/
theorem write_failed {m m' : Machine} {path : Text} {bytes : List UInt8} {w : Writing}
    (h : m.write path bytes = (w, m')) (hw : w ≠ .done) : Failed m m' bytes := by
  rw [write] at h
  split at h
  · cases h
    exact .unchanged rfl
  · rw [writeFile] at h
    -- only standard output and a file take a part and then fail
    split at h
    case h_4 => exact giveToStdout_failed h hw
    case h_7 hfind => exact fill_failed (findForWriting_eq_ok hfind).1 h hw
    all_goals
      cases h
      first | exact .unchanged rfl | exact absurd rfl hw

/-- Standard output takes all that it is given, and so do the files below the working directory once they
are opened. -/
structure Dependable (m : Machine) : Prop where
  stdout : m.faults.stdout = none
  writing : ∀ l, (below? m.here l).isSome → m.faults.writing.lookup l = none

/-- On such a machine an output that fails has printed nothing and changed nothing in the working
directory. -/
theorem Failed.of_dependable {m m' : Machine} {bytes : List UInt8} (h : Failed m m' bytes)
    (hm : m.Dependable) :
    m'.stdout = m.stdout ∧ ∀ l, (below? m.here l).isSome → m'.node? l = m.node? l := by
  cases h with
  | unchanged heq =>
    rw [heq]
    exact ⟨rfl, fun _ _ => rfl⟩
  | printed hfault =>
    rw [hm.stdout] at hfault
    cases hfault
  | cut hfault honly =>
    refine ⟨honly.stdout_eq, fun l' hbelow => honly.node?_other l' ?_⟩
    rintro rfl
    rw [hm.writing l' hbelow] at hfault
    cases hfault

/-! ## Standard error -/

/-- What is printed does not depend on standard error. -/
theorem print_stderr (m : Machine) (said t : Text) :
    print { m with stderr := said } t = ((m.print t).1, { (m.print t).2 with stderr := said }) := by
  simp only [print]
  cases m.faults.stdout <;> rfl

theorem giveToStdout_stderr (m : Machine) (said : Text) (bytes : List UInt8) :
    giveToStdout { m with stderr := said } bytes =
      ((m.giveToStdout bytes).1, { (m.giveToStdout bytes).2 with stderr := said }) := by
  rw [giveToStdout, giveToStdout, print_stderr]
  obtain ⟨r, m'⟩ := m.print (Text.decodeLossy bytes)
  cases r <;> rfl

theorem put_stderr (m : Machine) (said : Text) (l : Location) (n : Node) :
    put { m with stderr := said } l n = { m.put l n with stderr := said } := by
  rw [put, put]
  split <;> rfl

theorem fill_stderr (m : Machine) (said : Text) (l : Location) (bytes : List UInt8) :
    fill { m with stderr := said } l bytes =
      ((m.fill l bytes).1, { (m.fill l bytes).2 with stderr := said }) := by
  simp only [fill]
  cases m.faults.creating.lookup l <;> cases m.faults.writing.lookup l <;> simp only [put_stderr]

/-- What is written does not depend on standard error. -/
theorem write_stderr (m : Machine) (said path : Text) (bytes : List UInt8) :
    ∃ said', write { m with stderr := said } path bytes =
      ((m.write path bytes).1, { (m.write path bytes).2 with stderr := said' }) := by
  have hfind : findForWriting { m with stderr := said } path = m.findForWriting path := rfl
  rw [write, write]
  split
  · exact ⟨said, rfl⟩
  · rw [writeFile, writeFile, hfind]
    split
    case h_4 => exact ⟨said, giveToStdout_stderr m said bytes⟩
    case h_7 => exact ⟨said, fill_stderr m said _ bytes⟩
    all_goals exact ⟨_, rfl⟩

end TomeSql.Machine
