/-
  A machine as a value: a tree of directories, files and devices, the input, the clock, what was put
  out, and what fails.

  1. **Paths** — a path that begins with a slash is followed from the root, any other from the working
     directory.  Every name but the last must be that of a directory; `.` stays, `..` goes up, and
     above the root is the root.  Slashes at the end ask for a directory.

  2. **Names** — a name takes 255 bytes at most and a path 4095.

  3. **Devices** — `/dev/null` is empty and takes everything, `/dev/zero` and the sources of random bytes
     take everything and have no end, `/dev/full` takes nothing, `/dev/tty` cannot be opened, since
     there is no terminal, and the three standard streams are there by name and by number.

  4. **Faults** — a file may refuse to be read or to be made, and break off while it is written; the
     streams may fail as well.  What was taken in front of the break is there.

  5. **Operations** — a file can be made in a directory that exists; a directory can be neither read
     nor written.
-/
import TomeSql.Host.Basic
import TomeSql.Text.Utf8

namespace TomeSql

/-! ## The tree -/

/-- A place in the tree: the names on the way from the root. -/
abbrev Location := List Text

/-- What acts as a file without being one. -/
inductive Device where
  | null
  | zero
  | full
  | terminal
  | stdin
  | stdout
  | stderr
deriving DecidableEq

/-- What is at a place. -/
inductive Node where
  | directory
  | file (bytes : List UInt8)
  | device (d : Device)
deriving DecidableEq

/-- What fails on a machine besides what its tree does not allow. -/
structure Faults where
  /-- The files that cannot be read. -/
  reading : List (Location × FileFault) := []
  /-- The files that cannot be made, or opened for writing. -/
  creating : List (Location × FileFault) := []
  /-- The files that break off when they are written: how many bytes each one takes, and the fault. -/
  writing : List (Location × Nat × FileFault) := []
  /-- The fault of reading standard input. -/
  stdin : Option FileFault := none
  /-- How many characters standard output takes of a text, and the fault. -/
  stdout : Option (Nat × FileFault) := none
deriving DecidableEq

/-- A machine. -/
structure Machine where
  /-- What is below the root, which is a directory. -/
  nodes : List (Location × Node)
  /-- The directory in which paths without a slash in front begin. -/
  here : Location
  stdin : List UInt8 := []
  clock : Timestamp := ⟨0, 0⟩
  stdout : Text := []
  stderr : Text := []
  faults : Faults := {}
deriving DecidableEq

namespace Machine

/-- The directories of a machine on which nothing was done yet. -/
def usualDirectories : List Location :=
  ["bin", "boot", "dev", "etc", "home", "lib", "media", "mnt", "opt", "proc", "root", "run", "sbin",
    "srv", "sys", "tmp", "usr", "var"].map (fun name => [name.toList]) ++
  [("dev", "shm"), ("proc", "self"), ("usr", "bin"), ("usr", "lib"), ("usr", "local"),
    ("usr", "share"), ("var", "lib"), ("var", "log"), ("var", "tmp")].map fun (above, name) =>
    [above.toList, name.toList]

/-- The directories in which the standard streams are by number. -/
def streamDirectories : List Location :=
  [["dev".toList, "fd".toList], ["proc".toList, "self".toList, "fd".toList]]

/-- The devices of such a machine. -/
def usualDevices : List (Location × Device) :=
  [("null", .null), ("zero", .zero), ("random", .zero), ("urandom", .zero), ("full", .full),
    ("tty", .terminal), ("stdin", .stdin), ("stdout", .stdout), ("stderr", .stderr)].map
      (fun (name, d) => (["dev".toList, name.toList], d)) ++
  streamDirectories.flatMap fun l =>
    [('0', .stdin), ('1', .stdout), ('2', .stderr)].map fun (number, d) => (l ++ [[number]], d)

/-- A machine on which nothing was done yet; the working directory is empty. -/
def fresh : Machine :=
  { nodes :=
      (usualDirectories ++ streamDirectories ++ [["tmp".toList, "work".toList]]).map
        (·, .directory) ++
      usualDevices.map fun (l, d) => (l, .device d)
    here := ["tmp".toList, "work".toList] }

/-- What is at a place. -/
def node? (m : Machine) (l : Location) : Option Node :=
  if l.isEmpty then some .directory else m.nodes.lookup l

/-- Puts something at a place, in the stead of what is there. -/
def put (m : Machine) (l : Location) (n : Node) : Machine :=
  if (m.nodes.lookup l).isSome then
    { m with nodes := m.nodes.map fun p => if p.1 = l then (l, n) else p }
  else { m with nodes := m.nodes ++ [(l, n)] }

/-! ## Paths -/

/-- The entry of a name in a directory. -/
def entry (m : Machine) (directory : Location) (name : Text) : Except FileFault (Option Node) :=
  if (Text.encode name).length > 255 then .error .nameTooLong
  else .ok (m.node? (directory ++ [name]))

/-- Goes from a directory to the one that a name stands for. -/
def enter (m : Machine) (directory : Location) (name : Text) : Except FileFault Location :=
  if name = ['.'] then .ok directory
  else if name = ['.', '.'] then .ok directory.dropLast
  else match m.entry directory name with
    | .error f => .error f
    | .ok (some .directory) => .ok (directory ++ [name])
    | .ok (some _) => .error .notDirectory
    | .ok none => .error .notFound

/-- What a path leads to. -/
inductive Target where
  /-- A directory that is reached without a name of its own at the end. -/
  | directory (l : Location)
  /-- A name in a directory, with or without slashes behind it. -/
  | name (directory : Location) (name : Text) (slash : Bool)

/-- Follows a path as far as its last name. -/
def target (m : Machine) (path : Text) : Except FileFault Target := do
  if path.isEmpty then throw .notFound
  if (Text.encode path).length > 4095 then throw .nameTooLong
  let start := if path.head? = some '/' then [] else m.here
  let names := (Text.fields '/' path).filter fun name => !name.isEmpty
  let directory ← names.dropLast.foldlM m.enter start
  match names.getLast? with
  | none => return .directory start
  | some last =>
    if last = ['.'] ∨ last = ['.', '.'] then return .directory (← m.enter directory last)
    else return .name directory last (path.getLast? = some '/')

/-- Finds the place that a path names, and what is there. -/
def find (m : Machine) (path : Text) : Except FileFault (Location × Node) := do
  match ← m.target path with
  | .directory l => return (l, .directory)
  | .name directory name slash =>
    match ← m.entry directory name with
    | none => throw .notFound
    | some .directory => return (directory ++ [name], .directory)
    | some n => if slash then throw .notDirectory else return (directory ++ [name], n)

/-- Finds the place of a file to be written, and what is there. -/
def findForWriting (m : Machine) (path : Text) : Except FileFault (Location × Option Node) := do
  match ← m.target path with
  | .directory _ => throw .isDirectory
  | .name directory name slash =>
    if slash then throw .isDirectory
    match ← m.entry directory name with
    | some .directory => throw .isDirectory
    | n => return (directory ++ [name], n)

/-! ## Streams -/

/-- All bytes of standard input, which are gone from it then. -/
def readStdin (m : Machine) : Except FileFault (List UInt8) × Machine :=
  match m.faults.stdin with
  | none => (.ok m.stdin, { m with stdin := [] })
  | some f => (.error f, m)

/-- Writes to standard output as much as it takes. -/
def print (m : Machine) (t : Text) : Except FileFault Unit × Machine :=
  match m.faults.stdout with
  | none => (.ok (), { m with stdout := m.stdout ++ t })
  | some (n, f) => (.error f, { m with stdout := m.stdout ++ t.take n })

/-! ## Files -/

/-- The fault of reading what has no end. -/
def endless : FileFault := .other "Cannot allocate memory (os error 12)".toList

/-- The fault of opening the terminal. -/
def noTerminal : FileFault := .other "No such device or address (os error 6)".toList

/-- The bytes of the file at a place, if it can be read. -/
def contents (m : Machine) (l : Location) (bytes : List UInt8) : Except FileFault (List UInt8) :=
  match m.faults.reading.lookup l with
  | none => .ok bytes
  | some f => .error f

/-- All bytes of a file.  What standard input gives is gone from it. -/
def readFile (m : Machine) (path : Text) : Except FileFault (List UInt8) × Machine :=
  match m.find path with
  | .error f => (.error f, m)
  | .ok (_, .directory) => (.error .isDirectory, m)
  | .ok (l, .file bytes) => (m.contents l bytes, m)
  | .ok (_, .device .null) => (.ok [], m)
  | .ok (_, .device .stdin) => m.readStdin
  | .ok (_, .device .terminal) => (.error noTerminal, m)
  | .ok (_, .device _) => (.error endless, m)

/-- There is something of this path. -/
def fileExists (m : Machine) (path : Text) : Bool := (m.find path).toOption.isSome

/-- Gives bytes to standard output as to a file. -/
def giveToStdout (m : Machine) (bytes : List UInt8) : Writing × Machine :=
  match m.print (Text.decodeLossy bytes) with
  | (.ok _, m) => (.done, m)
  | (.error f, m) => (.notWritten f, m)

/-- Puts bytes into a file, new or emptied, as many as it takes. -/
def fill (m : Machine) (l : Location) (bytes : List UInt8) : Writing × Machine :=
  match m.faults.creating.lookup l, m.faults.writing.lookup l with
  | some f, _ => (.notCreated f, m)
  | none, some (n, f) => (.notWritten f, m.put l (.file (bytes.take n)))
  | none, none => (.done, m.put l (.file bytes))

/-- Writes a file. -/
def writeFile (m : Machine) (path : Text) (bytes : List UInt8) : Writing × Machine :=
  match m.findForWriting path with
  | .error f => (.notCreated f, m)
  | .ok (_, some (.device .terminal)) => (.notCreated noTerminal, m)
  | .ok (_, some (.device .full)) => (.notWritten .noSpace, m)
  | .ok (_, some (.device .stdout)) => m.giveToStdout bytes
  | .ok (_, some (.device .stderr)) =>
    (.done, { m with stderr := m.stderr ++ Text.decodeLossy bytes })
  | .ok (_, some (.device _)) => (.done, m)
  | .ok (l, _) => m.fill l bytes

-- a new file that breaks off is there, with what it took
example :
    let m : Machine := { nodes := [], here := [], faults := { writing := [([['o']], 2, .noSpace)] } }
    m.writeFile ['o'] [1, 2, 3] = (.notWritten .noSpace, { m with nodes := [([['o']], .file [1, 2])] }) := by
  decide +kernel

/-- Makes a directory in the working directory, and the directories on the way to it. -/
def makeDirectory (m : Machine) (l : Location) : Machine :=
  (List.range l.length).foldl (fun m n => m.put (m.here ++ l.take (n + 1)) .directory) m

/-- Puts a file into the working directory. -/
def putFile (m : Machine) (l : Location) (bytes : List UInt8) : Machine :=
  m.put (m.here ++ l) (.file bytes)

/-- A place below a directory, as seen from there. -/
def below? : (directory l : Location) → Option Location
  | [], l => some l
  | _ :: _, [] => none
  | d :: directory, n :: l => if d = n then below? directory l else none

/-- The files below the working directory that `after` has and `before` has not, or with other
bytes. -/
def changedFiles (before after : Machine) : List (Location × List UInt8) :=
  after.nodes.filterMap fun (l, n) =>
    match n, below? after.here l with
    | .file bytes, some name =>
      if before.nodes.lookup l = some (.file bytes) then none else some (name, bytes)
    | _, _ => none

end Machine

/-- A run on a machine. -/
instance : Host (StateM Machine) where
  readFile path := modifyGet fun m => m.readFile path
  fileExists path := do return (← get).fileExists path
  readStdin := modifyGet fun m => m.readStdin
  now := do return (← get).clock
  print t := modifyGet fun m => m.print t
  complain line := modify fun m => { m with stderr := m.stderr ++ line ++ ['\n'] }
  writeFile path bytes := modifyGet fun m => m.writeFile path bytes

end TomeSql
