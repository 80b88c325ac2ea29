/-
  What a run needs from the machine that it runs on.

  1. **Faults** — why a file or a stream cannot be read or written.

  2. **`Host`** — the operations: reading files and standard input, the clock, the two output
     streams, and writing a file.  A run is written once, over any monad that has them.  Each operation on
     a file, on standard input or on standard output may fail; standard error takes what it is given.

  3. **Paths** — a path with a NUL character is refused before the system sees it.
-/
import TomeSql.Timestamp

namespace TomeSql

/-- Why a file or a stream cannot be read or written. -/
inductive FileFault where
  | notFound
  | isDirectory
  | notDirectory
  | noSpace
  /-- A path, or a name in it, is longer than the system allows. -/
  | nameTooLong
  /-- The path has a NUL character, which ends a path for the system. -/
  | nulInPath
  /-- The bytes of a file that has to be text are not UTF-8. -/
  | notUtf8
  /-- Anything else, in the words of the system. -/
  | other (description : Text)
deriving DecidableEq

/-- The text of a fault. -/
def FileFault.message : FileFault → Text
  | .notFound => "No such file or directory (os error 2)".toList
  | .isDirectory => "Is a directory (os error 21)".toList
  | .notDirectory => "Not a directory (os error 20)".toList
  | .noSpace => "No space left on device (os error 28)".toList
  | .nameTooLong => "File name too long (os error 36)".toList
  | .nulInPath => "file name contained an unexpected NUL byte".toList
  | .notUtf8 => "stream did not contain valid UTF-8".toList
  | .other description => description

/-- How the writing of a file ended. -/
inductive Writing where
  | done
  /-- The file could not be opened; nothing changed. -/
  | notCreated (f : FileFault)
  /-- The file was opened, and so is empty if it is no device, but did not take all of the bytes. -/
  | notWritten (f : FileFault)
deriving DecidableEq

/-- The operations of the machine. -/
class Host (m : Type → Type) where
  /-- All bytes of a file. -/
  readFile (path : Text) : m (Except FileFault (List UInt8))
  /-- There is a file or a directory of this path. -/
  fileExists (path : Text) : m Bool
  /-- All bytes of standard input. -/
  readStdin : m (Except FileFault (List UInt8))
  /-- The present time. -/
  now : m Timestamp
  /-- Writes to standard output, which may take a part of the text and then fail. -/
  print (t : Text) : m (Except FileFault Unit)
  /-- Writes a line to standard error. -/
  complain (line : Text) : m Unit
  /-- Puts the bytes into a new file, or into an old one in the place of its bytes. -/
  writeFile (path : Text) (bytes : List UInt8) : m Writing

namespace Host

variable {m : Type → Type} [Monad m] [Host m]

/-- Reads a file whose path may be any text. -/
def read (path : Text) : m (Except FileFault (List UInt8)) :=
  if path.contains '\x00' then pure (.error .nulInPath) else readFile path

/-- Writes a file whose path may be any text. -/
def write (path : Text) (bytes : List UInt8) : m Writing :=
  if path.contains '\x00' then pure (.notCreated .nulInPath) else writeFile path bytes

end Host

end TomeSql
