/-
  The program.

  The operations that a run needs are those of the system: files, standard streams, the clock.  All
  that the program decides is in `Run.run`.
-/
import Std.Time.DateTime.Timestamp
import TomeSql.Run

namespace TomeSql

/-- The fault that an error of the system stands for. -/
def faultOf : IO.Error → FileFault
  | .noFileOrDirectory .. => .notFound
  | .inappropriateType _ code _ => if code = 20 then .notDirectory else .isDirectory
  | .resourceExhausted .. => .noSpace
  | .invalidArgument _ 36 _ => .nameTooLong
  | e => .other (toString e).toList

/-- Runs an action whose errors are faults. -/
def catchFault (action : IO α) : IO (Except FileFault α) := do
  match ← action.toBaseIO with
  | .ok a => return .ok a
  | .error e => return .error (faultOf e)

/-- Opens a file for writing and then writes to it. -/
def writeThrough (path : Text) (bytes : List UInt8) : IO Writing := do
  match ← catchFault (IO.FS.Handle.mk (String.ofList path) .write) with
  | .error f => return .notCreated f
  | .ok h =>
    match ← catchFault (do h.write ⟨bytes.toArray⟩; h.flush) with
    | .error f => return .notWritten f
    | .ok _ => return .done

/-- Reads a stream to its end. -/
partial def readToEnd (stream : IO.FS.Stream) (soFar : ByteArray) : IO ByteArray := do
  let bytes ← stream.read 65536
  if bytes.isEmpty then return soFar else readToEnd stream (soFar ++ bytes)

/-- A run on the system. -/
instance : Host IO where
  readFile path := catchFault do
    let h ← IO.FS.Handle.mk (String.ofList path) .read
    return (← h.readBinToEnd).toList
  fileExists path := do
    match ← catchFault (IO.FS.Handle.mk (String.ofList path) .read) with
    | .error .notFound => return false
    | _ => return true
  readStdin := catchFault do return (← readToEnd (← IO.getStdin) .empty).toList
  now := do
    let t ← Std.Time.Timestamp.now
    return ⟨t.toSecondsSinceUnixEpoch.val, t.val.nano.val.toNat⟩
  print t := catchFault do
    let out ← IO.getStdout
    out.putStr (String.ofList t)
    out.flush
  complain line := do (← IO.getStderr).putStrLn (String.ofList line)
  writeFile := writeThrough

end TomeSql

/-- The program: the exit status is that of the run. -/
def main (arguments : List String) : IO UInt32 := do
  let logVariable := (← IO.getEnv "RUST_LOG").map String.toList
  TomeSql.Run.run logVariable (arguments.map String.toList)
