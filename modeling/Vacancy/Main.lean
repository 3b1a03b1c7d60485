import Vacancy.CommandLine.Run
import Vacancy.Database.Snapshot

/-!
The command on a real machine: its variables and files, and the standard output and error.
-/

namespace Vacancy

def FileError.ofError : IO.Error → FileError
  | .noFileOrDirectory _ _ _ => .missing
  | .alreadyExists _ _ _ => .taken
  | .inappropriateType _ 20 _ => .notFolder
  | .inappropriateType _ 21 _ => .isFolder
  | e => .other (toString e)

namespace Disk

def readText (path : String) : IO (Except FileError String) := do
  try
    match String.fromUTF8? (← IO.FS.readBinFile path) with
    | some s => return .ok s
    | none => return .error .notText
  catch e => return .error (.ofError e)

def makeFolders (path : String) : IO Unit := do
  let folders := "/".intercalate (Host.parents path)
  if folders ≠ "" then
    IO.FS.createDirAll (if path.startsWith "/" then "/" ++ folders else folders)

def create (l : Location) : IO (Except SqlError Database) := do
  if !l.isWritable then return .error .readOnly
  let d : Database := {}
  IO.FS.writeBinFile l.path d.toBytes
  return .ok d

def openAt (l : Location) (path : String) : IO (Except SqlError Database) := do
  try
    let bytes ← IO.FS.readBinFile l.path
    if bytes.size ≤ 1 then create l
    else
      match Database.ofBytes? bytes with
      | some d => return .ok d
      | none => return .error .notADatabase
  catch
    | .noFileOrDirectory _ _ _ =>
      if l.creates then create l else return .error (.cannotOpen path)
    | _ => return .error (.cannotOpen path)

def openFile (path : String) : IO (Except SqlError Database) := do
  match Host.location path with
  | .error e => return .error e
  | .ok l =>
    if l.isTemporary then return if l.isWritable then .ok {} else .error .readOnly
    else openAt l path

def openDatabase (path : String) : IO (Except StoreError Database) := do
  try
    makeFolders path
    return (← openFile path).mapError .sql
  catch e => return .error (.io (FileError.ofError e).message)

def isFile (path : String) : IO Bool := do
  match ← readText path with
  | .ok _ | .error .notText => return true
  | _ => return false

instance : Host IO where
  valueOf? name := IO.getEnv name
  isFile := isFile
  readText := readText
  openDatabase := openDatabase

end Disk

end Vacancy

def main (args : List String) : IO UInt32 := do
  let report ← Vacancy.CommandLine.run args
  IO.print report.output
  if let some e := report.error then IO.eprintln e.message
  return report.exitCode.toUInt32
