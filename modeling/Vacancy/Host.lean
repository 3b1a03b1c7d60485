import Vacancy.Database
import Vacancy.Host.Location

/-!
What commands need of the machine that they run on: variables, text files and databases.
-/

namespace Vacancy

inductive FileError where
  | missing
  | taken
  | notFolder
  | isFolder
  | notText
  | zeroByte
  | other (reason : String)
  deriving DecidableEq

def FileError.message : FileError → String
  | .missing => "No such file or directory (os error 2)"
  | .taken => "File exists (os error 17)"
  | .notFolder => "Not a directory (os error 20)"
  | .isFolder => "Is a directory (os error 21)"
  | .notText => "stream did not contain valid UTF-8"
  | .zeroByte => "file name contained an unexpected NUL byte"
  | .other reason => reason

class Host (m : Type → Type) where
  valueOf? : String → m (Option String)
  isFile : String → m Bool
  readText : String → m (Except FileError String)
  /-- The database at a path. If there is none it is made, with the folders on the way to it. -/
  openDatabase : String → m (Except StoreError Database)

namespace Host

def values [Monad m] [Host m] (names : List String) : m (List (String × String)) :=
  names.filterMapM fun name => do return (← valueOf? name).map (name, ·)

def names (path : String) : List String :=
  path.splitOn "/"

def parents (path : String) : List String :=
  ((names path).filter fun name => name ≠ "" && name ≠ ".").dropLast

def zeroByte? (path : String) : Option Nat :=
  if path.contains '\x00' then
    some (String.ofList (path.toList.takeWhile (· ≠ '\x00'))).utf8ByteSize
  else none

def location (path : String) : Except SqlError Location :=
  match zeroByte? path with
  | some offset => .error (.zeroByte offset)
  | none => Location.ofPath path

end Host

end Vacancy
