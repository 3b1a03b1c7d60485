import Vacancy.Host
import Vacancy.Settings

/-!
What a command leaves behind: the lines that it prints, and what stopped it. What the user can mend
ends with code 1, failures of the database and wrong usage with code 2.
-/

namespace Vacancy.CommandLine

inductive Error where
  | usage
  | settings (e : SettingsError)
  /-- The path of the database has a reference without a value. -/
  | databasePath (e : SettingsError)
  | noDatabase (path : String) (e : StoreError)
  | unreadableView (path : String) (e : FileError)
  | malformedView (path : String)
  | unknownView (id : Int64)
  | savedView (e : StoreError)
  | engine (e : EngineError)
  deriving DecidableEq

namespace Error

def exitCode : Error → Nat
  | .usage | .noDatabase _ _ | .savedView _ => 2
  | .settings _ | .databasePath _ | .unreadableView _ _ | .malformedView _ | .unknownView _ => 1
  | .engine e => if e.kind = .validation then 1 else 2

def message : Error → String
  | .usage => "usage"
  | .settings e => "Error loading settings: " ++ e.message
  | .databasePath e => "Error: " ++ e.message
  | .noDatabase path e => "Execution error: cannot open '" ++ path ++ "': " ++ e.message
  | .unreadableView path e => "Error: Error reading file '" ++ path ++ "': " ++ e.message
  | .malformedView path => "Error: Invalid view '" ++ path ++ "': "
  | .unknownView id => "Error: view " ++ toString id.toInt ++ " not found"
  | .savedView e => "Execution error: " ++ e.message
  | .engine e => (if e.kind = .validation then "Error: " else "Execution error: ") ++ e.message

end Error

structure Report where
  lines : List String := []
  error : Option Error := none

namespace Report

def ofExcept : Except Error (List String) → Report
  | .ok lines => { lines }
  | .error e => { error := some e }

def exitCode (r : Report) : Nat :=
  (r.error.map Error.exitCode).getD 0

def output (r : Report) : String :=
  String.join (r.lines.map (· ++ "\n"))

end Report

end Vacancy.CommandLine
