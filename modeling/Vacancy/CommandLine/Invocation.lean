import Vacancy.CommandLine.Arguments
import Vacancy.Decimal.Numeral
import Vacancy.Sql.Dialect
import Vacancy.View.Style

/-!
Commands and how they are called. The two options that all commands have may stand before the name
of the command or after it; the ones after it count.
-/

namespace Vacancy.CommandLine

open Sql

inductive ViewSource where
  | file (path : String)
  | saved (id : Int64)

structure RunScope where
  run : Int64
  grain : Grain

structure PageOptions where
  limit : Option UInt64
  offset : UInt64

inductive Command where
  /-- Prints the result of a view; it is displayed unless `raw` is given. -/
  | query (source : ViewSource) (page : PageOptions) (raw : Bool)
  | explain (path : String) (dialect : Option Dialect) (page : PageOptions)
  /-- Prints rows, a batch a line. -/
  | stream (scope : RunScope) (date : Option String) (areas : List String) (size : Option UInt64)
  | dates (scope : RunScope)
  | areas (scope : RunScope)
  | init

structure Call where
  config : Option String
  database : Option String
  command : Command

inductive Invocation where
  | version
  | call (c : Call)

def path? (s : String) : Option String :=
  if s.isEmpty then none else some s

def globalFlags : List Flag :=
  [{ name := "config" }, { name := "db" }]

def pageFlags : List Flag :=
  [{ name := "limit" }, { name := "offset" }]

def scopeFlags : List Flag :=
  [{ name := "dataset-result-id" }, { name := "unit" }]

def pageOptions? (settings : List Setting) : Option PageOptions := do
  let limit ← optional? Decimal.readUInt64? "limit" settings
  let offset ← optional? Decimal.readUInt64? "offset" settings
  return ⟨limit, offset.getD 0⟩

def runScope? (settings : List Setting) : Option RunScope := do
  let run ← required? Decimal.readInt64? "dataset-result-id" settings
  let grain ← required? Grain.ofName? "unit" settings
  return ⟨run, grain⟩

def viewSource? (settings : List Setting) : Option ViewSource := do
  match ← optional? path? "view" settings, ← optional? Decimal.readInt64? "view-id" settings with
  | some path, none => return .file path
  | none, some id => return .saved id
  | _, _ => none

structure CommandForm where
  flags : List Flag
  command? : List Setting → Option Command

def queryForm : CommandForm where
  flags := [{ name := "view" }, { name := "view-id" }, { name := "raw", takesValue := false }] ++
    pageFlags
  command? settings := do
    return .query (← viewSource? settings) (← pageOptions? settings) (← switch? "raw" settings)

def explainForm : CommandForm where
  flags := [{ name := "view" }, { name := "dialect", short := some 'd' }] ++ pageFlags
  command? settings := do
    return .explain (← required? path? "view" settings)
      (← optional? Dialect.ofName? "dialect" settings) (← pageOptions? settings)

def streamForm : CommandForm where
  flags := scopeFlags ++
    [{ name := "reference-date" }, { name := "area" }, { name := "batch-size" }]
  command? settings := do
    return .stream (← runScope? settings) (← optional? some "reference-date" settings)
      (repeated "area" settings) (← optional? Decimal.readUInt64? "batch-size" settings)

def commandForm? : String → Option CommandForm
  | "query" => some queryForm
  | "explain" => some explainForm
  | "stream" => some streamForm
  | "dates" => some ⟨scopeFlags, fun settings => (runScope? settings).map .dates⟩
  | "areas" => some ⟨scopeFlags, fun settings => (runScope? settings).map .areas⟩
  | "init" => some ⟨[], fun _ => some .init⟩
  | _ => none

def globals? (settings : List Setting) : Option (Option String × Option String) := do
  return (← optional? path? "config" settings, ← optional? path? "db" settings)

def commandOf? (name : String) (args : List String) :
    Option (Command × Option String × Option String) := do
  let form ← commandForm? name
  let r := readOptions (globalFlags ++ form.flags) args
  if r.failed ∨ r.rest ≠ [] then none
  return (← form.command? r.settings, ← globals? r.settings)

def versionFlag : Flag where
  name := "version"
  short := some 'V'
  takesValue := false

/-- What the arguments call for. To ask for the version ends the reading. -/
def ofArguments? (args : List String) : Option Invocation := do
  let r := readOptions (versionFlag :: globalFlags) args
  let (settings, asked) := r.settings.span (·.1 ≠ versionFlag.name)
  let (config, database) ← globals? settings
  if asked ≠ [] then return .version
  if r.failed then none
  match r.rest with
  | [] => none
  | name :: args =>
    let (command, config', database') ← commandOf? name args
    return .call ⟨config'.or config, database'.or database, command⟩

end Vacancy.CommandLine
