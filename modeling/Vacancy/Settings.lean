import Vacancy.Sql.Dialect
import Vacancy.Text.Template
import Vacancy.Toml.Reader

/-!
Settings: where the database is, and what a query does unless it is told. Every section and every
key of a settings file may be left out.
-/

namespace Vacancy

open Sql

structure Settings where
  /-- The path of the database, with references to variables. -/
  path : String := "soma.db"
  defaultLimit : UInt64 := 50
  batchSize : UInt64 := 1000
  dialect : Dialect := .sqlite
  filter : String := "info"

inductive SettingsError where
  | noFile (path : String)
  | unreadable (reason : String)
  | malformed
  | unsetVariable (name : String)
  /-- A number of the section `query` that has to be positive. -/
  | zero (key : String)
  deriving DecidableEq

def SettingsError.message : SettingsError → String
  | .noFile path => "settings file " ++ path ++ " does not exist"
  | .unreadable reason => "cannot read settings: " ++ reason
  | .malformed => "malformed settings: "
  | .unsetVariable name => "environment variable " ++ name ++ " is not set"
  | .zero key => "query." ++ key ++ " must be greater than zero"

namespace Settings

def toJson (s : Settings) : Json :=
  .object [
    ("database", .object [("path", .text s.path)]),
    ("query", .object [("default_limit", .int s.defaultLimit.toNat),
      ("batch_size", .int s.batchSize.toNat), ("dialect", s.dialect.toJson)]),
    ("logging", .object [("filter", .text s.filter)])]

def validated (s : Settings) : Except SettingsError Settings :=
  if s.defaultLimit = 0 then .error (.zero "default_limit")
  else if s.batchSize = 0 then .error (.zero "batch_size")
  else .ok s

def text? : Toml → Option String
  | .text s => some s
  | _ => none

def uint64? : Toml → Option UInt64
  | .integer n => Decimal.uint64? n
  | _ => none

/-- A dialect's name, bare or as the only key of a table that gives it nothing. -/
def dialect? : Toml → Option Dialect
  | .text s => Dialect.ofName? s
  | .table _ [(s, .table _ [])] | .table _ [(s, .array _ [])] => Dialect.ofName? s
  | _ => none

/--
The values of a section's keys; it may also be an array of them in order. A date has no keys. All of
a table is read, but of an array only what has a key.
-/
def values? (keys : List String) : Toml → Option (List (Option Toml))
  | .table _ ms => if Toml.haveReadable ms then some (keys.map fun k => ms.lookup k) else none
  | .array _ items => some ((List.range keys.length).map fun i => items[i]?)
  | .moment _ => some (keys.map fun _ => none)
  | _ => none

def section? (name : String) (keys : List String) (sections : Toml.Members) :
    Option (List (Option Toml)) :=
  match sections.lookup name with
  | none => some (keys.map fun _ => none)
  | some t => values? keys t

def defaulted (value : α) (read? : Toml → Option α) : Option Toml → Option α
  | none => some value
  | some t => read? t

def ofSections? (sections : Toml.Members) : Option Settings := do
  let defaults : Settings := {}
  let database ← section? "database" ["path"] sections
  let query ← section? "query" ["default_limit", "batch_size", "dialect"] sections
  let logging ← section? "logging" ["filter"] sections
  match database ++ query ++ logging with
  | [path, limit, size, dialect, filter] =>
    let path ← defaulted defaults.path text? path
    let defaultLimit ← defaulted defaults.defaultLimit uint64? limit
    let batchSize ← defaulted defaults.batchSize uint64? size
    let dialect ← defaulted defaults.dialect dialect? dialect
    let filter ← defaulted defaults.filter text? filter
    return { path, defaultLimit, batchSize, dialect, filter }
  | _ => none

def sectionNames : List String :=
  ["database", "query", "logging"]

def ofToml? : Toml → Option Settings
  | .table _ sections =>
    if Toml.haveReadable (sections.filter fun (name, _) => !sectionNames.contains name) then
      ofSections? sections
    else none
  | _ => none

def ofText (s : String) : Except SettingsError Settings :=
  match (Toml.read? s).bind ofToml? with
  | some settings => settings.validated
  | none => .error .malformed

def variableNames (s : Settings) : List String :=
  (Text.Template.pieces s.path.toList).filterMap Text.Piece.name?

def databasePath (s : Settings) (value? : String → Option String) : Except SettingsError String :=
  (Text.Template.expand value? s.path).mapError .unsetVariable

end Settings

end Vacancy
