import Vacancy.Sql.Fault
import Vacancy.View.Style

/-!
What can go wrong with a view, with a store, and with running the one on the other.
-/

namespace Vacancy

inductive ViewError where
  | missingRun
  | missingSlot (key : String)
  | unsupported (style : Style) (grain : Grain)
  | unknownColumn (name : String) (grain : Grain)
  | emptyBatch
  deriving DecidableEq

def ViewError.message : ViewError → String
  | .missingRun => "view has no dataset result id"
  | .missingSlot key => "required parameter '" ++ key ++ "' is missing"
  | .unsupported style grain =>
    style.name ++ " view is not supported for unit '" ++ grain.name ++ "'"
  | .unknownColumn name grain =>
    "unknown column '" ++ name ++ "' for unit '" ++ grain.name ++ "'"
  | .emptyBatch => "batch size must be greater than zero"

inductive SqlError where
  | missingValue (table column : String)
  | takenKey (table column : String)
  | typeMismatch
  | overflow
  | longPattern
  | escape
  | refused (fault : Sql.Fault) (place : Option Sql.FaultPlace)
  | full
  | notADatabase
  | cannotOpen (path : String)
  | readOnly
  | unreadable
  /-- The place of the first zero byte in a path. -/
  | zeroByte (offset : Nat)
  | authority (name : String)
  | noSuchMode (kind name : String)
  | modeNotAllowed (name : String)
  | noSuchSystem (name : String)
  deriving DecidableEq

def SqlError.message : SqlError → String
  | .missingValue table column => "NOT NULL constraint failed: " ++ table ++ "." ++ column
  | .takenKey table column => "UNIQUE constraint failed: " ++ table ++ "." ++ column
  | .typeMismatch => "datatype mismatch"
  | .overflow => "integer overflow"
  | .longPattern => "LIKE or GLOB pattern too complex"
  | .escape => "ESCAPE expression must be a single character"
  | .refused fault none => fault.message
  | .refused fault (some place) =>
    fault.message ++ " in " ++ place.statement ++ " at offset " ++ toString place.offset
  | .full => "database or disk is full"
  | .notADatabase => "file is not a database"
  | .cannotOpen path => "unable to open database file: " ++ path
  | .readOnly => "attempt to write a readonly database"
  | .unreadable => "disk I/O error"
  | .zeroByte offset => "nul byte found in provided data at position: " ++ toString offset
  | .authority name => "invalid uri authority: " ++ name
  | .noSuchMode kind name => "no such " ++ kind ++ " mode: " ++ name
  | .modeNotAllowed name => "access mode not allowed: " ++ name
  | .noSuchSystem name => "no such vfs: " ++ name

inductive StoreError where
  | sql (e : SqlError)
  | json
  | io (reason : String)
  | missingCursor
  | unknownColumn (name : String) (grain : Grain)
  deriving DecidableEq

def StoreError.message : StoreError → String
  | .sql e => "SQLite error: " ++ e.message
  | .json => "JSON serialization error: malformed saved view"
  | .io reason => "IO error: " ++ reason
  | .missingCursor => "batch row has no integer id column"
  | .unknownColumn name grain =>
    "column '" ++ name ++ "' does not exist for unit '" ++ grain.name ++ "'"

inductive EngineError where
  | view (e : ViewError)
  | store (e : StoreError)
  deriving DecidableEq

inductive ErrorKind where
  /-- The view or the request has to change. -/
  | validation
  /-- The same request may succeed later. -/
  | execution
  deriving DecidableEq

namespace EngineError

def message : EngineError → String
  | .view e => "invalid view: " ++ e.message
  | .store e => "query execution failed: " ++ e.message

def kind : EngineError → ErrorKind
  | .view _ => .validation
  | .store _ => .execution

def isRetriable (e : EngineError) : Bool :=
  e.kind == .execution

end EngineError

end Vacancy
