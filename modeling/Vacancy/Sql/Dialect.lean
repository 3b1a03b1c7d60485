import Vacancy.Sql.Literal

/-!
What the three dialects of SQL spell differently: truth values and placeholders. Quoting is common
to them.
-/

namespace Vacancy.Sql

inductive Dialect where
  | sqlite
  | postgres
  | duckdb
  deriving DecidableEq, Inhabited

def doubled (q : Char) : List Char → List Char
  | [] => []
  | c :: cs => if c = q then q :: q :: doubled q cs else c :: doubled q cs

def quotedBy (q : Char) (s : String) : String :=
  String.ofList (q :: doubled q s.toList ++ [q])

def quoteIdentifier : String → String :=
  quotedBy '"'

def quoteText : String → String :=
  quotedBy '\x27'

namespace Dialect

def name : Dialect → String
  | .sqlite => "sqlite"
  | .postgres => "postgres"
  | .duckdb => "duckdb"

def ofName? : String → Option Dialect
  | "sqlite" => some .sqlite
  | "postgres" => some .postgres
  | "duckdb" => some .duckdb
  | _ => none

def toJson (d : Dialect) : Json :=
  .text d.name

def ofJson? (j : Json) : Option Dialect :=
  j.case?.bind ofName?

def truth : Dialect → Bool → String
  | .sqlite, b => if b then "1" else "0"
  | _, b => if b then "true" else "false"

def placeholder : Dialect → Nat → String
  | .postgres, i => "$" ++ toString i
  | _, _ => "?"

def literal (d : Dialect) : Literal → String
  | .null => "NULL"
  | .integer n => toString n.toInt
  | .real x => if x.isFinite then Value.layout.float x else "NULL"
  | .text s => quoteText s
  | .bool b => d.truth b

end Dialect

end Vacancy.Sql
