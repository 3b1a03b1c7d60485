/-!
Why a database refuses a statement before it runs it.
-/

namespace Vacancy.Sql

inductive Fault where
  /-- No token begins with the text. -/
  | unrecognized (text : String)
  /-- The token may not stand where it stands. -/
  | unexpected (text : String)
  | manyArguments (function : String)
  | manyParameters
  | deepExpression
  | manyColumns
  | manyTerms
  /-- An order by the number of a column that is not there. -/
  | termOutOfRange (term columns : Nat)
  | windowFunction (name : String)
  /-- An aggregate of rows of which there is no group. -/
  | strayAggregate (name : String)
  /-- An aggregate of a group, but where single rows are looked at. -/
  | earlyAggregate (name : String)
  /-- An aggregate inside of another, where it stands under the name of an item. -/
  | namedAggregate (name : String)
  | noFunction (name : String)
  | wrongArguments (function : String)
  | likelihood (function : String)
  deriving DecidableEq

def ordinal (n : Nat) : String :=
  let ending :=
    match n % 10, n / 10 % 10 with
    | _, 1 => "th"
    | 1, _ => "st"
    | 2, _ => "nd"
    | 3, _ => "rd"
    | _, _ => "th"
  toString n ++ ending

def Fault.message : Fault → String
  | .unrecognized text => "unrecognized token: \"" ++ text ++ "\""
  | .unexpected text => "near \"" ++ text ++ "\": syntax error"
  | .manyArguments function => "too many arguments on function " ++ function
  | .manyParameters => "too many SQL variables"
  | .deepExpression => "Expression tree is too large (maximum depth 1000)"
  | .manyColumns => "too many columns in result set"
  | .manyTerms => "too many terms in ORDER BY clause"
  | .termOutOfRange term columns =>
    ordinal term ++ " ORDER BY term out of range - should be between 1 and " ++ toString columns
  | .windowFunction name => "misuse of window function " ++ name ++ "()"
  | .strayAggregate name => "misuse of aggregate function " ++ name ++ "()"
  | .earlyAggregate name => "misuse of aggregate: " ++ name ++ "()"
  | .namedAggregate name => "misuse of aliased aggregate " ++ name
  | .noFunction name => "no such function: " ++ name
  | .wrongArguments function => "wrong number of arguments to function " ++ function ++ "()"
  | .likelihood function =>
    "second argument to " ++ function ++ "() must be a constant between 0.0 and 1.0"

structure FaultPlace where
  statement : String
  offset : Nat
  deriving DecidableEq

end Vacancy.Sql
