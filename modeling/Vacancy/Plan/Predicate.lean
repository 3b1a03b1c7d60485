import Vacancy.Condition
import Vacancy.Sql.Expr
import Vacancy.Text.Quoted

/-!
What a condition demands of a column. A condition that cannot be used degrades: it has a reason
instead of a predicate, and restricts nothing.
-/

namespace Vacancy

open Sql

inductive Comparison where
  | eq
  | ne
  | gt
  | lt
  | gte
  | lte
  deriving DecidableEq

namespace Comparison

def ofOperation? : Operation → Option Comparison
  | .eq => some .eq
  | .notEq => some .ne
  | .gt => some .gt
  | .lt => some .lt
  | .gte => some .gte
  | .lte => some .lte
  | _ => none

def operator : Comparison → Operator
  | .eq => .eq
  | .ne => .ne
  | .gt => .gt
  | .lt => .lt
  | .gte => .gte
  | .lte => .lte

end Comparison

structure Bound where
  value : Literal
  inclusive : Bool

inductive Predicate where
  | compare (column : String) (comparison : Comparison) (value : Literal)
  | like (column pattern : String) (negated : Bool)
  | range (column : String) (lower upper : Bound)

inductive Degradation where
  | illegalOperation (type : OperandType) (operation : Operation)
  | missingValue
  | notNumeric (text : String)
  | incompleteRange
  | missingColumn
  | unknownColumn (name : String)
  deriving DecidableEq

def Degradation.message : Degradation → String
  | .illegalOperation type operation =>
    "operation " ++ operation.title ++ " is not defined for " ++ type.title
  | .missingValue => "condition has no value"
  | .notNumeric text => "value Text(" ++ Text.quoted text ++ ") is not numeric"
  | .incompleteRange => "range needs both bounds and both inclusivity flags"
  | .missingColumn => "condition names no column"
  | .unknownColumn name => "column '" ++ name ++ "' is not in the catalog"

namespace Predicate

def compared (column : String) (comparison : Comparison) (value : Literal) : Expr :=
  .binary comparison.operator (.column column) (.literal value)

def toExpr : Predicate → Expr
  | .compare column comparison value => compared column comparison value
  | .like column pattern negated => .like (.column column) (.text pattern) negated
  | .range column lower upper =>
    .group (.and
      (compared column (if lower.inclusive then .gte else .gt) lower.value)
      (compared column (if upper.inclusive then .lte else .lt) upper.value))

end Predicate

namespace Condition

def textOperand (operand : Option Value) : Except Degradation Literal :=
  match operand.bind Value.toText? with
  | some s => .ok (.text s)
  | none => .error .missingValue

def numberOperand : Option Value → Except Degradation Literal
  | none | some .null => .error .missingValue
  | some (.integer n) => .ok (.integer n)
  | some (.real x) => .ok (.real x)
  | some (.text s) =>
    match Literal.ofNumber? (.text s) with
    | some l => .ok l
    | none => .error (.notNumeric s)

def bounds (c : Condition) (operand : Option Value → Except Degradation Literal) :
    Except Degradation (Bound × Bound) :=
  match c.start.filter (!·.isNull), c.last.filter (!·.isNull), c.includesStart, c.includesLast with
  | some start, some last, some includesStart, some includesLast => do
    let lower ← operand (some start)
    let upper ← operand (some last)
    return (⟨lower, includesStart⟩, ⟨upper, includesLast⟩)
  | _, _, _, _ => .error .incompleteRange

def compileComparison (c : Condition) (column : String)
    (operand : Option Value → Except Degradation Literal) : Except Degradation Predicate :=
  match Comparison.ofOperation? c.operation with
  | some comparison => do
    let value ← operand c.value
    return .compare column comparison value
  | none => .error (.illegalOperation c.type c.operation)

def compileRange (c : Condition) (column : String)
    (operand : Option Value → Except Degradation Literal) : Except Degradation Predicate := do
  let (lower, upper) ← c.bounds operand
  return .range column lower upper

def compileContains (c : Condition) (column : String) (negated : Bool) :
    Except Degradation Predicate :=
  match c.value.bind Value.toText? with
  | some s => .ok (.like column ("%" ++ s ++ "%") negated)
  | none => .error .missingValue

def compile (c : Condition) (column : String) : Except Degradation Predicate :=
  match c.type, c.operation with
  | .text, .eq | .text, .notEq => c.compileComparison column textOperand
  | .text, .contains => c.compileContains column false
  | .text, .notContains => c.compileContains column true
  | .integer, _ | .float, _ => c.compileComparison column numberOperand
  | .date, _ => c.compileComparison column textOperand
  | .integerRange, .range | .floatRange, .range => c.compileRange column numberOperand
  | .dateRange, .range => c.compileRange column textOperand
  | .boolean, .isTrue => .ok (.compare column .eq (.integer 1))
  | .boolean, .isFalse => .ok (.compare column .eq (.integer 0))
  | type, operation => .error (.illegalOperation type operation)

def toExpr? (c : Condition) (column : String) : Option Expr :=
  (c.compile column).toOption.map Predicate.toExpr

end Condition

end Vacancy
