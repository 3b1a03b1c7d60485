import Vacancy.Json.Fields
import Vacancy.Json.Reader
import Vacancy.Value

/-!
Conditions of filters and groups, as they are saved. A condition may combine a type with an
operation that has no meaning for it, or lack its operands; whether it is usable is decided when a
plan is made.
-/

namespace Vacancy

inductive OperandType where
  | text
  | integer
  | float
  | integerRange
  | floatRange
  | date
  | dateRange
  | boolean
  | unrecognized
  deriving DecidableEq, Inhabited

namespace OperandType

def name : OperandType → String
  | .text => "text"
  | .integer => "integer"
  | .float => "float"
  | .integerRange => "integerRange"
  | .floatRange => "floatRange"
  | .date => "date"
  | .dateRange => "dateRange"
  | .boolean => "boolean"
  | .unrecognized => "unrecognized"

def ofName : String → OperandType
  | "text" => .text
  | "integer" => .integer
  | "float" => .float
  | "integerRange" => .integerRange
  | "floatRange" => .floatRange
  | "date" => .date
  | "dateRange" => .dateRange
  | "boolean" => .boolean
  | _ => .unrecognized

def title : OperandType → String
  | .text => "Text"
  | .integer => "Integer"
  | .float => "Float"
  | .integerRange => "IntegerRange"
  | .floatRange => "FloatRange"
  | .date => "Date"
  | .dateRange => "DateRange"
  | .boolean => "Boolean"
  | .unrecognized => "Unrecognized"

def toJson (t : OperandType) : Json :=
  .text t.name

def ofJson? (j : Json) : Option OperandType :=
  j.case?.map ofName

def isRange : OperandType → Bool
  | .integerRange | .floatRange | .dateRange => true
  | _ => false

/-- Operands that are written in percent for a percent column. -/
def isFloat : OperandType → Bool
  | .float | .floatRange => true
  | _ => false

@[simp] theorem ofName_name (t : OperandType) : ofName t.name = t := by
  cases t <;> rfl

end OperandType

inductive Operation where
  | eq
  | notEq
  | gt
  | lt
  | gte
  | lte
  | contains
  | notContains
  | range
  | isTrue
  | isFalse
  | unrecognized
  deriving DecidableEq, Inhabited

namespace Operation

def name : Operation → String
  | .eq => "eq"
  | .notEq => "noteq"
  | .gt => "gt"
  | .lt => "lt"
  | .gte => "gte"
  | .lte => "lte"
  | .contains => "contains"
  | .notContains => "notContains"
  | .range => "range"
  | .isTrue => "isTrue"
  | .isFalse => "isFalse"
  | .unrecognized => "Unrecognized"

def ofName : String → Operation
  | "eq" => .eq
  | "noteq" => .notEq
  | "gt" => .gt
  | "lt" => .lt
  | "gte" => .gte
  | "lte" => .lte
  | "contains" => .contains
  | "notContains" => .notContains
  | "range" => .range
  | "isTrue" => .isTrue
  | "isFalse" => .isFalse
  | _ => .unrecognized

def title : Operation → String
  | .eq => "Eq"
  | .notEq => "NotEq"
  | .gt => "Gt"
  | .lt => "Lt"
  | .gte => "Gte"
  | .lte => "Lte"
  | .contains => "Contains"
  | .notContains => "NotContains"
  | .range => "Range"
  | .isTrue => "IsTrue"
  | .isFalse => "IsFalse"
  | .unrecognized => "Unrecognized"

def toJson (o : Operation) : Json :=
  .text o.name

def ofJson? (j : Json) : Option Operation :=
  j.case?.map ofName

@[simp] theorem ofName_name (o : Operation) : ofName o.name = o := by
  cases o <;> rfl

end Operation

/-- Filters name the column they restrict; groups apply to the column of their chart's x axis. -/
structure Condition where
  column : Option String := none
  type : OperandType
  operation : Operation
  value : Option Value := none
  start : Option Value := none
  last : Option Value := none
  includesStart : Option Bool := none
  includesLast : Option Bool := none
  deriving BEq, Inhabited

namespace Condition

def compare (type : OperandType) (operation : Operation) (value : Value) : Condition :=
  { type, operation, value := some value }

def range (type : OperandType) (start : Value) (includesStart : Bool) (last : Value)
    (includesLast : Bool) : Condition :=
  { type, operation := .range, start := some start, last := some last,
    includesStart := some includesStart, includesLast := some includesLast }

def boolean (b : Bool) : Condition :=
  { type := .boolean, operation := if b then .isTrue else .isFalse }

def on (c : Condition) (column : String) : Condition :=
  { c with column := some column }

def mapNumber (f : Float → Float) (operand : Option Value) : Option Value :=
  match operand.bind Value.toFloat? with
  | some x => some (.real (f x))
  | none => operand

def mapNumbers (f : Float → Float) (c : Condition) : Condition :=
  { c with
    value := mapNumber f c.value
    start := mapNumber f c.start
    last := mapNumber f c.last }

def toMembers (c : Condition) : List (String × Json) :=
  Json.member? "referenceColumn" .text c.column ++
    [("referenceColumnType", c.type.toJson), ("operation", c.operation.toJson)] ++
    Json.member? "value" Value.toJson c.value ++
    Json.member? "startValue" Value.toJson c.start ++
    Json.member? "lastValue" Value.toJson c.last ++
    Json.member? "includesStart" .bool c.includesStart ++
    Json.member? "includesLast" .bool c.includesLast

def toJson (c : Condition) : Json :=
  .object c.toMembers

def fields : List (List String) :=
  [["referenceColumn"], ["referenceColumnType"], ["operation"], ["value"], ["startValue"],
    ["lastValue"], ["includesStart"], ["includesLast"]]

def ofJson? (j : Json) : Option Condition :=
  match j.record? fields with
  | some [column, type, operation, value, start, last, includesStart, includesLast] => do
    let column ← Json.optional Json.text? column
    let type ← Json.required OperandType.ofJson? type
    let operation ← Json.required Operation.ofJson? operation
    let value ← Json.optional Value.ofJson? value
    let start ← Json.optional Value.ofJson? start
    let last ← Json.optional Value.ofJson? last
    let includesStart ← Json.optional Json.bool? includesStart
    let includesLast ← Json.optional Json.bool? includesLast
    return { column, type, operation, value, start, last, includesStart, includesLast }
  | _ => none

def wanted : Json.Wanted :=
  .ofFields fields []

def read? (s : String) : Option Condition :=
  (Json.readPart? wanted s).bind ofJson?

end Condition

end Vacancy
