import Vacancy.Condition
import Vacancy.Text.Blank

/-!
Parameters of views. Each is saved as an object with a key, a type and a value; what does not fit
any known combination is kept as it was.
-/

namespace Vacancy

inductive Slot where
  | xAxis
  | yAxis
  | label
  | value
  deriving DecidableEq, Inhabited

namespace Slot

def key : Slot → String
  | .xAxis => "xAxis"
  | .yAxis => "yAxis"
  | .label => "label"
  | .value => "value"

def ofKey? : String → Option Slot
  | "xAxis" => some .xAxis
  | "yAxis" => some .yAxis
  | "label" => some .label
  | "value" => some .value
  | _ => none

@[simp] theorem ofKey?_key (s : Slot) : ofKey? s.key = some s := by
  cases s <;> rfl

end Slot

inductive Aggregation where
  | average
  | sum
  | count
  deriving DecidableEq, Inhabited

namespace Aggregation

def name : Aggregation → String
  | .average => "avg"
  | .sum => "sum"
  | .count => "count"

def ofName? : String → Option Aggregation
  | "avg" => some .average
  | "sum" => some .sum
  | "count" => some .count
  | _ => none

def toJson (a : Aggregation) : Json :=
  .text a.name

def ofJson? (j : Json) : Option Aggregation :=
  j.case?.bind ofName?

@[simp] theorem ofName?_name (a : Aggregation) : ofName? a.name = some a := by
  cases a <;> rfl

end Aggregation

/-- Bounds on the year of the reference date. A side that is absent or blank is no bound. -/
structure YearRange where
  start : Option String := none
  last : Option String := none
  deriving BEq, DecidableEq, Inhabited

namespace YearRange

def nonBlank? (side : Option String) : Option String :=
  (side.map Text.trim).filter (· ≠ "")

def startDate? (r : YearRange) : Option String :=
  (nonBlank? r.start).map (· ++ "-01-01")

def lastDate? (r : YearRange) : Option String :=
  (nonBlank? r.last).map (· ++ "-12-31")

def toJson (r : YearRange) : Json :=
  .object (Json.member? "start" .text r.start ++ Json.member? "end" .text r.last)

def ofJson? (j : Json) : Option YearRange :=
  match j.record? [["start"], ["end"]] with
  | some [start, last] => do
    let start ← Json.optional Json.text? start
    let last ← Json.optional Json.text? last
    return { start, last }
  | _ => none

end YearRange

/-- A parameter as it is saved. Its value is a canonical tree. -/
structure RawParameter where
  key : String
  type : String
  value : Json
  deriving BEq, Inhabited

namespace RawParameter

def toJson (r : RawParameter) : Json :=
  .object [("key", .text r.key), ("type", .text r.type), ("value", r.value)]

def fields : List (List String) :=
  [["key"], ["type"], ["value"]]

def ofJson? (j : Json) : Option RawParameter :=
  match j.record? fields with
  | some [key, type, value] => do
    let key ← Json.required Json.text? key
    let type ← Json.required Json.text? type
    return { key, type, value := (value.getD .null).canonical }
  | _ => none

end RawParameter

inductive Parameter where
  | column (slot : Slot) (name : String)
  | table (names : List String)
  | filter (key : String) (condition : Condition)
  /-- A rule that labels rows. Of several rules the first in the list wins. -/
  | group (key : String) (label : String) (condition : Condition)
  | aggregation (a : Aggregation)
  | year (range : YearRange)
  /-- The areas that are shown; all of them if there are none. -/
  | areas (names : List String)
  /-- A parameter that is only carried along. -/
  | unknown (raw : RawParameter)
  deriving BEq, Inhabited

namespace Parameter

def tableKey : String := "columns"

def aggregationKey : String := "group_aggregation"

def yearKey : String := "year"

def areasKey : String := "area"

def filterStem : String := "filter_"

def groupStem : String := "group_"

def startsWith (stem key : String) : Bool :=
  stem.toList.isPrefixOf key.toList

def filterNamed (name : String) (condition : Condition) : Parameter :=
  .filter (filterStem ++ name) condition

def groupNamed (name label : String) (condition : Condition) : Parameter :=
  .group (groupStem ++ name) label condition

/-- Setting a parameter replaces the one with the same key. -/
def key : Parameter → String
  | .column slot _ => slot.key
  | .table _ => tableKey
  | .filter key _ => key
  | .group key _ _ => key
  | .aggregation _ => aggregationKey
  | .year _ => yearKey
  | .areas _ => areasKey
  | .unknown raw => raw.key

def splitCommas : List Char → List (List Char)
  | [] => [[]]
  | c :: cs =>
    if c = ',' then [] :: splitCommas cs
    else
      match splitCommas cs with
      | [] => [[c]]
      | w :: ws => (c :: w) :: ws

/-- The names in a list with commas. Blanks around a name, and empty names, do not count. -/
def namesOfList (list : String) : List String :=
  ((splitCommas list.toList).map fun w => Text.trim (String.ofList w)).filter (· ≠ "")

/-- A group's object holds its label beside the members of its condition. -/
def groupOfJson? (key : String) : Json → Option Parameter
  | .object ms => do
    let label ← (Json.lookup "label" ms).bind Json.text?
    let condition ← Condition.ofJson? (.object (ms.filter (·.1 ≠ "label")))
    return .group key label condition
  | _ => none

def decode? (raw : RawParameter) : Option Parameter :=
  if raw.type = "column" then
    if raw.key = tableKey then raw.value.text?.map fun list => .table (namesOfList list)
    else do
      let slot ← Slot.ofKey? raw.key
      let name ← raw.value.text?
      return .column slot name
  else if raw.type = "filter" then
    if raw.key = yearKey then (YearRange.ofJson? raw.value).map .year
    else if raw.key = areasKey then (raw.value.list? Json.text?).map .areas
    else if startsWith filterStem raw.key then
      (Condition.ofJson? raw.value).map (.filter raw.key)
    else none
  else if raw.type = "group" then
    if startsWith groupStem raw.key then groupOfJson? raw.key raw.value else none
  else if raw.type = aggregationKey then
    if raw.key = aggregationKey then (Aggregation.ofJson? raw.value).map .aggregation else none
  else none

def ofRaw (raw : RawParameter) : Parameter :=
  (decode? raw).getD (.unknown raw)

def toRaw (p : Parameter) : RawParameter :=
  match p with
  | .column slot name => ⟨slot.key, "column", .text name⟩
  | .table names => ⟨tableKey, "column", .text (",".intercalate names)⟩
  | .filter key condition => ⟨key, "filter", condition.toJson.canonical⟩
  | .group key label condition =>
    ⟨key, "group", (Json.object (condition.toMembers ++ [("label", .text label)])).canonical⟩
  | .aggregation a => ⟨aggregationKey, aggregationKey, a.toJson⟩
  | .year range => ⟨yearKey, "filter", range.toJson.canonical⟩
  | .areas names => ⟨areasKey, "filter", .array (names.map .text)⟩
  | .unknown raw => raw

def toJson (p : Parameter) : Json :=
  p.toRaw.toJson

def ofJson? (j : Json) : Option Parameter :=
  (RawParameter.ofJson? j).map ofRaw

def wanted : Json.Wanted :=
  .ofFields RawParameter.fields []

def read? (s : String) : Option Parameter :=
  (Json.readPart? wanted s).bind ofJson?

end Parameter

end Vacancy
