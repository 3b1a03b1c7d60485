import Vacancy.Decimal.Word
import Vacancy.Json.Basic

/-!
Taking JSON trees apart. A record is an object, in which unknown keys are ignored and a known key
may stand once, or an array of its fields in order, which may end early.
-/

namespace Vacancy.Json

def text? : Json → Option String
  | .text s => some s
  | _ => none

def bool? : Json → Option Bool
  | .bool b => some b
  | _ => none

def int64? : Json → Option Int64
  | .int n => Decimal.int64? n
  | _ => none

def uint64? : Json → Option UInt64
  | .int n => Decimal.uint64? n
  | _ => none

def list? (item? : Json → Option α) : Json → Option (List α)
  | .array items => items.mapM item?
  | _ => none

/-- The name of an enumeration's case, bare or as an object that gives it nothing. -/
def case? : Json → Option String
  | .text s => some s
  | .object [(s, .null)] => some s
  | _ => none

/-- The field among the members, under any of its spellings. Two of them are refused. -/
def field? (spellings : List String) (ms : List (String × Json)) : Option (Option Json) :=
  match ms.filter fun m => spellings.contains m.1 with
  | [] => some none
  | [m] => some (some m.2)
  | _ => none

def record? (fields : List (List String)) : Json → Option (List (Option Json))
  | .object ms => fields.mapM fun spellings => field? spellings ms
  | .array items =>
    if items.length ≤ fields.length then
      some (items.map some ++ List.replicate (fields.length - items.length) none)
    else none
  | _ => none

def required (read? : Json → Option α) (field : Option Json) : Option α :=
  field.bind read?

def defaulted (value : α) (read? : Json → Option α) : Option Json → Option α
  | none => some value
  | some j => read? j

def optional (read? : Json → Option α) : Option Json → Option (Option α)
  | none | some .null => some none
  | some j => (read? j).map some

def member? (k : String) (write : α → Json) (value : Option α) : List (String × Json) :=
  match value with
  | some a => [(k, write a)]
  | none => []

end Vacancy.Json
