import Vacancy.View.Style

/-!
Views: a style, a grain and a list of parameters. Setting and removing go by key; readings take the
first parameter of their kind.
-/

namespace Vacancy

structure View where
  id : Option Int64 := none
  run : Int64
  style : Style
  grain : Grain
  title : String := ""
  parameters : List Parameter := []
  deriving BEq, Inhabited

namespace View

def layout? (v : View) : Option Layout :=
  Layout.of? v.style v.grain

/-- Replaces the first parameter with the key of `p`, or adds `p` at the end. -/
def insertInto (p : Parameter) : List Parameter → List Parameter
  | [] => [p]
  | q :: qs => if q.key = p.key then p :: qs else q :: insertInto p qs

def insert (v : View) (p : Parameter) : View :=
  { v with parameters := insertInto p v.parameters }

def erase (v : View) (key : String) : View :=
  { v with parameters := v.parameters.filter (·.key ≠ key) }

def column? (v : View) (slot : Slot) : Option String :=
  v.parameters.findSome? fun
    | .column s name => if s = slot then some name else none
    | _ => none

def tableColumns? (v : View) : Option (List String) :=
  v.parameters.findSome? fun
    | .table names => some names
    | _ => none

def filters (v : View) : List Condition :=
  v.parameters.filterMap fun
    | .filter _ condition => some condition
    | _ => none

def groups (v : View) : List (String × Condition) :=
  v.parameters.filterMap fun
    | .group _ label condition => some (label, condition)
    | _ => none

def aggregation (v : View) : Aggregation :=
  (v.parameters.findSome? fun
    | .aggregation a => some a
    | _ => none).getD .average

def year? (v : View) : Option YearRange :=
  v.parameters.findSome? fun
    | .year range => some range
    | _ => none

def areas (v : View) : List String :=
  (v.parameters.findSome? fun
    | .areas names => some names
    | _ => none).getD []

def toJson (v : View) : Json :=
  .object (Json.member? "id" (fun i : Int64 => .int i.toInt) v.id ++
    [("dataSetResultId", .int v.run.toInt), ("style", v.style.toJson), ("unit", v.grain.toJson),
      ("title", .text v.title), ("parameters", .array (v.parameters.map Parameter.toJson))])

def fields : List (List String) :=
  [["id"], ["dataSetResultId", "datasetResultId"], ["style"], ["unit"], ["title"], ["parameters"]]

def ofJson? (j : Json) : Option View :=
  match j.record? fields with
  | some [id, run, style, grain, title, parameters] => do
    let id ← Json.optional Json.int64? id
    let run ← Json.required Json.int64? run
    let style ← Json.required Style.ofJson? style
    let grain ← Json.required Grain.ofJson? grain
    let title ← Json.defaulted "" Json.text? title
    let parameters ← Json.defaulted [] (Json.list? Parameter.ofJson?) parameters
    return { id, run, style, grain, title, parameters }
  | _ => none

def wanted : Json.Wanted :=
  .ofFields fields [("parameters", .items Parameter.wanted)]

def read? (s : String) : Option View :=
  (Json.readPart? wanted s).bind ofJson?

end View

end Vacancy
