import Vacancy.Catalog
import Vacancy.Parameter

/-!
How a view is drawn, and which of its parameters that reads.
-/

namespace Vacancy

inductive Style where
  | bar
  | line
  | pie
  | table
  | map
  deriving DecidableEq, Inhabited

namespace Style

def name : Style → String
  | .bar => "bar"
  | .line => "line"
  | .pie => "pie"
  | .table => "table"
  | .map => "map"

def ofName? : String → Option Style
  | "bar" => some .bar
  | "line" => some .line
  | "pie" => some .pie
  | "table" => some .table
  | "map" => some .map
  | _ => none

def toJson (s : Style) : Json :=
  .text s.name

def ofJson? (j : Json) : Option Style :=
  j.case?.bind ofName?

@[simp] theorem ofName?_name (s : Style) : ofName? s.name = some s := by
  cases s <;> rfl

end Style

inductive Layout where
  | chart (x y : Slot)
  | table
  /-- Drawn from batches of rows, never from a view's own result. -/
  | map
  deriving DecidableEq

namespace Layout

def of? : Style → Grain → Option Layout
  | .bar, .area => some (.chart .xAxis .yAxis)
  | .line, .building => some (.chart .xAxis .yAxis)
  | .pie, .building => some (.chart .label .value)
  | .table, _ => some .table
  | .map, _ => some .map
  | _, _ => none

def acceptsGroups : Layout → Bool
  | .chart _ _ => true
  | _ => false

def acceptsFilters : Layout → Bool
  | .map => false
  | _ => true

end Layout

end Vacancy
