import Vacancy.Payload

/-!
Results as they are displayed. Fractions of percent columns become percentages with one decimal,
which is cut off and not rounded.
-/

namespace Vacancy

namespace Display

def layout : Decimal.Layout where
  low := 0
  high := none
  fraction := false
  mantissaFraction := false
  plus := false
  exponentWidth := 1

def truncatePercent (x : Float) : Float :=
  (x * 1000.0).floor / 10.0

/-- Rounded to the nearest multiple of `1 / factor`, a half away from zero. -/
def roundTo (factor x : Float) : Float :=
  (x * factor).round / factor

/-- The y value of a point. Only averages of percent columns become percentages. -/
def chartValue (y : Value) (c : Column) (a : Aggregation) : Value :=
  let percent := c.isPercent && a == .average
  match y with
  | .null => .integer 0
  | .text s => .text s
  | .integer n => if percent then .real (truncatePercent (Float.ofInt n.toInt)) else .integer n
  | .real x => .real (if percent then truncatePercent x else roundTo 10.0 x)

def number (c : Column) (x : Float) : String :=
  layout.float (if c.isPercent then truncatePercent x else roundTo 100.0 x)

def cell (v : Value) (c : Column) : String :=
  if v.isNull then ""
  else if c.type = .boolean then if v.toFloat?.any (· != 0.0) then "○" else "×"
  else
    match v with
    | .null => ""
    | .text s => s
    | .integer n => if c.isPercent then number c (Float.ofInt n.toInt) else toString n.toInt
    | .real x => number c x

def row (columns : List Column) (r : Row) : Row where
  cells := r.cells.map fun (name, v) =>
    match columns.find? (·.name == name) with
    | some c => (name, .text (cell v c))
    | none => (name, .text (v.toText?.getD ""))

end Display

def Payload.displayed : Payload → Payload
  | .chart data x y a paged =>
    .chart (data.map fun p => ⟨p.x, Display.chartValue p.y y a⟩) x y a paged
  | .table columns data => .table columns (data.map (Display.row columns))

end Vacancy
