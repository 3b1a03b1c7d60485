import Vacancy.Parameter
import Vacancy.Row

/-!
Results of views: the points of a chart or the rows of a table.
-/

namespace Vacancy

structure Point where
  x : Value
  y : Value
  deriving BEq, Inhabited

namespace Point

def ofRow (r : Row) : Point :=
  match r.values with
  | x :: y :: _ => ⟨x, y⟩
  | [x] => ⟨x, .null⟩
  | [] => ⟨.null, .null⟩

def toJson (p : Point) : Json :=
  .object [("x", p.x.toJson), ("y", p.y.toJson)]

end Point

inductive Payload where
  /-- `paged` tells whether the page applied; it never does to buckets. -/
  | chart (data : List Point) (x y : Column) (aggregation : Aggregation) (paged : Bool)
  | table (columns : List Column) (data : List Row)

def Payload.toJson : Payload → Json
  | .chart data x y aggregation paged =>
    .object [("kind", .text "chart"), ("data", .array (data.map Point.toJson)),
      ("xAxisColumn", x.toJson), ("yAxisColumn", y.toJson), ("aggregation", aggregation.toJson),
      ("paginationApplied", .bool paged)]
  | .table columns data =>
    .object [("kind", .text "table"), ("columns", .array (columns.map Column.toJson)),
      ("data", .array (data.map Row.toJson))]

end Vacancy
