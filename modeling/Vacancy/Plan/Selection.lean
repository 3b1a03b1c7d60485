import Vacancy.Catalog
import Vacancy.Parameter
import Vacancy.Sql.Query

/-!
What is asked of a store: rows, or one row for each bucket of rows.
-/

namespace Vacancy

open Sql

structure Page where
  limit : Option UInt64 := none
  offset : Option UInt64 := none
  deriving DecidableEq, Inhabited

namespace Page

def toMembers (p : Page) : List (String × Json) :=
  Json.member? "limit" (fun n : UInt64 => .int n.toNat) p.limit ++
    Json.member? "offset" (fun n : UInt64 => .int n.toNat) p.offset

def toJson (p : Page) : Json :=
  .object p.toMembers

def fields : List (List String) :=
  [["limit"], ["offset"]]

def ofJson? (j : Json) : Option Page :=
  match j.record? fields with
  | some [limit, offset] => do
    let limit ← Json.optional Json.uint64? limit
    let offset ← Json.optional Json.uint64? offset
    return { limit, offset }
  | _ => none

def wanted : Json.Wanted :=
  .ofFields fields []

def read? (s : String) : Option Page :=
  (Json.readPart? wanted s).bind ofJson?

end Page

structure Selection where
  /-- All columns if none is named. -/
  columns : List String
  condition : Option Expr
  order : List OrderKey
  page : Page

def Selection.toQuery (s : Selection) (g : Grain) : Query where
  select := {
    items := if s.columns.isEmpty then [⟨.star, none⟩] else s.columns.map (⟨.column ·, none⟩)
    source := some g.table
    condition := s.condition
    order := s.order
    limit := s.page.limit
    offset := s.page.offset }

structure Bucketing where
  condition : Option Expr
  label : Expr
  rank : Expr
  aggregation : Aggregation
  valueColumn : String

namespace Bucketing

def bucketed : String := "bucketed"

def rows (b : Bucketing) (g : Grain) : Select where
  items := [⟨.column b.valueColumn, some "y"⟩, ⟨b.label, some "bucket"⟩,
    ⟨b.rank, some "bucket_rank"⟩]
  source := some g.table
  condition := b.condition

def aggregate : Aggregation → Expr
  | .average => .average (.column "y")
  | .sum => .sum (.column "y")
  | .count => .count

/--
One row for each label, in the order of the rules. Rows without a label, and those whose label is
empty, fail the comparison with the empty label.
-/
def toQuery (b : Bucketing) (g : Grain) : Query where
  select := {
    items := [⟨.column "bucket", some "x"⟩, ⟨aggregate b.aggregation, some "y"⟩]
    source := some bucketed
    condition := some (.binary .ne (.column "bucket") (.text ""))
    groups := [.column "bucket"]
    order := [⟨.least (.column "bucket_rank"), .ascending⟩] }
  common := [(bucketed, b.rows g)]

end Bucketing

def idOrder : OrderKey :=
  ⟨.column idColumn, .ascending⟩

end Vacancy
