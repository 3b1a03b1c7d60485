import Vacancy.Failure
import Vacancy.Plan.Bucket
import Vacancy.Plan.Scope
import Vacancy.Plan.Selection
import Vacancy.View

/-!
Plans: what a view asks of a store, and what becomes of the answer.
-/

namespace Vacancy

open Sql

inductive Reading where
  | table (columns : List Column) (selection : Selection)
  | points (x y : Column) (aggregation : Aggregation) (selection : Selection)
  | buckets (x y : Column) (bucketing : Bucketing)

structure Plan where
  grain : Grain
  reading : Reading

namespace Plan

def toQuery (p : Plan) : Query :=
  match p.reading with
  | .table _ selection | .points _ _ _ selection => selection.toQuery p.grain
  | .buckets _ _ bucketing => bucketing.toQuery p.grain

def isBucketed (p : Plan) : Bool :=
  match p.reading with
  | .buckets _ _ _ => true
  | _ => false

end Plan

namespace View

def scope (v : View) : Scope :=
  ((Scope.ofRun v.grain v.run).year v.year?).areas v.areas |>.filters v.filters

def catalogColumn (v : View) (name : String) : Except ViewError Column :=
  match v.grain.column? name with
  | some c => .ok c
  | none => .error (.unknownColumn name v.grain)

def axis (v : View) (slot : Slot) : Except ViewError Column :=
  match v.column? slot with
  | some name => v.catalogColumn name
  | none => .error (.missingSlot slot.key)

def planTable (v : View) (page : Page) : Except ViewError Plan :=
  match v.tableColumns? with
  | none | some [] => .error (.missingSlot Parameter.tableKey)
  | some names => do
    let columns ← names.mapM v.catalogColumn
    let selection := {
      columns := columns.map (·.name)
      condition := v.scope.predicate
      order := [idOrder]
      page }
    return ⟨v.grain, .table columns selection⟩

def chartOrder (v : View) : List OrderKey :=
  match v.style with
  | .bar => [⟨.column dateColumn, .ascending⟩, idOrder]
  | _ => [idOrder]

def buckets (v : View) (x : Column) : Buckets :=
  Buckets.build x.name (v.groups.map fun (label, c) => (label, c.rescaled (some x)))

def points (v : View) (x y : Column) (page : Page) : Reading :=
  if v.groups.isEmpty then
    .points x y v.aggregation {
      columns := [x.name, y.name]
      condition := v.scope.predicate
      order := v.chartOrder
      page }
  else
    .buckets x y {
      condition := v.scope.predicate
      label := (v.buckets x).label
      rank := (v.buckets x).rank
      aggregation := v.aggregation
      valueColumn := y.name }

def planChart (v : View) (xSlot ySlot : Slot) (page : Page) : Except ViewError Plan := do
  let x ← v.axis xSlot
  let y ← v.axis ySlot
  return ⟨v.grain, v.points x y page⟩

/-- The plan of a view; a page stretches over its rows, never over its buckets. -/
def plan (v : View) (page : Page) : Except ViewError Plan :=
  if v.run ≤ 0 then .error .missingRun
  else
    match v.layout? with
    | some (.chart x y) => v.planChart x y page
    | some .table => v.planTable page
    | some .map | none => .error (.unsupported v.style v.grain)

/-- The text of the view's query. Nothing ever executes it. -/
def explain (v : View) (page : Page) (d : Dialect) : Except ViewError String := do
  let plan ← v.plan page
  return plan.toQuery.inline d

end View

end Vacancy
