import Vacancy.Proofs.Validation

/-!
Views of one shape. They show the same of rows, whichever rows their scopes ask for.
-/

namespace Vacancy

open Sql

namespace View

def ground (v : View) : Scope :=
  ((Scope.ofRun v.grain v.run).year v.year?).areas v.areas

theorem terms_scope (v : View) :
    v.scope.terms = v.ground.terms ++ v.filters.filterMap (·.filterTerm? v.grain) :=
  rfl

/-- Two views that agree but for their scopes and groups. -/
structure SameShape (v w : View) : Prop where
  run : v.run = w.run
  style : v.style = w.style
  grain : v.grain = w.grain
  columns : ∀ slot, v.column? slot = w.column? slot
  table : v.tableColumns? = w.tableColumns?
  aggregation : v.aggregation = w.aggregation

namespace SameShape

variable {v w : View} {page : Page} {d : Database}

theorem symm (h : v.SameShape w) : w.SameShape v :=
  ⟨h.run.symm, h.style.symm, h.grain.symm, fun slot => (h.columns slot).symm, h.table.symm,
    h.aggregation.symm⟩

theorem layout?_eq (h : v.SameShape w) : v.layout? = w.layout? := by
  rw [layout?, layout?, h.style, h.grain]

theorem catalogColumn_eq (h : v.SameShape w) : v.catalogColumn = w.catalogColumn := by
  funext name
  rw [catalogColumn, catalogColumn, h.grain]

theorem axis_eq (h : v.SameShape w) (slot : Slot) : v.axis slot = w.axis slot := by
  rw [axis, axis, h.columns, h.catalogColumn_eq]

theorem chartOrder_eq (h : v.SameShape w) : v.chartOrder = w.chartOrder := by
  rw [chartOrder, chartOrder, h.style]

theorem before (h : v.SameShape w) {a b : Row} (hab : v.Before a b) : w.Before a b := by
  unfold Before at hab ⊢
  rwa [← h.style]

theorem plan_eq (h : v.SameShape w) (hscope : v.scope.predicate = w.scope.predicate)
    (hempty : v.groups.isEmpty = w.groups.isEmpty) (hbuckets : ∀ x, v.buckets x = w.buckets x)
    (page : Page) : v.plan page = w.plan page := by
  simp only [plan, planTable, planChart, points, h.run, h.style, h.grain, h.layout?_eq, h.axis_eq,
    h.table, h.catalogColumn_eq, h.aggregation, h.chartOrder_eq, hscope, hempty, hbuckets]

theorem plan_eq_error (h : v.SameShape w) {e : ViewError} (hplan : v.plan page = .error e) :
    w.plan page = .error e := by
  -- none of the checks looks at the scope
  rw [plan_eq_error_iff] at hplan ⊢
  exact hplan.congr h.grain h.columns h.run h.style h.table

theorem plan_eq_ok (h : v.SameShape w) {p : Plan} (hplan : v.plan page = .ok p) :
    ∃ q, w.plan page = .ok q := by
  cases hq : w.plan page with
  | ok q => exact ⟨q, rfl⟩
  | error e =>
    rw [h.symm.plan_eq_error hq] at hplan
    contradiction

theorem presents (h : v.SameShape w) (hgroups : v.groups = w.groups) {rows : List Row}
    {P : Payload} (hP : v.Presents rows P) : w.Presents rows P := by
  cases hP with
  | table hlayout hnames hcolumns =>
    rw [h.layout?_eq] at hlayout
    rw [h.table] at hnames
    rw [h.catalogColumn_eq] at hcolumns
    exact .table hlayout hnames hcolumns
  | points hlayout hx hy hnone =>
    rw [h.layout?_eq] at hlayout
    rw [h.axis_eq] at hx hy
    rw [hgroups] at hnone
    rw [h.aggregation]
    exact .points hlayout hx hy hnone

theorem rules_eq (hgroups : v.groups = w.groups) (x : Column) : v.rules x = w.rules x := by
  rw [rules, rules, hgroups]

theorem shows (h : v.SameShape w) (hgroups : v.groups = w.groups) (hbase : v.base d = w.base d)
    {X : Except EngineError Payload} (hX : v.Shows page d X) : w.Shows page d X := by
  cases hX with
  | rows hperm hsorted hpayload =>
    rw [hbase] at hperm
    exact .rows hperm (hsorted.imp h.before) (h.presents hgroups hpayload)
  | series hlayout hx hy hne hlists =>
    rw [h.layout?_eq] at hlayout
    rw [h.axis_eq] at hx hy
    rw [hgroups] at hne
    rw [h.grain, hbase, rules_eq hgroups] at hlists ⊢
    rw [h.aggregation]
    exact .series hlayout hx hy hne hlists

end SameShape

end View

end Vacancy
