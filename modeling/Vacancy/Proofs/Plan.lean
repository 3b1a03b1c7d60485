import Vacancy.Plan
import Vacancy.Proofs.Bucket

/-!
What the plan of a view asks for: rows of the run that the view is about, in columns of its grain.
-/

namespace Vacancy

open Sql

namespace Buckets

theorem isItem_chosen {names : List String} {arms : List (Expr × Literal)}
    (h : ∀ a ∈ arms, a.1.IsTerm names) :
    (chosen (arms.map fun a => (a.1, .literal a.2))).IsItem names := by
  unfold chosen
  split
  · exact .literal
  · exact .choice h

theorem isTerm_of_mem_rules {g : Grain} {column : String} (hcolumn : column ∈ g.names)
    {groups : List (String × Condition)} :
    ∀ rule ∈ rules column groups, rule.1.IsTerm g.names := by
  intro rule hrule
  obtain ⟨⟨label, c⟩, _, hc⟩ := List.mem_filterMap.1 hrule
  obtain ⟨e, he, rfl⟩ := Option.map_eq_some_iff.1 hc
  exact Condition.isTerm_of_toExpr? he hcolumn

theorem label_ofRules (rules : List (Expr × String)) :
    (ofRules rules).label =
      chosen ((rules.map fun r => (r.1, Literal.text r.2)).map fun a => (a.1, .literal a.2)) := by
  simp only [ofRules, List.map_map]
  rfl

theorem rank_ofRules (rules : List (Expr × String)) :
    (ofRules rules).rank =
      chosen ((rules.zipIdx.map fun r => (r.1.1, Literal.integer (Int64.ofNat r.2))).map
        fun a => (a.1, .literal a.2)) := by
  simp only [ofRules, List.map_map]
  rfl

end Buckets

namespace Bucketing

/-- Buckets that rules sort the rows of one run into. -/
structure ByRules (g : Grain) (run : Int64) (rules : List (Expr × String)) (b : Bucketing) :
    Prop where
  condition : ∃ c, b.condition = some c ∧ c.IsChain g.names ∧ Scope.runTerm run ∈ c.terms
  terms : ∀ rule ∈ rules, rule.1.IsTerm g.names
  label : b.label = (Buckets.ofRules rules).label
  rank : b.rank = (Buckets.ofRules rules).rank
  valueColumn : b.valueColumn ∈ g.names

theorem ByRules.ofRun {g : Grain} {run : Int64} {rules : List (Expr × String)} {b : Bucketing}
    (h : b.ByRules g run rules) : b.OfRun g run := by
  refine ⟨h.condition, ?_, ?_, h.valueColumn⟩
  · rw [h.label, Buckets.label_ofRules]
    apply Buckets.isItem_chosen
    intro a ha
    obtain ⟨rule, hrule, rfl⟩ := List.mem_map.1 ha
    exact h.terms rule hrule
  · rw [h.rank, Buckets.rank_ofRules]
    apply Buckets.isItem_chosen
    intro a ha
    obtain ⟨rule, hrule, rfl⟩ := List.mem_map.1 ha
    exact h.terms rule.1 (List.fst_mem_of_mem_zipIdx hrule)

end Bucketing

def Reading.terms : Reading → List Expr
  | .table _ s | .points _ _ _ s => s.condition.elim [] Expr.terms
  | .buckets _ _ b => b.condition.elim [] Expr.terms ++ b.label.conditions

namespace Plan

def OfRun (run : Int64) (p : Plan) : Prop :=
  match p.reading with
  | .table _ selection | .points _ _ _ selection =>
    (selection.toQuery p.grain).select.Reads p.grain run
  | .buckets _ _ bucketing => bucketing.OfRun p.grain run

end Plan

namespace View

variable {v : View}

theorem name_mem_names_of_catalogColumn {name : String} {c : Column}
    (h : v.catalogColumn name = .ok c) : c.name ∈ v.grain.names := by
  unfold catalogColumn at h
  split at h
  · next c' hc =>
    simp only [Except.ok.injEq] at h
    subst h
    apply Grain.mem_names_of_has
    have := Grain.name_of_column? hc
    subst this
    simp [Grain.has, hc]
  · simp at h

theorem name_mem_names_of_axis {slot : Slot} {c : Column} (h : v.axis slot = .ok c) :
    c.name ∈ v.grain.names := by
  unfold axis at h
  split at h
  · exact name_mem_names_of_catalogColumn h
  · simp at h

theorem names_of_axes {xSlot ySlot : Slot} {x y : Column} (hx : v.axis xSlot = .ok x)
    (hy : v.axis ySlot = .ok y) : ∀ name ∈ [x.name, y.name], name ∈ v.grain.names := by
  intro name hname
  simp only [List.mem_cons, List.not_mem_nil, or_false] at hname
  rcases hname with rfl | rfl
  · exact name_mem_names_of_axis hx
  · exact name_mem_names_of_axis hy

theorem names_of_mapM_catalogColumn {names : List String} {columns : List Column}
    (h : names.mapM v.catalogColumn = .ok columns) :
    ∀ name ∈ columns.map (·.name), name ∈ v.grain.names := by
  induction names generalizing columns with
  | nil =>
    simp only [List.mapM_nil, pure, Except.pure, Except.ok.injEq] at h
    simp [← h]
  | cons name names ih =>
    obtain ⟨c, cs, hc, hcs, rfl⟩ := mapM_cons_eq_ok_iff.1 h
    rw [List.map_cons, List.forall_mem_cons]
    exact ⟨name_mem_names_of_catalogColumn hc, ih hcs⟩

def rules (v : View) (x : Column) : List (Expr × String) :=
  Buckets.rules x.name (v.groups.map fun (label, c) => (label, c.rescaled (some x)))

theorem isTerm_of_mem_rules {x : Column} (hx : x.name ∈ v.grain.names) :
    ∀ rule ∈ v.rules x, rule.1.IsTerm v.grain.names :=
  Buckets.isTerm_of_mem_rules hx

theorem chartOrder_mem_names (v : View) :
    ∀ k ∈ v.chartOrder, ∃ name ∈ v.grain.names, k.expr = .column name := by
  intro k hk
  unfold chartOrder at hk
  split at hk
  · rcases List.mem_cons.1 hk with rfl | hk
    · exact ⟨dateColumn, v.grain.dateColumn_mem_names, rfl⟩
    · exact idOrder_mem_names v.grain k hk
  · exact idOrder_mem_names v.grain k hk

theorem chartOrder_of_ne_bar (hstyle : v.style ≠ .bar) : v.chartOrder = [idOrder] := by
  unfold chartOrder
  split
  · contradiction
  · rfl

def selection (v : View) (names : List String) (page : Page) : Selection where
  columns := names
  condition := v.scope.predicate
  order := v.chartOrder
  page := page

def bucketing (v : View) (x y : Column) : Bucketing where
  condition := v.scope.predicate
  label := (v.buckets x).label
  rank := (v.buckets x).rank
  aggregation := v.aggregation
  valueColumn := y.name

theorem reads_selection {names : List String} (hnames : ∀ name ∈ names, name ∈ v.grain.names)
    (page : Page) :
    ((v.selection names page).toQuery v.grain).select.Reads v.grain v.run :=
  v.ofRun_scope.reads_toQuery rfl hnames v.chartOrder_mem_names

theorem byRules_buckets {x y : Column} (hx : x.name ∈ v.grain.names)
    (hy : y.name ∈ v.grain.names) :
    (v.bucketing x y).ByRules v.grain v.run (v.rules x) := by
  constructor
  case condition => exact v.ofRun_scope.predicate_eq
  case terms => exact isTerm_of_mem_rules hx
  case label => rfl
  case rank => rfl
  case valueColumn => exact hy

/-! ### Plans -/

/-- The plans of a view whose parameters are complete. -/
inductive Planned (v : View) (page : Page) : Plan → Prop where
  | table {names : List String} {columns : List Column} (hlayout : v.layout? = some .table)
      (hnames : v.tableColumns? = some names) (hne : names ≠ [])
      (hcolumns : names.mapM v.catalogColumn = .ok columns) :
      Planned v page ⟨v.grain, .table columns (v.selection (columns.map (·.name)) page)⟩
  | points {xSlot ySlot : Slot} {x y : Column} (hlayout : v.layout? = some (.chart xSlot ySlot))
      (hx : v.axis xSlot = .ok x) (hy : v.axis ySlot = .ok y) (hgroups : v.groups = []) :
      Planned v page ⟨v.grain, .points x y v.aggregation (v.selection [x.name, y.name] page)⟩
  | buckets {xSlot ySlot : Slot} {x y : Column} (hlayout : v.layout? = some (.chart xSlot ySlot))
      (hx : v.axis xSlot = .ok x) (hy : v.axis ySlot = .ok y) (hgroups : v.groups ≠ []) :
      Planned v page ⟨v.grain, .buckets x y (v.bucketing x y)⟩

variable {page : Page} {p : Plan}

theorem planChart_eq_ok {xSlot ySlot : Slot} (h : v.planChart xSlot ySlot page = .ok p) :
    ∃ x y, v.axis xSlot = .ok x ∧ v.axis ySlot = .ok y ∧ p = ⟨v.grain, v.points x y page⟩ := by
  obtain ⟨x, hx, h⟩ := bind_eq_ok_iff.1 h
  obtain ⟨y, hy, h⟩ := bind_eq_ok_iff.1 h
  exact ⟨x, y, hx, hy, (Except.ok.inj h).symm⟩

theorem style_of_table (h : v.layout? = some .table) : v.style ≠ .bar := by
  intro hstyle
  rw [layout?, hstyle] at h
  cases hgrain : v.grain <;> simp [hgrain, Layout.of?] at h

theorem points_of_no_groups (hgroups : v.groups = []) (x y : Column) (page : Page) :
    v.points x y page = .points x y v.aggregation (v.selection [x.name, y.name] page) := by
  rw [points, hgroups]
  rfl

theorem points_of_groups (hgroups : v.groups ≠ []) (x y : Column) (page : Page) :
    v.points x y page = .buckets x y (v.bucketing x y) := by
  rw [points, if_neg]
  · rfl
  · rw [List.isEmpty_iff]
    exact hgroups

theorem planTable_eq_ok_iff (hlayout : v.layout? = some .table) :
    v.planTable page = .ok p ↔
      ∃ names columns, v.tableColumns? = some names ∧ names ≠ [] ∧
        names.mapM v.catalogColumn = .ok columns ∧
          p = ⟨v.grain, .table columns (v.selection (columns.map (·.name)) page)⟩ := by
  have horder := chartOrder_of_ne_bar (style_of_table hlayout)
  unfold planTable
  split
  · next h => simp [h]
  · next h => simp [h]
  · next names hne h =>
    simp only [h, Option.some.injEq]
    constructor
    · intro hp
      obtain ⟨columns, hcolumns, hp⟩ := bind_eq_ok_iff.1 hp
      refine ⟨names, columns, rfl, ?_, hcolumns, ?_⟩
      · rintro rfl
        exact hne rfl
      · rw [← Except.ok.inj hp, selection, horder]
    · rintro ⟨_, columns, rfl, _, hcolumns, rfl⟩
      simp only [hcolumns, bind, Except.bind, pure, Except.pure, selection, horder]

theorem plan_eq_ok_iff : v.plan page = .ok p ↔ 0 < v.run ∧ v.Planned page p := by
  unfold plan
  by_cases hrun : v.run ≤ 0
  · have := Int64.not_lt.2 hrun
    simp [hrun, this]
  · rw [if_neg hrun]
    have hpos := Int64.not_le.1 hrun
    constructor
    · intro h
      refine ⟨hpos, ?_⟩
      split at h
      · next hlayout =>
        obtain ⟨x, y, hx, hy, rfl⟩ := planChart_eq_ok h
        by_cases hgroups : v.groups = []
        · rw [points_of_no_groups hgroups]
          exact .points hlayout hx hy hgroups
        · rw [points_of_groups hgroups]
          exact .buckets hlayout hx hy hgroups
      · next hlayout =>
        obtain ⟨names, columns, hnames, hne, hcolumns, rfl⟩ := (planTable_eq_ok_iff hlayout).1 h
        exact .table hlayout hnames hne hcolumns
      · contradiction
      · contradiction
    · rintro ⟨_, h⟩
      cases h with
      | table hlayout hnames hne hcolumns =>
        rw [hlayout]
        exact (planTable_eq_ok_iff hlayout).2 ⟨_, _, hnames, hne, hcolumns, rfl⟩
      | points hlayout hx hy hgroups =>
        rw [hlayout]
        simp [planChart, hx, hy, bind, Except.bind, pure, Except.pure, points_of_no_groups hgroups]
      | buckets hlayout hx hy hgroups =>
        rw [hlayout]
        simp [planChart, hx, hy, bind, Except.bind, pure, Except.pure, points_of_groups hgroups]

theorem Planned.ofRun (h : v.Planned page p) : p.OfRun v.run := by
  cases h with
  | table _ _ _ hcolumns => exact reads_selection (names_of_mapM_catalogColumn hcolumns) page
  | points _ hx hy _ => exact reads_selection (names_of_axes hx hy) page
  | buckets _ hx hy _ =>
    exact (byRules_buckets (name_mem_names_of_axis hx) (name_mem_names_of_axis hy)).ofRun

theorem ofRun_plan (h : v.plan page = .ok p) : p.OfRun v.run :=
  (plan_eq_ok_iff.1 h).2.ofRun

end View

end Vacancy
