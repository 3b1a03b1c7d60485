import Vacancy.Batch
import Vacancy.Plan
import Vacancy.Proofs.MaskedScope

/-!
Views and batch requests with their data taken out. What they ask of a store then differs in
parameters only, so its text is the same. Names of columns stay, since they are part of the text;
and so does whether a run or a batch size is allowed at all.
-/

namespace Vacancy

open Sql

def Parameter.masked : Parameter → Parameter
  | .filter key condition => .filter key condition.masked
  | .group key _ condition => .group key "" condition.masked
  | .year range => .year range.masked
  | .areas names => .areas (names.map fun _ => "")
  | p => p

def Page.masked (p : Page) : Page where
  limit := p.limit.map fun _ => 0
  offset := p.offset.map fun _ => 0

theorem Page.masked_masked (p : Page) : p.masked.masked = p.masked := by
  obtain ⟨limit, offset⟩ := p
  cases limit <;> cases offset <;> rfl

def View.masked (v : View) : View :=
  { v with
    run := if 0 < v.run then 1 else 0
    parameters := v.parameters.map Parameter.masked }

def BatchRequest.masked (r : BatchRequest) : BatchRequest :=
  { r with
    run := if 0 < r.run then 1 else 0
    date := r.date.map fun _ => ""
    areas := r.areas.map fun _ => ""
    filters := r.filters.map Condition.masked
    cursor := r.cursor.map fun _ => 0
    size := if r.size = 0 then 0 else 1 }

theorem maskedRun_le_zero (run : Int64) : (if 0 < run then 1 else 0 : Int64) ≤ 0 ↔ run ≤ 0 := by
  split
  · next h => simp [Int64.not_le.2 h]
  · next h => simp [Int64.not_lt.1 h]

theorem maskedSize_eq_zero (size : UInt64) : (if size = 0 then 0 else 1 : UInt64) = 0 ↔ size = 0 := by
  split
  · next h => simp [h]
  · next h => simp [h]

/-! ### Buckets -/

theorem Sql.Expr.maskedArms_eq_map (arms : List (Expr × Expr)) :
    maskedArms arms = arms.map fun a => (a.1.masked, a.2.masked) := by
  induction arms with
  | nil => rfl
  | cons a arms ih => rw [maskedArms, ih, List.map_cons]

namespace Buckets

theorem masked_chosen (arms : List (Expr × Expr)) :
    (chosen arms).masked = chosen (arms.map fun a => (a.1.masked, a.2.masked)) := by
  cases arms with
  | nil => rfl
  | cons a arms => simp [chosen, Expr.masked, Expr.maskedArms_eq_map, Expr.null, Literal.masked,
      Literal.isParameter]

theorem masked_label_ofRules (rules : List (Expr × String)) :
    (ofRules rules).label.masked =
      chosen ((rules.map (·.1.masked)).map fun e => (e, .literal .mask)) := by
  rw [ofRules, masked_chosen, List.map_map, List.map_map]
  rfl

theorem masked_rank_ofRules (rules : List (Expr × String)) :
    (ofRules rules).rank.masked =
      chosen ((rules.map (·.1.masked)).map fun e => (e, .literal .mask)) := by
  have hrules : rules = rules.zipIdx.map (·.1) := (List.zipIdx_map_fst 0 rules).symm
  rw [ofRules, masked_chosen, hrules, List.map_map, List.map_map, List.map_map, ← hrules]
  rfl

theorem masked_rules (column : String) (groups : List (String × Condition)) :
    (rules column groups).map (·.1.masked) =
      groups.filterMap fun group => (group.2.toExpr? column).map Expr.masked := by
  unfold rules
  rw [List.map_filterMap]
  congr 1
  funext group
  rw [Option.map_map]
  rfl

end Buckets

/-! ### Queries -/

theorem Selection.masked_toQuery {s s' : Selection} (g : Grain) (hcolumns : s.columns = s'.columns)
    (hcondition : s.condition.map Expr.masked = s'.condition.map Expr.masked)
    (horder : s.order = s'.order) (hpage : s.page.masked = s'.page.masked) :
    (s.toQuery g).masked = (s'.toQuery g).masked := by
  simp only [Page.masked, Page.mk.injEq] at hpage
  simp only [toQuery, Query.masked, Select.masked, hcolumns, hcondition, horder, hpage.1, hpage.2]

theorem Bucketing.masked_toQuery {b b' : Bucketing} (g : Grain)
    (hcondition : b.condition.map Expr.masked = b'.condition.map Expr.masked)
    (hlabel : b.label.masked = b'.label.masked) (hrank : b.rank.masked = b'.rank.masked)
    (haggregation : b.aggregation = b'.aggregation) (hvalue : b.valueColumn = b'.valueColumn) :
    (b.toQuery g).masked = (b'.toQuery g).masked := by
  simp [toQuery, rows, Query.masked, Select.masked, SelectItem.masked, hcondition, hlabel, hrank,
    haggregation, hvalue]

/-! ### Views -/

namespace View

variable (v : View)

theorem findSome?_kept {α : Type} {f : Parameter → Option α} (h : ∀ p, f p.masked = f p) :
    v.masked.parameters.findSome? f = v.parameters.findSome? f := by
  rw [masked, List.findSome?_map]
  congr 1
  funext p
  exact h p

theorem findSome?_masked {α : Type} {f : Parameter → Option α} {k : α → α}
    (h : ∀ p, f p.masked = (f p).map k) :
    v.masked.parameters.findSome? f = (v.parameters.findSome? f).map k := by
  rw [masked, List.findSome?_map, List.map_findSome?]
  congr 1
  funext p
  exact h p

theorem filterMap_masked {α : Type} {f : Parameter → Option α} {k : α → α}
    (h : ∀ p, f p.masked = (f p).map k) :
    v.masked.parameters.filterMap f = (v.parameters.filterMap f).map k := by
  rw [masked, List.filterMap_map, List.map_filterMap]
  congr 1
  funext p
  exact h p

@[simp] theorem column?_masked (slot : Slot) : v.masked.column? slot = v.column? slot := by
  apply v.findSome?_kept
  intro p
  cases p <;> rfl

@[simp] theorem tableColumns?_masked : v.masked.tableColumns? = v.tableColumns? := by
  apply v.findSome?_kept
  intro p
  cases p <;> rfl

@[simp] theorem aggregation_masked : v.masked.aggregation = v.aggregation := by
  apply congrArg (Option.getD · Aggregation.average)
  apply v.findSome?_kept
  intro p
  cases p <;> rfl

@[simp] theorem year?_masked : v.masked.year? = v.year?.map YearRange.masked := by
  apply v.findSome?_masked
  intro p
  cases p <;> rfl

@[simp] theorem areas_masked : v.masked.areas = v.areas.map fun _ => "" := by
  unfold areas
  rw [v.findSome?_masked (k := List.map fun _ => "")]
  · exact Option.getD_map _ [] _
  · intro p
    cases p <;> rfl

@[simp] theorem filters_masked : v.masked.filters = v.filters.map Condition.masked := by
  apply v.filterMap_masked
  intro p
  cases p <;> rfl

@[simp] theorem groups_masked :
    v.masked.groups = v.groups.map fun (_, c) => ("", c.masked) := by
  apply v.filterMap_masked
  intro p
  cases p <;> rfl

theorem alike_scope : v.masked.scope.Alike v.scope := by
  have h := (((Scope.Alike.ofRun v.grain v.masked.run v.run).year v.year?).areas v.areas).filters
    v.filters
  rw [← v.year?_masked, ← v.areas_masked, ← v.filters_masked] at h
  exact h

theorem masked_rules (x : Column) :
    (Buckets.rules x.name (v.masked.groups.map fun (l, c) => (l, c.rescaled (some x)))).map
        (·.1.masked) =
      (Buckets.rules x.name (v.groups.map fun (l, c) => (l, c.rescaled (some x)))).map
        (·.1.masked) := by
  rw [Buckets.masked_rules, Buckets.masked_rules, groups_masked, List.filterMap_map,
    List.filterMap_map, List.filterMap_map]
  congr 1
  funext group
  exact (group.2.alike_rescaled (some x)).toExpr? x.name

theorem masked_label_buckets (x : Column) :
    (v.masked.buckets x).label.masked = (v.buckets x).label.masked := by
  simp only [buckets, Buckets.build, Buckets.masked_label_ofRules, v.masked_rules x]

theorem masked_rank_buckets (x : Column) :
    (v.masked.buckets x).rank.masked = (v.buckets x).rank.masked := by
  simp only [buckets, Buckets.build, Buckets.masked_rank_ofRules, v.masked_rules x]

theorem masked_points (x y : Column) (page : Page) :
    (Plan.mk v.grain (v.masked.points x y page.masked)).toQuery.masked =
      (Plan.mk v.grain (v.points x y page)).toQuery.masked := by
  have hgroups : v.masked.groups.isEmpty = v.groups.isEmpty := by
    rw [groups_masked, List.isEmpty_map]
  unfold points
  rw [hgroups]
  split
  · apply Selection.masked_toQuery v.grain
    case hcondition => exact v.alike_scope.predicate
    case hpage => exact page.masked_masked
    all_goals rfl
  · exact Bucketing.masked_toQuery v.grain v.alike_scope.predicate (v.masked_label_buckets x)
      (v.masked_rank_buckets x) v.aggregation_masked rfl

theorem masked_planChart (xSlot ySlot : Slot) (page : Page) :
    (v.masked.planChart xSlot ySlot page.masked).map (·.toQuery.masked) =
      (v.planChart xSlot ySlot page).map (·.toQuery.masked) := by
  have haxis : ∀ slot, v.masked.axis slot = v.axis slot := by
    intro slot
    rw [axis, column?_masked]
    rfl
  unfold planChart
  rw [haxis xSlot, haxis ySlot]
  cases v.axis xSlot with
  | error e => rfl
  | ok x =>
    cases v.axis ySlot with
    | error e => rfl
    | ok y => exact congrArg Except.ok (v.masked_points x y page)

theorem masked_planTable (page : Page) :
    (v.masked.planTable page.masked).map (·.toQuery.masked) =
      (v.planTable page).map (·.toQuery.masked) := by
  unfold planTable
  rw [tableColumns?_masked]
  have hcolumn : v.masked.catalogColumn = v.catalogColumn := rfl
  rw [hcolumn]
  split
  · rfl
  · rfl
  · next names _ _ =>
    cases names.mapM v.catalogColumn with
    | error e => rfl
    | ok columns =>
      apply congrArg Except.ok
      apply Selection.masked_toQuery v.grain
      case hcondition => exact v.alike_scope.predicate
      case hpage => exact page.masked_masked
      all_goals rfl

/-- Of a plan, masking changes nothing but parameters. -/
theorem masked_plan (page : Page) :
    (v.masked.plan page.masked).map (·.toQuery.masked) =
      (v.plan page).map (·.toQuery.masked) := by
  have hrun : v.masked.run ≤ 0 ↔ v.run ≤ 0 := maskedRun_le_zero v.run
  have hlayout : v.masked.layout? = v.layout? := rfl
  unfold plan
  rw [hlayout]
  simp only [hrun]
  split
  · rfl
  · split
    · exact v.masked_planChart _ _ page
    · exact v.masked_planTable page
    · rfl
    · rfl

end View

/-! ### Batches -/

namespace BatchRequest

theorem masked_selection (r : BatchRequest) :
    r.masked.selection.map (fun s => (s.toQuery r.grain).masked) =
      r.selection.map fun s => (s.toQuery r.grain).masked := by
  have hrun : r.masked.run ≤ 0 ↔ r.run ≤ 0 := maskedRun_le_zero r.run
  have hsize : r.masked.size = 0 ↔ r.size = 0 := maskedSize_eq_zero r.size
  have hscope := ((((Scope.Alike.ofRun r.grain r.masked.run r.run).referenceDate r.date).areas
    r.areas).filters r.filters).after r.cursor
  unfold selection
  simp only [hrun, hsize]
  split
  · rfl
  · split
    · rfl
    · apply congrArg Except.ok
      exact Selection.masked_toQuery r.grain rfl hscope.predicate rfl rfl

end BatchRequest

/-! ### Texts -/

namespace Sql.Query

theorem text_eq_of_masked_eq {q q' : Query} (h : q.masked = q'.masked) (d : Dialect) :
    (q.bound d).text = (q'.bound d).text := by
  rw [← q.text_bound_masked, ← q'.text_bound_masked, h]

theorem length_eq_of_masked_eq {q q' : Query} (h : q.masked = q'.masked) (d : Dialect) :
    (q.bound d).parameters.length = (q'.bound d).parameters.length := by
  have hlength := congrArg (fun q : Query => (q.bound d).parameters.length) h
  simpa [parameters_bound_masked] using hlength

theorem map_text_bound {ε α : Type} (d : Dialect) (f : α → Query) (x : Except ε α) :
    x.map (fun a => ((f a).bound d).text) =
      (x.map fun a => (f a).masked).map fun q => (q.bound d).text := by
  cases x with
  | error e => rfl
  | ok a => exact congrArg Except.ok ((f a).text_bound_masked d).symm

end Sql.Query

theorem View.text_plan (v : View) (page : Page) (d : Dialect) :
    (v.plan page).map (fun p => (p.toQuery.bound d).text) =
      (v.masked.plan page.masked).map fun p => (p.toQuery.bound d).text := by
  rw [Query.map_text_bound d Plan.toQuery, Query.map_text_bound d Plan.toQuery, v.masked_plan]

theorem BatchRequest.text_selection (r : BatchRequest) (d : Dialect) :
    r.selection.map (fun s => ((s.toQuery r.grain).bound d).text) =
      r.masked.selection.map fun s => ((s.toQuery r.masked.grain).bound d).text := by
  have hgrain : r.masked.grain = r.grain := rfl
  rw [hgrain, Query.map_text_bound d fun s : Selection => s.toQuery r.grain,
    Query.map_text_bound d fun s : Selection => s.toQuery r.grain, r.masked_selection]

/--
What is executed has the same text for queries that are equal but for data, and asks for as many
parameters; so it has for views and for batch requests that are.
-/
theorem text_independent_of_data (d : Dialect) :
    (∀ q q' : Query, q.masked = q'.masked →
      (q.bound d).text = (q'.bound d).text ∧
        (q.bound d).parameters.length = (q'.bound d).parameters.length) ∧
    (∀ (v v' : View) (page page' : Page), v.masked = v'.masked → page.masked = page'.masked →
      (v.plan page).map (fun p => (p.toQuery.bound d).text) =
        (v'.plan page').map fun p => (p.toQuery.bound d).text) ∧
    ∀ r r' : BatchRequest, r.masked = r'.masked →
      r.selection.map (fun s => ((s.toQuery r.grain).bound d).text) =
        r'.selection.map fun s => ((s.toQuery r'.grain).bound d).text := by
  refine ⟨?_, ?_, ?_⟩
  · intro q q' h
    exact ⟨Query.text_eq_of_masked_eq h d, Query.length_eq_of_masked_eq h d⟩
  · intro v v' page page' hview hpage
    rw [v.text_plan, v'.text_plan, hview, hpage]
  · intro r r' h
    rw [r.text_selection, r'.text_selection, h]

def laterQuery (id : Int64) (limit : UInt64) : Query where
  select := {
    items := [⟨.star, none⟩]
    condition := some (.binary .gt (.column idColumn) (.integer id))
    limit := some limit }

def householdView (run size : Int64) (label year : String) : View where
  run
  style := .line
  grain := .building
  parameters := [.column .xAxis "household_size", .column .yAxis "total_water_usage",
    .groupNamed "1" label (.compare .integer .gt (.integer size)), .year { start := some year }]

def areaRequest (run : Int64) (area : String) (size : UInt64) : BatchRequest where
  run
  grain := .area
  areas := [area]
  size

theorem text_independent_of_data_postgres :
    (((laterQuery 3 5).bound .postgres).text = ((laterQuery 70 9).bound .postgres).text ∧
      ((laterQuery 3 5).bound .postgres).parameters.length =
        ((laterQuery 70 9).bound .postgres).parameters.length) ∧
    ((householdView 1 2 "small" "2024").plan {}).map (fun p => (p.toQuery.bound .postgres).text) =
      ((householdView 9 5 "large'" "1999").plan {}).map
        (fun p => (p.toQuery.bound .postgres).text) ∧
    (areaRequest 1 "north" 5).selection.map (fun s => ((s.toQuery .area).bound .postgres).text) =
      (areaRequest 8 "south" 9).selection.map fun s => ((s.toQuery .area).bound .postgres).text := by
  obtain ⟨hqueries, hviews, hrequests⟩ := text_independent_of_data .postgres
  refine ⟨?_, ?_, ?_⟩
  · exact hqueries (laterQuery 3 5) (laterQuery 70 9) rfl
  · exact hviews (householdView 1 2 "small" "2024") (householdView 9 5 "large'" "1999") {} {} rfl rfl
  · exact hrequests (areaRequest 1 "north" 5) (areaRequest 8 "south" 9) rfl

end Vacancy
