import Vacancy.Proofs.Refusal
import Vacancy.Proofs.Shown

/-!
What a view asks of a database. Each term of a scope adds its parameters, makes the condition higher
and brings its pattern, so that a scope with more terms asks for more.
-/

namespace Vacancy

open Sql

namespace Sql

namespace Expr

/-- How many parameters the text of an expression has. -/
def parameters (e : Expr) : Nat :=
  e.tokens.countP (·.parameter?.isSome)

theorem parameters_and (c e : Expr) : (c.and e).parameters = c.parameters + e.parameters := by
  have hjoint : [Token.space, Operator.and.token, .space].countP (·.parameter?.isSome) = 0 := rfl
  simp only [parameters, Expr.and, tokens, List.countP_append, hjoint, Nat.add_zero]

theorem parameters_foldl_and (c : Expr) (es : List Expr) :
    (es.foldl and c).parameters =
      c.parameters + (es.flatMap tokens).countP (·.parameter?.isSome) := by
  induction es generalizing c with
  | nil => simp
  | cons e es ih =>
    rw [List.foldl_cons, ih, parameters_and, List.flatMap_cons, List.countP_append, Nat.add_assoc]
    rfl

theorem parameters_of_conjunction_le {es : List Expr} {c : Expr} {k : Nat}
    (hc : conjunction es = some c) (h : ∀ e ∈ es, e.parameters ≤ k) :
    c.parameters ≤ k * es.length := by
  have hall : (es.flatMap tokens).countP (·.parameter?.isSome) ≤ k * es.length := by
    clear hc
    induction es with
    | nil => simp
    | cons e es ih =>
      have he : e.tokens.countP (·.parameter?.isSome) ≤ k := h e List.mem_cons_self
      have hes := ih fun e' he' => h e' (List.mem_cons_of_mem _ he')
      rw [List.flatMap_cons, List.countP_append, List.length_cons, Nat.mul_succ]
      omega
  cases es with
  | nil => simp [conjunction] at hc
  | cons e es =>
    simp only [conjunction, Option.some.injEq] at hc
    rw [List.flatMap_cons, List.countP_append] at hall
    rw [← hc, parameters_foldl_and]
    exact hall

theorem height_foldl_and_of_le {c : Expr} {es : List Expr} (hc : c.isNever = false)
    (hes : ∀ e ∈ es, e.isNever = false ∧ e.height ≤ c.height) :
    (es.foldl and c).height = c.height + es.length := by
  induction es generalizing c with
  | nil => rfl
  | cons e es ih =>
    obtain ⟨hnever, hle⟩ := hes e List.mem_cons_self
    have hand := height_and hc hnever
    rw [List.foldl_cons, ih, List.length_cons]
    · omega
    · simp [Expr.and, isNever, hc, hnever]
    · intro e' he'
      obtain ⟨hnever', hle'⟩ := hes e' (List.mem_cons_of_mem _ he')
      exact ⟨hnever', by omega⟩

/-- One expression asks for no more than another. -/
structure Within (c c' : Expr) : Prop where
  parameters : c.parameters ≤ c'.parameters
  height : c.height ≤ c'.height
  terms : ∀ e ∈ c.terms, e ∈ c'.terms

theorem within_of_conjunction {names : List String} {es es' : List Expr} {c c' : Expr}
    (h : ∀ e ∈ es ++ es', e.IsTerm names) (hc : conjunction es = some c)
    (hc' : conjunction (es ++ es') = some c') : c.Within c' := by
  have hes : ∀ e ∈ es, e.IsTerm names := fun e he => h e (List.mem_append_left _ he)
  have hes' : ∀ e ∈ es', e.IsTerm names := fun e he => h e (List.mem_append_right _ he)
  have hjoined : c' = es'.foldl and c := by
    cases es with
    | nil => simp [conjunction] at hc
    | cons e es =>
      simp only [conjunction, List.cons_append, Option.some.injEq, List.foldl_append] at hc hc'
      rw [← hc', hc]
  constructor
  case parameters =>
    rw [hjoined, parameters_foldl_and]
    exact Nat.le_add_right _ _
  case height =>
    have := (height_foldl_and (isChain_of_conjunction hes hc) hes').1
    rw [hjoined]
    omega
  case terms =>
    intro e he
    rw [hjoined, terms_foldl_and]
    exact List.mem_append_left _ he

end Expr

theorem Select.countP_tokens (d : Dialect) (s : Select) (c : Expr) :
    (tokens d { s with condition := some c }).countP (·.parameter?.isSome) =
      (tokens d { s with condition := none }).countP (·.parameter?.isSome) + c.parameters := by
  have hclause : [Token.newline, .keyword .filter, .space].countP (·.parameter?.isSome) = 0 := rfl
  simp only [tokens, clause, List.countP_append, hclause, Expr.parameters, List.countP_nil]
  omega

end Sql

theorem Selection.countP_tokens (g : Grain) (s : Selection) (c : Expr) :
    ((toQuery { s with condition := some c } g).tokens .sqlite).countP (·.parameter?.isSome) =
      ((toQuery { s with condition := none } g).tokens .sqlite).countP (·.parameter?.isSome) +
        c.parameters :=
  Select.countP_tokens .sqlite (s.toQuery g).select c

theorem Selection.Fits.within {g : Grain} {s : Selection} {c c' : Expr}
    (h : Fits g { s with condition := some c' }) (hc : c.Within c') :
    Fits g { s with condition := some c } := by
  constructor
  case parameters =>
    have hle := h.parameters
    rw [countP_tokens] at hle ⊢
    have := hc.parameters
    omega
  case height =>
    rintro _ ⟨⟩
    exact Nat.le_trans hc.height (h.height c' rfl)
  case columns => exact h.columns
  case terms =>
    rintro _ ⟨⟩ e he
    exact h.terms c' rfl e (hc.terms e he)

theorem Bucketing.countP_toQuery (b : Bucketing) (g : Grain) {c : Expr}
    (hc : b.condition = some c) :
    ((b.toQuery g).tokens .sqlite).countP (·.parameter?.isSome) =
      b.label.parameters + b.rank.parameters + c.parameters + 1 := by
  have htokens : (b.toQuery g).tokens .sqlite =
      Query.tokensWith .sqlite (b.toQuery g).select [(bucketed, b.rows g)] := rfl
  have haggregate : (aggregate b.aggregation).tokens.countP (·.parameter?.isSome) = 0 := by
    cases b.aggregation <;> rfl
  simp only [htokens, Query.tokensWith, b.tokens_rows g hc, b.tokens_toQuery g, List.countP_append,
    haggregate, Expr.parameters, List.countP_cons, List.countP_nil]
  simp [Token.parameter?, Literal.isParameter]
  omega

theorem Bucketing.Fits.within {g : Grain} {b : Bucketing} {c c' : Expr}
    (h : Fits g { b with condition := some c' }) (hc : c.Within c') :
    Fits g { b with condition := some c } := by
  constructor
  case parameters =>
    have hle := h.parameters
    rw [countP_toQuery _ g rfl] at hle ⊢
    have := hc.parameters
    dsimp only at hle ⊢
    omega
  case height =>
    rintro _ ⟨⟩
    exact Nat.lt_of_le_of_lt hc.height (h.height c' rfl)
  case terms =>
    rintro _ ⟨⟩ e he
    exact h.terms c' rfl e (hc.terms e he)
  case rules => exact h.rules

namespace View

variable {v : View} {page : Page} {p : Plan}

theorem shows_of_withinLimits (hplan : v.plan page = .ok p) (hlimits : p.WithinLimits)
    (d : Database) :
    ∃ result, v.Shows page d result ∧ Database.store.execute v page d = (result, d) := by
  rcases execute_shows hplan d with h | ⟨p', _, hplan', hlimits', _⟩
  · exact h
  · rw [hplan, Except.ok.injEq] at hplan'
    exact absurd (hplan' ▸ hlimits) hlimits'

theorem overruns_of_high (hplan : v.plan page = .ok p) (hrows : v.ByRow) {c : Expr}
    (hc : v.scope.predicate = some c) (hhigh : heightLimit < c.height) (d : Database) :
    v.Overruns page d := by
  have hfails : ∀ names : List String, (∀ name ∈ names, name ∈ v.grain.names) →
      ¬(v.selection names page).Fits v.grain ∧
        ∃ e, d.rows ((v.selection names page).toQuery v.grain) = .error (.sql e) := by
    intro names hnames
    refine ⟨fun hfits => ?_, d.rows_of_high (reads_selection hnames page) hc hhigh⟩
    exact Nat.not_lt.2 (hfits.height c hc) hhigh
  have hexecute : Database.store.execute v page d = Database.store.read p.grain p.reading d := by
    rw [TabularStore.execute, hplan]
  obtain ⟨_, hplanned⟩ := plan_eq_ok_iff.1 hplan
  cases hplanned with
  | @table names columns hlayout hnames hne hcolumns =>
    obtain ⟨hfits, e, he⟩ := hfails _ (names_of_mapM_catalogColumn hcolumns)
    exact ⟨_, e, hplan, hfits, hexecute.trans (Database.read_table columns he)⟩
  | @points xSlot ySlot x y hlayout hx hy _ =>
    obtain ⟨hfits, e, he⟩ := hfails [x.name, y.name] (names_of_axes hx hy)
    exact ⟨_, e, hplan, hfits, hexecute.trans (Database.read_points x y v.aggregation he)⟩
  | buckets hlayout _ _ hne =>
    rcases hrows with htable | hnone
    · simp [hlayout] at htable
    · contradiction

/-- A plan that groups is too large if it has too many parameters. -/
theorem overruns_of_many {xSlot ySlot : Slot} (hplan : v.plan page = .ok p)
    (hlayout : v.layout? = some (.chart xSlot ySlot)) (hgroups : v.groups ≠ []) {x : Column}
    (hx : v.axis xSlot = .ok x) {c : Expr} (hc : v.scope.predicate = some c)
    (hmany : parameterLimit <
      (v.buckets x).label.parameters + (v.buckets x).rank.parameters + c.parameters + 1)
    (d : Database) : v.Overruns page d := by
  obtain ⟨x', y, hx', hy, rfl⟩ := plan_of_groups hplan hlayout hgroups
  obtain rfl := Except.ok.inj (hx.symm.trans hx')
  have hcount := (v.bucketing x y).countP_toQuery v.grain hc
  cases hrows : d.rows ((v.bucketing x y).toQuery v.grain) with
  | ok rows =>
    have hle := Database.parameters_le_of_rows hrows
    rw [hcount] at hle
    exact absurd hmany (Nat.not_lt.2 hle)
  | error e =>
    obtain ⟨e, rfl⟩ := Database.sql_of_rows hrows
    have hseries : (d.rows ((v.bucketing x y).toQuery v.grain)).map (·.map Point.ofRow) =
        (Except.error e : Except SqlError (List Point)).mapError .sql := by
      rw [hrows]
      rfl
    refine ⟨_, e, hplan, fun hfits => ?_, ?_⟩
    · have hle := hfits.parameters
      rw [hcount] at hle
      exact absurd hmany (Nat.not_lt.2 hle)
    · rw [TabularStore.execute, hplan]
      exact Database.read_buckets x y hseries

/-! ### Tables with many filters -/

def householdColumns : List String :=
  ["household_size", "duration", "household_size"]

def householdTable (conditions : List Condition) : View where
  run := 1
  style := .table
  grain := .building
  parameters := .table householdColumns :: conditions.map (.filterNamed "rows")

theorem filters_householdTable (conditions : List Condition) :
    (householdTable conditions).filters = conditions := by
  simp [filters, householdTable, Parameter.filterNamed, List.filterMap_map, Function.comp_def]

theorem groups_householdTable (conditions : List Condition) :
    (householdTable conditions).groups = [] := by
  rw [groups, List.filterMap_eq_nil_iff]
  simp [householdTable, Parameter.filterNamed]

theorem terms_householdTable (conditions : List Condition) :
    (householdTable conditions).scope.terms =
      Scope.runTerm 1 :: conditions.filterMap (·.filterTerm? .building) := by
  have hyear : (householdTable conditions).year? = none := by
    simp [year?, householdTable, Parameter.filterNamed]
  have hareas : (householdTable conditions).areas = [] := by
    unfold areas
    rw [List.findSome?_eq_none_iff.2]
    · rfl
    · simp [householdTable, Parameter.filterNamed]
  rw [scope, hyear, hareas, filters_householdTable]
  rfl

theorem plan_householdTable (conditions : List Condition) (page : Page) :
    ∃ columns, (householdTable conditions).plan page = .ok ⟨.building,
      .table columns ((householdTable conditions).selection householdColumns page)⟩ :=
  ⟨_, rfl⟩

theorem presents_householdTable (conditions : List Condition) (rows : List Row) :
    ∃ columns, (householdTable conditions).Presents rows
      (.table columns (rows.map (Row.project householdColumns))) := by
  obtain ⟨columns, hcolumns, hnames⟩ : ∃ columns,
      householdColumns.mapM (householdTable conditions).catalogColumn = .ok columns ∧
        columns.map (·.name) = householdColumns :=
    ⟨_, rfl, rfl⟩
  refine ⟨columns, ?_⟩
  rw [← hnames]
  exact .table rfl rfl hcolumns

def isOfRun : Condition where
  column := some runColumn
  type := .integer
  operation := .eq
  value := some (.integer 1)

theorem filterTerm?_isOfRun : isOfRun.filterTerm? .building = some (Scope.runTerm 1) :=
  rfl

def isSmall : Condition :=
  (Condition.range .integerRange (.integer 1) true (.integer 9) true).on "household_size"

def smallTerm : Expr :=
  .group (.and (.binary .gte (.column "household_size") (.integer 1))
    (.binary .lte (.column "household_size") (.integer 9)))

theorem filterTerm?_isSmall : isSmall.filterTerm? .building = some smallTerm :=
  rfl

structure IsHarmless (e : Expr) : Prop where
  parameters : e.parameters ≤ 2
  pattern : e.hasLongPattern = false
  admits : e.admits Grain.building.schema sizeRow = true

theorem isHarmless_run : IsHarmless (Scope.runTerm 1) := by
  constructor <;> decide +kernel

theorem isHarmless_small : IsHarmless smallTerm := by
  constructor <;> decide +kernel

theorem isHarmless_of_mem (conditions : List Condition)
    (h : ∀ c ∈ conditions, c = isOfRun ∨ c = isSmall) :
    ∀ e ∈ (householdTable conditions).scope.terms, IsHarmless e := by
  intro e he
  rw [terms_householdTable, List.mem_cons, List.mem_filterMap] at he
  rcases he with rfl | ⟨c, hc, he⟩
  · exact isHarmless_run
  · rcases h c hc with rfl | rfl
    · rw [filterTerm?_isOfRun, Option.some.injEq] at he
      exact he ▸ isHarmless_run
    · rw [filterTerm?_isSmall, Option.some.injEq] at he
      exact he ▸ isHarmless_small

theorem isHarmless_replicate (n : Nat) :
    ∀ e ∈ (householdTable (.replicate n isOfRun)).scope.terms, IsHarmless e := by
  apply isHarmless_of_mem
  intro c hc
  exact .inl (List.eq_of_mem_replicate hc)

theorem terms_replicate (n : Nat) :
    (householdTable (.replicate n isOfRun)).scope.terms =
      Scope.runTerm 1 :: .replicate n (Scope.runTerm 1) := by
  simp only [terms_householdTable, List.filterMap_replicate, filterTerm?_isOfRun]

theorem height_replicate {n : Nat} {c : Expr}
    (hc : (householdTable (.replicate n isOfRun)).scope.predicate = some c) :
    c.height = n + 2 := by
  have hrun : (Scope.runTerm 1).isNever = false ∧ (Scope.runTerm 1).height = 2 := by decide
  rw [Scope.predicate, terms_replicate, Expr.conjunction, Option.some.injEq] at hc
  rw [← hc, Expr.height_foldl_and_of_le hrun.1, hrun.2, List.length_replicate, Nat.add_comm]
  intro e he
  rw [List.eq_of_mem_replicate he]
  exact ⟨hrun.1, Nat.le_refl _⟩

theorem withinLimits_householdTable {conditions : List Condition}
    (hterms : ∀ e ∈ (householdTable conditions).scope.terms, IsHarmless e) {c : Expr}
    (hc : (householdTable conditions).scope.predicate = some c) (hheight : c.height ≤ heightLimit)
    {page : Page} {p : Plan} (hplan : (householdTable conditions).plan page = .ok p) :
    p.WithinLimits := by
  have hscope := (householdTable conditions).ofRun_scope
  obtain ⟨columns, hplan'⟩ := plan_householdTable conditions page
  obtain rfl := Except.ok.inj (hplan'.symm.trans hplan)
  have hselection : (householdTable conditions).selection householdColumns page =
      ⟨householdColumns, some c, [idOrder], page⟩ := by
    rw [selection, hc]
    rfl
  simp only [Plan.WithinLimits, hselection]
  constructor
  case parameters =>
    have hlength := (Expr.height_of_conjunction hscope.terms hc).1
    have hcount := Expr.parameters_of_conjunction_le hc fun e he => (hterms e he).parameters
    have hpage : ((Selection.toQuery ⟨householdColumns, none, [idOrder], page⟩ .building).tokens
        .sqlite).countP (·.parameter?.isSome) ≤ 2 := by
      rcases page with ⟨_ | limit, _ | offset⟩ <;> exact Nat.le_of_ble_eq_true rfl
    have htokens :=
      Selection.countP_tokens .building ⟨householdColumns, none, [idOrder], page⟩ c
    simp only at htokens
    rw [htokens]
    unfold heightLimit at hheight
    unfold parameterLimit
    omega
  case height =>
    rintro _ ⟨⟩
    exact hheight
  case columns => exact Nat.le_of_ble_eq_true rfl
  case terms =>
    rintro _ ⟨⟩
    exact hscope.hasLongPattern_eq_false hc fun e he => (hterms e he).pattern

theorem overruns_householdTable {conditions : List Condition} {c : Expr}
    (hc : (householdTable conditions).scope.predicate = some c) (hhigh : heightLimit < c.height)
    (d : Database) : (householdTable conditions).Overruns {} d := by
  obtain ⟨_, hplan⟩ := plan_householdTable conditions {}
  exact overruns_of_high hplan (.inl rfl) hc hhigh d

theorem base_householdTable {conditions : List Condition}
    (hterms : ∀ e ∈ (householdTable conditions).scope.terms, IsHarmless e) :
    (householdTable conditions).base sizeDatabase = [sizeRow] := by
  have hadmits : (householdTable conditions).scope.admits sizeRow = true := by
    rw [Scope.admits, List.all_eq_true]
    intro e he
    exact (hterms e he).admits
  exact base_singleton rfl hadmits

theorem execute_householdTable {conditions : List Condition}
    (hterms : ∀ e ∈ (householdTable conditions).scope.terms, IsHarmless e) {c : Expr}
    (hc : (householdTable conditions).scope.predicate = some c) (hheight : c.height ≤ heightLimit) :
    ∃ columns, Database.store.execute (householdTable conditions) {} sizeDatabase =
      (.ok (.table columns [sizeRow.project householdColumns]), sizeDatabase) := by
  obtain ⟨columns, hplan⟩ := plan_householdTable conditions {}
  have hlimits := withinLimits_householdTable hterms hc hheight hplan
  obtain ⟨result, hshows, hresult⟩ := shows_of_withinLimits hplan hlimits sizeDatabase
  obtain ⟨columns, hpayload⟩ := presents_householdTable conditions [sizeRow]
  have hall : (householdTable conditions).Shows {} sizeDatabase
      (.ok (.table columns [sizeRow.project householdColumns])) :=
    .rows (List.Perm.of_eq (base_householdTable hterms).symm) (List.pairwise_singleton _ _) hpayload
  exact ⟨columns, by rw [hresult, hshows.unique hall]⟩

end View

end Vacancy
