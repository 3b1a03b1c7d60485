import Vacancy.Proofs.Selected

/-!
What a view shows. Whatever a database answers to the plan of a view, it is this; and it answers,
unless the plan is larger than a database has room for.
-/

namespace Vacancy

open Sql

namespace Database

variable {d : Database} {q : Query} {rows : List Row}

theorem accepted_of_rows (h : d.rows q = .ok rows) :
    q.refusal? d.relation = none ∧ q.failure? d.relation = none := by
  unfold Database.rows Query.run at h
  cases hrefusal : q.refusal? d.relation with
  | some e => simp [hrefusal] at h
  | none =>
    cases hfailure : q.failure? d.relation with
    | some e => simp [hrefusal, hfailure] at h
    | none => exact ⟨rfl, rfl⟩

theorem parameters_le_of_rows (h : d.rows q = .ok rows) :
    (q.tokens .sqlite).countP (·.parameter?.isSome) ≤ parameterLimit := by
  have hrefusal := (accepted_of_rows h).1
  unfold Query.refusal? Query.formFault? at hrefusal
  simp only [Option.map_eq_none_iff, Option.orElse_eq_orElse, Option.orElse_eq_or,
    Option.or_eq_none_iff, ite_eq_right_iff, reduceCtorEq, imp_false, Nat.not_lt] at hrefusal
  exact hrefusal.1.2.1

theorem sql_of_rows {e : StoreError} (h : d.rows q = .error e) : ∃ e', e = .sql e' := by
  unfold Database.rows at h
  cases hrun : q.run d.relation with
  | ok rel => simp [hrun] at h
  | error e' =>
    simp only [hrun, Except.error.injEq] at h
    exact ⟨e', h.symm⟩

variable {g : Grain} {s : Selection} {answer : Except StoreError (List Row)}

theorem read_table (columns : List Column) (h : d.rows (s.toQuery g) = answer) :
    store.read g (.table columns s) d = ((answer.mapError .store).map (.table columns), d) := by
  simp only [TabularStore.read, TabularStore.conclude_eq, store]
  rw [h]

theorem read_points (x y : Column) (a : Aggregation) (h : d.rows (s.toQuery g) = answer) :
    store.read g (.points x y a s) d =
      ((answer.mapError .store).map fun rows => .chart (rows.map Point.ofRow) x y a true, d) := by
  simp only [TabularStore.read, TabularStore.conclude_eq, store]
  rw [h]

end Database

namespace Bucketing

variable {g : Grain} {run : Int64} {rules : List (Expr × String)} {b : Bucketing}

theorem ByRules.series_of_rows (h : b.ByRules g run rules) {d : Database} {rows : List Row}
    (hrows : d.rows (b.toQuery g) = .ok rows) :
    ∃ labels, Buckets.Lists rules g.schema (b.base g.schema (d.table g).rows) labels ∧
      Buckets.series rules g.schema (b.base g.schema (d.table g).rows) b.aggregation b.valueColumn
        labels = .ok (rows.map Point.ofRow) := by
  have hfew : rules.length < 2 ^ 63 := by
    have := Nat.le_trans h.length_rules_le (Database.parameters_le_of_rows hrows)
    unfold parameterLimit at this
    omega
  obtain ⟨labels, hlists, hanswer⟩ := h.answer_rows hfew d
  refine ⟨labels, hlists, ?_⟩
  rw [Database.rows_eq_answer hrows, hanswer, List.map_map]
  apply mapM_eq_ok
  intro l hl
  obtain ⟨hne, hex⟩ := (hlists.mem_iff l).1 hl
  have hvalue := h.value_of_failure? (Database.accepted_of_rows hrows).2 hne hex
  cases hv : Buckets.value rules g.schema (b.base g.schema (d.table g).rows) b.aggregation
      b.valueColumn l with
  | error e => simp [hv, failureOf] at hvalue
  | ok v => simp [pointRow, hv, Point.ofRow, Row.values, Except.map, Except.toOption]

theorem ByRules.rows_toQuery (h : b.ByRules g run rules) (d : Database) :
    (∃ labels, Buckets.Lists rules g.schema (b.base g.schema (d.table g).rows) labels ∧
      (d.rows (b.toQuery g)).map (·.map Point.ofRow) =
        (Buckets.series rules g.schema (b.base g.schema (d.table g).rows) b.aggregation
          b.valueColumn labels).mapError .sql) ∨
      ¬b.Fits g ∧ ∃ e : SqlError, (d.rows (b.toQuery g)).map (·.map Point.ofRow) =
        (Except.error e).mapError .sql := by
  cases hrows : d.rows (b.toQuery g) with
  | ok rows =>
    left
    obtain ⟨labels, hlists, hseries⟩ := h.series_of_rows hrows
    exact ⟨labels, hlists, (congrArg (Except.mapError StoreError.sql) hseries).symm⟩
  | error e =>
    -- the sum of a bucket may overflow within the limits, and this error is then the series
    by_cases hfits : b.Fits g
    · left
      rw [← hrows]
      exact hfits.rows_toQuery h d
    · right
      obtain ⟨e', rfl⟩ := Database.sql_of_rows hrows
      exact ⟨hfits, e', rfl⟩

end Bucketing

/-- What a payload shows, with one row for each point. -/
def Payload.entries : Payload → List Row
  | .chart points _ _ _ _ => points.map fun p => ⟨[("x", p.x), ("y", p.y)]⟩
  | .table _ rows => rows

namespace View

def ByRow (v : View) : Prop :=
  v.layout? = some .table ∨ v.groups = []

variable {v : View} {page : Page} {p : Plan}

/-! ### Payloads -/

/-- What a view presents of rows: the columns of a table, or a point for each row. -/
inductive Presents (v : View) (rows : List Row) : Payload → Prop where
  | table {names : List String} {columns : List Column} (hlayout : v.layout? = some .table)
      (hnames : v.tableColumns? = some names)
      (hcolumns : names.mapM v.catalogColumn = .ok columns) :
      Presents v rows (.table columns (rows.map (Row.project (columns.map (·.name)))))
  | points {xSlot ySlot : Slot} {x y : Column} (hlayout : v.layout? = some (.chart xSlot ySlot))
      (hx : v.axis xSlot = .ok x) (hy : v.axis ySlot = .ok y) (hgroups : v.groups = []) :
      Presents v rows (.chart (rows.map fun r => ⟨r.cell x.name, r.cell y.name⟩) x y v.aggregation
        true)

/-- The result of a view: a page of the rows of its scope in order, or the series of its labels. -/
inductive Shows (v : View) (page : Page) (d : Database) : Except EngineError Payload → Prop where
  | rows {rows : List Row} {payload : Payload} (hperm : rows.Perm (v.base d))
      (hsorted : rows.Pairwise v.Before)
      (hpayload : v.Presents (Sql.page page.limit page.offset rows) payload) :
      Shows v page d (.ok payload)
  | series {xSlot ySlot : Slot} {x y : Column} {labels : List String}
      (hlayout : v.layout? = some (.chart xSlot ySlot)) (hx : v.axis xSlot = .ok x)
      (hy : v.axis ySlot = .ok y) (hgroups : v.groups ≠ [])
      (hlists : Buckets.Lists (v.rules x) v.grain.schema (v.base d) labels) :
      Shows v page d
        (((Buckets.series (v.rules x) v.grain.schema (v.base d) v.aggregation y.name labels).map
          fun points => .chart points x y v.aggregation false).mapError fun e => .store (.sql e))

theorem Presents.unique {rows : List Row} {P Q : Payload} (hP : v.Presents rows P)
    (hQ : v.Presents rows Q) : P = Q := by
  cases hP with
  | table hlayout hnames hcolumns =>
    cases hQ with
    | table hlayout' hnames' hcolumns' =>
      rw [hnames, Option.some.injEq] at hnames'
      subst hnames'
      rw [hcolumns, Except.ok.injEq] at hcolumns'
      rw [hcolumns']
    | points hlayout' _ _ _ => simp [hlayout] at hlayout'
  | points hlayout hx hy _ =>
    cases hQ with
    | table hlayout' _ _ => simp [hlayout] at hlayout'
    | points hlayout' hx' hy' _ =>
      simp only [hlayout, Option.some.injEq, Layout.chart.injEq] at hlayout'
      obtain ⟨rfl, rfl⟩ := hlayout'
      rw [hx, Except.ok.injEq] at hx'
      rw [hy, Except.ok.injEq] at hy'
      rw [hx', hy']

theorem Presents.not_series {rows : List Row} {P : Payload} (hP : v.Presents rows P)
    {xSlot ySlot : Slot} (hlayout : v.layout? = some (.chart xSlot ySlot)) : v.groups = [] := by
  cases hP with
  | table hlayout' _ _ => simp [hlayout] at hlayout'
  | points _ _ _ hgroups => exact hgroups

theorem Presents.entries_map {rows rows' : List Row} {P Q : Payload} (hP : v.Presents rows P)
    (hQ : v.Presents rows' Q) : ∃ f, P.entries = rows.map f ∧ Q.entries = rows'.map f := by
  cases hP with
  | table hlayout hnames hcolumns =>
    have hQ' : v.Presents rows' _ := .table hlayout hnames hcolumns
    refine ⟨_, rfl, ?_⟩
    rw [hQ.unique hQ']
    rfl
  | @points _ _ x y hlayout hx hy hgroups =>
    have hQ' : v.Presents rows' _ := .points hlayout hx hy hgroups
    refine ⟨fun r => ⟨[("x", r.cell x.name), ("y", r.cell y.name)]⟩, ?_, ?_⟩
    · simp [Payload.entries]
    · rw [hQ.unique hQ']
      simp [Payload.entries]

theorem exists_rows (v : View) (d : Database) :
    ∃ rows : List Row, rows.Perm (v.base d) ∧ rows.Pairwise v.Before := by
  have hnames : ∀ name ∈ [idColumn], name ∈ v.grain.names := by
    intro name hname
    rw [List.mem_singleton.1 hname]
    exact v.grain.idColumn_mem_names
  obtain ⟨rows, hperm, hsorted, _⟩ := rows_selection hnames (by simp) {} d
  exact ⟨rows, hperm, hsorted⟩

theorem Shows.unique {d : Database} {X Y : Except EngineError Payload} (hX : v.Shows page d X)
    (hY : v.Shows page d Y) : X = Y := by
  cases hX with
  | rows hperm hsorted hpayload =>
    cases hY with
    | rows hperm' hsorted' hpayload' =>
      obtain rfl := eq_of_before hsorted hsorted' (hperm.trans hperm'.symm)
      rw [hpayload.unique hpayload']
    | series hlayout _ _ hgroups _ => exact absurd (hpayload.not_series hlayout) hgroups
  | series hlayout hx hy hgroups hlists =>
    cases hY with
    | rows _ _ hpayload => exact absurd (hpayload.not_series hlayout) hgroups
    | series hlayout' hx' hy' _ hlists' =>
      simp only [hlayout, Option.some.injEq, Layout.chart.injEq] at hlayout'
      obtain ⟨rfl, rfl⟩ := hlayout'
      rw [hx, Except.ok.injEq] at hx'
      rw [hy, Except.ok.injEq] at hy'
      subst hx' hy'
      rw [hlists.eq hlists']

theorem Shows.exists_rows {d : Database} {P : Payload} (h : v.Shows page d (.ok P))
    (hrows : v.ByRow) : ∃ rows : List Row, rows.Perm (v.base d) ∧ rows.Pairwise v.Before ∧
      v.Presents (Sql.page page.limit page.offset rows) P := by
  generalize hresult : (Except.ok P : Except EngineError Payload) = result at h
  cases h with
  | rows hperm hsorted hpayload =>
    obtain rfl := Except.ok.inj hresult
    exact ⟨_, hperm, hsorted, hpayload⟩
  | series hlayout _ _ hne _ =>
    rcases hrows with htable | hnone
    · simp [hlayout] at htable
    · contradiction

theorem Shows.exists_series {d : Database} {P : Payload} (h : v.Shows page d (.ok P))
    (hrows : ¬v.ByRow) : ∃ xSlot ySlot x y labels points,
      v.layout? = some (.chart xSlot ySlot) ∧ v.axis xSlot = .ok x ∧ v.axis ySlot = .ok y ∧
        Buckets.Lists (v.rules x) v.grain.schema (v.base d) labels ∧
        Buckets.series (v.rules x) v.grain.schema (v.base d) v.aggregation y.name labels =
          .ok points ∧ P = .chart points x y v.aggregation false := by
  generalize hresult : (Except.ok P : Except EngineError Payload) = result at h
  cases h with
  | rows _ _ hpayload =>
    cases hpayload with
    | table hlayout _ _ => exact absurd (.inl hlayout) hrows
    | points _ _ _ hgroups => exact absurd (.inr hgroups) hrows
  | @series xSlot ySlot x y labels hlayout hx hy _ hlists =>
    cases hseries : Buckets.series (v.rules x) v.grain.schema (v.base d) v.aggregation y.name
        labels with
    | error e => simp [hseries, Except.map, Except.mapError] at hresult
    | ok points =>
      simp only [hseries, Except.map, Except.mapError, Except.ok.injEq] at hresult
      exact ⟨xSlot, ySlot, x, y, labels, points, hlayout, hx, hy, hlists, hseries, hresult⟩

end View

def Plan.WithinLimits (p : Plan) : Prop :=
  match p.reading with
  | .table _ selection | .points _ _ _ selection => selection.Fits p.grain
  | .buckets _ _ bucketing => bucketing.Fits p.grain

instance : (p : Plan) → Decidable p.WithinLimits
  | ⟨g, .table _ selection⟩ | ⟨g, .points _ _ _ selection⟩ =>
    inferInstanceAs (Decidable (selection.Fits g))
  | ⟨g, .buckets _ _ bucketing⟩ => inferInstanceAs (Decidable (bucketing.Fits g))

namespace View

variable {v : View} {page : Page} {p : Plan}

/-- Whether the plan of a view is too large for a database, which therefore fails to execute it. -/
def Overruns (v : View) (page : Page) (d : Database) : Prop :=
  ∃ p e, v.plan page = .ok p ∧ ¬p.WithinLimits ∧
    Database.store.execute v page d = (.error (.store (.sql e)), d)

theorem Overruns.error {v : View} {page : Page} {d : Database} (h : v.Overruns page d)
    (payload : Payload) : (Database.store.execute v page d).1 ≠ .ok payload := by
  obtain ⟨_, e, _, _, h⟩ := h
  simp [h]

theorem names_of_table {names : List String} {columns : List Column} (hne : names ≠ [])
    (hcolumns : names.mapM v.catalogColumn = .ok columns) : columns.map (·.name) ≠ [] := by
  intro h
  rw [List.map_eq_nil_iff] at h
  subst h
  cases names with
  | nil => exact hne rfl
  | cons name names =>
    obtain ⟨_, _, _, _, hnil⟩ := mapM_cons_eq_ok_iff.1 hcolumns
    contradiction

/-- A view with a plan shows its result, or the plan is too large. -/
theorem execute_shows (hplan : v.plan page = .ok p) (d : Database) :
    (∃ result, v.Shows page d result ∧ Database.store.execute v page d = (result, d)) ∨
      v.Overruns page d := by
  suffices h : (∃ result, v.Shows page d result ∧
      Database.store.execute v page d = (result, d)) ∨ ¬p.WithinLimits ∧
        ∃ e, Database.store.execute v page d = (.error (.store (.sql e)), d) by
    apply h.imp_right
    rintro ⟨hlimits, e, h⟩
    exact ⟨p, e, hplan, hlimits, h⟩
  have hexecute : Database.store.execute v page d = Database.store.read p.grain p.reading d := by
    rw [TabularStore.execute, hplan]
  obtain ⟨_, hplanned⟩ := plan_eq_ok_iff.1 hplan
  rw [hexecute]
  cases hplanned with
  | @table names columns hlayout hnames hne hcolumns =>
    obtain ⟨rows, hperm, hsorted, hrows⟩ := rows_selection
      (names_of_mapM_catalogColumn hcolumns) (names_of_table hne hcolumns) page d
    rw [← Sql.map_page] at hrows
    rcases hrows with hrows | ⟨hfits, e, hrows⟩
    · left
      exact ⟨_, .rows hperm hsorted (.table hlayout hnames hcolumns),
        Database.read_table columns hrows⟩
    · right
      exact ⟨hfits, e, Database.read_table columns hrows⟩
  | @points xSlot ySlot x y hlayout hx hy hgroups =>
    obtain ⟨rows, hperm, hsorted, hrows⟩ := rows_selection (names_of_axes hx hy) (by simp) page d
    rw [← Sql.map_page] at hrows
    rcases hrows with hrows | ⟨hfits, e, hrows⟩
    · left
      refine ⟨_, .rows hperm hsorted (.points hlayout hx hy hgroups), ?_⟩
      rw [Database.read_points x y v.aggregation hrows]
      simp only [Except.mapError, Except.map, List.map_map]
      rfl
    · right
      exact ⟨hfits, e, Database.read_points x y v.aggregation hrows⟩
  | @buckets xSlot ySlot x y hlayout hx hy hgroups =>
    have hrules : (v.bucketing x y).ByRules v.grain v.run (v.rules x) :=
      byRules_buckets (name_mem_names_of_axis hx) (name_mem_names_of_axis hy)
    have hbase := v.base_eq d (b := v.bucketing x y) rfl
    rcases hrules.rows_toQuery d with ⟨labels, hlists, hseries⟩ | ⟨hfits, e, hseries⟩
    · left
      rw [hbase] at hlists hseries
      exact ⟨_, .series hlayout hx hy hgroups hlists, Database.read_buckets x y hseries⟩
    · right
      exact ⟨hfits, e, Database.read_buckets x y hseries⟩

end View

end Vacancy
