import Vacancy.Proofs.Kind
import Vacancy.Proofs.Shown
import Vacancy.TabularStore.Recording

/-!
What a view is rejected for, in the order in which it is checked: its run, its style, then the
columns of its chart or of its table. Nothing is asked of a store for a view that is rejected, and
one question for any other.
-/

namespace Vacancy

open Sql

/-- The styles that draw charts of a grain, and the slots of their columns. -/
inductive Charts : Style → Grain → Slot → Slot → Prop where
  | bar : Charts .bar .area .xAxis .yAxis
  | line : Charts .line .building .xAxis .yAxis
  | pie : Charts .pie .building .label .value

def Grain.Offers (g : Grain) (name : String) : Prop :=
  ∃ c ∈ g.columns, c.name = name

namespace View

def Leads (v : View) (p : Parameter) : Prop :=
  ∃ before after, v.parameters = before ++ p :: after ∧ ∀ q ∈ before, q.kind ≠ p.kind

def Lacks (v : View) (k : Parameter.Kind) : Prop :=
  ∀ p ∈ v.parameters, p.kind ≠ k

/-- The first column that is given for a slot is one of the catalog. -/
def HasAxis (v : View) (slot : Slot) : Prop :=
  ∃ name, v.Leads (.column slot name) ∧ v.grain.Offers name

/-- Why a slot has no column. -/
inductive SlotFault (v : View) (slot : Slot) : ViewError → Prop where
  | missing (h : v.Lacks (.column slot)) : SlotFault v slot (.missingSlot slot.key)
  | unknown {name : String} (h : v.Leads (.column slot name)) (hname : ¬v.grain.Offers name) :
      SlotFault v slot (.unknownColumn name v.grain)

/-- Why a view is rejected. -/
inductive Rejects (v : View) : ViewError → Prop where
  | run (hrun : v.run ≤ 0) : Rejects v .missingRun
  | unsupported (hrun : 0 < v.run) (htable : v.style ≠ .table)
      (hchart : ∀ x y, ¬Charts v.style v.grain x y) : Rejects v (.unsupported v.style v.grain)
  | x {x y : Slot} {e : ViewError} (hrun : 0 < v.run) (hchart : Charts v.style v.grain x y)
      (hx : v.SlotFault x e) : Rejects v e
  | y {x y : Slot} {e : ViewError} (hrun : 0 < v.run) (hchart : Charts v.style v.grain x y)
      (hx : v.HasAxis x) (hy : v.SlotFault y e) : Rejects v e
  | noColumns (hrun : 0 < v.run) (htable : v.style = .table)
      (h : v.Lacks .table ∨ v.Leads (.table [])) : Rejects v (.missingSlot Parameter.tableKey)
  | unknownColumn {before after : List String} {name : String} (hrun : 0 < v.run)
      (htable : v.style = .table) (h : v.Leads (.table (before ++ name :: after)))
      (hbefore : ∀ n ∈ before, v.grain.Offers n) (hname : ¬v.grain.Offers name) :
      Rejects v (.unknownColumn name v.grain)

variable {v : View} {slot : Slot} {name : String} {e : ViewError} {page : Page}

/-! ### First parameters -/

theorem leads_iff_first? {p : Parameter} : v.Leads p ↔ v.first? p.kind = some p := by
  rw [first?, List.find?_eq_some_iff_append]
  simp [Leads]

theorem lacks_iff_first? {k : Parameter.Kind} : v.Lacks k ↔ v.first? k = none := by
  rw [first?, List.find?_eq_none]
  simp [Lacks]

theorem column?_eq_none_iff : v.column? slot = none ↔ v.Lacks (.column slot) := by
  rw [column?_eq_first?, lacks_iff_first?]
  cases h : v.first? (.column slot) with
  | none => simp
  | some p =>
    have := kind_of_first? h
    cases p <;> simp_all [Parameter.kind]

theorem column?_eq_some_iff : v.column? slot = some name ↔ v.Leads (.column slot name) := by
  rw [column?_eq_first?, leads_iff_first?, Parameter.kind]
  cases h : v.first? (.column slot) with
  | none => simp
  | some p =>
    have := kind_of_first? h
    cases p <;> simp_all [Parameter.kind]

theorem tableColumns?_eq_none_iff : v.tableColumns? = none ↔ v.Lacks .table := by
  rw [tableColumns?_eq_first?, lacks_iff_first?]
  cases h : v.first? .table with
  | none => simp
  | some p =>
    have := kind_of_first? h
    cases p <;> simp_all [Parameter.kind]

theorem tableColumns?_eq_some_iff {names : List String} :
    v.tableColumns? = some names ↔ v.Leads (.table names) := by
  rw [tableColumns?_eq_first?, leads_iff_first?, Parameter.kind]
  cases h : v.first? .table with
  | none => simp
  | some p =>
    have := kind_of_first? h
    cases p <;> simp_all [Parameter.kind]

/-! ### Columns of the catalog -/

theorem catalogColumn_of_offers (h : v.grain.Offers name) : ∃ c, v.catalogColumn name = .ok c := by
  obtain ⟨c, hc, hname⟩ := h
  have hsome : (v.grain.column? name).isSome = true := by
    rw [Grain.column?, List.find?_isSome]
    exact ⟨c, hc, by simp [hname]⟩
  obtain ⟨c', hc'⟩ := Option.isSome_iff_exists.1 hsome
  exact ⟨c', by rw [catalogColumn, hc']⟩

theorem catalogColumn_of_not_offers (h : ¬v.grain.Offers name) :
    v.catalogColumn name = .error (.unknownColumn name v.grain) := by
  have hnone : v.grain.column? name = none := by
    rw [Grain.column?, List.find?_eq_none]
    exact fun c hc hname => h ⟨c, hc, by simpa using hname⟩
  rw [catalogColumn, hnone]

theorem axis_of_hasAxis (h : v.HasAxis slot) : ∃ c, v.axis slot = .ok c := by
  obtain ⟨name, hleads, hname⟩ := h
  rw [axis, column?_eq_some_iff.2 hleads]
  exact catalogColumn_of_offers hname

theorem axis_of_slotFault (h : v.SlotFault slot e) : v.axis slot = .error e := by
  cases h with
  | missing h => rw [axis, column?_eq_none_iff.2 h]
  | unknown h hname =>
    rw [axis, column?_eq_some_iff.2 h]
    exact catalogColumn_of_not_offers hname

theorem hasAxis_or_slotFault (v : View) (slot : Slot) :
    v.HasAxis slot ∨ ∃ e, v.SlotFault slot e := by
  cases h : v.column? slot with
  | none => exact .inr ⟨_, .missing (column?_eq_none_iff.1 h)⟩
  | some name =>
    have hleads := column?_eq_some_iff.1 h
    by_cases hname : v.grain.Offers name
    · exact .inl ⟨name, hleads, hname⟩
    · exact .inr ⟨_, .unknown hleads hname⟩

theorem mapM_catalogColumn (names : List String) :
    (∃ columns, names.mapM v.catalogColumn = .ok columns) ∨
      ∃ before name after, names = before ++ name :: after ∧ (∀ n ∈ before, v.grain.Offers n) ∧
        ¬v.grain.Offers name := by
  induction names with
  | nil => exact .inl ⟨[], rfl⟩
  | cons name names ih =>
    by_cases hname : v.grain.Offers name
    · obtain ⟨c, hc⟩ := catalogColumn_of_offers hname
      rcases ih with ⟨columns, hcolumns⟩ | ⟨before, n, after, rfl, hbefore, hn⟩
      · refine .inl ⟨c :: columns, ?_⟩
        rw [List.mapM_cons, hc, hcolumns]
        rfl
      · refine .inr ⟨name :: before, n, after, rfl, ?_, hn⟩
        rw [List.forall_mem_cons]
        exact ⟨hname, hbefore⟩
    · exact .inr ⟨[], name, names, rfl, nofun, hname⟩

theorem mapM_catalogColumn_of_not_offers {before : List String} (after : List String)
    (hbefore : ∀ n ∈ before, v.grain.Offers n) (hname : ¬v.grain.Offers name) :
    (before ++ name :: after).mapM v.catalogColumn = .error (.unknownColumn name v.grain) := by
  induction before with
  | nil =>
    rw [List.nil_append, List.mapM_cons, catalogColumn_of_not_offers hname]
    rfl
  | cons n before ih =>
    rw [List.forall_mem_cons] at hbefore
    obtain ⟨c, hc⟩ := catalogColumn_of_offers hbefore.1
    rw [List.cons_append, List.mapM_cons, hc, ih hbefore.2]
    rfl

/-! ### Layouts -/

theorem layout?_of_charts {x y : Slot} (h : Charts v.style v.grain x y) :
    v.layout? = some (.chart x y) := by
  rw [layout?]
  generalize v.style = style at h
  generalize v.grain = grain at h
  cases h <;> rfl

theorem layout?_of_table (h : v.style = .table) : v.layout? = some .table := by
  rw [layout?, h]
  rfl

theorem layout_cases (v : View) :
    (∃ x y, Charts v.style v.grain x y) ∨ v.style = .table ∨
      v.style ≠ .table ∧ (∀ x y, ¬Charts v.style v.grain x y) ∧
        (v.layout? = some .map ∨ v.layout? = none) := by
  rw [layout?]
  generalize v.style = style
  generalize v.grain = grain
  cases style with
  | bar =>
    cases grain with
    | building => exact .inr (.inr ⟨by decide, by rintro _ _ ⟨⟩, .inr rfl⟩)
    | area => exact .inl ⟨_, _, .bar⟩
  | line =>
    cases grain with
    | building => exact .inl ⟨_, _, .line⟩
    | area => exact .inr (.inr ⟨by decide, by rintro _ _ ⟨⟩, .inr rfl⟩)
  | pie =>
    cases grain with
    | building => exact .inl ⟨_, _, .pie⟩
    | area => exact .inr (.inr ⟨by decide, by rintro _ _ ⟨⟩, .inr rfl⟩)
  | table => exact .inr (.inl rfl)
  | map => exact .inr (.inr ⟨by decide, by rintro _ _ ⟨⟩, .inl rfl⟩)

/-! ### Plans -/

theorem plan_of_run (hrun : 0 < v.run) (page : Page) :
    v.plan page = match v.layout? with
      | some (.chart x y) => v.planChart x y page
      | some .table => v.planTable page
      | some .map | none => .error (.unsupported v.style v.grain) :=
  if_neg (Int64.not_le.2 hrun)

theorem planTable_of_no_columns (h : v.Lacks .table ∨ v.Leads (.table [])) :
    v.planTable page = .error (.missingSlot Parameter.tableKey) := by
  rw [← tableColumns?_eq_none_iff, ← tableColumns?_eq_some_iff] at h
  rcases h with h | h
  · rw [planTable, h]
  · rw [planTable, h]

theorem planTable_of_error {names : List String} (h : v.Leads (.table names)) (hne : names ≠ [])
    (hcolumns : names.mapM v.catalogColumn = .error e) : v.planTable page = .error e := by
  obtain ⟨n, ns, rfl⟩ := List.exists_cons_of_ne_nil hne
  rw [planTable, tableColumns?_eq_some_iff.2 h]
  simp only [hcolumns]
  rfl

theorem plan_of_rejects (h : v.Rejects e) (page : Page) : v.plan page = .error e := by
  cases h with
  | run hrun => rw [plan, if_pos hrun]
  | unsupported hrun htable hchart =>
    rcases v.layout_cases with ⟨x, y, h⟩ | h | ⟨_, _, h⟩
    · exact absurd h (hchart x y)
    · exact absurd h htable
    · rw [plan_of_run hrun]
      rcases h with h | h <;> rw [h]
  | x hrun hchart hx =>
    rw [plan_of_run hrun, layout?_of_charts hchart]
    simp only [planChart, axis_of_slotFault hx]
    rfl
  | y hrun hchart hx hy =>
    obtain ⟨c, hc⟩ := axis_of_hasAxis hx
    rw [plan_of_run hrun, layout?_of_charts hchart]
    simp only [planChart, hc, axis_of_slotFault hy]
    rfl
  | noColumns hrun htable h =>
    rw [plan_of_run hrun, layout?_of_table htable]
    exact planTable_of_no_columns h
  | @unknownColumn _ after _ hrun htable h hbefore hname =>
    rw [plan_of_run hrun, layout?_of_table htable]
    exact planTable_of_error h (by simp) (mapM_catalogColumn_of_not_offers after hbefore hname)

theorem planned_or_rejects_of_charts {x y : Slot} (hrun : 0 < v.run)
    (hchart : Charts v.style v.grain x y) (page : Page) :
    (∃ p, v.Planned page p) ∨ ∃ e, v.Rejects e := by
  rcases v.hasAxis_or_slotFault x with hx | ⟨e, hx⟩
  · rcases v.hasAxis_or_slotFault y with hy | ⟨e, hy⟩
    · obtain ⟨c, hc⟩ := axis_of_hasAxis hx
      obtain ⟨c', hc'⟩ := axis_of_hasAxis hy
      have hlayout := layout?_of_charts hchart
      by_cases hgroups : v.groups = []
      · exact .inl ⟨_, .points hlayout hc hc' hgroups⟩
      · exact .inl ⟨_, .buckets hlayout hc hc' hgroups⟩
    · exact .inr ⟨e, .y hrun hchart hx hy⟩
  · exact .inr ⟨e, .x hrun hchart hx⟩

theorem planned_or_rejects_of_table (hrun : 0 < v.run) (htable : v.style = .table) (page : Page) :
    (∃ p, v.Planned page p) ∨ ∃ e, v.Rejects e := by
  cases h : v.tableColumns? with
  | none => exact .inr ⟨_, .noColumns hrun htable (.inl (tableColumns?_eq_none_iff.1 h))⟩
  | some names =>
    have hleads := tableColumns?_eq_some_iff.1 h
    by_cases hne : names = []
    · exact .inr ⟨_, .noColumns hrun htable (.inr (hne ▸ hleads))⟩
    · rcases mapM_catalogColumn (v := v) names with
        ⟨columns, hcolumns⟩ | ⟨before, name, after, rfl, hbefore, hname⟩
      · exact .inl ⟨_, .table (layout?_of_table htable) h hne hcolumns⟩
      · exact .inr ⟨_, .unknownColumn hrun htable hleads hbefore hname⟩

/-- A view has a plan, or a reason why it has none. -/
theorem planned_or_rejects (v : View) (page : Page) :
    (∃ p, v.plan page = .ok p) ∨ ∃ e, v.Rejects e := by
  by_cases hrun : v.run ≤ 0
  · exact .inr ⟨_, .run hrun⟩
  · have hpos := Int64.not_le.1 hrun
    have hor : (∃ p, v.Planned page p) ∨ ∃ e, v.Rejects e := by
      rcases v.layout_cases with ⟨x, y, hchart⟩ | htable | ⟨htable, hchart, _⟩
      · exact planned_or_rejects_of_charts hpos hchart page
      · exact planned_or_rejects_of_table hpos htable page
      · exact .inr ⟨_, .unsupported hpos htable hchart⟩
    rcases hor with ⟨p, hp⟩ | h
    · exact .inl ⟨p, plan_eq_ok_iff.2 ⟨hpos, hp⟩⟩
    · exact .inr h

theorem plan_eq_error_iff (page : Page) : v.plan page = .error e ↔ v.Rejects e := by
  constructor
  · intro h
    rcases v.planned_or_rejects page with ⟨p, hp⟩ | ⟨e', he'⟩
    · rw [hp] at h
      contradiction
    · rw [plan_of_rejects he' page] at h
      obtain rfl := Except.error.inj h
      exact he'
  · exact fun h => plan_of_rejects h page

/-! ### Views that are rejected alike -/

section

variable {w : View} (hgrain : v.grain = w.grain)
  (hcolumns : ∀ slot, v.column? slot = w.column? slot)

include hgrain hcolumns

theorem SlotFault.congr (h : v.SlotFault slot e) : w.SlotFault slot e := by
  cases h with
  | missing h =>
    rw [← column?_eq_none_iff, hcolumns, column?_eq_none_iff] at h
    exact .missing h
  | unknown h hname =>
    rw [← column?_eq_some_iff, hcolumns, column?_eq_some_iff] at h
    rw [hgrain] at hname ⊢
    exact .unknown h hname

theorem HasAxis.congr (h : v.HasAxis slot) : w.HasAxis slot := by
  obtain ⟨name, hleads, hname⟩ := h
  rw [← column?_eq_some_iff, hcolumns, column?_eq_some_iff] at hleads
  exact ⟨name, hleads, hgrain ▸ hname⟩

theorem Rejects.congr (hrun : v.run = w.run) (hstyle : v.style = w.style)
    (htable : v.tableColumns? = w.tableColumns?) (h : v.Rejects e) : w.Rejects e := by
  cases h with
  | run h =>
    rw [hrun] at h
    exact .run h
  | unsupported h hstyle' hchart =>
    rw [hrun] at h
    rw [hstyle] at hstyle' hchart ⊢
    rw [hgrain] at hchart ⊢
    exact .unsupported h hstyle' hchart
  | x h hchart hx =>
    rw [hrun] at h
    rw [hstyle, hgrain] at hchart
    exact .x h hchart (hx.congr hgrain hcolumns)
  | y h hchart hx hy =>
    rw [hrun] at h
    rw [hstyle, hgrain] at hchart
    exact .y h hchart (hx.congr hgrain hcolumns) (hy.congr hgrain hcolumns)
  | noColumns h hstyle' hnone =>
    rw [hrun] at h
    rw [hstyle] at hstyle'
    rw [← tableColumns?_eq_none_iff, ← tableColumns?_eq_some_iff, htable,
      tableColumns?_eq_none_iff, tableColumns?_eq_some_iff] at hnone
    exact .noColumns h hstyle' hnone
  | unknownColumn h hstyle' hleads hbefore hname =>
    rw [hrun] at h
    rw [hstyle] at hstyle'
    rw [← tableColumns?_eq_some_iff, htable, tableColumns?_eq_some_iff] at hleads
    rw [hgrain] at hbefore hname ⊢
    exact .unknownColumn h hstyle' hleads hbefore hname

end

/-! ### Parameters that are checked -/

end View

def Parameter.Kind.isChecked : Parameter.Kind → Bool
  | .column _ | .table => true
  | _ => false

namespace View

variable {v w : View} {slot : Slot} {name : String} {e : ViewError}

structure SameChecks (v w : View) : Prop where
  run : v.run = w.run
  style : v.style = w.style
  grain : v.grain = w.grain
  parameters : v.parameters.filter (·.kind.isChecked) = w.parameters.filter (·.kind.isChecked)

theorem first?_eq_find?_filter {k : Parameter.Kind} (hk : k.isChecked = true) (v : View) :
    v.first? k = (v.parameters.filter (·.kind.isChecked)).find? (·.kind = k) := by
  rw [first?, List.find?_filter]
  congr 1
  funext p
  by_cases hp : p.kind = k
  · simp [hp, hk]
  · simp [hp]

namespace SameChecks

theorem symm (h : v.SameChecks w) : w.SameChecks v :=
  ⟨h.run.symm, h.style.symm, h.grain.symm, h.parameters.symm⟩

theorem first?_eq (h : v.SameChecks w) {k : Parameter.Kind} (hk : k.isChecked = true) :
    v.first? k = w.first? k := by
  rw [first?_eq_find?_filter hk, first?_eq_find?_filter hk, h.parameters]

theorem column?_eq (h : v.SameChecks w) (slot : Slot) : v.column? slot = w.column? slot := by
  rw [column?_eq_first?, column?_eq_first?, h.first?_eq rfl]

theorem tableColumns?_eq (h : v.SameChecks w) : v.tableColumns? = w.tableColumns? := by
  rw [tableColumns?_eq_first?, tableColumns?_eq_first?, h.first?_eq rfl]

theorem rejects (h : v.SameChecks w) (hrejects : v.Rejects e) : w.Rejects e :=
  hrejects.congr h.grain h.column?_eq h.run h.style h.tableColumns?_eq

end SameChecks

end View

/-! ### Calls -/

/-- The question that a plan asks of a store. -/
def Plan.call (p : Plan) : StoreCall :=
  match p.reading with
  | .table _ selection | .points _ _ _ selection => .select p.grain selection
  | .buckets _ _ bucketing => .aggregate p.grain bucketing

def Answer.outcome {σ : Type} (answer : Answer σ α) : Answer σ Unit := fun state =>
  ((answer state).1.map fun _ => (), (answer state).2)

def StoreCall.ask {σ : Type} (store : TabularStore σ) : StoreCall → Answer σ Unit
  | .select g s => (store.select g s).outcome
  | .distinct g column condition direction => (store.distinct g column condition direction).outcome
  | .aggregate g b => (store.aggregate g b).outcome

namespace TabularStore

variable {σ : Type} (store : TabularStore σ)

theorem conclude_ask (f : α → β) (call : StoreCall) (answer : Answer σ α) (s : Recorded σ) :
    (conclude f (Recorded.ask call answer) s).1.map (fun _ => ()) =
        (answer.outcome s.state).1.mapError .store ∧
      (conclude f (Recorded.ask call answer) s).2 =
        ⟨(answer.outcome s.state).2, call :: s.calls⟩ := by
  rw [conclude_eq]
  refine ⟨?_, rfl⟩
  rw [Recorded.fst_ask, Answer.outcome]
  cases (answer s.state).1 <;> rfl

theorem read_recording (p : Plan) (s : Recorded σ) :
    (store.recording.read p.grain p.reading s).1.map (fun _ => ()) =
        (p.call.ask store s.state).1.mapError .store ∧
      (store.recording.read p.grain p.reading s).2 =
        ⟨(p.call.ask store s.state).2, p.call :: s.calls⟩ := by
  obtain ⟨g, reading⟩ := p
  cases reading <;> exact conclude_ask ..

theorem read_eq_error {p : Plan} {s : Recorded σ} {e : StoreError}
    (h : (p.call.ask store s.state).1 = .error e) :
    (store.recording.read p.grain p.reading s).1 = .error (.store e) := by
  have hmap := (store.read_recording p s).1
  rw [h] at hmap
  cases hread : (store.recording.read p.grain p.reading s).1 with
  | ok payload =>
    rw [hread] at hmap
    contradiction
  | error e' =>
    rw [hread] at hmap
    obtain rfl := Except.error.inj hmap
    rfl

theorem read_eq_ok {p : Plan} {s : Recorded σ} (h : (p.call.ask store s.state).1 = .ok ()) :
    ∃ payload, (store.recording.read p.grain p.reading s).1 = .ok payload := by
  have hmap := (store.read_recording p s).1
  rw [h] at hmap
  cases hread : (store.recording.read p.grain p.reading s).1 with
  | ok payload => exact ⟨payload, rfl⟩
  | error e' =>
    rw [hread] at hmap
    contradiction

theorem read_ne_view (p : Plan) (s : Recorded σ) (e : ViewError) :
    (store.recording.read p.grain p.reading s).1 ≠ .error (.view e) := by
  cases h : (p.call.ask store s.state).1 with
  | ok =>
    obtain ⟨payload, hread⟩ := store.read_eq_ok h
    rw [hread]
    nofun
  | error e' =>
    rw [store.read_eq_error h]
    nofun

theorem execute_recording (v : View) (page : Page) (s : Recorded σ) :
    (store.recording.execute v page s).1 = (store.execute v page s.state).1 ∧
      (store.recording.execute v page s).2.state = (store.execute v page s.state).2 := by
  unfold execute
  cases v.plan page with
  | error e => exact ⟨rfl, rfl⟩
  | ok p =>
    obtain ⟨g, reading⟩ := p
    cases reading <;> simp only [read, conclude_eq] <;> exact ⟨rfl, rfl⟩

end TabularStore

/-! ### Runs -/

namespace View

variable {v w : View} {page : Page}

def IsGrouped (v : View) : Prop :=
  v.style ≠ .table ∧ ∃ key label c, Parameter.group key label c ∈ v.parameters

theorem groups_ne_nil_iff : v.groups ≠ [] ↔
    ∃ key label c, Parameter.group key label c ∈ v.parameters := by
  constructor
  · intro hne
    obtain ⟨⟨label, c⟩, hmem⟩ := List.exists_mem_of_ne_nil _ hne
    obtain ⟨p, hp, hsome⟩ := List.mem_filterMap.1 hmem
    cases p with
    | group key _ _ => exact ⟨key, _, _, hp⟩
    | _ => contradiction
  · rintro ⟨key, label, c, hp⟩
    exact List.ne_nil_of_mem (List.mem_filterMap.2 ⟨_, hp, rfl⟩)

theorem style_of_layout?_chart {x y : Slot} (h : v.layout? = some (.chart x y)) :
    v.style ≠ .table := by
  intro hstyle
  rw [layout?_of_table hstyle] at h
  cases h

theorem style_of_layout?_table (h : v.layout? = some .table) : v.style = .table := by
  rcases v.layout_cases with ⟨x, y, hchart⟩ | htable | ⟨_, _, hmap | hnone⟩
  · rw [layout?_of_charts hchart] at h
    cases h
  · exact htable
  · rw [hmap] at h
    cases h
  · rw [hnone] at h
    cases h

theorem call_of_plan {p : Plan} (h : v.plan page = .ok p) :
    (v.IsGrouped → ∃ b, p.call = .aggregate v.grain b) ∧
      (¬v.IsGrouped → ∃ s, p.call = .select v.grain s) := by
  cases (plan_eq_ok_iff.1 h).2 with
  | table hlayout => exact ⟨fun hgrouped => absurd (style_of_layout?_table hlayout) hgrouped.1,
      fun _ => ⟨_, rfl⟩⟩
  | points _ _ _ hgroups =>
    exact ⟨fun hgrouped => absurd hgroups (groups_ne_nil_iff.2 hgrouped.2), fun _ => ⟨_, rfl⟩⟩
  | buckets hlayout _ _ hgroups =>
    refine ⟨fun _ => ⟨_, rfl⟩, fun hgrouped => absurd ?_ hgrouped⟩
    exact ⟨style_of_layout?_chart hlayout, groups_ne_nil_iff.1 hgroups⟩

end View

theorem TabularStore.execute_iff_rejects {σ : Type} (store : TabularStore σ) (v : View)
    (page : Page) (s : Recorded σ) :
    let run := store.recording.execute v page s
    run.1 = (store.execute v page s.state).1 ∧
    (∀ e, run.1 = .error (.view e) ↔ v.Rejects e) ∧
    (∀ e, v.Rejects e → run.2 = s) ∧
    ((∀ e, ¬v.Rejects e) → ∃ p, v.plan page = .ok p ∧
      run.2 = ⟨(p.call.ask store s.state).2, p.call :: s.calls⟩ ∧
      (v.IsGrouped → ∃ b, p.call = .aggregate v.grain b) ∧
      (¬v.IsGrouped → ∃ selection, p.call = .select v.grain selection) ∧
      (∀ e, (p.call.ask store s.state).1 = .error e → run.1 = .error (.store e)) ∧
      ((p.call.ask store s.state).1 = .ok () → ∃ payload, run.1 = .ok payload)) ∧
    ∀ w : View, v.SameChecks w → ∀ e, v.Rejects e ↔ w.Rejects e := by
  intro run
  have hok : ∀ p, v.plan page = .ok p → run = store.recording.read p.grain p.reading s := by
    intro p hp
    simp only [run, execute, hp]
  have herror : ∀ e, v.plan page = .error e → run = (.error (.view e), s) := by
    intro e he
    simp only [run, execute, he]
    rfl
  refine ⟨(store.execute_recording v page s).1, ?_, ?_, ?_, ?_⟩
  · intro e
    rw [← View.plan_eq_error_iff page]
    cases hplan : v.plan page with
    | ok p =>
      rw [hok p hplan]
      simp [store.read_ne_view p s e]
    | error e' =>
      rw [herror e' hplan]
      simp
  · intro e he
    rw [herror e ((View.plan_eq_error_iff page).2 he)]
  · intro hnone
    obtain ⟨p, hp⟩ := (v.planned_or_rejects page).resolve_right (not_exists.2 hnone)
    obtain ⟨hgrouped, hungrouped⟩ := View.call_of_plan hp
    rw [hok p hp]
    exact ⟨p, hp, (store.read_recording p s).2, hgrouped, hungrouped,
      fun _ => store.read_eq_error, store.read_eq_ok⟩
  · intro w h e
    exact ⟨h.rejects, h.symm.rejects⟩

end Vacancy
