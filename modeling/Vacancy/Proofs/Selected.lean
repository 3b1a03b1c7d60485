import Vacancy.Proofs.RowOrder
import Vacancy.Proofs.Series

/-!
The rows that a view selects: those that its scope admits, in the order of the view, with the cells
of the columns that were asked for. A database that answers at all answers with these, and it
answers as long as the selection keeps to its limits.
-/

namespace Vacancy

open Sql

structure Selection.Fits (g : Grain) (s : Selection) : Prop where
  parameters : ((s.toQuery g).tokens .sqlite).countP (·.parameter?.isSome) ≤ parameterLimit
  height : ∀ c, s.condition = some c → c.height ≤ heightLimit
  columns : s.columns.length ≤ columnLimit
  terms : ∀ c, s.condition = some c → ∀ e ∈ c.terms, e.hasLongPattern = false

instance (g : Grain) (s : Selection) : Decidable (s.Fits g) :=
  decidable_of_iff
    (((s.toQuery g).tokens .sqlite).countP (·.parameter?.isSome) ≤ parameterLimit ∧
      (∀ c ∈ s.condition, c.height ≤ heightLimit) ∧ s.columns.length ≤ columnLimit ∧
      ∀ c ∈ s.condition, ∀ e ∈ c.terms, e.hasLongPattern = false)
    ⟨fun ⟨hparameters, hheight, hcolumns, hterms⟩ => ⟨hparameters, hheight, hcolumns, hterms⟩,
      fun h => ⟨h.parameters, h.height, h.columns, h.terms⟩⟩

namespace Sql

theorem Select.all_isPlain_columns {names : List String} (h : Expr.Readable names) :
    (itemTokens (names.map (⟨.column ·, none⟩))).all Token.isPlain = true := by
  induction names with
  | nil => rfl
  | cons name names ih =>
    have hname := h name List.mem_cons_self
    have hnames := ih fun name' hname' => h name' (List.mem_cons_of_mem _ hname')
    cases names with
    | nil => simp [itemTokens, SelectItem.tokens, Expr.tokens, hname]
    | cons name' names =>
      simp only [List.map_cons, itemTokens, List.all_append] at hnames ⊢
      simp [SelectItem.tokens, Expr.tokens, hname, hnames]

namespace Select

variable {g : Grain} {run : Int64} {s : Select}

theorem Reads.all_isPlain_order (h : s.Reads g run) :
    (Token.separated (s.order.map OrderKey.tokens)).all Token.isPlain = true := by
  rw [Token.all_separated Token.isPlain rfl rfl, List.all_eq_true]
  intro ts hts
  obtain ⟨k, hk, rfl⟩ := List.mem_map.1 hts
  obtain ⟨name, hname, hexpr⟩ := h.order k hk
  rw [OrderKey.tokens, hexpr]
  simp only [Expr.tokens, List.all_append, List.all_cons, List.all_nil,
    g.readable_names name hname]
  split <;> rfl

theorem Reads.clean_columns (h : s.Reads g run) {names : List String}
    (hitems : s.items = names.map (⟨.column ·, none⟩)) (hnames : ∀ name ∈ names, name ∈ g.names) :
    Token.Clean (Query.tokens .sqlite ⟨s, []⟩) := by
  obtain ⟨c, hc, hchain, _⟩ := h.condition
  have hcolumns : (itemTokens s.items).all Token.isPlain = true := by
    rw [hitems]
    apply all_isPlain_columns
    intro name hname
    exact g.readable_names name (hnames name hname)
  have hcondition := hchain.all_isPlain g.readable_names
  have hpage := Query.isPlain_pageTokens .sqlite s.limit s.offset
  apply Token.Clean.of_isPlain
  simp only [Query.tokens, Query.tokensWith, tokens, clause, h.source, hc, h.groups,
    List.isEmpty_nil, if_true, List.all_append, hcolumns, hcondition]
  cases hlast : Dialect.pageTokens .sqlite s.limit s.offset with
  | nil => split <;> split <;> simp [g.isPlain_table, h.all_isPlain_order]
  | cons t ts =>
    rw [hlast, List.all_cons] at hpage
    split <;> split <;> simp [g.isPlain_table, h.all_isPlain_order, hpage]

theorem fields_columns {t : Table g} {names : List String}
    (hitems : s.items = names.map (⟨.column ·, none⟩)) (hnames : ∀ name ∈ names, name ∈ g.names) :
    (s.fields t.relation).map (·.1) = names := by
  rw [fields, hitems, List.flatMap_map, List.map_flatMap]
  have hname : ∀ name ∈ names, (itemFields t.relation ⟨.column name, none⟩).map (·.1) = [name] := by
    intro name hname
    simp [itemFields, t.column?_relation (hnames name hname)]
  rw [List.flatMap_congr hname]
  simp

theorem rowOf_columns {names : List String} (hitems : s.items = names.map (⟨.column ·, none⟩))
    (fs : Fields) (r : Row) : s.rowOf fs names (.single r) = r.project names := by
  have hstar : ∀ i ∈ s.items, i.expr ≠ .star := by
    intro i hi
    rw [hitems] at hi
    obtain ⟨name, _, rfl⟩ := List.mem_map.1 hi
    simp
  rw [rowOf_eq hstar, hitems, List.map_map, ← List.map_prod_left_eq_zip]
  rfl

theorem Reads.failure?_eq (h : s.Reads g run)
    (hterms : ∀ e ∈ s.terms, e.hasLongPattern = false)
    (hitems : ∀ i ∈ s.items, i.expr.armsHaveLongPattern = false) (d : Database) :
    Query.failure? ⟨s, []⟩ d.relation = none := by
  have hsource : Query.source d.relation s = (d.table g).relation := by
    rw [Query.source, h.source, Option.elim_some, d.relation_table]
  have hresolved := h.resolved (d.table g)
  have hpattern : (s.resolved (d.table g).relation).FailsAtPattern False := by
    apply hresolved.failsAtPattern
    · intro e he hlong
      rw [h.resolved_eq] at he
      rw [hterms e he] at hlong
      contradiction
    · intro i hi hlong
      rw [h.resolved_eq] at hi
      rw [hitems i hi] at hlong
      contradiction
  have honRows := fun grouped rows =>
    (hpattern.failureOnRows? (d.table g).relation grouped rows).eq_none not_false
  simp only [Query.failure?, List.map_nil, Query.failureWith?, h.regrouped_eq, hsource,
    Select.failure?, honRows, failureOfGroups?, hresolved.isPlain, if_true]
  split <;> rfl

end Select

end Sql

namespace View

variable {v : View} {names : List String}

theorem items_selection (hne : names ≠ []) (page : Page) :
    ((v.selection names page).toQuery v.grain).select.items =
      names.map (⟨.column ·, none⟩) := by
  simp [selection, Selection.toQuery, hne]

theorem orderOn_chartOrder {s : Select} (h : s.Reads v.grain v.run)
    (horder : s.order = v.chartOrder) (t : Table v.grain) :
    s.orderOn t.relation = v.chartOrder := by
  obtain ⟨c, hc, _, hrun⟩ := h.condition
  rw [Select.orderOn, Select.path_eq_key hc hrun t, horder]
  by_cases hstyle : v.style = .bar
  · rw [chartOrder_of_bar hstyle]
    rfl
  · rw [chartOrder_of_ne_bar hstyle]
    rfl

theorem mem_rows_of_mem_base {d : Database} {r : Row} (h : r ∈ v.base d) :
    r ∈ (d.table v.grain).rows :=
  (List.mem_filter.1 h).1

theorem pairwise_before {d : Database} {rows : List Row} (hperm : rows.Perm (v.base d))
    {fs : Fields} (hsorted : rows.Pairwise fun a b =>
      inOrder (v.chartOrder.map (·.direction)) (v.sortKeys fs a) (v.sortKeys fs b) = true) :
    rows.Pairwise v.Before := by
  have hne : (v.base d).Pairwise fun a b => Table.key a ≠ Table.key b := by
    apply ((d.table v.grain).ascending.filter _).imp
    intro a b hab
    exact Int64.ne_of_lt hab
  rw [← hperm.pairwise_iff (fun h => h.symm)] at hne
  apply (hsorted.and hne).imp_of_mem
  rintro a b ha hb ⟨hab, hne⟩
  have holds := (d.table v.grain).holds
  have ha := holds a (mem_rows_of_mem_base (hperm.mem_iff.1 ha))
  have hb := holds b (mem_rows_of_mem_base (hperm.mem_iff.1 hb))
  exact before_of_inOrder ha hb hne hab

theorem exists_sorted {s : Select} (h : s.Reads v.grain v.run)
    (hitems : s.items = names.map (⟨.column ·, none⟩)) (hdistinct : s.distinct = false)
    (hcondition : s.condition = v.scope.predicate) (horder : s.order = v.chartOrder)
    (hnames : ∀ name ∈ names, name ∈ v.grain.names) (d : Database) :
    ∃ rows : List Row, rows.Perm (v.base d) ∧ rows.Pairwise v.Before ∧
      (Query.answer ⟨s, []⟩ d.relation).rows =
        Sql.page s.limit s.offset (rows.map (Row.project names)) := by
  obtain ⟨c, hc, _⟩ := v.ofRun_scope.predicate_eq
  have hresolved : s.resolved (d.table v.grain).relation = s := by
    rw [h.resolved_eq, orderOn_chartOrder h horder, ← horder]
  have hbase : s.kept v.grain.schema (d.table v.grain).rows = v.base d := by
    rw [Select.kept_eq_filter (hcondition.trans hc)]
    apply List.filter_congr
    intro r _
    exact v.scope.admits_of_predicate hc r
  have hkeys : ∀ r : Row, s.orderKeys v.grain.schema (.single r) =
      v.sortKeys v.grain.schema r := by
    intro r
    rw [Select.orderKeys, horder]
    rfl
  have hlength : ∀ r : Row, (v.sortKeys v.grain.schema r).length = s.order.length := by
    intro r
    rw [sortKeys, List.length_map, horder]
  obtain ⟨rows, hperm, hsorted, hrows⟩ :=
    Select.sorted_keys hdistinct hlength (Row.project names) (v.base d)
  refine ⟨rows, hperm, ?_, ?_⟩
  · rw [horder] at hsorted
    exact pairwise_before hperm hsorted
  · rw [d.answer_of_reads h, h.answer_rows, hresolved, Select.fields_columns hitems hnames]
    simp only [Select.rowsOf, Select.groupsOf, h.isPlain, if_true, hbase, List.map_map,
      Function.comp_def, hkeys, Select.rowOf_columns hitems]
    rw [hrows]

theorem length_fields_selection (hnames : ∀ name ∈ names, name ∈ v.grain.names) (hne : names ≠ [])
    (page : Page) (t : Table v.grain) :
    (((v.selection names page).toQuery v.grain).select.fields t.relation).length =
      names.length := by
  have := Select.fields_columns (t := t) (v.items_selection hne page) hnames
  rw [← List.length_map, this]

theorem length_chartOrder_le (v : View) : v.chartOrder.length ≤ 2 := by
  unfold chartOrder
  split
  · exact Nat.le_refl 2
  · exact Nat.le_succ 1

theorem accepted_selection (hnames : ∀ name ∈ names, name ∈ v.grain.names) (hne : names ≠ [])
    {page : Page} (hfits : (v.selection names page).Fits v.grain) (d : Database) :
    ((v.selection names page).toQuery v.grain).refusal? d.relation = none ∧
      ((v.selection names page).toQuery v.grain).failure? d.relation = none := by
  have hreads := reads_selection hnames page
  have hitems := v.items_selection hne page
  obtain ⟨c, hc, _⟩ := v.ofRun_scope.predicate_eq
  constructor
  · apply Query.refusal?_of_reads hreads (hreads.clean_columns hitems hnames).firstFault?
    · exact hfits.parameters
    · exact hfits.height
    · rw [length_fields_selection hnames hne]
      exact hfits.columns
    · exact Nat.le_trans v.length_chartOrder_le (by decide)
  · apply hreads.failure?_eq
    · intro e he
      apply hfits.terms c hc
      simpa [Select.terms, Selection.toQuery, selection, hc] using he
    · intro i hi
      rw [hitems] at hi
      obtain ⟨name, _, rfl⟩ := List.mem_map.1 hi
      rfl

theorem rows_selection (hnames : ∀ name ∈ names, name ∈ v.grain.names) (hne : names ≠ [])
    (page : Page) (d : Database) :
    ∃ rows : List Row, rows.Perm (v.base d) ∧ rows.Pairwise v.Before ∧
      (d.rows ((v.selection names page).toQuery v.grain) =
          .ok (Sql.page page.limit page.offset (rows.map (Row.project names))) ∨
        ¬(v.selection names page).Fits v.grain ∧
          ∃ e, d.rows ((v.selection names page).toQuery v.grain) = .error (.sql e)) := by
  obtain ⟨rows, hperm, hsorted, hanswer⟩ := exists_sorted (reads_selection hnames page)
    (v.items_selection hne page) rfl rfl rfl hnames d
  refine ⟨rows, hperm, hsorted, ?_⟩
  unfold Database.rows Query.run
  cases hrun : (((v.selection names page).toQuery v.grain).refusal? d.relation <|>
      ((v.selection names page).toQuery v.grain).failure? d.relation) with
  | none =>
    left
    exact congrArg Except.ok hanswer
  | some e =>
    right
    refine ⟨fun hfits => ?_, e, rfl⟩
    obtain ⟨hrefusal, hfailure⟩ := accepted_selection hnames hne hfits d
    simp [hrefusal, hfailure] at hrun

end View

end Vacancy
