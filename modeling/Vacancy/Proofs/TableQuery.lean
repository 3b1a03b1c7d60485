import Vacancy.Database
import Vacancy.Proofs.Term

/-!
Queries on a table of detail whose condition holds the run to one number. The table's rows are gone
through in the order of their ids, those that meet the condition are answered, and of a failure it
is known what it is.
-/

namespace Vacancy

open Sql

namespace Grain

def names (g : Grain) : List String :=
  g.schema.map (·.1)

theorem map_eq_self {f : Char → Char} {name : String}
    (h : name.toList.all (fun c => f c == c) = true) : name.map f = name := by
  have hchars := List.all_eq_true.1 h
  rw [← String.toList_inj, String.toList_map]
  refine (List.map_congr_left ?_).trans (List.map_id _)
  simpa using hchars

theorem toLower_eq_self {name : String}
    (h : name.toList.all (fun c => c.toLower == c) = true) : name.toLower = name :=
  map_eq_self h

theorem chars_of_mem_names {g : Grain} {name : String} (h : name ∈ g.names) :
    name.toList.all (fun c => c.toLower == c && c != '\x00') = true := by
  have chars : ∀ name ∈ g.names,
      name.toList.all (fun c => c.toLower == c && c != '\x00') = true := by
    cases g <;> decide +kernel
  exact chars name h

theorem toLower_of_mem_names {g : Grain} {name : String} (h : name ∈ g.names) :
    name.toLower = name := by
  apply toLower_eq_self
  have hchars := List.all_eq_true.1 (chars_of_mem_names h)
  rw [List.all_eq_true]
  intro c hc
  exact (Bool.and_eq_true_iff.1 (hchars c hc)).1

theorem declared?_of_mem_names {g : Grain} {name : String} (h : name ∈ g.names) :
    g.schema.declared? name = some name := by
  -- all columns are in small letters, so no two names are one but for the case
  have same : ∀ c ∈ g.schema, (c.1.toLower == name.toLower) = (c.1 == name) := by
    intro c hc
    rw [toLower_of_mem_names h, toLower_of_mem_names (List.mem_map_of_mem hc)]
  obtain ⟨c, hc, rfl⟩ := List.mem_map.1 h
  unfold Fields.declared?
  cases hfind : g.schema.find? (·.1.toLower == c.1.toLower) with
  | none =>
    have := List.find?_eq_none.1 hfind c hc
    simp at this
  | some d =>
    have hd := List.find?_some hfind
    rw [same d (List.mem_of_find?_eq_some hfind)] at hd
    simpa using hd

theorem idColumn_mem_names (g : Grain) : idColumn ∈ g.names := by
  simp [names, schema]

theorem runColumn_mem_names (g : Grain) : runColumn ∈ g.names := by
  simp [names, schema]

theorem dateColumn_mem_names (g : Grain) : dateColumn ∈ g.names := by
  simp [names, schema]

theorem areaColumn_mem_names (g : Grain) : areaColumn ∈ g.names := by
  simp [names, schema]

theorem mem_names_of_has {g : Grain} {name : String} (h : g.has name = true) :
    name ∈ g.names := by
  simp only [has, Bool.or_eq_true, List.contains_iff_mem, Option.isSome_iff_exists] at h
  by_cases hname : name ∈ structuralColumns
  · simp only [structuralColumns, List.mem_cons, List.not_mem_nil, or_false] at hname
    rcases hname with rfl | rfl | rfl | rfl
    · exact g.idColumn_mem_names
    · exact g.runColumn_mem_names
    · exact g.dateColumn_mem_names
    · exact g.areaColumn_mem_names
  · obtain ⟨c, hc⟩ := h.resolve_left hname
    have hmem := List.mem_of_find?_eq_some hc
    have := name_of_column? hc
    subst this
    simp only [names, schema, List.map_append, List.map_map, List.mem_append]
    right
    rw [List.mem_map]
    refine ⟨c, ?_, rfl⟩
    simp [hmem, hname]

end Grain

namespace Sql.Select

/-- A query on the table of a grain that looks at the rows of one run. -/
structure Reads (g : Grain) (run : Int64) (s : Select) : Prop where
  source : s.source = some g.table
  items : ∀ i ∈ s.items, i.expr.IsItem g.names
  condition : ∃ c, s.condition = some c ∧ c.IsChain g.names ∧
    .binary .eq (.column runColumn) (.integer run) ∈ c.terms
  groups : s.groups = []
  order : ∀ k ∈ s.order, ∃ name ∈ g.names, k.expr = .column name

end Sql.Select

namespace Table

variable {g : Grain} (t : Table g)

theorem column?_relation {name : String} (h : name ∈ g.names) :
    t.relation.column? name = some name := by
  simp [Relation.column?, relation, Grain.declared?_of_mem_names h]

theorem meaning_relation {name : String} (h : name ∈ g.names) :
    t.relation.meaning name = .column name := by
  simp [Relation.meaning, t.column?_relation h]

end Table

namespace Sql.Select

variable {g : Grain} {run : Int64} {s : Select}

theorem meaning_of_mem_names (s : Select) (t : Table g) {name : String} (h : name ∈ g.names) :
    s.meaning t.relation name = .column name := by
  simp [meaning, t.column?_relation h]

theorem mapExprs_eq {f : Expr → Expr} (hitems : ∀ i ∈ s.items, f i.expr = i.expr)
    (hcondition : ∀ c ∈ s.condition, f c = c) (hgroups : ∀ e ∈ s.groups, f e = e)
    (horder : ∀ k ∈ s.order, f k.expr = k.expr) : s.mapExprs f = s := by
  have items : s.items.map (fun i => { i with expr := f i.expr }) = s.items := by
    refine (List.map_congr_left ?_).trans (List.map_id _)
    intro i hi
    simp [hitems i hi]
  have condition : s.condition.map f = s.condition := by
    cases h : s.condition with
    | none => rfl
    | some c => simp [hcondition c h]
  have groups : s.groups.map f = s.groups :=
    (List.map_congr_left hgroups).trans (List.map_id _)
  have order : s.order.map (fun k => { k with expr := f k.expr }) = s.order := by
    refine (List.map_congr_left ?_).trans (List.map_id _)
    intro k hk
    simp [horder k hk]
  simp only [mapExprs, items, condition, groups, order]

theorem Reads.regrouped_eq (h : s.Reads g run) : s.regrouped = s := by
  obtain ⟨c, hc, hchain, _⟩ := h.condition
  apply mapExprs_eq
  · intro i hi
    exact (h.items i hi).regrouped_eq
  · intro c' hc'
    rw [hc, Option.mem_some_iff] at hc'
    subst hc'
    exact hchain.regrouped_eq
  · simp [h.groups]
  · intro k hk
    obtain ⟨name, _, hname⟩ := h.order k hk
    rw [hname]
    rfl

theorem Reads.named_eq (h : s.Reads g run) (t : Table g) : s.named t.relation = s := by
  obtain ⟨c, hc, hchain, _⟩ := h.condition
  have outside : s.mapExprs (·.replaceNames (s.meaning t.relation)) = s := by
    apply mapExprs_eq
    · intro i hi
      exact (h.items i hi).replaceNames_eq fun name => s.meaning_of_mem_names t
    · intro c' hc'
      rw [hc, Option.mem_some_iff] at hc'
      subst hc'
      exact hchain.replaceNames_eq fun name => s.meaning_of_mem_names t
    · simp [h.groups]
    · intro k hk
      obtain ⟨name, hmem, hname⟩ := h.order k hk
      rw [hname]
      exact s.meaning_of_mem_names t hmem
  have items : s.items.map (fun i => { i with expr := i.expr.replaceNames t.relation.meaning }) =
      s.items := by
    refine (List.map_congr_left ?_).trans (List.map_id _)
    intro i hi
    simp [(h.items i hi).replaceNames_eq fun name => t.meaning_relation]
  simp only [named, outside, items]

/-! ### The way through the table -/

theorem equal_foldl_join (es : List Expr) (l : Limits) (name : String) :
    (es.foldl (fun l e => l.join (e.limitsOn name)) l).equal =
      (l.equal || es.any fun e => (e.limitsOn name).equal) := by
  induction es generalizing l with
  | nil => simp
  | cons e es ih =>
    rw [List.foldl_cons, ih, List.any_cons]
    simp [Limits.join, Bool.or_assoc]

theorem limitsOn_equal {c : Expr} (hc : s.condition = some c) {name : String} {l : Literal}
    (h : .binary .eq (.column name) (.literal l) ∈ c.terms) : (s.limitsOn name).equal = true := by
  simp only [limitsOn, terms, hc, Option.elim, equal_foldl_join, Bool.or_eq_true, List.any_eq_true]
  right
  refine ⟨_, h, ?_⟩
  simp [Expr.limitsOn, Expr.isColumn, Expr.isConstant, Limits.ofOperator]

theorem path_eq_key {c : Expr} (hc : s.condition = some c) {run : Literal}
    (h : .binary .eq (.column runColumn) (.literal run) ∈ c.terms) (t : Table g) :
    s.path t.relation = .key := by
  simp [path, Table.relation, Path.ofLimits, limitsOn_equal hc h]

theorem mem_orderOn {k : OrderKey} {rel : Relation} (h : k ∈ s.orderOn rel) : k ∈ s.order := by
  unfold orderOn at h
  split at h
  · next hs =>
    rw [hs]
    dsimp only at h
    split at h
    · exact List.mem_cons.2 (.inl (List.mem_singleton.1 h))
    · exact h
  · next hs =>
    rw [hs]
    dsimp only at h
    split at h
    · simp only [List.mem_cons, List.not_mem_nil, or_false] at h
      rcases h with rfl | rfl
      · simp
      · simp
    · exact h
  · exact h

theorem Reads.resolved_eq (h : s.Reads g run) (t : Table g) :
    s.resolved t.relation = { s with order := s.orderOn t.relation } := by
  simp only [resolved, h.named_eq t]

theorem Reads.resolved (h : s.Reads g run) (t : Table g) :
    (s.resolved t.relation).Reads g run := by
  rw [h.resolved_eq t]
  exact ⟨h.source, h.items, h.condition, h.groups, fun k hk => h.order k (mem_orderOn hk)⟩

theorem Reads.arranged_eq (h : s.Reads g run) (t : Table g) : s.arranged t.relation = t.rows := by
  obtain ⟨c, hc, _, hrun⟩ := h.condition
  rw [arranged, path_eq_key hc hrun t]
  rfl

theorem Reads.answer_rows (h : s.Reads g run) (t : Table g) :
    (s.regrouped.answer t.relation).rows =
      (s.resolved t.relation).rowsOf g.schema ((s.fields t.relation).map (·.1)) t.rows := by
  rw [h.regrouped_eq, answer, (h.resolved t).arranged_eq t]
  rfl

theorem kept_eq_filter {c : Expr} (hc : s.condition = some c) (fs : Fields) (rows : List Row) :
    s.kept fs rows = rows.filter (c.admits fs) := by
  simp [kept, hc]

theorem hasAggregates_eq_false {es : List Expr} {names : List String}
    (h : ∀ e ∈ es, e.IsItem names) : hasAggregates es = false := by
  have : ∀ i, Expr.aggregatesOfList (fun _ => []) i es = [] := by
    induction es with
    | nil =>
      intro i
      rfl
    | cons e es ih =>
      intro i
      simp only [Expr.aggregatesOfList]
      rw [(h e List.mem_cons_self).aggregates_eq (by simp),
        ih fun e' he' => h e' (List.mem_cons_of_mem _ he')]
      rfl
  simp [hasAggregates, this]

theorem Reads.isPlain (h : s.Reads g run) : s.isPlain = true := by
  have items : ∀ e ∈ s.items.map (·.expr), e.IsItem g.names := by
    intro e he
    obtain ⟨i, hi, rfl⟩ := List.mem_map.1 he
    exact h.items i hi
  simp [Select.isPlain, h.groups, hasAggregates_eq_false items]

theorem sorted_eq_map (hdistinct : s.distinct = false) {es : List (List SortKey × Row)}
    (h : es.Pairwise fun a b => inOrder (s.order.map (·.direction)) a.1 b.1 = true) :
    s.sorted es = es.map (·.2) := by
  simp only [sorted, hdistinct, Bool.false_eq_true, if_false]
  rw [List.mergeSort_of_pairwise h]

theorem Reads.rowsOf_eq (h : s.Reads g run) (hdistinct : s.distinct = false) {c : Expr}
    (hc : s.condition = some c) {fs : Fields} {rows : List Row}
    (hrows : rows.Pairwise fun a b =>
      inOrder (s.order.map (·.direction)) (s.orderKeys fs (.single a))
        (s.orderKeys fs (.single b)) = true) (names : List String) :
    s.rowsOf fs names rows =
      page s.limit s.offset
        ((rows.filter (c.admits fs)).map fun r => s.rowOf fs names (.single r)) := by
  simp only [rowsOf, groupsOf, h.isPlain, if_true, kept_eq_filter hc, List.map_map]
  -- the rows are in the order of their keys, so sorting leaves them
  rw [sorted_eq_map hdistinct]
  · simp [Function.comp_def]
  · rw [List.pairwise_map]
    exact hrows.filter _

end Sql.Select

end Vacancy
