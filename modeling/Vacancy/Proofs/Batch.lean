import Vacancy.Batch
import Vacancy.Proofs.Scope
import Vacancy.Proofs.TableRows

/-!
What a batch is: of the rows that the request asks for, the first ones after its cursor.
-/

namespace Vacancy

open Sql

namespace Scope

def admits (s : Scope) (r : Row) : Bool :=
  s.terms.all (·.admits s.grain.schema r)

theorem admits_of_predicate {s : Scope} {c : Expr} (h : s.predicate = some c) (r : Row) :
    c.admits s.grain.schema r = s.admits r :=
  Expr.admits_of_conjunction h _ r

theorem admits_after (s : Scope) (cursor : Option Int64) {r : Row}
    (h : Table.Holds s.grain r) : (s.after cursor).admits r = (s.admits r && r.isAfter cursor) := by
  cases cursor with
  | none => simp [after, admits, add, Row.isAfter]
  | some id =>
    simp only [after, admits, add, Option.map_some, Option.toList_some, List.all_append,
      List.all_cons, List.all_nil, Bool.and_true, Row.isAfter, Option.all_some]
    rw [Table.admits_after h]

end Scope

namespace BatchRequest

def scope (r : BatchRequest) : Scope :=
  (((Scope.ofRun r.grain r.run).referenceDate r.date).areas r.areas).filters r.filters

/-- Of some rows those that the request asks for and has not seen. -/
def pending (r : BatchRequest) (rows : List Row) : List Row :=
  rows.filter fun row => r.scope.admits row && row.isAfter r.cursor

theorem ofRun_scope (r : BatchRequest) : r.scope.OfRun r.grain r.run :=
  (((Scope.ofRun_ofRun r.grain r.run).referenceDate r.date).areas r.areas).filters r.filters

theorem selection_eq_ok {r : BatchRequest} {s : Selection} (h : r.selection = .ok s) :
    0 < r.run ∧ r.size ≠ 0 ∧
      s = ⟨[], (r.scope.after r.cursor).predicate, [idOrder], { limit := some r.size }⟩ := by
  unfold selection at h
  split at h
  · simp at h
  · next hrun =>
    split at h
    · simp at h
    · next hsize =>
      simp only [Except.ok.injEq] at h
      exact ⟨Int64.not_le.1 hrun, hsize, h.symm⟩

theorem reads {r : BatchRequest} {s : Selection} (h : r.selection = .ok s) :
    (s.toQuery r.grain).select.Reads r.grain r.run := by
  obtain ⟨_, _, rfl⟩ := selection_eq_ok h
  exact (r.ofRun_scope.after r.cursor).reads_toQuery rfl (by simp) (idOrder_mem_names r.grain)

end BatchRequest

namespace TabularStore

variable {σ : Type}

theorem conclude_eq (f : α → β) (answer : Answer σ α) (state : σ) :
    conclude f answer state =
      (((answer state).1.mapError EngineError.store).map f, (answer state).2) := by
  simp only [conclude, bind, StateT.bind]
  generalize answer state = p
  obtain ⟨_ | _, _⟩ := p
  · rfl
  · rfl

theorem fst_conclude (f : α → β) (answer : Answer σ α) (state : σ) :
    (conclude f answer state).1 = ((answer state).1.mapError EngineError.store).map f := by
  rw [conclude_eq]

end TabularStore

namespace Database

theorem rows_eq_answer {d : Database} {q : Query} {rows : List Row} (h : d.rows q = .ok rows) :
    rows = (q.answer d.relation).rows := by
  simp only [Database.rows, Query.run] at h
  cases hrun : q.refusal? d.relation <|> q.failure? d.relation with
  | some e => simp [hrun] at h
  | none =>
    simp only [hrun, Except.ok.injEq] at h
    exact h.symm

theorem answer_of_reads (d : Database) {g : Grain} {run : Int64} {s : Select} (h : s.Reads g run) :
    (Query.answer ⟨s, []⟩ d.relation).rows = (s.regrouped.answer (d.table g).relation).rows := by
  simp only [Query.answer, Query.answerWith, Query.source, h.source, Option.elim_some,
    d.relation_table]

end Database

namespace Table

variable {g : Grain} (t : Table g)

theorem pairwise_inOrder_id (fs : Fields) :
    t.rows.Pairwise fun a b =>
      inOrder [.ascending] [.ofValue ((Expr.column idColumn).eval fs (.single a))]
        [.ofValue ((Expr.column idColumn).eval fs (.single b))] = true := by
  apply t.ascending.imp_of_mem
  intro a b ha hb hab
  rw [eval_id (t.holds a ha), eval_id (t.holds b hb)]
  simp [inOrder, SortKey.lt_integer, hab]

end Table

theorem Table.Holds.rowOf_star {g : Grain} {r : Row} (h : Holds g r) {s : Select}
    (hitems : s.items = [⟨.star, none⟩]) (fs : Fields) :
    s.rowOf fs (g.schema.map (·.1)) (.single r) = r := by
  simp only [Select.rowOf, hitems, List.flatMap_cons, List.flatMap_nil, List.append_nil,
    Group.single]
  exact h.zip_values

namespace Sql.Select.Reads

variable {g : Grain} {run : Int64} {s : Select}

theorem orderOn_id (h : s.Reads g run) (horder : s.order = [idOrder]) (t : Table g) :
    s.orderOn t.relation = [idOrder] := by
  obtain ⟨c, hc, _, hrun⟩ := h.condition
  rw [orderOn, path_eq_key hc hrun t, horder]
  rfl

theorem answer_star (h : s.Reads g run) (hitems : s.items = [⟨.star, none⟩])
    (horder : s.order = [idOrder]) (hdistinct : s.distinct = false) {c : Expr}
    (hc : s.condition = some c) (t : Table g) :
    (s.regrouped.answer t.relation).rows =
      page s.limit s.offset (t.rows.filter (c.admits g.schema)) := by
  have hresolved : s.resolved t.relation = s := by
    rw [h.resolved_eq, h.orderOn_id horder, ← horder]
  have hfields : s.fields t.relation = g.schema := by
    simp [fields, hitems, itemFields, Table.relation]
  have hrows := t.pairwise_inOrder_id g.schema
  rw [h.answer_rows, hresolved, hfields, h.rowsOf_eq hdistinct hc]
  · congr 1
    refine (List.map_congr_left ?_).trans (List.map_id _)
    intro r hr
    exact (t.holds r (List.mem_filter.1 hr).1).rowOf_star hitems g.schema
  · simp only [horder, orderKeys]
    exact hrows

end Sql.Select.Reads

namespace Row

theorem isAfter_of_lt {cursor : Option Int64} {r s : Row} (hr : r.isAfter cursor = true)
    (h : Table.key r < Table.key s) : s.isAfter cursor = true := by
  cases cursor with
  | none => rfl
  | some id =>
    simp only [isAfter, Option.all_some, decide_eq_true_eq] at hr ⊢
    exact Int64.lt_trans hr h

theorem lt_of_isAfter {cursor : Option Int64} {r s : Row} (hr : r.isAfter cursor = false)
    (hs : s.isAfter cursor = true) : Table.key r < Table.key s := by
  cases cursor with
  | none => simp [isAfter] at hr
  | some id =>
    simp only [isAfter, Option.all_some, decide_eq_true_eq, decide_eq_false_iff_not,
      Int64.not_lt] at hr hs
    exact Int64.lt_of_le_of_lt hr hs

theorem isAfter_last {batch : List Row} {row : Row}
    (h : batch.Pairwise fun a b => Table.key a < Table.key b) (hlast : batch.getLast? = some row) :
    ∀ r ∈ batch, r.isAfter (some (Table.key row)) = false := by
  obtain ⟨init, rfl⟩ := List.getLast?_eq_some_iff.1 hlast
  rw [List.pairwise_append] at h
  intro r hr
  simp only [isAfter, Option.all_some, decide_eq_false_iff_not, Int64.not_lt]
  rcases List.mem_append.1 hr with hr | hr
  · exact Int64.le_of_lt (h.2.2 r hr row (by simp))
  · rw [List.mem_singleton.1 hr]
    exact Int64.le_refl _

end Row

theorem filter_after_of_pairwise {init rest : List Row} {row : Row}
    (h : (init ++ [row] ++ rest).Pairwise fun a b => Table.key a < Table.key b) :
    (init ++ [row] ++ rest).filter (Table.key row < Table.key ·) = rest := by
  rw [List.append_assoc, List.singleton_append, List.pairwise_append, List.pairwise_cons] at h
  obtain ⟨_, ⟨hrest, _⟩, hinit⟩ := h
  rw [List.filter_append, List.filter_append]
  have hbefore : init.filter (Table.key row < Table.key ·) = [] := by
    rw [List.filter_eq_nil_iff]
    intro s hs
    have := hinit s hs row List.mem_cons_self
    simpa using Int64.le_of_lt this
  have hafter : rest.filter (Table.key row < Table.key ·) = rest := by
    rw [List.filter_eq_self]
    intro s hs
    simpa using hrest s hs
  rw [hbefore, hafter]
  simp

namespace BatchRequest

theorem rows_eq_take {d : Database} {r : BatchRequest} {s : Selection} {rows : List Row}
    (hs : r.selection = .ok s) (h : d.rows (s.toQuery r.grain) = .ok rows) :
    rows = (r.pending (d.table r.grain).rows).take (pageCount r.size) := by
  have hreads := reads hs
  obtain ⟨_, _, rfl⟩ := selection_eq_ok hs
  obtain ⟨c, hc, _⟩ := (r.ofRun_scope.after r.cursor).predicate_eq
  have hadmits : ∀ row ∈ (d.table r.grain).rows,
      c.admits r.grain.schema row = (r.scope.admits row && row.isAfter r.cursor) := by
    intro row hrow
    rw [← r.scope.admits_after r.cursor ((d.table r.grain).holds row hrow)]
    exact Scope.admits_of_predicate hc row
  have hanswer : rows = _ :=
    (Database.rows_eq_answer h).trans ((d.answer_of_reads hreads).trans
      (hreads.answer_star rfl rfl rfl hc (d.table r.grain)))
  rw [hanswer, pending, List.filter_congr hadmits]
  rfl

theorem pending_after_batch {r : BatchRequest} {rows : List Row}
    (hrows : rows.Pairwise fun a b => Table.key a < Table.key b) {batch rest : List Row} {row : Row}
    (hpending : r.pending rows = batch ++ rest) (hlast : batch.getLast? = some row) :
    ({ r with cursor := some (Table.key row) } : BatchRequest).pending rows = rest := by
  obtain ⟨init, rfl⟩ := List.getLast?_eq_some_iff.1 hlast
  have hsorted : (init ++ [row] ++ rest).Pairwise fun a b => Table.key a < Table.key b := by
    rw [← hpending]
    exact hrows.filter _
  have hmem : row ∈ r.pending rows := by
    rw [hpending]
    simp
  have hafter := (Bool.and_eq_true_iff.1 (List.mem_filter.1 hmem).2).2
  -- what comes after the last row of the batch comes after the old cursor, too
  have htwice : ({ r with cursor := some (Table.key row) } : BatchRequest).pending rows =
      (r.pending rows).filter (Table.key row < Table.key ·) := by
    simp only [pending, List.filter_filter]
    apply List.filter_congr
    intro s _
    have hscope : ({ r with cursor := some (Table.key row) } : BatchRequest).scope = r.scope := rfl
    rw [hscope, Row.isAfter, Option.all_some]
    by_cases hs : Table.key row < Table.key s
    · rw [Row.isAfter_of_lt hafter hs, Bool.and_true, Bool.and_comm]
    · simp [hs]
  rw [htwice, hpending, filter_after_of_pairwise hsorted]

end BatchRequest

end Vacancy
