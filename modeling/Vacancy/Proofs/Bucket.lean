import Vacancy.Proofs.Failing
import Vacancy.Proofs.Scope

/-!
The query of buckets: a query on the table of a grain, and one on the rows of that, which a database
puts together.
-/

namespace Vacancy

open Sql

namespace Bucketing

structure OfRun (g : Grain) (run : Int64) (b : Bucketing) : Prop where
  condition : ∃ c, b.condition = some c ∧ c.IsChain g.names ∧ Scope.runTerm run ∈ c.terms
  label : b.label.IsItem g.names
  rank : b.rank.IsItem g.names
  valueColumn : b.valueColumn ∈ g.names

variable {g : Grain} {run : Int64} {b : Bucketing}

theorem OfRun.isChain (h : b.OfRun g run) {c : Expr} (hc : b.condition = some c) :
    c.IsChain g.names ∧ Scope.runTerm run ∈ c.terms := by
  obtain ⟨c', hc', hchain, hterm⟩ := h.condition
  rw [hc, Option.some.injEq] at hc'
  subst hc'
  exact ⟨hchain, hterm⟩

theorem OfRun.reads (h : b.OfRun g run) : (b.rows g).Reads g run := by
  refine ⟨rfl, ?_, h.condition, rfl, ?_⟩
  · intro i hi
    simp only [rows, List.mem_cons, List.not_mem_nil, or_false] at hi
    rcases hi with rfl | rfl | rfl
    · exact .column h.valueColumn
    · exact h.label
    · exact h.rank
  · intro k hk
    simp [rows] at hk

theorem regrouped_toQuery (b : Bucketing) (g : Grain) :
    (b.toQuery g).select.regrouped = (b.toQuery g).select := by
  cases hb : b.aggregation with
  | average => simp only [toQuery, aggregate, hb]; rfl
  | sum => simp only [toQuery, aggregate, hb]; rfl
  | count => simp only [toQuery, aggregate, hb]; rfl

def joinedAggregate (column : String) : Aggregation → Expr
  | .average => .average (.column column)
  | .sum => .sum (.column column)
  | .count => .count

/-- The two queries put together. -/
def joined (b : Bucketing) (g : Grain) (c : Expr) : Select where
  items := [⟨b.label, some "x"⟩, ⟨joinedAggregate b.valueColumn b.aggregation, some "y"⟩]
  source := some g.table
  condition := some (c.and (.binary .ne b.label (.text "")))
  groups := [b.label]
  order := [⟨.least b.rank, .ascending⟩]

theorem alias?_rows (b : Bucketing) (g : Grain) :
    (b.rows g).alias? "y" = some (0, .column b.valueColumn) ∧
      (b.rows g).alias? "bucket" = some (1, b.label) ∧
      (b.rows g).alias? "bucket_rank" = some (2, b.rank) := by
  have hy : "y".toLower = "y" := Grain.toLower_eq_self (by decide)
  have hbucket : "bucket".toLower = "bucket" := Grain.toLower_eq_self (by decide)
  have hrank : "bucket_rank".toLower = "bucket_rank" := Grain.toLower_eq_self (by decide)
  simp [Select.alias?, rows, List.zipIdx, hy, hbucket, hrank]

theorem OfRun.unfold_eq (h : b.OfRun g run) (t : Table g) :
    (b.rows g).unfold t.relation (.column "y") = .column b.valueColumn ∧
      (b.rows g).unfold t.relation (.column "bucket") = b.label ∧
      (b.rows g).unfold t.relation (.column "bucket_rank") = b.rank := by
  obtain ⟨hy, hbucket, hrank⟩ := b.alias?_rows g
  simp only [Select.unfold, Expr.replaceNames, hy, hbucket, hrank, Option.map_some,
    Option.elim_some]
  refine ⟨t.meaning_relation h.valueColumn, ?_, ?_⟩
  · exact h.label.replaceNames_eq fun name => t.meaning_relation
  · exact h.rank.replaceNames_eq fun name => t.meaning_relation

theorem OfRun.unfolded_eq (h : b.OfRun g run) {c : Expr} (hc : b.condition = some c)
    (t : Table g) : (b.toQuery g).select.unfolded (b.rows g) t.relation = b.joined g c := by
  obtain ⟨hchain, _⟩ := h.isChain hc
  obtain ⟨hy, hbucket, hrank⟩ := h.unfold_eq t
  have hcondition : c.replaceNames ((b.rows g).meaning t.relation) = c :=
    hchain.replaceNames_eq fun name => (b.rows g).meaning_of_mem_names t
  have hcall : ∀ name e, (b.rows g).unfold t.relation (.call name [e]) =
      .call name [(b.rows g).unfold t.relation e] := fun _ _ => rfl
  have haggregate : (b.rows g).unfold t.relation (aggregate b.aggregation) =
      joinedAggregate b.valueColumn b.aggregation := by
    cases b.aggregation with
    | average => simp only [aggregate, joinedAggregate, Expr.average, hcall, hy]
    | sum => simp only [aggregate, joinedAggregate, Expr.sum, hcall, hy]
    | count => rfl
  have hcompared : (b.rows g).unfold t.relation (.binary .ne (.column "bucket") (.text "")) =
      .binary .ne ((b.rows g).unfold t.relation (.column "bucket")) (.text "") := rfl
  simp only [Select.unfolded, Select.mapExprs, toQuery, joined, List.map_cons, List.map_nil,
    hbucket, hrank, haggregate, hcompared, Expr.least, hcall, Option.map_some]
  rw [show (b.rows g).condition = some c from hc]
  simp only [Option.map_some, hcondition]
  rfl

theorem replaceNames_joinedAggregate {column : String} {f : String → Expr}
    (hf : f column = .column column) (a : Aggregation) :
    (joinedAggregate column a).replaceNames f = joinedAggregate column a := by
  cases a with
  | average => simp [joinedAggregate, Expr.average, Expr.replaceNames, Expr.replaceNamesInList, hf]
  | sum => simp [joinedAggregate, Expr.sum, Expr.replaceNames, Expr.replaceNamesInList, hf]
  | count => rfl

theorem OfRun.named_joined (h : b.OfRun g run) {c : Expr} (hc : b.condition = some c)
    (t : Table g) : (b.joined g c).named t.relation = b.joined g c := by
  obtain ⟨hchain, _⟩ := h.isChain hc
  have hmeaning : ∀ name ∈ g.names, (b.joined g c).meaning t.relation name = .column name :=
    fun name => (b.joined g c).meaning_of_mem_names t
  have houter : (b.joined g c).mapExprs (·.replaceNames ((b.joined g c).meaning t.relation)) =
      b.joined g c := by
    apply Select.mapExprs_eq
    · intro i hi
      simp only [joined, List.mem_cons, List.not_mem_nil, or_false] at hi
      rcases hi with rfl | rfl
      · exact h.label.replaceNames_eq hmeaning
      · exact replaceNames_joinedAggregate (hmeaning _ h.valueColumn) _
    · intro e he
      rw [joined, Option.mem_some_iff] at he
      subst he
      simp only [Expr.and, Expr.replaceNames, hchain.replaceNames_eq hmeaning,
        h.label.replaceNames_eq hmeaning, Expr.text]
    · intro e he
      rw [joined, List.mem_singleton] at he
      subst he
      exact h.label.replaceNames_eq hmeaning
    · intro k hk
      rw [joined, List.mem_singleton] at hk
      subst hk
      simp only [Expr.least, Expr.replaceNames, Expr.replaceNamesInList,
        h.rank.replaceNames_eq hmeaning]
  have hitems : (b.joined g c).items.map
      (fun i => { i with expr := i.expr.replaceNames t.relation.meaning }) =
        (b.joined g c).items := by
    simp only [joined, List.map_cons, List.map_nil,
      h.label.replaceNames_eq fun name => t.meaning_relation,
      replaceNames_joinedAggregate (t.meaning_relation h.valueColumn)]
  simp only [Select.named, houter, hitems]

theorem OfRun.resolved_joined (h : b.OfRun g run) {c : Expr} (hc : b.condition = some c)
    (t : Table g) : (b.joined g c).resolved t.relation = b.joined g c := by
  have horder : (b.joined g c).orderOn t.relation = (b.joined g c).order := by
    unfold Select.orderOn
    cases (b.joined g c).path t.relation with
    | key => simp [joined, Expr.least, Table.relation, Expr.isColumn]
    | index _ => rfl
  simp only [Select.resolved, h.named_joined hc, horder]

theorem OfRun.failsAtPattern_joined (h : b.OfRun g run) {c : Expr} (hc : b.condition = some c)
    {long : Prop} (hterms : ∀ e ∈ c.terms, e.hasLongPattern = true → long)
    (hlabel : b.label.armsHaveLongPattern = true → long) :
    (b.joined g c).FailsAtPattern long := by
  obtain ⟨hchain, _⟩ := h.isChain hc
  have hfails := h.label.failsAtPattern hlabel
  -- there are groups, so no values are asked for before them
  constructor
  case terms =>
    intro e he
    have : e ∈ c.terms ∨ e = .binary .ne b.label (.text "") := by
      simpa [Select.terms, joined, Expr.and, Expr.terms] using he
    rcases this with he | rfl
    · exact (hchain.isTerm_of_mem_terms e he).failsAtPattern (hterms e he)
    · exact hfails.compared (by decide) _
  case values =>
    intro hplain
    simp [Select.isPlain, joined] at hplain
  case groups =>
    intro _
    refine ⟨by simp [joined], ?_⟩
    intro e he
    rw [joined, List.mem_singleton] at he
    rw [he]
    exact hfails

theorem source_rows (b : Bucketing) (g : Grain) (d : Database) :
    Query.source d.relation (b.rows g) = (d.table g).relation := by
  simp only [Query.source, rows, Option.elim_some, d.relation_table]

theorem OfRun.failure?_toQuery (h : b.OfRun g run) {c : Expr} (hc : b.condition = some c)
    (d : Database) :
    (b.toQuery g).failure? d.relation = (b.joined g c).failure? (d.table g).relation none := by
  have hsource : Query.source d.relation (b.joined g c) = (d.table g).relation := by
    simp only [Query.source, joined, Option.elim_some, d.relation_table]
  have hcommon : (b.toQuery g).common = [(bucketed, b.rows g)] := rfl
  -- the inner query is plain, so the outer one is put together with it
  simp only [Query.failure?, Query.failureWith?, hcommon, List.map_cons, List.map_nil,
    h.reads.regrouped_eq, h.reads.isPlain, if_true, b.regrouped_toQuery g, b.source_rows g,
    h.unfolded_eq hc, hsource]

theorem OfRun.answer_toQuery (h : b.OfRun g run) (d : Database) :
    (b.toQuery g).answer d.relation =
      (b.toQuery g).select.answer ((b.rows g).answer (d.table g).relation) := by
  have hcommon : (b.toQuery g).common = [(bucketed, b.rows g)] := rfl
  have hselect : (b.toQuery g).select.source = some bucketed := rfl
  simp only [Query.answer, Query.answerWith, hcommon, h.reads.regrouped_eq,
    b.regrouped_toQuery g, b.source_rows g]
  simp only [Query.source, hselect, Option.elim_some, if_true]

end Bucketing

end Vacancy
