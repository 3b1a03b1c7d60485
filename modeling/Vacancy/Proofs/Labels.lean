import Vacancy.Proofs.AcceptedBuckets
import Vacancy.Proofs.Grouping

/-!
The rows of the buckets. There is one for each row of the scope, with its label and its rank beside
the value; the query on them drops those without a label and makes one group of each label.
-/

namespace Vacancy

open Sql

namespace Bucketing

/-! ### Points -/

theorem aggregate_eq (a : Aggregation) : aggregate a = joinedAggregate "y" a := by
  cases a with
  | average => rfl
  | sum => rfl
  | count => rfl

theorem heads_of_column (column : String) (fs : Fields) (rows : List Row) :
    (rows.map fun r => [(Expr.column column).eval fs (.single r)]).filterMap List.head? =
      rows.map fun r => (r.get? column).getD .null := by
  rw [List.filterMap_map, ← List.filterMap_eq_map]
  rfl

theorem eval_joinedAggregate (column : String) (a : Aggregation) (fs : Fields) (g : Group) :
    (joinedAggregate column a).eval fs g =
      (a.valueOf (g.rows.map fun r => (r.get? column).getD .null)).toOption.getD .null := by
  have heads := heads_of_column column fs g.rows
  cases a with
  | average =>
    unfold joinedAggregate Expr.average
    rw [Expr.eval_aggregate (by simp) Function.named?_average]
    simp only [Aggregate.apply, heads, Aggregation.valueOf, Aggregation.averageOf_known]
  | sum =>
    unfold joinedAggregate Expr.sum
    rw [Expr.eval_aggregate (by simp) Function.named?_sum]
    simp only [Aggregate.apply, heads, Aggregation.valueOf, Aggregation.sumOf_known]
  | count =>
    unfold joinedAggregate
    rw [Expr.eval_count]
    simp [Aggregation.valueOf, Except.toOption]

variable {g : Grain} {run : Int64} {rules : List (Expr × String)} {b : Bucketing}

theorem chosen_ne_star (arms : List (Expr × Expr)) : Buckets.chosen arms ≠ .star := by
  unfold Buckets.chosen
  split
  · simp [Expr.null]
  · simp

theorem ByRules.label_ne_star (h : b.ByRules g run rules) : b.label ≠ .star := by
  rw [h.label]
  apply chosen_ne_star

theorem ByRules.rank_ne_star (h : b.ByRules g run rules) : b.rank ≠ .star := by
  rw [h.rank]
  apply chosen_ne_star

/-! ### The rows of the buckets -/

def bucketRow (b : Bucketing) (fs : Fields) (r : Row) : Row :=
  ⟨[("y", (r.get? b.valueColumn).getD .null), ("bucket", b.label.eval fs (.single r)),
    ("bucket_rank", b.rank.eval fs (.single r))]⟩

def base (b : Bucketing) (fs : Fields) (rows : List Row) : List Row :=
  rows.filter fun r => b.condition.all (·.admits fs r)

theorem ByRules.rows_answer (h : b.ByRules g run rules) (t : Table g) :
    ((b.rows g).answer t.relation).rows = (b.base g.schema t.rows).map (b.bucketRow g.schema) := by
  obtain ⟨c, hc, _⟩ := h.condition
  have hreads := h.ofRun.reads
  have hresolved : (b.rows g).resolved t.relation = b.rows g := by
    rw [hreads.resolved_eq t]
    have hnone : (b.rows g).orderOn t.relation = [] := by
      rw [List.eq_nil_iff_forall_not_mem]
      intro k hk
      exact List.not_mem_nil (Select.mem_orderOn hk)
    rw [hnone]
    rfl
  obtain ⟨y, hfields⟩ := h.fields_rows t.relation
  have hanswer := hreads.answer_rows t
  rw [hreads.regrouped_eq, hresolved, hreads.rowsOf_eq rfl hc] at hanswer
  · rw [hanswer]
    have hstar : ∀ i ∈ (b.rows g).items, i.expr ≠ .star := by
      intro i hi
      simp only [rows, List.mem_cons, List.not_mem_nil, or_false] at hi
      rcases hi with rfl | rfl | rfl
      · simp
      · exact h.label_ne_star
      · exact h.rank_ne_star
    simp only [Select.rowOf_eq hstar, hfields, base, hc, Option.all_some]
    rfl
  · apply List.pairwise_of_forall
    intro _ _
    rfl

/-! ### Groups of these rows -/

section

variable {rel : Relation} {y : Affinity}

theorem resolved_toQuery (b : Bucketing) (g : Grain) (hkey : rel.key = none)
    (hfields : rel.fields = [("y", y), ("bucket", .none), ("bucket_rank", .none)]) :
    (b.toQuery g).select.resolved rel = (b.toQuery g).select := by
  have hmeaning : ∀ name ∈ columns, (b.toQuery g).select.meaning rel name = .column name := by
    intro name hname
    simp [Select.meaning, column?_of_mem_columns hfields hname]
  have hitem : ∀ name ∈ columns, rel.meaning name = .column name := by
    intro name hname
    simp [Relation.meaning, column?_of_mem_columns hfields hname]
  have hy : "y" ∈ columns := by simp [columns]
  have hbucket : "bucket" ∈ columns := by simp [columns]
  have hrank : "bucket_rank" ∈ columns := by simp [columns]
  have hitems : (b.toQuery g).select.items.map (fun i =>
      { i with expr := i.expr.replaceNames rel.meaning }) = (b.toQuery g).select.items := by
    simp only [toQuery, aggregate_eq, List.map_cons, List.map_nil, Expr.replaceNames,
      hitem _ hbucket, replaceNames_joinedAggregate (hitem _ hy)]
  have houter : (b.toQuery g).select.mapExprs
      (·.replaceNames ((b.toQuery g).select.meaning rel)) = (b.toQuery g).select := by
    apply Select.mapExprs_eq
    · intro i hi
      simp only [toQuery, List.mem_cons, List.not_mem_nil, or_false] at hi
      rcases hi with rfl | rfl
      · exact hmeaning _ hbucket
      · rw [aggregate_eq]
        exact replaceNames_joinedAggregate (hmeaning _ hy) _
    · intro c hc
      simp only [toQuery, Option.mem_some_iff] at hc
      subst hc
      simp only [Expr.replaceNames, hmeaning _ hbucket, Expr.text]
    · intro e he
      simp only [toQuery, List.mem_singleton] at he
      subst he
      exact hmeaning _ hbucket
    · intro k hk
      simp only [toQuery, List.mem_singleton] at hk
      subst hk
      simp only [Expr.least, Expr.replaceNames, Expr.replaceNamesInList, hmeaning _ hrank]
  have hnamed : (b.toQuery g).select.named rel = (b.toQuery g).select := by
    simp only [Select.named, houter, hitems]
  have horder : (b.toQuery g).select.orderOn rel = (b.toQuery g).select.order := by
    simp [Select.orderOn, Select.path, hkey, toQuery]
  simp only [Select.resolved, hnamed, horder]

theorem arranged_toQuery (b : Bucketing) (g : Grain) (hkey : rel.key = none) :
    (b.toQuery g).select.arranged rel = rel.rows := by
  simp [Select.arranged, Select.path, hkey, Path.arrange]

end

/-! ### One group for each label -/

def isLabelled (rules : List (Expr × String)) (fs : Fields) (r : Row) : Bool :=
  (Buckets.label? rules fs r).any (· ≠ "")

theorem groupsBy_labelled {fs fs' : Fields} {e : Expr} {f : Row → Row}
    (he : ∀ r l, Buckets.label? rules fs r = some l → e.eval fs' (.single (f r)) = .text l)
    (rows : List Row) :
    ∃ labels : List String, labels.Nodup ∧
      (∀ l, l ∈ labels ↔ l ≠ "" ∧ ∃ r ∈ rows, Buckets.label? rules fs r = some l) ∧
      Select.groupsBy fs' [e] ((rows.filter (isLabelled rules fs)).map f) =
        labels.map fun l => (Buckets.labelled rules fs rows l).map f := by
  have hlabel : ∀ r ∈ rows.filter (isLabelled rules fs),
      e.eval fs' (.single (f r)) = .text ((Buckets.label? rules fs r).getD "") := by
    intro r hr
    have hr := (List.mem_filter.1 hr).2
    rw [isLabelled, Option.any_eq_true] at hr
    obtain ⟨l, hl, _⟩ := hr
    rw [he r l hl, hl, Option.getD_some]
  obtain ⟨labels, hnodup, hmem, heq⟩ := Select.groupsBy_label hlabel
  have hiff : ∀ l, l ∈ labels ↔ l ≠ "" ∧ ∃ r ∈ rows, Buckets.label? rules fs r = some l := by
    intro l
    rw [hmem]
    constructor
    · rintro ⟨r, hr, rfl⟩
      obtain ⟨hr, hl⟩ := List.mem_filter.1 hr
      rw [isLabelled, Option.any_eq_true] at hl
      obtain ⟨l, hl, hne⟩ := hl
      rw [hl, Option.getD_some]
      rw [decide_eq_true_eq] at hne
      exact ⟨hne, r, hr, hl⟩
    · rintro ⟨hne, r, hr, hl⟩
      refine ⟨r, ?_, ?_⟩
      · rw [List.mem_filter]
        refine ⟨hr, ?_⟩
        simp [isLabelled, hl, hne]
      · rw [hl, Option.getD_some]
  refine ⟨labels, hnodup, hiff, ?_⟩
  rw [heq]
  -- a label that is not empty picks the same rows with and without the filter
  apply List.map_congr_left
  intro l hl
  have hne := ((hiff l).1 hl).1
  congr 1
  rw [List.filter_filter, Buckets.labelled]
  apply List.filter_congr
  intro r _
  cases hr : Buckets.label? rules fs r with
  | none => simp [isLabelled, hr, Ne.symm hne]
  | some m =>
    by_cases hm : m = l
    · subst hm
      simp [isLabelled, hr, hne]
    · simp [hm]

theorem ByRules.eval_label (h : b.ByRules g run rules) (fs : Fields) (r : Row) :
    b.label.eval fs (.single r) = (Buckets.label? rules fs r).elim .null .text := by
  rw [h.label]
  apply Buckets.eval_label

theorem ByRules.eval_rank (h : b.ByRules g run rules) (fs : Fields) (r : Row) :
    b.rank.eval fs (.single r) =
      (Buckets.first? rules fs r).elim .null fun i => .integer (Int64.ofNat i) := by
  rw [h.rank]
  apply Buckets.eval_rank

@[simp] theorem get?_bucketRow_y (b : Bucketing) (fs : Fields) (r : Row) :
    (b.bucketRow fs r).get? "y" = some ((r.get? b.valueColumn).getD .null) := by
  simp [bucketRow]

@[simp] theorem get?_bucketRow_bucket (b : Bucketing) (fs : Fields) (r : Row) :
    (b.bucketRow fs r).get? "bucket" = some (b.label.eval fs (.single r)) := by
  simp [bucketRow]

@[simp] theorem get?_bucketRow_rank (b : Bucketing) (fs : Fields) (r : Row) :
    (b.bucketRow fs r).get? "bucket_rank" = some (b.rank.eval fs (.single r)) := by
  simp [bucketRow]

theorem compare_ne_empty (o : Option String) :
    (Operator.ne.compare .none (o.elim .null .text) (.text "") = some true) ↔
      o.any (· ≠ "") = true := by
  cases o with
  -- NULL is not unequal to the empty text, as it is not comparable
  | none => simp [Operator.compare, Conversion.apply, Value.isNull]
  | some l =>
    simp [Operator.compare, Conversion.apply, Value.isNull, Operator.holds, SortKey.ofValue]

theorem admits_compared {fs fs' : Fields} {e : Expr} {r q : Row}
    (he : e.eval fs' (.single q) = (Buckets.label? rules fs r).elim .null .text)
    (haffinity : e.affinity fs' = .none) :
    (Expr.binary .ne e (.text "")).admits fs' q = isLabelled rules fs r := by
  have heval : (Expr.binary .ne e (.text "")).eval fs' (.single q) =
      (Operator.ne.compare .none ((Buckets.label? rules fs r).elim .null .text)
        (.text "")).toValue := by
    rw [← he]
    simp [Expr.eval, Expr.text, haffinity, Expr.affinity, Conversion.ofAffinities,
      Affinity.isNumeric, Literal.toValue]
  rw [Bool.eq_iff_iff, Expr.admits, Expr.isTrue, heval, Truth.ofValue_toValue, decide_eq_true_eq,
    compare_ne_empty]
  rfl

end Bucketing

end Vacancy
