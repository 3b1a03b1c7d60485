import Vacancy.Proofs.Batch
import Vacancy.Proofs.Overflow

/-!
The series of a view with groups. Its query takes the rows of the scope, gives each a label and a
rank, drops those without a label, and makes one point of the rows of each label. What comes out is
a series of labels in the order of the rules that gave them.
-/

namespace Vacancy

open Sql

namespace Bucketing

variable {g : Grain} {run : Int64} {rules : List (Expr × String)} {b : Bucketing}

/-! ### Answers -/

theorem ofNat_le_ofNat {i j : Nat} (hi : i < 2 ^ 63) (hj : j < 2 ^ 63) :
    Int64.ofNat i ≤ Int64.ofNat j ↔ i ≤ j := by
  rw [Int64.le_iff_toInt_le, Int64.toInt_ofNat_of_lt hi, Int64.toInt_ofNat_of_lt hj]
  omega

def leastRank (rules : List (Expr × String)) (fs : Fields) (rows : List Row) (l : String) : Value :=
  leastOf ((Buckets.labelled rules fs rows l).map fun r =>
    (Buckets.first? rules fs r).elim .null fun i => .integer (Int64.ofNat i))

theorem exists_leads (hfew : rules.length < 2 ^ 63) {fs : Fields} {rows : List Row} {l : String}
    (hl : ∃ r ∈ rows, Buckets.label? rules fs r = some l) :
    ∃ i, Buckets.Leads rules fs rows l i ∧ i < 2 ^ 63 ∧
      leastRank rules fs rows l = .integer (Int64.ofNat i) := by
  have hfirst : ∀ r ∈ Buckets.labelled rules fs rows l,
      ∃ i, Buckets.first? rules fs r = some i ∧ i < 2 ^ 63 := by
    intro r hr
    obtain ⟨i, hi⟩ := Buckets.exists_first? rules fs r (Buckets.mem_labelled.1 hr).2
    have := Buckets.first?_lt rules fs r hi
    exact ⟨i, hi, by omega⟩
  -- each of them has a rank, so the least one is an integer
  have hranks : ((Buckets.labelled rules fs rows l).map fun r =>
      (Buckets.first? rules fs r).elim .null fun i => .integer (Int64.ofNat i)) =
        ((Buckets.labelled rules fs rows l).map fun r =>
          Int64.ofNat ((Buckets.first? rules fs r).getD 0)).map Value.integer := by
    rw [List.map_map]
    apply List.map_congr_left
    intro r hr
    obtain ⟨i, hi, _⟩ := hfirst r hr
    simp [hi]
  have hne : ((Buckets.labelled rules fs rows l).map fun r =>
      Int64.ofNat ((Buckets.first? rules fs r).getD 0)) ≠ [] := by
    intro hnil
    rw [List.map_eq_nil_iff] at hnil
    exact Buckets.labelled_ne_nil hl hnil
  obtain ⟨n, hn, hleast, hle⟩ := leastOf_integers hne
  obtain ⟨r, hr, rfl⟩ := List.mem_map.1 hn
  obtain ⟨i, hi, hlt⟩ := hfirst r hr
  rw [hi, Option.getD_some] at hleast hle
  refine ⟨i, ⟨⟨r, hr, hi⟩, ?_⟩, hlt, ?_⟩
  · intro q hq j hj
    have hqj := hle _ (List.mem_map_of_mem hq)
    obtain ⟨j', hj', hlt'⟩ := hfirst q hq
    rw [hj, Option.some.injEq] at hj'
    subst hj'
    rw [hj, Option.getD_some, ofNat_le_ofNat hlt hlt'] at hqj
    exact hqj
  · rw [leastRank, hranks, hleast]

def pointRow (b : Bucketing) (rules : List (Expr × String)) (fs : Fields) (rows : List Row)
    (l : String) : Row :=
  ⟨[("x", .text l),
    ("y", (Buckets.value rules fs rows b.aggregation b.valueColumn l).toOption.getD .null)]⟩

theorem ByRules.entry_eq (h : b.ByRules g run rules) (fs' : Fields) {fs : Fields}
    {rows : List Row} {l : String} (hl : ∃ r ∈ rows, Buckets.label? rules fs r = some l) :
    let q := (b.toQuery g).select.group fs'
      ((Buckets.labelled rules fs rows l).map (b.bucketRow fs))
    (b.toQuery g).select.orderKeys fs' q = [.ofValue (leastRank rules fs rows l)] ∧
      (b.toQuery g).select.rowOf fs' ["x", "y"] q = b.pointRow rules fs rows l := by
  intro q
  have hrows : q.rows = (Buckets.labelled rules fs rows l).map (b.bucketRow fs) := rfl
  -- columns are read from a row of the group, which has its label
  have hlabel : (q.row.get? "bucket").getD .null = .text l := by
    have hne : (Buckets.labelled rules fs rows l).map (b.bucketRow fs) ≠ [] := by
      rw [ne_eq, List.map_eq_nil_iff]
      exact Buckets.labelled_ne_nil hl
    obtain ⟨r, hr, heq⟩ := List.mem_map.1 ((b.toQuery g).select.chosen_mem fs' hne)
    have hrl := (Buckets.mem_labelled.1 hr).2
    have hrow : q.row = b.bucketRow fs r := heq.symm
    rw [hrow, get?_bucketRow_bucket, Option.getD_some, h.eval_label, hrl, Option.elim_some]
  constructor
  · have horder : (b.toQuery g).select.order = [⟨.least (.column "bucket_rank"), .ascending⟩] := rfl
    have hleast : (Expr.least (.column "bucket_rank")).eval fs' q =
        (Aggregate.least.apply (q.rows.map fun r =>
          [(Expr.column "bucket_rank").eval fs' (.single r)])).toOption.getD .null :=
      Expr.eval_aggregate (by simp) Function.named?_least fs' q
    have hrank : ∀ r, (Expr.column "bucket_rank").eval fs' (.single (b.bucketRow fs r)) =
        (Buckets.first? rules fs r).elim .null fun i => .integer (Int64.ofNat i) := by
      intro r
      rw [Expr.eval, Group.single, get?_bucketRow_rank, Option.getD_some, h.eval_rank]
    simp only [Select.orderKeys, horder, List.map_cons, List.map_nil, hleast, hrows, List.map_map,
      Function.comp_def, hrank]
    simp [Aggregate.apply, Except.toOption, Function.comp_def, List.filterMap_map, leastRank]
  · have hstar : ∀ i ∈ (b.toQuery g).select.items, i.expr ≠ .star := by
      intro i hi
      simp only [toQuery, List.mem_cons, List.not_mem_nil, or_false] at hi
      rcases hi with rfl | rfl
      · simp
      · cases b.aggregation <;> simp [aggregate, Expr.average, Expr.sum, Expr.count]
    rw [Select.rowOf_eq hstar]
    simp only [toQuery, List.map_cons, List.map_nil, aggregate_eq, eval_joinedAggregate, hrows,
      List.map_map, Expr.eval, hlabel, Function.comp_def, get?_bucketRow_y, Option.getD_some]
    rfl

theorem ByRules.entries_toQuery (h : b.ByRules g run rules) {rel : Relation} {y : Affinity}
    (hfields : rel.fields = [("y", y), ("bucket", .none), ("bucket_rank", .none)])
    {fs : Fields} {rows : List Row} (hrows : rel.rows = rows.map (b.bucketRow fs)) :
    ∃ labels : List String, labels.Nodup ∧
      (∀ l, l ∈ labels ↔ l ≠ "" ∧ ∃ r ∈ rows, Buckets.label? rules fs r = some l) ∧
      (((b.toQuery g).select.groupsOf rel.fields
        ((b.toQuery g).select.kept rel.fields rel.rows)).map fun q =>
          ((b.toQuery g).select.orderKeys rel.fields q,
            (b.toQuery g).select.rowOf rel.fields ["x", "y"] q)) =
        labels.map fun l =>
          ([.ofValue (leastRank rules fs rows l)], b.pointRow rules fs rows l) := by
  have hbucket : ∀ r, (Expr.column "bucket").eval rel.fields (.single (b.bucketRow fs r)) =
      (Buckets.label? rules fs r).elim .null .text := by
    intro r
    rw [Expr.eval, Group.single, get?_bucketRow_bucket, Option.getD_some, h.eval_label]
  have hkept : (b.toQuery g).select.kept rel.fields rel.rows =
      (rows.filter (isLabelled rules fs)).map (b.bucketRow fs) := by
    have hcondition : (b.toQuery g).select.condition =
        some (.binary .ne (.column "bucket") (.text "")) := rfl
    rw [Select.kept_eq_filter hcondition, hrows, List.filter_map]
    congr 1
    apply List.filter_congr
    intro r _
    apply admits_compared (hbucket r)
    simp [Expr.affinity, Fields.affinity?, hfields]
  have hlabel : ∀ r l, Buckets.label? rules fs r = some l →
      (Expr.column "bucket").eval rel.fields (.single (b.bucketRow fs r)) = .text l := by
    intro r l hl
    rw [hbucket, hl, Option.elim_some]
  obtain ⟨labels, hnodup, hmem, hgroups⟩ := groupsBy_labelled hlabel rows
  have hgroupsOf : ∀ kept, (b.toQuery g).select.groupsOf rel.fields kept =
      (Select.groupsBy rel.fields [.column "bucket"] kept).map
        ((b.toQuery g).select.group rel.fields) := by
    intro kept
    have hplain : (b.toQuery g).select.isPlain = false := by
      simp [Select.isPlain, toQuery]
    simp only [Select.groupsOf, hplain, Bool.false_eq_true, if_false]
    rfl
  refine ⟨labels, hnodup, hmem, ?_⟩
  rw [hgroupsOf, hkept, hgroups, List.map_map, List.map_map]
  apply List.map_congr_left
  intro l hl
  obtain ⟨horder, hrow⟩ := h.entry_eq rel.fields ((hmem l).1 hl).2
  simp only [Function.comp_apply]
  rw [horder, hrow]

theorem lists_of_sorted (hfew : rules.length < 2 ^ 63) {fs : Fields} {rows : List Row}
    {labels : List String} (hnodup : labels.Nodup)
    (hmem : ∀ l, l ∈ labels ↔ l ≠ "" ∧ ∃ r ∈ rows, Buckets.label? rules fs r = some l)
    (hsorted : labels.Pairwise fun l m => SortKey.lt (.ofValue (leastRank rules fs rows m))
      (.ofValue (leastRank rules fs rows l)) = false) :
    Buckets.Lists rules fs rows labels := by
  refine ⟨hnodup, hmem, ?_⟩
  apply (hsorted.and hnodup).imp_of_mem
  rintro l m hl hm ⟨hle, hne⟩
  obtain ⟨i, hi, hlt, hleast⟩ := exists_leads hfew ((hmem l).1 hl).2
  obtain ⟨j, hj, hlt', hleast'⟩ := exists_leads hfew ((hmem m).1 hm).2
  refine ⟨i, j, hi, hj, ?_⟩
  rw [hleast, hleast', SortKey.lt_integer, decide_eq_false_iff_not, Int64.not_lt,
    ofNat_le_ofNat hlt hlt'] at hle
  -- one rule has but one label
  have hdiff : i ≠ j := by
    intro he
    subst he
    exact hne (hi.inj hj)
  omega

theorem ByRules.answer_rows (h : b.ByRules g run rules) (hfew : rules.length < 2 ^ 63)
    (d : Database) :
    ∃ labels, Buckets.Lists rules g.schema (b.base g.schema (d.table g).rows) labels ∧
      ((b.toQuery g).answer d.relation).rows =
        labels.map (b.pointRow rules g.schema (b.base g.schema (d.table g).rows)) := by
  obtain ⟨y, hfields⟩ := h.fields_rows (d.table g).relation
  rw [h.ofRun.answer_toQuery d]
  generalize hrel : (b.rows g).answer (d.table g).relation = rel
  have hkey : rel.key = none := by
    rw [← hrel]
    rfl
  have hcolumns : rel.fields = [("y", y), ("bucket", .none), ("bucket_rank", .none)] := by
    rw [← hrel]
    exact hfields
  have hrows := h.rows_answer (d.table g)
  rw [hrel] at hrows
  obtain ⟨groups, hnodup, hmem, hentries⟩ := h.entries_toQuery hcolumns hrows
  have hdistinct : (b.toQuery g).select.distinct = false := rfl
  obtain ⟨labels, hperm, hsorted, hlabels⟩ := Select.sorted_map hdistinct rfl
    (fun l => .ofValue (leastRank rules g.schema (b.base g.schema (d.table g).rows) l))
    (b.pointRow rules g.schema (b.base g.schema (d.table g).rows)) groups
  refine ⟨labels, ?_, ?_⟩
  · apply lists_of_sorted hfew (hperm.nodup_iff.2 hnodup) _ hsorted
    intro l
    rw [hperm.mem_iff, hmem]
  · have hanswer : ((b.toQuery g).select.answer rel).rows =
        ((b.toQuery g).select.resolved rel).rowsOf rel.fields
          (((b.toQuery g).select.fields rel).map (·.1))
          (((b.toQuery g).select.resolved rel).arranged rel) := rfl
    rw [hanswer, b.resolved_toQuery g hkey hcolumns, b.names_toQuery g rel,
      b.arranged_toQuery g hkey]
    simp only [Select.rowsOf]
    rw [hentries, hlabels]
    rfl

/-! ### Runs -/

theorem mapM_eq_match {f : α → Except ε β} {k : α → β → γ} {h : α → γ} {e : ε} {as bs : List α}
    (hok : ∀ a b, f a = .ok b → k a b = h a) (honly : ∀ a e', f a = .error e' → e' = e)
    (hsame : ∀ a, a ∈ bs ↔ a ∈ as) :
    as.mapM (fun a => (f a).map (k a)) =
      (bs.findSome? fun a => failureOf (f a)).elim (.ok (as.map h)) .error := by
  cases hfirst : bs.findSome? fun a => failureOf (f a) with
  | none =>
    rw [List.findSome?_eq_none_iff] at hfirst
    apply mapM_eq_ok
    intro a ha
    have hnone := hfirst a ((hsame a).2 ha)
    cases hfa : f a with
    | ok b => rw [Except.map, hok a b hfa]
    | error e' => simp [hfa, failureOf] at hnone
  | some e' =>
    obtain ⟨a, ha, hsome⟩ := List.exists_of_findSome?_eq_some hfirst
    cases hfa : f a with
    | ok b => simp [hfa, failureOf] at hsome
    | error e₁ =>
      simp only [hfa, failureOf, Option.some.injEq] at hsome
      subst hsome
      apply mapM_eq_error
      · refine ⟨a, (hsame a).1 ha, ?_⟩
        rw [hfa]
        rfl
      · intro a' _ e₂ he
        cases hfa' : f a' with
        | ok b => simp [hfa', Except.map] at he
        | error e₃ =>
          simp only [hfa', Except.map, Except.error.injEq] at he
          rw [← he, honly a' e₃ hfa', honly a e₁ hfa]

/-- A database answers the query of the buckets with the series, or fails where this does. -/
theorem Fits.rows_toQuery (hfits : b.Fits g) (h : b.ByRules g run rules) (d : Database) :
    ∃ labels, Buckets.Lists rules g.schema (b.base g.schema (d.table g).rows) labels ∧
      (d.rows (b.toQuery g)).map (·.map Point.ofRow) =
        (Buckets.series rules g.schema (b.base g.schema (d.table g).rows) b.aggregation
          b.valueColumn labels).mapError .sql := by
  have hfew : rules.length < 2 ^ 63 := by
    have := Nat.le_trans h.length_rules_le hfits.parameters
    unfold parameterLimit at this
    omega
  obtain ⟨failing, hfailing, hfailure⟩ := hfits.failure?_toQuery h d
  obtain ⟨labels, hlists, hanswer⟩ := h.answer_rows hfew d
  refine ⟨labels, hlists, ?_⟩
  have hseries : Buckets.series rules g.schema (b.base g.schema (d.table g).rows) b.aggregation
      b.valueColumn labels = ((b.toQuery g).failure? d.relation).elim (.ok (labels.map fun l =>
        Point.ofRow (b.pointRow rules g.schema (b.base g.schema (d.table g).rows) l))) .error := by
    rw [hfailure]
    unfold Buckets.series
    apply mapM_eq_match
    · intro l v hv
      simp [pointRow, hv, Point.ofRow, Row.values, Except.toOption]
    · intro l e he
      exact (Aggregation.valueOf_eq_error he).2
    · intro l
      rw [hfailing, hlists.mem_iff]
  -- the statement is taken, so the answer is that of the query or its failure
  unfold Database.rows Query.run
  rw [h.refusal?_toQuery hfits.parameters hfits.height d, hseries]
  cases (b.toQuery g).failure? d.relation with
  | none => simp [hanswer, Except.map, Except.mapError, Function.comp_def]
  | some e => rfl

end Bucketing

theorem Database.read_buckets {d : Database} {g : Grain} {b : Bucketing}
    {series : Except SqlError (List Point)} (x y : Column)
    (hrows : (d.rows (b.toQuery g)).map (·.map Point.ofRow) = series.mapError .sql) :
    Database.store.read g (.buckets x y b) d =
      ((series.map fun points => .chart points x y b.aggregation false).mapError
        fun e => .store (.sql e), d) := by
  simp only [TabularStore.read, TabularStore.conclude_eq, Database.store]
  rw [Prod.mk.injEq]
  refine ⟨?_, rfl⟩
  cases hanswer : d.rows (b.toQuery g) with
  | error e =>
    cases series with
    | error e' =>
      simp only [hanswer, Except.map, Except.mapError, Except.error.injEq] at hrows ⊢
      rw [hrows]
    | ok points => simp [hanswer, Except.map, Except.mapError] at hrows
  | ok rows =>
    cases series with
    | error e' => simp [hanswer, Except.map, Except.mapError] at hrows
    | ok points =>
      simp only [hanswer, Except.map, Except.mapError, Except.ok.injEq] at hrows ⊢
      rw [← hrows, List.map_map]
      rfl

/-- Whether the buckets of a plan, if it has any, keep to what a database has room for. -/
def Plan.Fits (p : Plan) : Prop :=
  ∀ x y b, p.reading = .buckets x y b → b.Fits p.grain

namespace View

def base (v : View) (d : Database) : List Row :=
  (d.table v.grain).rows.filter v.scope.admits

theorem base_singleton {v : View} {d : Database} {row : Row}
    (hrows : (d.table v.grain).rows = [row]) (hadmits : v.scope.admits row = true) :
    v.base d = [row] := by
  rw [base, hrows, List.filter_cons_of_pos hadmits, List.filter_nil]

theorem base_eq (v : View) (d : Database) {b : Bucketing} (hb : b.condition = v.scope.predicate) :
    b.base v.grain.schema (d.table v.grain).rows = v.base d := by
  obtain ⟨c, hc, _⟩ := v.ofRun_scope.predicate_eq
  unfold Bucketing.base base
  apply List.filter_congr
  intro r _
  have := v.scope.admits_of_predicate hc r
  rw [v.ofRun_scope.grain] at this
  rw [hb, hc, Option.all_some, this]

theorem plan_of_groups {v : View} {page : Page} {p : Plan} {xSlot ySlot : Slot}
    (hplan : v.plan page = .ok p) (hlayout : v.layout? = some (.chart xSlot ySlot))
    (hgroups : v.groups ≠ []) :
    ∃ x y, v.axis xSlot = .ok x ∧ v.axis ySlot = .ok y ∧
      p = ⟨v.grain, .buckets x y (v.bucketing x y)⟩ := by
  cases (plan_eq_ok_iff.1 hplan).2 with
  | table hlayout' => simp [hlayout] at hlayout'
  | points _ _ _ hnone => exact absurd hnone hgroups
  | buckets hlayout' hx hy _ =>
    rw [hlayout, Option.some.injEq, Layout.chart.injEq] at hlayout'
    obtain ⟨rfl, rfl⟩ := hlayout'
    exact ⟨_, _, hx, hy, rfl⟩

/--
A chart with groups has one point for each label but the empty one, in the order of the rules that
gave them first, with the aggregate of the rows that the first rule to be true gives this label.
-/
theorem execute_of_groups {v : View} {page : Page} {p : Plan} {xSlot ySlot : Slot}
    (hplan : v.plan page = .ok p) (hlayout : v.layout? = some (.chart xSlot ySlot))
    (hgroups : v.groups ≠ []) (hfits : p.Fits) (d : Database) :
    ∃ x y labels, v.axis xSlot = .ok x ∧ v.axis ySlot = .ok y ∧
      Buckets.Lists (v.rules x) v.grain.schema (v.base d) labels ∧
      Database.store.execute v page d =
        (((Buckets.series (v.rules x) v.grain.schema (v.base d) v.aggregation y.name labels).map
          fun points => .chart points x y v.aggregation false).mapError fun e => .store (.sql e),
          d) ∧
      ∀ e, (Database.store.execute v page d).1 = .error e →
        v.aggregation = .sum ∧ e = .store (.sql .overflow) := by
  obtain ⟨x, y, hx, hy, rfl⟩ := plan_of_groups hplan hlayout hgroups
  have hrules := byRules_buckets (v := v) (name_mem_names_of_axis hx) (name_mem_names_of_axis hy)
  obtain ⟨labels, hlists, hrows⟩ := (hfits _ _ _ rfl).rows_toQuery hrules d
  rw [v.base_eq d rfl] at hlists hrows
  have hresult : Database.store.execute v page d =
      (((Buckets.series (v.rules x) v.grain.schema (v.base d) v.aggregation y.name labels).map
        fun points => .chart points x y v.aggregation false).mapError fun e => .store (.sql e),
        d) := by
    unfold TabularStore.execute
    rw [hplan]
    exact Database.read_buckets x y hrows
  refine ⟨x, y, labels, hx, hy, hlists, hresult, ?_⟩
  intro e he
  rw [hresult] at he
  cases hseries : Buckets.series (v.rules x) v.grain.schema (v.base d) v.aggregation y.name
      labels with
  | ok points => simp [hseries, Except.map, Except.mapError] at he
  | error e' =>
    simp only [hseries, Except.map, Except.mapError, Except.error.injEq] at he
    obtain ⟨hsum, rfl⟩ := Buckets.series_eq_error hseries
    exact ⟨hsum, he.symm⟩

def sizeView : View where
  run := 1
  style := .line
  grain := .building
  parameters := [.column .xAxis "household_size", .column .yAxis "duration",
    .groupNamed "0" "small" (.compare .integer .lte (.integer 2)),
    .groupNamed "1" "large" (.compare .integer .gt (.integer 2)), .aggregation .sum]

def sizeRow : Row :=
  Table.kept .building (Table.valueFor
    ⟨[(runColumn, .integer 1), ("household_size", .integer 3), ("duration", .integer 5)]⟩ 1)

theorem holds_sizeRow : Table.Holds .building sizeRow :=
  Table.holds_kept rfl

def sizeDatabase : Database :=
  ({} : Database).withTable .building (Table.empty.add sizeRow holds_sizeRow)

theorem fits_sizeView {p : Plan} (h : sizeView.plan {} = .ok p) : p.Fits := by
  cases h
  rintro _ _ _ ⟨⟩
  decide +kernel

theorem base_sizeView : sizeView.base sizeDatabase = [sizeRow] := by
  have hadmits : sizeView.scope.admits sizeRow = true := by
    decide +kernel
  exact base_singleton rfl hadmits

theorem lists_singleton {rules : List (Expr × String)} {fs : Fields} {r : Row} {l : String}
    (h : Buckets.label? rules fs r = some l) (hne : l ≠ "") :
    Buckets.Lists rules fs [r] [l] := by
  constructor
  case nodup => simp
  case mem_iff =>
    intro m
    simp only [List.mem_singleton, exists_eq_left, h, Option.some.injEq]
    constructor
    · rintro rfl
      exact ⟨hne, rfl⟩
    · rintro ⟨_, rfl⟩
      rfl
  case ordered => simp

theorem series_sizeView {x y : Column} (hx : sizeView.axis .xAxis = .ok x)
    (hy : sizeView.axis .yAxis = .ok y) :
    Buckets.label? (sizeView.rules x) sizeView.grain.schema sizeRow = some "large" ∧
      Buckets.series (sizeView.rules x) sizeView.grain.schema [sizeRow] sizeView.aggregation y.name
        ["large"] = .ok [⟨.text "large", .integer 5⟩] := by
  have hlabel : Buckets.label? (sizeView.rules x) sizeView.grain.schema sizeRow = some "large" := by
    cases hx
    decide +kernel
  have hname : y.name = "duration" := by
    cases hy
    rfl
  have hlabelled : Buckets.labelled (sizeView.rules x) sizeView.grain.schema [sizeRow] "large" =
      [sizeRow] := by
    simp [Buckets.labelled, hlabel]
  have hcell : (sizeRow.get? "duration").getD .null = .integer 5 := rfl
  have hsum : sizeView.aggregation.valueOf [.integer 5] = .ok (.integer 5) := rfl
  refine ⟨hlabel, ?_⟩
  unfold Buckets.series
  rw [List.mapM_cons, Buckets.value, hlabelled, hname, List.map_cons, List.map_nil, hcell, hsum]
  rfl

theorem execute_sizeView :
    ∃ p, sizeView.plan {} = .ok p ∧ sizeView.layout? = some (.chart .xAxis .yAxis) ∧
      sizeView.groups ≠ [] ∧ p.Fits ∧ ∃ x y, Database.store.execute sizeView {} sizeDatabase =
        (.ok (.chart [⟨.text "large", .integer 5⟩] x y .sum false), sizeDatabase) := by
  have hgroups : sizeView.groups ≠ [] := by
    simp [sizeView, groups, Parameter.groupNamed]
  obtain ⟨p, hplan⟩ : ∃ p, sizeView.plan {} = .ok p := ⟨_, rfl⟩
  have hlayout : sizeView.layout? = some (.chart .xAxis .yAxis) := rfl
  have hfits := fits_sizeView hplan
  refine ⟨p, hplan, hlayout, hgroups, hfits, ?_⟩
  obtain ⟨x, y, labels, hx, hy, hlists, hresult, _⟩ :=
    execute_of_groups hplan hlayout hgroups hfits sizeDatabase
  obtain ⟨hlabel, hseries⟩ := series_sizeView hx hy
  rw [base_sizeView] at hlists hresult
  have hlabels : labels = ["large"] := by
    apply hlists.eq
    apply lists_singleton hlabel
    decide
  refine ⟨x, y, ?_⟩
  rw [hresult, hlabels, hseries]
  rfl

end View

end Vacancy
