import Vacancy.Proofs.Labels

/-!
Failures of the query of buckets. With patterns that are short enough it fails at nothing but the
sum of some label.
-/

namespace Vacancy

open Sql

namespace Bucketing

variable {g : Grain} {run : Int64} {rules : List (Expr × String)} {b : Bucketing}

/-- What a database has room for: so many parameters, so high a condition, and so long patterns. -/
structure Fits (g : Grain) (b : Bucketing) : Prop where
  parameters : ((b.toQuery g).tokens .sqlite).countP (·.parameter?.isSome) ≤ parameterLimit
  height : ∀ c, b.condition = some c → c.height < heightLimit
  terms : ∀ c, b.condition = some c → ∀ e ∈ c.terms, e.hasLongPattern = false
  rules : ∀ e ∈ b.label.conditions, e.hasLongPattern = false

instance (g : Grain) (b : Bucketing) : Decidable (b.Fits g) :=
  decidable_of_iff
    (((b.toQuery g).tokens .sqlite).countP (·.parameter?.isSome) ≤ parameterLimit ∧
      (∀ c ∈ b.condition, c.height < heightLimit) ∧
      (∀ c ∈ b.condition, ∀ e ∈ c.terms, e.hasLongPattern = false) ∧
      ∀ e ∈ b.label.conditions, e.hasLongPattern = false)
    ⟨fun ⟨hparameters, hheight, hterms, hrules⟩ => ⟨hparameters, hheight, hterms, hrules⟩,
      fun h => ⟨h.parameters, h.height, h.terms, h.rules⟩⟩

theorem conditions_chosen (arms : List (Expr × Literal)) :
    (Buckets.chosen (arms.map fun a => (a.1, .literal a.2))).conditions = arms.map (·.1) := by
  unfold Buckets.chosen
  split
  · next h =>
    rw [List.isEmpty_iff, List.map_eq_nil_iff] at h
    rw [h]
    rfl
  · simp [Expr.conditions, Function.comp_def]

theorem ByRules.conditions_eq (h : b.ByRules g run rules) :
    b.label.conditions = rules.map (·.1) ∧ b.rank.conditions = rules.map (·.1) := by
  rw [h.label, h.rank, Buckets.label_ofRules, Buckets.rank_ofRules, conditions_chosen,
    conditions_chosen, List.map_map, List.map_map]
  refine ⟨rfl, ?_⟩
  have : ((fun a : Expr × Literal => a.1) ∘ fun r : (Expr × String) × Nat =>
      (r.1.1, Literal.integer (Int64.ofNat r.2))) = (fun r => r.1) ∘ Prod.fst := rfl
  rw [this, ← List.map_map, List.zipIdx_map_fst]

theorem Fits.armsHaveLongPattern_label (hfits : b.Fits g) :
    b.label.armsHaveLongPattern ≠ true := by
  rw [Expr.armsHaveLongPattern_eq, ne_eq, List.any_eq_true]
  rintro ⟨e, he, hlong⟩
  rw [hfits.rules e he] at hlong
  contradiction

theorem Fits.failsAtPattern_label (hfits : b.Fits g) (h : b.ByRules g run rules) :
    b.label.FailsAtPattern False := by
  apply h.ofRun.label.failsAtPattern
  exact hfits.armsHaveLongPattern_label

theorem Fits.failsAtPattern_rank (hfits : b.Fits g) (h : b.ByRules g run rules) :
    b.rank.FailsAtPattern False := by
  apply h.ofRun.rank.failsAtPattern
  -- label and rank decide by the same conditions
  rw [Expr.armsHaveLongPattern_eq, h.conditions_eq.2, ← h.conditions_eq.1,
    ← Expr.armsHaveLongPattern_eq]
  exact hfits.armsHaveLongPattern_label

def failureOf : Except ε α → Option ε
  | .ok _ => none
  | .error e => some e

theorem aggregateCalls_joined (h : b.ByRules g run rules) (c : Expr) :
    ∃ f args, Expr.aggregateCallsOfList (b.joined g c).values = [(f, args), (.least, [b.rank])] ∧
      (∀ fs q, Expr.failureOfList? fs q args = none) ∧
      ∀ fs (rows : List Row), failureOf (f.apply (rows.map fun r =>
        Expr.evalList fs (.single r) args)) = failureOf (b.aggregation.valueOf
          (rows.map fun r => (r.get? b.valueColumn).getD .null)) := by
  have hlabel := h.ofRun.label.aggregateCalls_eq
  have hleast := Expr.aggregateCalls_aggregate h.rank_ne_star Function.named?_least
  have hcolumn : (Expr.column b.valueColumn) ≠ .star := by simp
  have heads : ∀ fs (rows : List Row), (rows.map fun r =>
      Expr.evalList fs (.single r) [.column b.valueColumn]).filterMap List.head? =
        rows.map fun r => (r.get? b.valueColumn).getD .null :=
    heads_of_column b.valueColumn
  cases ha : b.aggregation with
  | average =>
    refine ⟨.average, [.column b.valueColumn], ?_, ?_, ?_⟩
    · have := Expr.aggregateCalls_aggregate hcolumn Function.named?_average
      simp [Select.values, joined, ha, joinedAggregate, Expr.average, Expr.least,
        Expr.aggregateCallsOfList, hlabel, hleast, this]
    · intro fs q
      simp [Expr.failureOfList?, Expr.failure?]
    · intro fs rows
      rfl
  | sum =>
    refine ⟨.sum, [.column b.valueColumn], ?_, ?_, ?_⟩
    · have := Expr.aggregateCalls_aggregate hcolumn Function.named?_sum
      simp [Select.values, joined, ha, joinedAggregate, Expr.sum, Expr.least,
        Expr.aggregateCallsOfList, hlabel, hleast, this]
    · intro fs q
      simp [Expr.failureOfList?, Expr.failure?]
    · intro fs rows
      simp only [Aggregate.apply, heads, Aggregation.valueOf, Aggregation.sumOf_known]
  | count =>
    refine ⟨.count, [.star], ?_, ?_, ?_⟩
    · simp [Select.values, joined, ha, joinedAggregate, Expr.least, Expr.aggregateCallsOfList,
        hlabel, hleast, Expr.aggregateCalls_count]
    · intro fs q
      simp [Expr.failureOfList?, Expr.failure?]
    · intro fs rows
      rfl

theorem Fits.failureOfGroup?_joined (hfits : b.Fits g) (h : b.ByRules g run rules) (c : Expr)
    (fs : Fields) (q : Group) :
    (b.joined g c).failureOfGroup? fs none q = failureOf (b.aggregation.valueOf
      (q.rows.map fun r => (r.get? b.valueColumn).getD .null)) := by
  obtain ⟨f, args, hcalls, hargs, hvalue⟩ := aggregateCalls_joined h c
  have hrank : ∀ r, Expr.failureOfList? fs r [b.rank] = none := by
    intro r
    have := (hfits.failsAtPattern_rank h fs r false).eq_none not_false
    simp [Expr.failureOfList?, this]
  have hvalues : Select.failureOfValues? fs q (b.joined g c).values = none := by
    have hlabel := (hfits.failsAtPattern_label h fs q false).eq_none not_false
    have hleast : (Expr.least b.rank).failure? fs q false = none :=
      Expr.failure?_aggregate h.rank_ne_star Function.named?_least fs q false
    have haggregate : (joinedAggregate b.valueColumn b.aggregation).failure? fs q false = none := by
      cases b.aggregation with
      | average => exact Expr.failure?_aggregate (by simp) Function.named?_average fs q false
      | sum => exact Expr.failure?_aggregate (by simp) Function.named?_sum fs q false
      | count => simp [joinedAggregate, Expr.count, Expr.failure?]
    simp [Select.failureOfValues?, Select.values, joined, hlabel, hleast, haggregate]
  have hleast : ∀ argss, Aggregate.least.apply argss = .ok (leastOf (argss.filterMap List.head?)) :=
    fun _ => rfl
  have happly := hvalue fs q.rows
  have hrows : q.rows.findSome? (fun _ => (none : Option SqlError)) = none := by
    simp
  unfold Select.failureOfGroup? Expr.aggregateFailure?
  simp only [Option.toList_none, List.append_nil, hcalls, List.findSome?_cons, hargs, hrank,
    List.findSome?_nil, hrows]
  rw [← happly]
  cases hresult : f.apply (q.rows.map fun r => Expr.evalList fs (.single r) args) with
  | ok v =>
    simp [hleast, hvalues, failureOf, Select.failureOfTerms?]
  | error e =>
    simp [failureOf]

theorem ByRules.kept_joined (h : b.ByRules g run rules) {c : Expr} (hc : b.condition = some c)
    (t : Table g) :
    (b.joined g c).kept g.schema ((b.joined g c).arranged t.relation) =
      (b.base g.schema t.rows).filter (isLabelled rules g.schema) := by
  obtain ⟨hchain, hrun⟩ := h.ofRun.isChain hc
  have hcondition : (b.joined g c).condition = some (c.and (.binary .ne b.label (.text ""))) := rfl
  have hterm : Scope.runTerm run ∈ (c.and (.binary .ne b.label (.text ""))).terms := by
    simp only [Expr.and, Expr.terms, List.mem_append]
    left
    exact hrun
  have harranged : (b.joined g c).arranged t.relation = t.rows := by
    unfold Select.arranged
    rw [Select.path_eq_key hcondition hterm t]
    rfl
  have haffinity : b.label.affinity g.schema = .none := by
    rw [h.label, Buckets.label_ofRules]
    unfold Buckets.chosen
    split
    · rfl
    · rfl
  rw [harranged, Select.kept_eq_filter hcondition, base, List.filter_filter]
  apply List.filter_congr
  intro r _
  rw [Expr.admits_and, admits_compared (h.eval_label _ r) haffinity, hc, Option.all_some,
    Bool.and_comm]

theorem isPlain_joined (b : Bucketing) (g : Grain) (c : Expr) :
    (b.joined g c).isPlain = false := by
  simp [Select.isPlain, joined]

theorem ByRules.groupsOf_joined (h : b.ByRules g run rules) {c : Expr} (hc : b.condition = some c)
    (t : Table g) :
    ∃ labels : List String,
      (∀ l, l ∈ labels ↔ l ≠ "" ∧ ∃ r ∈ b.base g.schema t.rows,
        Buckets.label? rules g.schema r = some l) ∧
      (b.joined g c).groupsOf g.schema
          ((b.joined g c).kept g.schema ((b.joined g c).arranged t.relation)) =
        labels.map fun l => (b.joined g c).group g.schema
          (Buckets.labelled rules g.schema (b.base g.schema t.rows) l) := by
  have hlabel : ∀ r l, Buckets.label? rules g.schema r = some l →
      b.label.eval g.schema (.single (id r)) = .text l := by
    intro r l hl
    rw [id, h.eval_label, hl, Option.elim_some]
  obtain ⟨labels, _, hmem, hgroups⟩ := groupsBy_labelled hlabel (b.base g.schema t.rows)
  rw [List.map_id] at hgroups
  have hgroupsOf : ∀ fs rows, (b.joined g c).groupsOf fs rows =
      (Select.groupsBy fs [b.label] rows).map ((b.joined g c).group fs) := by
    intro fs rows
    simp only [Select.groupsOf, b.isPlain_joined, Bool.false_eq_true, if_false]
    rfl
  refine ⟨labels, hmem, ?_⟩
  rw [hgroupsOf, h.kept_joined hc, hgroups, List.map_map]
  simp only [Function.comp_def, List.map_id]

/-- The query of the buckets fails on a row, or else on the rows of a label. -/
theorem ByRules.failure?_toQuery (h : b.ByRules g run rules) {c : Expr}
    (hc : b.condition = some c) (d : Database) :
    ∃ (labels : List String) (grouped : List Expr) (rows : List Row),
      (∀ l, l ∈ labels ↔ l ≠ "" ∧ ∃ r ∈ b.base g.schema (d.table g).rows,
        Buckets.label? rules g.schema r = some l) ∧
      (b.toQuery g).failure? d.relation =
        ((b.joined g c).failureOnRows? (d.table g).relation grouped rows).or
          (labels.findSome? fun l => (b.joined g c).failureOfGroup? g.schema none
            ((b.joined g c).group g.schema
              (Buckets.labelled rules g.schema (b.base g.schema (d.table g).rows) l))) := by
  obtain ⟨labels, hmem, hgroups⟩ := h.groupsOf_joined hc (d.table g)
  refine ⟨labels, (b.joined g c).values ++ (none : Option Expr).toList,
    (b.joined g c).arranged (d.table g).relation, hmem, ?_⟩
  have hlimit : (b.joined g c).limit ≠ some 0 := by
    simp [joined]
  have hfields : (d.table g).relation.fields = g.schema := rfl
  rw [h.ofRun.failure?_toQuery hc d, Select.failure?, if_neg hlimit]
  simp only [h.ofRun.resolved_joined hc, hfields, Select.failureOfGroups?, b.isPlain_joined,
    Bool.false_eq_true, if_false, hgroups, Option.orElse_eq_orElse, Option.orElse_eq_or,
    List.findSome?_map]
  rfl

theorem Fits.failure?_toQuery (hfits : b.Fits g) (h : b.ByRules g run rules) (d : Database) :
    ∃ labels : List String,
      (∀ l, l ∈ labels ↔ l ≠ "" ∧ ∃ r ∈ b.base g.schema (d.table g).rows,
        Buckets.label? rules g.schema r = some l) ∧
      (b.toQuery g).failure? d.relation = labels.findSome? fun l =>
        failureOf (Buckets.value rules g.schema (b.base g.schema (d.table g).rows) b.aggregation
          b.valueColumn l) := by
  obtain ⟨c, hc, _⟩ := h.condition
  obtain ⟨labels, grouped, rows, hmem, hfailure⟩ := h.failure?_toQuery hc d
  refine ⟨labels, hmem, ?_⟩
  have hpatterns : (b.joined g c).FailsAtPattern False := by
    apply h.ofRun.failsAtPattern_joined hc
    · intro e he hlong
      rw [hfits.terms c hc e he] at hlong
      contradiction
    · exact hfits.armsHaveLongPattern_label
  -- short patterns leave nothing that could fail before there are groups
  have honRows := (hpatterns.failureOnRows? (d.table g).relation grouped rows).eq_none not_false
  rw [hfailure, honRows, Option.none_or]
  simp only [hfits.failureOfGroup?_joined h, Select.group]
  rfl

theorem ByRules.value_of_failure? (h : b.ByRules g run rules) {d : Database}
    (hnone : (b.toQuery g).failure? d.relation = none) {l : String} (hne : l ≠ "")
    (hl : ∃ r ∈ b.base g.schema (d.table g).rows, Buckets.label? rules g.schema r = some l) :
    failureOf (Buckets.value rules g.schema (b.base g.schema (d.table g).rows) b.aggregation
      b.valueColumn l) = none := by
  obtain ⟨c, hc, _⟩ := h.condition
  obtain ⟨labels, _, _, hmem, hfailure⟩ := h.failure?_toQuery hc d
  obtain ⟨f, args, hcalls, _, hvalue⟩ := aggregateCalls_joined h c
  rw [hfailure, Option.or_eq_none_iff, List.findSome?_eq_none_iff] at hnone
  have hgroup := hnone.2 l ((hmem l).2 ⟨hne, hl⟩)
  -- the aggregates of a group are worked out before all else of it
  unfold Select.failureOfGroup? Expr.aggregateFailure? at hgroup
  simp only [Option.toList_none, List.append_nil, hcalls, Option.orElse_eq_orElse,
    Option.orElse_eq_or, Option.or_eq_none_iff, List.findSome?_eq_none_iff, List.mem_cons,
    forall_eq_or_imp] at hgroup
  rw [Buckets.value, ← hvalue g.schema]
  have hfirst := hgroup.1.2.1
  simp only [Select.group] at hfirst
  split at hfirst
  · next hok => rw [hok, failureOf]
  · contradiction

end Bucketing

end Vacancy
