import Vacancy.Proofs.TableQuery
import Vacancy.Proofs.TableRows

/-!
Calls of aggregates: what they are worth on a group of rows, and that a query of groups may have
them.
-/

namespace Vacancy.Sql

namespace Function

theorem upper_eq_self {name : String}
    (h : name.toList.all (fun c => c.toNat < 0x80 && c.toUpper == c) = true) :
    Text.upper name = name := by
  simp only [List.all_eq_true, Bool.and_eq_true, decide_eq_true_eq] at h
  rw [Text.upper_of_ascii fun c hc => (h c hc).1]
  exact Grain.map_eq_self (List.all_eq_true.2 fun c hc => (h c hc).2)

theorem upper_count : Text.upper "COUNT" = "COUNT" :=
  upper_eq_self (by decide)

theorem upper_sum : Text.upper "SUM" = "SUM" :=
  upper_eq_self (by decide)

theorem upper_average : Text.upper "AVG" = "AVG" :=
  upper_eq_self (by decide)

theorem upper_least : Text.upper "MIN" = "MIN" :=
  upper_eq_self (by decide)

theorem named?_count : named? "COUNT" 0 = some (.aggregate .count) := by
  unfold named?
  rw [upper_count]
  rfl

theorem named?_sum : named? "SUM" 1 = some (.aggregate .sum) := by
  unfold named?
  rw [upper_sum]
  rfl

theorem named?_average : named? "AVG" 1 = some (.aggregate .average) := by
  unfold named?
  rw [upper_average]
  rfl

theorem named?_least : named? "MIN" 1 = some (.aggregate .least) := by
  unfold named?
  rw [upper_least]
  rfl

end Function

/-! ### The least integer -/

theorem better_integer (m n : Int64) :
    Aggregate.least.better (.integer m) (.integer n) = .integer (if n < m then n else m) := by
  by_cases h : n < m
  · simp [Aggregate.better, Aggregate.improves, Value.isNull, SortKey.lt_integer, h]
  · simp [Aggregate.better, Aggregate.improves, Value.isNull, SortKey.lt_integer, h]

theorem foldl_better_integers (m : Int64) (ns : List Int64) :
    ∃ l ∈ m :: ns, (ns.map Value.integer).foldl Aggregate.least.better (.integer m) = .integer l ∧
      ∀ n ∈ m :: ns, l ≤ n := by
  induction ns generalizing m with
  | nil =>
    refine ⟨m, List.mem_cons_self, rfl, ?_⟩
    intro n hn
    rw [List.mem_singleton.1 hn]
    apply Int64.le_refl
  | cons n ns ih =>
    rw [List.map_cons, List.foldl_cons, better_integer]
    obtain ⟨l, hl, heq, hle⟩ := ih (if n < m then n else m)
    refine ⟨l, ?_, heq, ?_⟩
    · split at hl
      · apply List.mem_cons_of_mem
        exact hl
      · rcases List.mem_cons.1 hl with rfl | hl
        · apply List.mem_cons_self
        · apply List.mem_cons_of_mem
          apply List.mem_cons_of_mem
          exact hl
    · -- the one that is left out of `m` and `n` is no less than the other
      have hfirst := hle _ List.mem_cons_self
      intro k hk
      rcases List.mem_cons.1 hk with rfl | hk
      · split at hfirst
        · next hlt => exact Int64.le_of_lt (Int64.lt_of_le_of_lt hfirst hlt)
        · exact hfirst
      · rcases List.mem_cons.1 hk with rfl | hk
        · split at hfirst
          · exact hfirst
          · next hlt => exact Int64.le_trans hfirst (Int64.not_lt.1 hlt)
        · apply hle
          apply List.mem_cons_of_mem
          exact hk

theorem leastOf_integers {ns : List Int64} (h : ns ≠ []) :
    ∃ l ∈ ns, leastOf (ns.map .integer) = .integer l ∧ ∀ n ∈ ns, l ≤ n := by
  obtain ⟨m, ns, rfl⟩ := List.exists_cons_of_ne_nil h
  apply foldl_better_integers

namespace Expr

theorem arguments_singleton {e : Expr} (he : e ≠ .star) : arguments [e] = [e] := by
  unfold arguments
  split
  · next h =>
    simp at h
    contradiction
  · rfl

section

variable {name : String} {e : Expr} {f : Aggregate}

theorem function?_of_named? (he : e ≠ .star) (hf : Function.named? name 1 = some (.aggregate f)) :
    function? name [e] = some (.aggregate f) := by
  unfold function?
  rw [arguments_singleton he]
  exact hf

theorem eval_aggregate (he : e ≠ .star) (hf : Function.named? name 1 = some (.aggregate f))
    (fs : Fields) (g : Group) :
    (call name [e]).eval fs g =
      (f.apply (g.rows.map fun r => [e.eval fs (.single r)])).toOption.getD .null := by
  rw [eval]
  · simp [function?_of_named? he hf, evalList]
  · simpa using he

theorem eval_count (fs : Fields) (g : Group) :
    count.eval fs g = .integer (Int64.ofNat g.rows.length) := by
  unfold count eval
  rfl

theorem aggregateCalls_aggregate (he : e ≠ .star)
    (hf : Function.named? name 1 = some (.aggregate f)) :
    (call name [e]).aggregateCalls = [(f, [e])] := by
  unfold aggregateCalls
  rw [function?_of_named? he hf]

theorem failure?_aggregate (he : e ≠ .star) (hf : Function.named? name 1 = some (.aggregate f))
    (fs : Fields) (g : Group) (condition : Bool) :
    (call name [e]).failure? fs g condition = none := by
  rw [failure?]
  · simp [function?_of_named? he hf]
  · simpa using he

theorem callFault?_aggregate {n : Nat} (hf : Function.named? name n = some (.aggregate f)) :
    callFault? true name n = none := by
  simp [callFault?, hf]

theorem check_aggregate (he : e ≠ .star) (hf : Function.named? name 1 = some (.aggregate f))
    {named : String → Option String} {i : Nat} (hcheck : e.check named false (i + 1) {} = {}) :
    (call name [e]).check named true i {} = {} := by
  have hname : isAggregate name 1 = true := by
    simp [isAggregate, hf]
  simp [check, checkList, arguments_singleton he, callFault?_aggregate hf, hname, hcheck,
    Found.note, Found.resume]

theorem check_count (named : String → Option String) (i : Nat) :
    count.check named true i {} = {} := by
  simp [count, check, checkList, arguments, callFault?_aggregate Function.named?_count, Found.note,
    Found.resume, Found.pass]

end

/-! ### Expressions without aggregates -/

variable {names : List String}

theorem IsTerm.aggregateCalls_eq {e : Expr} (h : e.IsTerm names) : e.aggregateCalls = [] := by
  cases h with
  | compared _ _ => simp [aggregateCalls]
  | like _ => simp [aggregateCalls, text]
  | range _ _ _ => simp [aggregateCalls, Expr.and]
  | among _ => simp [aggregateCalls, aggregateCallsOfList]

theorem aggregateCallsOfArms_eq {arms : List (Expr × Literal)} (h : ∀ a ∈ arms, a.1.IsTerm names) :
    aggregateCallsOfArms (arms.map fun a => (a.1, .literal a.2)) = [] := by
  induction arms with
  | nil => rfl
  | cons a arms ih =>
    have ha := (h a List.mem_cons_self).aggregateCalls_eq
    simp only [List.map_cons, aggregateCallsOfArms, ha, aggregateCalls]
    apply ih
    intro b hb
    exact h b (List.mem_cons_of_mem _ hb)

theorem IsItem.aggregateCalls_eq {e : Expr} (h : e.IsItem names) : e.aggregateCalls = [] := by
  cases h with
  | star => simp [aggregateCalls]
  | column _ => simp [aggregateCalls]
  | literal => simp [aggregateCalls]
  | choice h => simp [aggregateCalls, aggregateCallsOfArms_eq h]

theorem aggregateCalls_count : count.aggregateCalls = [(.count, [.star])] := by
  unfold count aggregateCalls function? arguments
  simp only [List.length_nil, Function.named?_count]

end Expr

end Vacancy.Sql
