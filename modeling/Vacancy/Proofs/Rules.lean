import Vacancy.Payload
import Vacancy.Proofs.Plan

/-!
What rules make of rows. The first rule that is true on a row decides: its label is the label of the
row, and its number is the rank of the row. Rows with one label make one point of a series,
whichever rules gave it to them.
-/

namespace Vacancy

open Sql

/-! ### Lists of results -/

theorem mapM_eq_ok {f : α → Except ε β} {h : α → β} {as : List α} (hf : ∀ a ∈ as, f a = .ok (h a)) :
    as.mapM f = .ok (as.map h) := by
  induction as with
  | nil => rfl
  | cons a as ih =>
    have has := ih fun a' ha' => hf a' (List.mem_cons_of_mem _ ha')
    rw [List.mapM_cons, hf a List.mem_cons_self, has]
    rfl

theorem mapM_eq_error {f : α → Except ε β} {e : ε} {as : List α} (herror : ∃ a ∈ as, f a = .error e)
    (honly : ∀ a ∈ as, ∀ e', f a = .error e' → e' = e) : as.mapM f = .error e := by
  induction as with
  | nil =>
    obtain ⟨a, ha, _⟩ := herror
    contradiction
  | cons a as ih =>
    rw [List.mapM_cons]
    cases ha : f a with
    | error e' =>
      rw [honly a List.mem_cons_self e' ha]
      rfl
    | ok c =>
      obtain ⟨a', ha', he⟩ := herror
      rcases List.mem_cons.1 ha' with rfl | ha'
      · rw [ha] at he
        contradiction
      · rw [ih ⟨a', ha', he⟩ fun a'' ha'' => honly a'' (List.mem_cons_of_mem _ ha'')]
        rfl

theorem exists_of_mapM_eq_error {f : α → Except ε β} {e : ε} {as : List α}
    (h : as.mapM f = .error e) : ∃ a ∈ as, f a = .error e := by
  induction as with
  | nil => contradiction
  | cons a as ih =>
    rw [List.mapM_cons] at h
    cases ha : f a with
    | error e' =>
      rw [ha] at h
      change Except.error e' = Except.error e at h
      rw [Except.error.injEq] at h
      rw [h] at ha
      exact ⟨a, List.mem_cons_self, ha⟩
    | ok c =>
      cases has : as.mapM f with
      | error e' =>
        rw [ha, has] at h
        change Except.error e' = Except.error e at h
        rw [Except.error.injEq] at h
        rw [h] at has
        obtain ⟨a', ha', he⟩ := ih has
        exact ⟨a', List.mem_cons_of_mem _ ha', he⟩
      | ok cs =>
        rw [ha, has] at h
        contradiction

def Aggregation.valueOf (a : Aggregation) (ys : List Value) : Except SqlError Value :=
  let known := ys.filter (!·.isNull)
  match a with
  | .average => .ok (averageOf known)
  | .sum => sumOf known
  | .count => .ok (.integer (Int64.ofNat ys.length))

namespace Aggregation

theorem sumOf_eq_error {vs : List Value} {e : SqlError} (h : sumOf vs = .error e) :
    e = .overflow := by
  unfold sumOf at h
  split at h
  · contradiction
  · split at h
    · contradiction
    · contradiction
    · simp only [Except.error.injEq] at h
      exact h.symm

theorem valueOf_eq_error {a : Aggregation} {ys : List Value} {e : SqlError}
    (h : a.valueOf ys = .error e) : a = .sum ∧ e = .overflow := by
  cases a with
  | average => contradiction
  | sum => exact ⟨rfl, sumOf_eq_error h⟩
  | count => contradiction

theorem filterMap_addend?_known (vs : List Value) :
    (vs.filter (!·.isNull)).filterMap addend? = vs.filterMap addend? := by
  rw [List.filterMap_filter]
  congr 1
  funext v
  cases v <;> rfl

theorem sumOf_known (vs : List Value) : sumOf (vs.filter (!·.isNull)) = sumOf vs := by
  unfold sumOf
  rw [filterMap_addend?_known]

theorem averageOf_known (vs : List Value) : averageOf (vs.filter (!·.isNull)) = averageOf vs := by
  unfold averageOf
  rw [filterMap_addend?_known]

end Aggregation

namespace Buckets

theorem eval_chosen (fs : Fields) (g : Group) (arms : List (Expr × Literal)) :
    (chosen (arms.map fun a => (a.1, .literal a.2))).eval fs g =
      ((arms.find? (·.1.isTrue fs g)).map (·.2.toValue)).getD .null := by
  unfold chosen
  split
  · next h =>
    rw [List.isEmpty_iff, List.map_eq_nil_iff] at h
    rw [h]
    rfl
  · simp only [Expr.eval, Expr.evalArms_literals]
    rfl

section

variable (rules : List (Expr × String)) (fs : Fields) (r : Row)

def first? : Option Nat :=
  rules.findIdx? (·.1.admits fs r)

def label? : Option String :=
  (rules.find? (·.1.admits fs r)).map (·.2)

theorem label?_eq :
    label? rules fs r = (first? rules fs r).bind fun i => (rules[i]?).map (·.2) := by
  unfold label? first?
  rw [List.find?_eq_bind_findIdx?_getElem?, Option.map_bind]
  rfl

theorem label?_append (rules' : List (Expr × String)) :
    label? (rules ++ rules') fs r = (label? rules fs r).or (label? rules' fs r) := by
  unfold label?
  rw [List.find?_append, Option.map_or]

theorem first?_lt {i : Nat} (h : first? rules fs r = some i) : i < rules.length := by
  unfold first? at h
  rw [List.findIdx?_eq_some_iff_findIdx_eq] at h
  exact h.1

theorem exists_first? {l : String} (h : label? rules fs r = some l) :
    ∃ i, first? rules fs r = some i := by
  rw [label?_eq, Option.bind_eq_some_iff] at h
  obtain ⟨i, hi, _⟩ := h
  exact ⟨i, hi⟩

theorem eval_label :
    (ofRules rules).label.eval fs (.single r) = (label? rules fs r).elim .null .text := by
  rw [label_ofRules, eval_chosen, List.find?_map]
  unfold label? Expr.admits
  simp only [Function.comp_def, Option.map_map]
  cases rules.find? (·.1.isTrue fs (.single r)) with
  | none => rfl
  | some _ => rfl

theorem eval_rank :
    (ofRules rules).rank.eval fs (.single r) =
      (first? rules fs r).elim .null fun i => .integer (Int64.ofNat i) := by
  rw [rank_ofRules, eval_chosen, List.find?_map]
  unfold first? Expr.admits
  rw [List.findIdx?_eq_fst_find?_zipIdx]
  simp only [Function.comp_def, Option.map_map]
  cases rules.zipIdx.find? fun x => x.1.1.isTrue fs (.single r) with
  | none => rfl
  | some _ => rfl

end

/-! ### Labels of rows -/

section

variable (rules : List (Expr × String)) (fs : Fields) (rows : List Row)

def labelled (l : String) : List Row :=
  rows.filter fun r => label? rules fs r = some l

def value (a : Aggregation) (column : String) (l : String) : Except SqlError Value :=
  a.valueOf ((labelled rules fs rows l).map fun r => (r.get? column).getD .null)

def series (a : Aggregation) (column : String) (labels : List String) :
    Except SqlError (List Point) :=
  labels.mapM fun l => (value rules fs rows a column l).map fun y => ⟨.text l, y⟩

/-- The smallest number of a rule that gave some row the label. -/
def Leads (l : String) (i : Nat) : Prop :=
  (∃ r ∈ labelled rules fs rows l, first? rules fs r = some i) ∧
    ∀ r ∈ labelled rules fs rows l, ∀ j, first? rules fs r = some j → i ≤ j

/--
All labels of some rows but the empty one, each of them once, in the order of the first rules that
gave them.
-/
structure Lists (labels : List String) : Prop where
  nodup : labels.Nodup
  mem_iff : ∀ l, l ∈ labels ↔ l ≠ "" ∧ ∃ r ∈ rows, label? rules fs r = some l
  ordered : labels.Pairwise fun l m =>
    ∃ i j, Leads rules fs rows l i ∧ Leads rules fs rows m j ∧ i < j

variable {rules fs rows}

theorem mem_labelled {l : String} {r : Row} :
    r ∈ labelled rules fs rows l ↔ r ∈ rows ∧ label? rules fs r = some l := by
  rw [labelled, List.mem_filter, decide_eq_true_eq]

theorem labelled_ne_nil {l : String} (hl : ∃ r ∈ rows, label? rules fs r = some l) :
    labelled rules fs rows l ≠ [] := by
  obtain ⟨r, hr, hl⟩ := hl
  apply List.ne_nil_of_mem
  exact mem_labelled.2 ⟨hr, hl⟩

theorem series_eq_error {a : Aggregation} {column : String} {labels : List String} {e : SqlError}
    (h : series rules fs rows a column labels = .error e) : a = .sum ∧ e = .overflow := by
  obtain ⟨l, _, hl⟩ := exists_of_mapM_eq_error h
  cases hv : value rules fs rows a column l with
  | ok v => simp [hv, Except.map] at hl
  | error e' =>
    simp only [hv, Except.map, Except.error.injEq] at hl
    subst hl
    exact Aggregation.valueOf_eq_error hv

theorem Leads.unique {l : String} {i j : Nat} (hi : Leads rules fs rows l i)
    (hj : Leads rules fs rows l j) : i = j := by
  obtain ⟨⟨r, hr, hri⟩, hi⟩ := hi
  obtain ⟨⟨q, hq, hqj⟩, hj⟩ := hj
  have hle := hi q hq j hqj
  have hge := hj r hr i hri
  omega

theorem Leads.inj {l m : String} {i : Nat} (hl : Leads rules fs rows l i)
    (hm : Leads rules fs rows m i) : l = m := by
  obtain ⟨⟨r, hr, hri⟩, _⟩ := hl
  obtain ⟨⟨q, hq, hqi⟩, _⟩ := hm
  have hr := (mem_labelled.1 hr).2
  have hq := (mem_labelled.1 hq).2
  -- both labels are the one of the rule with this number
  rw [label?_eq, hri] at hr
  rw [label?_eq, hqi, hr, Option.some.injEq] at hq
  exact hq

theorem Lists.eq {labels labels' : List String} (h : Lists rules fs rows labels)
    (h' : Lists rules fs rows labels') : labels = labels' := by
  have hperm : labels.Perm labels' := by
    rw [List.perm_ext_iff_of_nodup h.nodup h'.nodup]
    intro l
    rw [h.mem_iff, h'.mem_iff]
  -- no two labels can lead each other
  refine List.Perm.eq_of_pairwise ?_ h.ordered h'.ordered hperm
  rintro l m _ _ ⟨i, j, hi, hj, hlt⟩ ⟨j', i', hj', hi', hlt'⟩
  have := hi.unique hi'
  have := hj.unique hj'
  omega

end

end Buckets

end Vacancy
