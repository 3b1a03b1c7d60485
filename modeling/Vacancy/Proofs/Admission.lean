import Vacancy.Proofs.Degraded

/-!
When a filter admits a row: its term has a value on the row and is true of it. A comparison is one
of the places of two values in their order, after a conversion that keeps null apart from all other
values; with a null on either side, and of a pattern with a null beside it, nothing is true.
-/

namespace Vacancy

open Sql

namespace Sql

/-! ### Comparisons with null -/

theorem numberOf_ne_null (n : Decimal.Numeral) : numberOf n ≠ .null := by
  unfold numberOf
  split <;> simp

theorem Value.toNumber_eq_null {v : Value} : Value.toNumber v = .null ↔ v = .null := by
  cases v with
  | text s =>
    suffices (wholeNumber? s).getD (.text s) ≠ .null by simpa [Value.toNumber]
    unfold wholeNumber?
    split
    · split
      · exact numberOf_ne_null _
      · simp
    · simp
  | _ => simp [Value.toNumber]

theorem Value.toText_eq_null {v : Value} : Value.toText v = .null ↔ v = .null := by
  cases v <;> simp [Value.toText]

theorem Conversion.apply_eq_null (c : Conversion) (v w : Value) :
    ((c.apply v w).1 = .null ↔ v = .null) ∧ ((c.apply v w).2 = .null ↔ w = .null) := by
  cases c with
  | none => exact ⟨Iff.rfl, Iff.rfl⟩
  | number => exact ⟨Value.toNumber_eq_null, Value.toNumber_eq_null⟩
  | text =>
    unfold apply
    dsimp only
    split
    · exact ⟨Value.toText_eq_null, Value.toText_eq_null⟩
    · exact ⟨Iff.rfl, Iff.rfl⟩

namespace Operator

theorem compare_null_left (op : Operator) (c : Conversion) (w : Value) :
    op.compare c .null w = none := by
  have hnull : (c.apply .null w).1 = .null := (c.apply_eq_null .null w).1.2 rfl
  simp [compare, hnull, Value.isNull]

theorem compare_null_right (op : Operator) (c : Conversion) (v : Value) :
    op.compare c v .null = none := by
  have hnull : (c.apply v .null).2 = .null := (c.apply_eq_null v .null).2.2 rfl
  simp [compare, hnull, Value.isNull]

theorem exists_compare_eq (c : Conversion) {v w : Value} (hv : v ≠ .null) (hw : w ≠ .null) :
    ∃ a b : SortKey, ∀ op : Operator, op.compare c v w = some (op.holds a b) := by
  obtain ⟨hleft, hright⟩ := c.apply_eq_null v w
  have hfst : (c.apply v w).1 ≠ .null := mt hleft.1 hv
  have hsnd : (c.apply v w).2 ≠ .null := mt hright.1 hw
  refine ⟨.ofValue (c.apply v w).1, .ofValue (c.apply v w).2, ?_⟩
  intro op
  rw [ne_eq, ← Value.isNull_iff, Bool.not_eq_true] at hfst hsnd
  simp [compare, hfst, hsnd]

end Operator

/-! ### Terms -/

theorem like_null (p : Value) : Sql.like .null p = none :=
  rfl

theorem Pattern.utf8ByteSize_between (s : String) :
    ("%" ++ s ++ "%").utf8ByteSize = s.utf8ByteSize + 2 := by
  have hpercent : "%".utf8ByteSize = 1 := rfl
  rw [String.utf8ByteSize_append, String.utf8ByteSize_append, hpercent]
  omega

theorem Literal.toValue_ne_null {l : Literal} (h : l.isParameter = true) : l.toValue ≠ .null := by
  cases l <;> simp_all [isParameter, toValue]

namespace Expr

/-- A condition that has a value on a row, and is true of it. -/
structure IsMet (fs : Fields) (r : Row) (e : Expr) : Prop where
  failure : e.failure? fs (.single r) true = none
  admits : e.admits fs r = true

def conversion (fs : Fields) (name : String) : Conversion :=
  .ofAffinities ((Expr.column name).affinity fs) .none

variable {fs : Fields} {r : Row} {name : String}

theorem isMet_compared {comparison : Comparison} {l : Literal} :
    (Predicate.compared name comparison l).IsMet fs r ↔
      comparison.operator.compare (conversion fs name) (r.cell name) l.toValue = some true := by
  have hfailure : (Predicate.compared name comparison l).failure? fs (.single r) true = none :=
    failure?_compared (Predicate.operator_ne_and comparison) fs _ _ name l
  have heval : (Predicate.compared name comparison l).admits fs r =
      (comparison.operator.compare (conversion fs name) (r.cell name) l.toValue = some true) := by
    cases comparison <;> simp [Predicate.compared, Comparison.operator, admits, isTrue, eval,
      Group.single, conversion, Row.cell, affinity]
  constructor
  · intro h
    exact heval ▸ h.admits
  · intro h
    exact ⟨hfailure, heval ▸ h⟩

theorem like_cell (pattern : String) (negated : Bool) :
    (Expr.like (.column name) (.text pattern) negated).eval fs (.single r) =
      (let t := Sql.like (r.cell name) (.text pattern)
      if negated then t.not else t).toValue := by
  simp only [eval, text, Literal.toValue]
  rfl

theorem isMet_like {pattern : String} {negated : Bool} :
    (Expr.like (.column name) (.text pattern) negated).IsMet fs r ↔
      pattern.utf8ByteSize ≤ Pattern.sizeLimit ∧
        Sql.like (r.cell name) (.text pattern) = some (!negated) := by
  have hterm : IsTerm [name] (.like (.column name) (.text pattern) negated) :=
    .like (List.mem_singleton_self name)
  have hlong : (Expr.like (.column name) (.text pattern) negated).hasLongPattern =
      decide (Pattern.sizeLimit < pattern.utf8ByteSize) := rfl
  have hadmits : (Expr.like (.column name) (.text pattern) negated).admits fs r = true ↔
      Sql.like (r.cell name) (.text pattern) = some (!negated) := by
    rw [admits, isTrue, like_cell, Truth.ofValue_toValue, decide_eq_true_iff]
    generalize Sql.like (r.cell name) (.text pattern) = t
    cases t with
    | none => cases negated <;> simp [Truth.not]
    | some b => cases b <;> cases negated <;> simp [Truth.not]
  constructor
  · rintro ⟨hfailure, htrue⟩
    rw [hterm.failure?_eq, hlong, ite_eq_right_iff, decide_eq_true_iff] at hfailure
    exact ⟨Nat.not_lt.1 fun h => Option.some_ne_none _ (hfailure h), hadmits.1 htrue⟩
  · rintro ⟨hshort, htrue⟩
    refine ⟨?_, hadmits.2 htrue⟩
    rw [hterm.failure?_eq, hlong, if_neg]
    simpa using hshort

theorem isMet_range {lower upper : Comparison} {l m : Literal} :
    (Expr.group (.and (Predicate.compared name lower l) (Predicate.compared name upper m))).IsMet
      fs r ↔
      (Predicate.compared name lower l).IsMet fs r ∧
        (Predicate.compared name upper m).IsMet fs r := by
  have hlower := failure?_compared (Predicate.operator_ne_and lower) fs (.single r) true name l
  have hupper := failure?_compared (Predicate.operator_ne_and upper) fs (.single r) true name m
  have hterm : IsTerm [name]
      (.group (.and (Predicate.compared name lower l) (Predicate.compared name upper m))) :=
    .range (Predicate.operator_ne_and _) (Predicate.operator_ne_and _) (List.mem_singleton_self _)
  have hadmits :
      (Expr.group (.and (Predicate.compared name lower l) (Predicate.compared name upper m))).admits
        fs r =
      ((Predicate.compared name lower l).admits fs r &&
        (Predicate.compared name upper m).admits fs r) := by
    rw [← admits_and, admits, isTrue, eval]
    rfl
  constructor
  · rintro ⟨_, htrue⟩
    rw [hadmits, Bool.and_eq_true] at htrue
    exact ⟨⟨hlower, htrue.1⟩, ⟨hupper, htrue.2⟩⟩
  · rintro ⟨hl, hu⟩
    refine ⟨hterm.failure?_eq fs _ _, ?_⟩
    rw [hadmits, hl.admits, hu.admits]
    rfl

end Expr

end Sql

/-! ### Filters -/

namespace Condition

variable {c : Condition} {g : Grain} {r : Row} {name : String}

theorem type_rescaled (c : Condition) (x : Option Column) : (c.rescaled x).type = c.type := by
  unfold rescaled
  split <;> rfl

theorem operation_rescaled (c : Condition) (x : Option Column) :
    (c.rescaled x).operation = c.operation := by
  unfold rescaled
  split <;> rfl

theorem rescaled_of_not_isFloat (h : c.type.isFloat = false) (x : Option Column) :
    c.rescaled x = c := by
  rw [rescaled, h, Bool.and_false]
  rfl

/-- A filter admits a row if it is not degraded and its term is met. -/
def Admits (c : Condition) (g : Grain) (r : Row) : Prop :=
  ∃ e, c.filterTerm? g = some e ∧ e.IsMet g.schema r

theorem filterPredicate_of_has (hcolumn : c.column = some name) (hname : g.has name = true) :
    c.filterPredicate g = (c.rescaled (g.column? name)).compile name := by
  have hfilter : c.filterColumn g = .ok name := by
    simp [filterColumn, hcolumn, hname]
  rw [filterPredicate, hfilter]
  rfl

theorem admits_iff_isMet {p : Predicate} (hp : c.filterPredicate g = .ok p) :
    c.Admits g r ↔ p.toExpr.IsMet g.schema r := by
  have hterm : c.filterTerm? g = some p.toExpr := by
    rw [filterTerm?, hp]
    rfl
  rw [Admits, hterm]
  simp

theorem Admits.exists_predicate (h : c.Admits g r) :
    ∃ p, c.filterPredicate g = .ok p ∧ p.toExpr.IsMet g.schema r := by
  obtain ⟨e, he, hmet⟩ := h
  unfold filterTerm? at he
  cases hp : c.filterPredicate g with
  | error reason =>
    rw [hp] at he
    contradiction
  | ok p =>
    rw [hp] at he
    obtain rfl := Option.some.inj he
    exact ⟨p, rfl, hmet⟩

end Condition

end Vacancy
