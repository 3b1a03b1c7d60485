import Vacancy.Proofs.Admission

/-!
A range asks what the comparisons with its two bounds ask. As a filter or as a rule it has a term if
both of its flags are given and both comparisons have terms, and a row meets it if it meets both.
-/

namespace Vacancy

open Sql

namespace OperandType

def side : OperandType → OperandType
  | .integerRange => .integer
  | .floatRange => .float
  | .dateRange => .date
  | t => t

theorem read_side (t : OperandType) (operand : Option Value) :
    t.side.read operand = t.read operand := by
  cases t <;> rfl

theorem isFloat_side (t : OperandType) : t.side.isFloat = t.isFloat := by
  cases t <;> rfl

theorem comparison_mem_operations_side {t : OperandType} (h : t.isRange = true) (k : Comparison) :
    k.operation ∈ t.side.operations := by
  cases t with
  | integerRange | floatRange | dateRange =>
    cases k <;> simp [side, operations, Comparison.operation]
  | _ => contradiction

end OperandType

namespace Condition

variable {c : Condition} {column : String}

def lower (c : Condition) : Condition where
  column := c.column
  type := c.type.side
  operation := if c.includesStart = some false then .gt else .gte
  value := c.start

def upper (c : Condition) : Condition where
  column := c.column
  type := c.type.side
  operation := if c.includesLast = some false then .lt else .lte
  value := c.last

theorem lower_rescaled (c : Condition) (x : Option Column) :
    (c.rescaled x).lower = c.lower.rescaled x := by
  simp only [rescaled, lower, OperandType.isFloat_side]
  split <;> rfl

theorem upper_rescaled (c : Condition) (x : Option Column) :
    (c.rescaled x).upper = c.upper.rescaled x := by
  simp only [rescaled, upper, OperandType.isFloat_side]
  split <;> rfl

/-! ### Terms -/

theorem toExpr?_bound {t : OperandType} (ht : t.isRange = true) (name : Option String)
    (k : Comparison) (bound : Option Value) (column : String) :
    toExpr? { column := name, type := t.side, operation := k.operation, value := bound } column =
      (t.read bound).toOption.map (Predicate.compared column k) := by
  rw [toExpr?, compile_of_comparison (OperandType.comparison_mem_operations_side ht k) rfl,
    OperandType.read_side]
  cases t.read bound <;> rfl

theorem toExpr?_lower (column : String) (hrange : c.type.isRange = true) :
    c.lower.toExpr? column = (c.type.read c.start).toOption.map
      (Predicate.compared column (if c.includesStart = some false then .gt else .gte)) := by
  rw [← toExpr?_bound hrange c.column, lower]
  split <;> rfl

theorem toExpr?_upper (column : String) (hrange : c.type.isRange = true) :
    c.upper.toExpr? column = (c.type.read c.last).toOption.map
      (Predicate.compared column (if c.includesLast = some false then .lt else .lte)) := by
  rw [← toExpr?_bound hrange c.column, upper]
  split <;> rfl

/-- Both flags of a range are given. -/
def HasFlags (c : Condition) : Prop :=
  c.includesStart.isSome = true ∧ c.includesLast.isSome = true

theorem hasFlags_rescaled (c : Condition) (x : Option Column) :
    (c.rescaled x).HasFlags ↔ c.HasFlags := by
  unfold rescaled
  split <;> rfl

/-- A term that is there if and only if two others are, and asks of every row what they both ask. -/
structure IsBoth (given : Prop) (e l u : Option Expr) : Prop where
  isSome_iff : e.isSome = true ↔ given ∧ l.isSome = true ∧ u.isSome = true
  isMet_iff : e.isSome = true → ∀ fs r, (∃ t, e = some t ∧ t.IsMet fs r) ↔
    (∃ t, l = some t ∧ t.IsMet fs r) ∧ ∃ t, u = some t ∧ t.IsMet fs r

theorem IsBoth.of_none {given : Prop} {l u : Option Expr}
    (h : ¬(given ∧ l.isSome = true ∧ u.isSome = true)) : IsBoth given none l u :=
  ⟨⟨nofun, fun h' => absurd h' h⟩, nofun⟩

theorem isBoth_of_isIncomplete (column : String) (hrange : c.type.isRange = true)
    (hoperation : c.operation = .range) (h : c.IsIncomplete) :
    IsBoth c.HasFlags (c.toExpr? column) (c.lower.toExpr? column) (c.upper.toExpr? column) := by
  have hnone : c.toExpr? column = none := by
    rw [toExpr?, compile_of_isIncomplete hrange hoperation h]
    rfl
  rw [hnone]
  apply IsBoth.of_none
  rintro ⟨⟨hstart, hlast⟩, hlower, hupper⟩
  rw [toExpr?_lower column hrange] at hlower
  rw [toExpr?_upper column hrange] at hupper
  cases h with
  | start h => simp [OperandType.read_of_isMissing h, Except.toOption] at hlower
  | last h => simp [OperandType.read_of_isMissing h, Except.toOption] at hupper
  | includesStart h => simp [h] at hstart
  | includesLast h => simp [h] at hlast

theorem isBoth_toExpr? (column : String) (hrange : c.type.isRange = true)
    (hoperation : c.operation = .range) :
    IsBoth c.HasFlags (c.toExpr? column) (c.lower.toExpr? column) (c.upper.toExpr? column) := by
  by_cases hincomplete : c.IsIncomplete
  · exact isBoth_of_isIncomplete column hrange hoperation hincomplete
  obtain ⟨i, j, hi, hj, hcompile⟩ := exists_compile_of_range column hrange hoperation hincomplete
  have hflags : c.HasFlags := by simp [HasFlags, hi, hj]
  rw [toExpr?_lower column hrange, toExpr?_upper column hrange, toExpr?, hcompile, hi, hj]
  cases c.type.read c.start with
  | error => exact .of_none (by simp [Except.toOption])
  | ok l =>
    cases c.type.read c.last with
    | error => exact .of_none (by simp [Except.toOption])
    | ok m =>
      refine ⟨⟨fun _ => ⟨hflags, rfl, rfl⟩, fun _ => rfl⟩, ?_⟩
      intro _ fs r
      have hmet : (Predicate.range column ⟨l, i⟩ ⟨m, j⟩).toExpr.IsMet fs r ↔
          (Predicate.compared column (if i then .gte else .gt) l).IsMet fs r ∧
            (Predicate.compared column (if j then .lte else .lt) m).IsMet fs r :=
        Expr.isMet_range
      cases i <;> cases j <;>
        simpa [Except.toOption, bind, Except.bind, pure, Except.pure] using hmet

theorem isBoth_rescaled (x : Option Column) (column : String) (hrange : c.type.isRange = true)
    (hoperation : c.operation = .range) :
    IsBoth c.HasFlags ((c.rescaled x).toExpr? column) ((c.lower.rescaled x).toExpr? column)
      ((c.upper.rescaled x).toExpr? column) := by
  have hboth := isBoth_toExpr? (c := c.rescaled x) column (by rwa [type_rescaled])
    (by rwa [operation_rescaled])
  rwa [lower_rescaled, upper_rescaled, hasFlags_rescaled] at hboth

/-! ### Filters and rules -/

theorem filterTerm?_eq_none {g : Grain} {reason : Degradation}
    (h : c.filterColumn g = .error reason) : c.filterTerm? g = none := by
  rw [filterTerm?, filterPredicate, h]
  rfl

theorem filterTerm?_eq_toExpr? {g : Grain} {name : String} (h : c.filterColumn g = .ok name) :
    c.filterTerm? g = (c.rescaled (g.column? name)).toExpr? name := by
  rw [filterTerm?, filterPredicate, h]
  rfl

theorem isBoth_filterTerm? (g : Grain) (hrange : c.type.isRange = true)
    (hoperation : c.operation = .range) :
    IsBoth c.HasFlags (c.filterTerm? g) (c.lower.filterTerm? g) (c.upper.filterTerm? g) := by
  cases hcolumn : c.filterColumn g with
  | error reason =>
    rw [filterTerm?_eq_none hcolumn, filterTerm?_eq_none (c := c.lower) hcolumn]
    exact .of_none fun h => nomatch h.2.1
  | ok name =>
    rw [filterTerm?_eq_toExpr? hcolumn, filterTerm?_eq_toExpr? (c := c.lower) hcolumn,
      filterTerm?_eq_toExpr? (c := c.upper) hcolumn]
    exact isBoth_rescaled (g.column? name) name hrange hoperation

def ruleTerm? (c : Condition) (x : Column) : Option Expr :=
  (c.rescaled (some x)).toExpr? x.name

/-- A rule sorts a row in if it is not degraded and its term is met. -/
def Sorts (c : Condition) (x : Column) (g : Grain) (r : Row) : Prop :=
  ∃ e, c.ruleTerm? x = some e ∧ e.IsMet g.schema r

end Condition

/-- The terms of the rules, in their order, are what the buckets of a view are made from. -/
theorem View.buckets_eq (v : View) (x : Column) :
    v.buckets x =
      .ofRules (v.groups.filterMap fun (label, c) => (c.ruleTerm? x).map (·, label)) := by
  rw [buckets, Buckets.build, Buckets.rules, List.filterMap_map]
  rfl

namespace Condition

/--
A range restricts and sorts rows as the comparisons with its two bounds do together, if both of its
flags are given, whether its bounds are percentages or not.
-/
theorem range_iff_bounds {c : Condition} (hrange : c.type.isRange = true)
    (hoperation : c.operation = .range) :
    (∀ g : Grain,
      ((c.filterTerm? g).isSome = true ↔
        c.HasFlags ∧ (c.lower.filterTerm? g).isSome = true ∧
          (c.upper.filterTerm? g).isSome = true) ∧
      ((c.filterTerm? g).isSome = true → ∀ r : Row,
        c.Admits g r ↔ c.lower.Admits g r ∧ c.upper.Admits g r)) ∧
    ∀ x : Column,
      ((c.ruleTerm? x).isSome = true ↔
        c.HasFlags ∧ (c.lower.ruleTerm? x).isSome = true ∧
          (c.upper.ruleTerm? x).isSome = true) ∧
      ((c.ruleTerm? x).isSome = true → ∀ (g : Grain) (r : Row),
        c.Sorts x g r ↔ c.lower.Sorts x g r ∧ c.upper.Sorts x g r) := by
  constructor
  · intro g
    have hboth := isBoth_filterTerm? g hrange hoperation
    exact ⟨hboth.isSome_iff, fun h r => hboth.isMet_iff h g.schema r⟩
  · intro x
    have hboth := isBoth_rescaled (some x) x.name hrange hoperation
    exact ⟨hboth.isSome_iff, fun h g r => hboth.isMet_iff h g.schema r⟩

def quarterToHalf : Condition :=
  (range .floatRange (.integer 25) true (.text " 50 ") false).on "predicted_probability"

theorem range_iff_bounds_quarterToHalf :
    let row (x : Float) : Row := ⟨[("predicted_probability", .real x)]⟩
    quarterToHalf.type.isRange = true ∧ quarterToHalf.operation = .range ∧
      quarterToHalf.Admits .building (row 0.25) ∧ ¬quarterToHalf.Admits .building (row 0.5) := by
  intro row
  obtain ⟨hfilter, _⟩ := range_iff_bounds (c := quarterToHalf) rfl rfl
  obtain ⟨_, hiff⟩ := hfilter .building
  rw [hiff rfl, hiff rfl]
  refine ⟨rfl, rfl, ⟨⟨_, rfl, rfl, ?_⟩, ⟨_, rfl, rfl, ?_⟩⟩, ?_⟩
  · decide +kernel
  · decide +kernel
  · rintro ⟨_, e, he, hmet⟩
    cases he
    have := hmet.admits
    revert this
    decide +kernel

end Condition

end Vacancy
