import Vacancy.Proofs.Opposites
import Vacancy.Proofs.Rendering

/-!
Operands that no statement can carry. A condition degrades if one of its operands is missing or is a
text that spells no finite double. A double that is given as such is taken as it is, also if it is
no number: then it is no parameter, a null is written in its place, and no row satisfies the
condition.
-/

namespace Vacancy

open Sql

inductive Sql.Literal.IsScalar : Literal → Prop where
  | integer (n : Int64) : IsScalar (.integer n)
  | text (s : String) : IsScalar (.text s)
  | real {x : Float} (h : x.isFinite = true) : IsScalar (.real x)

theorem Sql.Literal.IsScalar.isParameter {l : Literal} (h : l.IsScalar) : l.isParameter = true := by
  cases h with
  | integer | text => rfl
  | real h => exact h

theorem Sql.Literal.isScalar_real {x : Float} : (Literal.real x).IsScalar ↔ x.isFinite = true :=
  ⟨IsScalar.isParameter, .real⟩

theorem Sql.Literal.isScalar_real_or (x : Float) :
    (Literal.real x).IsScalar ∨ ∃ y, Literal.real x = .real y ∧ y.isFinite = false := by
  cases hx : x.isFinite with
  | true => exact .inl (.real hx)
  | false => exact .inr ⟨x, rfl, hx⟩

namespace OperandType

variable {t : OperandType} {v : Value} {l : Literal}

/-- An operand that is not given, or that is no number where one is needed. -/
inductive Lacks (t : OperandType) : Option Value → Prop where
  | missing {operand : Option Value} (h : IsMissing operand) : Lacks t operand
  | noNumber {s : String} (ht : t.isNumeric = true) (h : IsNoNumber s) : Lacks t (some (.text s))

theorem Lacks.not_takes (h : t.Lacks (some v)) : ¬t.Takes v l := by
  intro hl
  cases h with
  | missing h => exact hl.not_isMissing h
  | noNumber ht h =>
    have hread := (read_of_isNoNumber ht h).symm.trans (read_of_takes hl)
    contradiction

theorem Takes.isScalar_iff (h : t.Takes v l) :
    l.IsScalar ↔ (t.isNumeric = true → ∀ x, v = .real x → x.isFinite = true) := by
  cases h with
  | text ht _ =>
    exact ⟨fun _ ht' => absurd (ht.symm.trans ht') Bool.false_ne_true, fun _ => .text _⟩
  | integer _ n => exact ⟨fun _ _ => nofun, fun _ => .integer n⟩
  | real ht x =>
    constructor
    · intro h _ y hy
      rw [← Value.real.inj hy]
      exact h.isParameter
    · intro h
      exact .real (h ht x rfl)
  | spelledInteger _ _ => exact ⟨fun _ _ => nofun, fun _ => .integer _⟩
  | spelledReal _ _ hx =>
    rw [Decimal.readFinite?, Option.filter_eq_some_iff] at hx
    exact ⟨fun _ _ => nofun, fun _ => .real hx.2⟩

theorem Takes.isScalar_or (h : t.Takes v l) :
    l.IsScalar ∨ ∃ x, l = .real x ∧ x.isFinite = false := by
  cases h with
  | text => exact .inl (.text _)
  | integer _ n => exact .inl (.integer n)
  | spelledInteger => exact .inl (.integer _)
  | real _ x | @spelledReal _ x => exact Literal.isScalar_real_or x

variable {vs : List Value} {ls : List Literal}

theorem not_lacks_of_forall₂ (h : List.Forall₂ t.Takes vs ls) :
    ∀ v ∈ vs, ¬t.Lacks (some v) := by
  induction h with
  | nil => exact nofun
  | cons hv _ ih => exact List.forall_mem_cons.2 ⟨fun h => h.not_takes hv, ih⟩

theorem isScalar_or_of_forall₂ (h : List.Forall₂ t.Takes vs ls) :
    ∀ l ∈ ls, l.IsScalar ∨ ∃ x, l = .real x ∧ x.isFinite = false := by
  induction h with
  | nil => exact nofun
  | cons hv _ ih => exact List.forall_mem_cons.2 ⟨hv.isScalar_or, ih⟩

theorem isScalar_iff_of_forall₂ (h : List.Forall₂ t.Takes vs ls) :
    (∀ l ∈ ls, l.IsScalar) ↔
      (t.isNumeric = true → ∀ x, Value.real x ∈ vs → x.isFinite = true) := by
  induction h with
  | nil => simp
  | @cons v l vs ls hv _ ih =>
    rw [List.forall_mem_cons, ih, hv.isScalar_iff, ← imp_and]
    simp only [List.mem_cons, or_imp, forall_and, eq_comm]

end OperandType

namespace Predicate

variable {p : Predicate} {l : Literal} {fs : Fields} {r : Row}

def literals : Predicate → List Literal
  | .compare _ _ value => [value]
  | .like _ pattern _ => [.text pattern]
  | .range _ lower upper => [lower.value, upper.value]

theorem parameters_compared (name : String) (comparison : Comparison) (l : Literal) :
    (compared name comparison l).tokens.filterMap Token.parameter? =
      [l].filter Literal.isParameter := by
  have hliteral : [Token.literal l].filterMap Token.parameter? =
      [l].filter Literal.isParameter := by
    cases h : l.isParameter <;> simp [Token.parameter?, h]
  rw [← hliteral]
  cases comparison <;> rfl

theorem parameters_range (e e' : Expr) :
    (Expr.group (e.and e')).tokens.filterMap Token.parameter? =
      e.tokens.filterMap Token.parameter? ++ e'.tokens.filterMap Token.parameter? := by
  have hand : [Token.space, Operator.and.token, .space].filterMap Token.parameter? = [] := rfl
  have hopen : [Token.symbol .leftParen].filterMap Token.parameter? = [] := rfl
  have hclose : [Token.symbol .rightParen].filterMap Token.parameter? = [] := rfl
  simp only [Expr.and, Expr.tokens, List.filterMap_append, hand, hopen, hclose, List.append_nil,
    List.nil_append]

theorem parameters_toExpr (p : Predicate) :
    p.toExpr.tokens.filterMap Token.parameter? = p.literals.filter Literal.isParameter := by
  cases p with
  | compare column comparison value => exact parameters_compared column comparison value
  | like column pattern negated => cases negated <;> rfl
  | range column lower upper =>
    rw [toExpr, parameters_range, parameters_compared, parameters_compared, ← List.filter_append]
    rfl

theorem not_isMet_compared_of_null {name : String} {comparison : Comparison}
    (h : l.toValue = .null) : ¬(compared name comparison l).IsMet fs r := by
  rw [Expr.isMet_compared, h, Operator.compare_null_right]
  exact nofun

theorem not_isMet_of_toValue (hl : l ∈ p.literals) (h : l.toValue = .null) :
    ¬p.toExpr.IsMet fs r := by
  cases p with
  | compare column comparison value =>
    rw [literals, List.mem_singleton] at hl
    exact not_isMet_compared_of_null (hl ▸ h)
  | like column pattern negated =>
    rw [literals, List.mem_singleton] at hl
    rw [hl] at h
    contradiction
  | range column lower upper =>
    rw [literals, List.mem_pair] at hl
    rw [toExpr, Expr.isMet_range]
    rintro ⟨hlower, hupper⟩
    rcases hl with rfl | rfl
    · exact not_isMet_compared_of_null h hlower
    · exact not_isMet_compared_of_null h hupper

end Predicate

namespace Condition

variable {c d : Condition} {column : String} {p q : Predicate}

def operands (c : Condition) : List (Option Value) :=
  if c.type.isRange then [c.start, c.last] else if c.type = .boolean then [] else [c.value]

/-- No operand that is to be a number is a double that is none. -/
def HasNumbers (c : Condition) : Prop :=
  c.type.isNumeric = true → ∀ x, some (.real x) ∈ c.operands → x.isFinite = true

theorem operands_of_range (h : c.type.isRange = true) : c.operands = [c.start, c.last] :=
  if_pos h

theorem operands_of_comparison {comparison : Comparison} (hlegal : c.operation ∈ c.type.operations)
    (h : c.operation = comparison.operation) : c.operands = [c.value] := by
  obtain ⟨hrange, hboolean⟩ : c.type.isRange = false ∧ c.type ≠ .boolean := by
    rcases OperandType.operation_cases hlegal with
      ⟨hrange, hboolean, _⟩ | ⟨ht, _⟩ | ⟨_, ho⟩ | ⟨_, ho⟩
    · exact ⟨hrange, hboolean⟩
    · rw [ht]
      exact ⟨rfl, nofun⟩
    · rw [h] at ho
      cases comparison <;> contradiction
    · rw [h] at ho
      cases comparison <;> simp [Comparison.operation] at ho
  rw [operands, hrange, if_neg Bool.false_ne_true, if_neg hboolean]

/-- What becomes of the operands: a scalar each, or else a null where a double is no number. -/
structure Binds (c : Condition) (p : Predicate) : Prop where
  parameters : p.toExpr.tokens.filterMap Token.parameter? = p.literals.filter Literal.isParameter
  literal : ∀ l ∈ p.literals, l.IsScalar ∨ ∃ x, l = .real x ∧ x.isFinite = false
  isScalar_iff : (∀ l ∈ p.literals, l.IsScalar) ↔ c.HasNumbers
  not_isMet : ¬c.HasNumbers → ∀ fs r, ¬p.toExpr.IsMet fs r

theorem Demands.exists_takes (h : c.Demands column p) :
    ∃ (vs : List Value) (ls : List Literal), c.operands = vs.map some ∧
      List.Forall₂ c.type.Takes vs ls ∧
      (p.literals = ls ∨ c.type.isNumeric = false ∧ ∀ l ∈ p.literals, l.IsScalar) := by
  cases h with
  | @compare _ v _ hlegal ho hvalue hv =>
    refine ⟨[v], _, ?_, .cons hv .nil, .inl rfl⟩
    rw [operands_of_comparison hlegal ho, hvalue, List.map_singleton]
  | @range v w _ _ _ _ hrange _ hstart hv hlast hw =>
    refine ⟨[v, w], _, ?_, .cons hv (.cons hw .nil), .inl rfl⟩
    rw [operands_of_range hrange, hstart, hlast, List.map_cons, List.map_singleton]
  | @contains v s ht _ hvalue hs | @notContains v s ht _ hvalue hs =>
    have hnumeric : c.type.isNumeric = false := by rw [ht]; rfl
    refine ⟨[v], _, ?_, .cons (.text hnumeric hs) .nil, .inr ⟨hnumeric, ?_⟩⟩
    · rw [List.map_singleton, ← hvalue, operands, ht]
      rfl
    · exact List.forall_mem_singleton.2 (.text _)
  | isTrue ht | isFalse ht =>
    refine ⟨[], [], ?_, .nil, .inr ⟨by rw [ht]; rfl, ?_⟩⟩
    · rw [operands, ht]
      rfl
    · exact List.forall_mem_singleton.2 (.integer _)

theorem Demands.not_lacks (h : c.Demands column p) :
    ∀ operand ∈ c.operands, ¬c.type.Lacks operand := by
  obtain ⟨vs, ls, hvs, htakes, _⟩ := h.exists_takes
  rw [hvs, List.forall_mem_map]
  exact OperandType.not_lacks_of_forall₂ htakes

theorem Demands.isScalar_or (h : c.Demands column p) :
    ∀ l ∈ p.literals, l.IsScalar ∨ ∃ x, l = .real x ∧ x.isFinite = false := by
  obtain ⟨vs, ls, _, htakes, hls | ⟨_, hscalar⟩⟩ := h.exists_takes
  · rw [hls]
    exact OperandType.isScalar_or_of_forall₂ htakes
  · exact fun l hl => .inl (hscalar l hl)

theorem Demands.isScalar_iff (h : c.Demands column p) :
    (∀ l ∈ p.literals, l.IsScalar) ↔ c.HasNumbers := by
  obtain ⟨vs, ls, hvs, htakes, hls | ⟨ht, hscalar⟩⟩ := h.exists_takes
  · rw [hls, OperandType.isScalar_iff_of_forall₂ htakes, HasNumbers, hvs]
    simp
  · exact ⟨fun _ ht' => absurd (ht.symm.trans ht') Bool.false_ne_true, fun _ => hscalar⟩

theorem binds_of_isScalar_iff
    (hliterals : ∀ l ∈ p.literals, l.IsScalar ∨ ∃ x, l = .real x ∧ x.isFinite = false)
    (h : (∀ l ∈ p.literals, l.IsScalar) ↔ c.HasNumbers) : c.Binds p := by
  constructor
  case parameters => exact p.parameters_toExpr
  case literal => exact hliterals
  case isScalar_iff => exact h
  case not_isMet =>
    intro hnumbers fs r
    rw [← h] at hnumbers
    push Not at hnumbers
    obtain ⟨l, hl, hscalar⟩ := hnumbers
    obtain ⟨x, rfl, hx⟩ := (hliterals l hl).resolve_left hscalar
    exact Predicate.not_isMet_of_toValue hl (by simp [Literal.toValue, hx])

theorem Demands.binds (h : c.Demands column p) : c.Binds p :=
  binds_of_isScalar_iff h.isScalar_or h.isScalar_iff

/-! ### Percentages -/

theorem IsNumber.isScalar_iff {operand : Option Value} {l : Literal} {y : Float}
    (h : IsNumber operand l y) : (Literal.real (y / 100.0)).IsScalar ↔ l.IsScalar := by
  rw [Literal.isScalar_real]
  obtain ⟨_, hvalue⟩ := h
  cases hvalue with
  | real y =>
    rw [Literal.isScalar_real]
    exact ⟨Decimal.isFinite_of_div_hundred, Decimal.isFinite_div_hundred⟩
  | integer n =>
    have hfinite := Decimal.isFinite_of_hasValue (.integer n)
    exact iff_of_true (Decimal.isFinite_div_hundred hfinite) (.integer n)
  | negativeZero =>
    have hfinite := Decimal.isFinite_of_hasValue .negativeZero
    exact iff_of_true (Decimal.isFinite_div_hundred hfinite) (.integer 0)

theorem Maps.binds (h : c.Maps (· / 100.0) p q) (hp : c.Binds p) : c.Binds q := by
  cases h with
  | compare hvalue =>
    apply binds_of_isScalar_iff
    · exact List.forall_mem_singleton.2 (Literal.isScalar_real_or _)
    · rw [← hp.isScalar_iff, Predicate.literals, Predicate.literals, List.forall_mem_singleton,
        List.forall_mem_singleton, hvalue.isScalar_iff]
  | range hstart hlast =>
    apply binds_of_isScalar_iff
    · exact List.forall_mem_cons.2
        ⟨Literal.isScalar_real_or _, List.forall_mem_singleton.2 (Literal.isScalar_real_or _)⟩
    · rw [← hp.isScalar_iff, Predicate.literals, Predicate.literals, List.forall_mem_cons,
        List.forall_mem_singleton, List.forall_mem_cons, List.forall_mem_singleton,
        hstart.isScalar_iff, hlast.isScalar_iff]

theorem exists_maps_of_rescaled {x : Option Column} (h : (c.rescaled x).compile column = .ok q) :
    ∃ p, c.compile column = .ok p ∧ (q = p ∨ c.Maps (· / 100.0) p q) := by
  obtain ⟨herror, hsame, hmaps⟩ := c.compile_rescaled x column
  cases hp : c.compile column with
  | error r =>
    rw [(herror r).2 hp] at h
    contradiction
  | ok p =>
    refine ⟨p, rfl, ?_⟩
    cases hpercent : c.isPercentage x with
    | false =>
      rw [hsame hpercent, hp, Except.ok.injEq] at h
      exact .inl h.symm
    | true =>
      obtain ⟨q', hq', h'⟩ := hmaps hpercent p hp
      rw [hq', Except.ok.injEq] at h
      exact .inr (h ▸ h')

/--
An operand that is missing, or is no number where one is needed, makes the condition degrade, also
if it is a percentage. Otherwise the predicate has a scalar for every operand, and the statement a
parameter for every scalar, if and only if the numbers are given as numbers; if they are not, no row
satisfies it.
-/
theorem compile_operands (c : Condition) (x : Option Column) (column : String) :
    ∀ d ∈ [c, c.rescaled x],
      (∀ operand ∈ c.operands, c.type.Lacks operand → ∃ r, d.compile column = .error r) ∧
      ∀ p, d.compile column = .ok p → c.Binds p := by
  have hbinds : ∀ p, c.compile column = .ok p → c.Binds p :=
    fun p hp => (compile_eq_ok_iff.1 hp).binds
  have hlacks : ∀ operand ∈ c.operands, c.type.Lacks operand →
      ∃ r, c.compile column = .error r := by
    intro operand hoperand h
    cases hp : c.compile column with
    | error r => exact ⟨r, rfl⟩
    | ok p => exact absurd h ((compile_eq_ok_iff.1 hp).not_lacks operand hoperand)
  rw [List.forall_mem_cons, List.forall_mem_singleton]
  refine ⟨⟨hlacks, hbinds⟩, fun operand hoperand h => ?_, fun q hq => ?_⟩
  · obtain ⟨r, hr⟩ := hlacks operand hoperand h
    exact ⟨r, ((c.compile_rescaled x column).1 r).2 hr⟩
  · obtain ⟨p, hp, rfl | hmaps⟩ := exists_maps_of_rescaled hq
    · exact hbinds _ hp
    · exact hmaps.binds (hbinds p hp)

theorem compile_operands_half :
    let c := Condition.compare .float .lte (.integer 50)
    let d := c.rescaled (Grain.building.column? "predicted_probability")
    d ∈ [c, d] ∧ ∃ p, d.compile "predicted_probability" = .ok p ∧ ∀ l ∈ p.literals, l.IsScalar := by
  intro c d
  have hd : d ∈ [c, d] := List.mem_pair.2 (.inr rfl)
  have hnumbers : c.HasNumbers := by
    intro _ x hx
    cases hx with
    | tail _ h => contradiction
  obtain ⟨_, hbinds⟩ := c.compile_operands _ "predicted_probability" d hd
  obtain ⟨p, hp⟩ : ∃ p, d.compile "predicted_probability" = .ok p := ⟨_, rfl⟩
  exact ⟨hd, p, hp, (hbinds p hp).isScalar_iff.2 hnumbers⟩

/-- A comparison with a double that is no number can be used. -/
theorem not_forall_isScalar :
    ¬∀ (c : Condition) (column : String) (p : Predicate), c.compile column = .ok p →
      ∀ l ∈ p.literals, l.IsScalar := by
  intro h
  have hscalar := h (.compare .float .lt (.real (0.0 / 0.0))) "predicted_probability" _ rfl _
    (List.mem_singleton_self _)
  rw [Literal.isScalar_real] at hscalar
  exact absurd hscalar (by decide +kernel)

end Condition

end Vacancy
