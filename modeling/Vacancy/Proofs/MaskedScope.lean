import Vacancy.Plan.Scope
import Vacancy.Proofs.Finite
import Vacancy.Proofs.Masking

/-!
Conditions and scopes with their data taken out. An operand that is read as a literal which may be a
parameter is replaced by one and the same operand; the terms that come of it differ in that literal
only. Operands that are not read, and infinite ones, stay, since they decide which terms there are
and where a null is written.
-/

namespace Vacancy

open Sql

namespace OperandType

def isNumeric : OperandType → Bool
  | .integer | .float | .integerRange | .floatRange => true
  | _ => false

def read (t : OperandType) : Option Value → Except Degradation Literal :=
  if t.isNumeric then Condition.numberOperand else Condition.textOperand

def literal? (t : OperandType) (operand : Option Value) : Option Literal :=
  (t.read operand).toOption

/-- Whether the operand reaches a statement as a parameter. -/
def isBound (t : OperandType) (operand : Option Value) : Bool :=
  (t.literal? operand).any Literal.isParameter

/-- The operand that stands for all that become parameters. -/
def maskedOperand (t : OperandType) (operand : Option Value) : Option Value :=
  if t.isBound operand then some (.integer 0) else operand

theorem isNumeric_of_isFloat {t : OperandType} (h : t.isFloat = true) : t.isNumeric = true := by
  cases t <;> simp_all [isFloat, isNumeric]

theorem masked_of_isBound {t : OperandType} {operand : Option Value} (h : t.isBound operand = true) :
    (t.literal? operand).map Literal.masked = some .mask := by
  unfold isBound at h
  cases hl : t.literal? operand with
  | none => simp [hl] at h
  | some l =>
    rw [hl, Option.any_some] at h
    simp [Literal.masked, h]

theorem isBound_mask (t : OperandType) : t.isBound (some (.integer 0)) = true := by
  cases t <;> rfl

theorem literal?_maskedOperand (t : OperandType) (operand : Option Value) :
    (t.literal? (t.maskedOperand operand)).map Literal.masked =
      (t.literal? operand).map Literal.masked := by
  unfold maskedOperand
  split
  · next h => rw [masked_of_isBound h, masked_of_isBound t.isBound_mask]
  · rfl

/-! ### Percent -/

theorem isFinite_of_toFloat? {v : Value} {x : Float} (hv : v.toFloat? = some x)
    (h : OperandType.float.isBound (some v) = true) : x.isFinite = true := by
  cases v with
  | null => simp [Value.toFloat?] at hv
  | integer n =>
    simp only [Value.toFloat?, Option.some.injEq] at hv
    subst hv
    apply Decimal.isFinite_ofInt
    · exact n.le_toInt
    · have := n.toInt_lt
      omega
  | real y =>
    simp only [Value.toFloat?, Option.some.injEq] at hv
    subst hv
    exact h
  | text s =>
    simp only [Value.toFloat?, Decimal.readFinite?, Option.filter_eq_some_iff] at hv
    exact hv.2

theorem isBound_mapNumber {t : OperandType} (ht : t.isNumeric = true) {operand : Option Value}
    (h : t.isBound operand = true) :
    t.isBound (Condition.mapNumber (· / 100.0) operand) = true := by
  have ht' : t.isBound = OperandType.float.isBound := by
    have hfloat : OperandType.float.isNumeric = true := rfl
    funext operand
    simp only [isBound, literal?, read, ht, hfloat]
  rw [ht'] at h ⊢
  unfold Condition.mapNumber
  split
  · next x hx =>
    obtain ⟨v, rfl, hv⟩ := Option.bind_eq_some_iff.1 hx
    exact Decimal.isFinite_div_hundred (isFinite_of_toFloat? hv h)
  · exact h

end OperandType

namespace Condition

def masked (c : Condition) : Condition :=
  { c with
    value := c.type.maskedOperand c.value
    start := c.type.maskedOperand c.start
    last := c.type.maskedOperand c.last }

/-- Conditions that differ in the values of parameters only. -/
structure Alike (c c' : Condition) : Prop where
  type : c.type = c'.type
  operation : c.operation = c'.operation
  value : (c.type.literal? c.value).map Literal.masked =
    (c'.type.literal? c'.value).map Literal.masked
  start : (c.type.literal? c.start).map Literal.masked =
    (c'.type.literal? c'.start).map Literal.masked
  last : (c.type.literal? c.last).map Literal.masked =
    (c'.type.literal? c'.last).map Literal.masked
  includesStart : c.includesStart = c'.includesStart
  includesLast : c.includesLast = c'.includesLast

theorem alike_masked (c : Condition) : c.masked.Alike c := by
  constructor
  case value => exact c.type.literal?_maskedOperand c.value
  case start => exact c.type.literal?_maskedOperand c.start
  case last => exact c.type.literal?_maskedOperand c.last
  all_goals rfl

theorem literal?_mapNumber_maskedOperand {t : OperandType} (ht : t.isNumeric = true)
    (operand : Option Value) :
    (t.literal? (mapNumber (· / 100.0) (t.maskedOperand operand))).map Literal.masked =
      (t.literal? (mapNumber (· / 100.0) operand)).map Literal.masked := by
  unfold OperandType.maskedOperand
  split
  · next h =>
    have hmask := OperandType.isBound_mapNumber ht t.isBound_mask
    rw [OperandType.masked_of_isBound hmask,
      OperandType.masked_of_isBound (OperandType.isBound_mapNumber ht h)]
  · rfl

theorem alike_rescaled (c : Condition) (column : Option Column) :
    (c.masked.rescaled column).Alike (c.rescaled column) := by
  have htype : c.masked.type = c.type := rfl
  unfold rescaled
  rw [htype]
  split
  · next h =>
    have ht := OperandType.isNumeric_of_isFloat (Bool.and_eq_true_iff.1 h).2
    constructor
    case value => exact literal?_mapNumber_maskedOperand ht c.value
    case start => exact literal?_mapNumber_maskedOperand ht c.start
    case last => exact literal?_mapNumber_maskedOperand ht c.last
    all_goals rfl
  · exact c.alike_masked

/-! ### Terms -/

theorem masked_compileComparison (c : Condition) (column : String)
    (operand : Option Value → Except Degradation Literal) :
    (c.compileComparison column operand).toOption.map (·.toExpr.masked) =
      (Comparison.ofOperation? c.operation).bind fun comparison =>
        ((operand c.value).toOption.map Literal.masked).map fun l =>
          .binary comparison.operator (.column column) (.literal l) := by
  unfold compileComparison
  cases Comparison.ofOperation? c.operation with
  | none => rfl
  | some comparison => cases operand c.value <;> rfl

def IsReader (operand : Option Value → Except Degradation Literal) : Prop :=
  ∀ v : Option Value, v.filter (!·.isNull) = none → (operand v).toOption = none

theorem eq_of_filter_isNull {v : Option Value} (h : v.filter (!·.isNull) = none) :
    v = none ∨ v = some .null := by
  rcases v with _ | _ | _ | _ | _ <;> simp_all [Value.isNull]

theorem isReader_read (t : OperandType) : IsReader t.read := by
  intro v hv
  rcases eq_of_filter_isNull hv with rfl | rfl
  · cases t <;> rfl
  · cases t <;> rfl

theorem masked_compileRange (c : Condition) (column : String)
    {operand : Option Value → Except Degradation Literal} (h : IsReader operand) :
    (c.compileRange column operand).toOption.map (·.toExpr.masked) =
      ((operand c.start).toOption.map Literal.masked).bind fun lower =>
        ((operand c.last).toOption.map Literal.masked).bind fun upper =>
          c.includesStart.bind fun includesStart =>
            c.includesLast.map fun includesLast =>
              .group (.and
                (.binary (if includesStart then .gte else .gt) (.column column) (.literal lower))
                (.binary (if includesLast then .lte else .lt) (.column column) (.literal upper))) := by
  unfold compileRange bounds
  cases hstart : c.start.filter (!·.isNull) with
  | none =>
    rw [h c.start hstart]
    rfl
  | some start =>
    rw [(Option.filter_eq_some_iff.1 hstart).1]
    cases hlast : c.last.filter (!·.isNull) with
    | none =>
      rw [h c.last hlast]
      cases operand (some start) <;> rfl
    | some last =>
      rw [(Option.filter_eq_some_iff.1 hlast).1]
      cases c.includesStart with
      | none => cases operand (some start) <;> cases operand (some last) <;> rfl
      | some includesStart =>
        cases c.includesLast with
        | none => cases operand (some start) <;> cases operand (some last) <;> rfl
        | some includesLast =>
          dsimp only
          cases operand (some start) with
          | error => rfl
          | ok lower =>
            cases operand (some last) with
            | error => rfl
            | ok upper => cases includesStart <;> cases includesLast <;> rfl

theorem masked_compileContains (c : Condition) (column : String) (negated : Bool) :
    (c.compileContains column negated).toOption.map (·.toExpr.masked) =
      ((textOperand c.value).toOption.map Literal.masked).map fun _ =>
        .like (.column column) (.literal .mask) negated := by
  unfold compileContains textOperand
  cases c.value.bind Value.toText? <;> rfl

theorem Alike.compileComparison {c c' : Condition} (h : c.Alike c') (column : String) :
    (c.compileComparison column c.type.read).toOption.map (·.toExpr.masked) =
      (c'.compileComparison column c'.type.read).toOption.map (·.toExpr.masked) := by
  have hvalue := h.value
  simp only [OperandType.literal?] at hvalue
  rw [masked_compileComparison, masked_compileComparison, h.operation, hvalue]

theorem Alike.compileRange {c c' : Condition} (h : c.Alike c') (column : String) :
    (c.compileRange column c.type.read).toOption.map (·.toExpr.masked) =
      (c'.compileRange column c'.type.read).toOption.map (·.toExpr.masked) := by
  have hstart := h.start
  have hlast := h.last
  simp only [OperandType.literal?] at hstart hlast
  rw [masked_compileRange c column (isReader_read _), masked_compileRange c' column (isReader_read _),
    hstart, hlast, h.includesStart, h.includesLast]

theorem Alike.compileContains {c c' : Condition} (h : c.Alike c') (ht : c.type.isNumeric = false)
    (column : String) (negated : Bool) :
    (c.compileContains column negated).toOption.map (·.toExpr.masked) =
      (c'.compileContains column negated).toOption.map (·.toExpr.masked) := by
  have hvalue := h.value
  simp only [← h.type, OperandType.literal?, OperandType.read, ht] at hvalue
  rw [masked_compileContains, masked_compileContains]
  exact congrArg (Option.map _) hvalue

theorem Alike.compile {c c' : Condition} (h : c.Alike c') (column : String) :
    (c.compile column).toOption.map (·.toExpr.masked) =
      (c'.compile column).toOption.map (·.toExpr.masked) := by
  have hcomparison := h.compileComparison column
  have hrange := h.compileRange column
  have hcontains := fun ht => h.compileContains ht column
  unfold Condition.compile
  rw [← h.type, ← h.operation]
  rw [← h.type] at hcomparison hrange
  generalize c.type = type at hcomparison hrange hcontains ⊢
  generalize c.operation = operation
  split
  all_goals first
    | exact hcomparison
    | exact hrange
    | exact hcontains rfl _
    | rfl

theorem Alike.toExpr? {c c' : Condition} (h : c.Alike c') (column : String) :
    (c.toExpr? column).map Expr.masked = (c'.toExpr? column).map Expr.masked := by
  simp only [Condition.toExpr?, Option.map_map]
  exact h.compile column

theorem filterTerm?_masked (c : Condition) (g : Grain) :
    (c.masked.filterTerm? g).map Expr.masked = (c.filterTerm? g).map Expr.masked := by
  have hcolumn : c.masked.filterColumn g = c.filterColumn g := rfl
  unfold filterTerm? filterPredicate
  rw [hcolumn]
  cases c.filterColumn g with
  | error e => rfl
  | ok name => exact (c.alike_rescaled (g.column? name)).toExpr? name

theorem filterTerms_masked (conditions : List Condition) (g : Grain) :
    ((conditions.map masked).filterMap (·.filterTerm? g)).map Expr.masked =
      (conditions.filterMap (·.filterTerm? g)).map Expr.masked := by
  rw [List.filterMap_map, List.map_filterMap, List.map_filterMap]
  congr 1
  funext c
  exact c.filterTerm?_masked g

end Condition

/-! ### Scopes -/

theorem Sql.Expr.masked_foldl_and (e : Expr) (es : List Expr) :
    (es.foldl and e).masked = (es.map masked).foldl and e.masked := by
  induction es generalizing e with
  | nil => rfl
  | cons e' es ih => exact ih (e.and e')

theorem Sql.Expr.masked_conjunction (es : List Expr) :
    (conjunction es).map masked = conjunction (es.map masked) := by
  cases es with
  | nil => rfl
  | cons e es => simp [conjunction, masked_foldl_and]

theorem Sql.Expr.maskedList_eq_map (es : List Expr) : maskedList es = es.map masked := by
  induction es with
  | nil => rfl
  | cons e es ih => rw [maskedList, ih, List.map_cons]

def YearRange.masked (r : YearRange) : YearRange where
  start := (nonBlank? r.start).map fun _ => "1"
  last := (nonBlank? r.last).map fun _ => "1"

theorem YearRange.nonBlank?_masked (side : Option String) :
    nonBlank? ((nonBlank? side).map fun _ => "1") = (nonBlank? side).map fun _ => "1" := by
  cases nonBlank? side with
  | none => rfl
  | some year =>
    have h : nonBlank? (some "1") = some "1" := by decide
    exact h

namespace Scope

/-- Scopes that differ in the values of parameters only. -/
structure Alike (s s' : Scope) : Prop where
  grain : s.grain = s'.grain
  terms : s.terms.map Expr.masked = s'.terms.map Expr.masked

namespace Alike

variable {s s' : Scope}

theorem predicate (h : s.Alike s') :
    s.predicate.map Expr.masked = s'.predicate.map Expr.masked := by
  rw [Scope.predicate, Scope.predicate, Expr.masked_conjunction, Expr.masked_conjunction, h.terms]

theorem ofRun (g : Grain) (run run' : Int64) : (Scope.ofRun g run).Alike (Scope.ofRun g run') :=
  ⟨rfl, rfl⟩

theorem add (h : s.Alike s') {terms terms' : List Expr}
    (hterms : terms.map Expr.masked = terms'.map Expr.masked) :
    (s.add terms).Alike (s'.add terms') := by
  refine ⟨h.grain, ?_⟩
  simp only [Scope.add, List.map_append, h.terms, hterms]

theorem year (h : s.Alike s') (range : Option YearRange) :
    (s.year (range.map YearRange.masked)).Alike (s'.year range) := by
  apply h.add
  cases range with
  | none => rfl
  | some range =>
    simp only [Option.map_some, Option.elim_some, yearTerms, YearRange.startDate?,
      YearRange.lastDate?, YearRange.masked, YearRange.nonBlank?_masked]
    cases YearRange.nonBlank? range.start <;> cases YearRange.nonBlank? range.last <;> rfl

theorem referenceDate (h : s.Alike s') (date : Option String) :
    (s.referenceDate (date.map fun _ => "")).Alike (s'.referenceDate date) := by
  apply h.add
  cases date <;> rfl

theorem after (h : s.Alike s') (cursor : Option Int64) :
    (s.after (cursor.map fun _ => 0)).Alike (s'.after cursor) := by
  apply h.add
  cases cursor <;> rfl

theorem areas (h : s.Alike s') (names : List String) :
    (s.areas (names.map fun _ => "")).Alike (s'.areas names) := by
  apply h.add
  rw [List.isEmpty_map]
  split
  · rfl
  · simp only [List.map_cons, List.map_nil, Expr.masked, Expr.maskedList_eq_map, List.map_map]
    rfl

theorem filters (h : s.Alike s') (conditions : List Condition) :
    (s.filters (conditions.map Condition.masked)).Alike (s'.filters conditions) := by
  apply h.add
  rw [h.grain]
  exact Condition.filterTerms_masked conditions s'.grain

end Alike

end Scope

end Vacancy
