import Vacancy.Proofs.MaskedScope

/-!
When a condition can be used. Each type has its own operations. An operation that is none of them,
an operand that is absent or no number, and a range that is not complete are the reasons for which
a condition degrades, in this order; without a reason, it demands of its column what its operation
says of its operands.
-/

namespace Vacancy

open Sql

def Comparison.operation : Comparison → Operation
  | .eq => .eq
  | .ne => .notEq
  | .gt => .gt
  | .lt => .lt
  | .gte => .gte
  | .lte => .lte

def IsMissing (operand : Option Value) : Prop :=
  operand = none ∨ operand = some .null

/-- A text that spells neither an integer of 64 bits nor a finite double. -/
structure IsNoNumber (s : String) : Prop where
  integer : Decimal.readInt64? (Text.trim s) = none
  real : Decimal.readFinite? (Text.trim s) = none

namespace OperandType

def operations : OperandType → List Operation
  | .text => [.eq, .notEq, .contains, .notContains]
  | .integer | .float | .date => [.eq, .notEq, .gt, .lt, .gte, .lte]
  | .integerRange | .floatRange | .dateRange => [.range]
  | .boolean => [.isTrue, .isFalse]
  | .unrecognized => []

/-- What an operand of a type stands for: a number, which a text may spell, or the text of it. -/
inductive Takes (t : OperandType) : Value → Literal → Prop where
  | text {v : Value} {s : String} (ht : t.isNumeric = false) (hs : v.toText? = some s) :
      Takes t v (.text s)
  | integer (ht : t.isNumeric = true) (n : Int64) : Takes t (.integer n) (.integer n)
  | real (ht : t.isNumeric = true) (x : Float) : Takes t (.real x) (.real x)
  | spelledInteger {s : String} {n : Int64} (ht : t.isNumeric = true)
      (hn : Decimal.readInt64? (Text.trim s) = some n) : Takes t (.text s) (.integer n)
  | spelledReal {s : String} {x : Float} (ht : t.isNumeric = true)
      (hinteger : Decimal.readInt64? (Text.trim s) = none)
      (hx : Decimal.readFinite? (Text.trim s) = some x) : Takes t (.text s) (.real x)

theorem read_of_isMissing {t : OperandType} {operand : Option Value} (h : IsMissing operand) :
    t.read operand = .error .missingValue := by
  unfold read
  split
  · rcases h with rfl | rfl <;> rfl
  · rcases h with rfl | rfl <;> rfl

theorem Takes.ne_null {t : OperandType} {v : Value} {l : Literal} (h : t.Takes v l) :
    v ≠ .null := by
  rintro rfl
  cases h
  contradiction

theorem Takes.not_isMissing {t : OperandType} {v : Value} {l : Literal} (h : t.Takes v l) :
    ¬IsMissing (some v) := by
  rintro (hnone | hnull)
  · contradiction
  · exact h.ne_null (Option.some.inj hnull)

theorem read_of_takes {t : OperandType} {v : Value} {l : Literal} (h : t.Takes v l) :
    t.read (some v) = .ok l := by
  unfold read
  cases h with
  | text ht hs => simp [ht, Condition.textOperand, hs]
  | integer ht n => simp [ht, Condition.numberOperand]
  | real ht x => simp [ht, Condition.numberOperand]
  | spelledInteger ht hn => simp [ht, Condition.numberOperand, Literal.ofNumber?, hn]
  | spelledReal ht hinteger hx =>
    simp [ht, Condition.numberOperand, Literal.ofNumber?, hinteger, hx]

theorem read_of_isNoNumber {t : OperandType} {s : String} (ht : t.isNumeric = true)
    (h : IsNoNumber s) : t.read (some (.text s)) = .error (.notNumeric s) := by
  simp [read, ht, Condition.numberOperand, Literal.ofNumber?, h.integer, h.real]

theorem takes_or_isNoNumber (t : OperandType) (v : Value) (hv : v ≠ .null) :
    (∃ l, t.Takes v l) ∨ t.isNumeric = true ∧ ∃ s, v = .text s ∧ IsNoNumber s := by
  cases ht : t.isNumeric with
  | false =>
    have hsome : v.toText? ≠ none := by
      rw [ne_eq, Value.toText?_eq_none_iff]
      exact hv
    obtain ⟨s, hs⟩ := Option.ne_none_iff_exists'.1 hsome
    exact .inl ⟨_, .text ht hs⟩
  | true =>
    cases v with
    | null => contradiction
    | integer n => exact .inl ⟨_, .integer ht n⟩
    | real x => exact .inl ⟨_, .real ht x⟩
    | text s =>
      cases hn : Decimal.readInt64? (Text.trim s) with
      | some n => exact .inl ⟨_, .spelledInteger ht hn⟩
      | none =>
        cases hx : Decimal.readFinite? (Text.trim s) with
        | some x => exact .inl ⟨_, .spelledReal ht hn hx⟩
        | none => exact .inr ⟨rfl, s, rfl, hn, hx⟩

theorem read_cases (t : OperandType) (operand : Option Value) :
    IsMissing operand ∨ (∃ v l, operand = some v ∧ t.Takes v l) ∨
      t.isNumeric = true ∧ ∃ s, operand = some (.text s) ∧ IsNoNumber s := by
  cases operand with
  | none => exact .inl (.inl rfl)
  | some v =>
    by_cases hv : v = .null
    · exact .inl (.inr (congrArg some hv))
    · right
      rcases t.takes_or_isNoNumber v hv with ⟨l, hl⟩ | ⟨ht, s, rfl, hs⟩
      · exact .inl ⟨v, l, rfl, hl⟩
      · exact .inr ⟨ht, s, rfl, hs⟩

theorem exists_comparison {operation : Operation}
    (h : operation ∈ [Operation.eq, .notEq, .gt, .lt, .gte, .lte]) :
    ∃ comparison : Comparison, operation = comparison.operation := by
  simp only [List.mem_cons, List.not_mem_nil, or_false] at h
  rcases h with rfl | rfl | rfl | rfl | rfl | rfl
  exacts [⟨.eq, rfl⟩, ⟨.ne, rfl⟩, ⟨.gt, rfl⟩, ⟨.lt, rfl⟩, ⟨.gte, rfl⟩, ⟨.lte, rfl⟩]

theorem operation_cases {t : OperandType} {operation : Operation} (h : operation ∈ t.operations) :
    (t.isRange = false ∧ t ≠ .boolean ∧
      ∃ comparison : Comparison, operation = comparison.operation) ∨
    (t = .text ∧ (operation = .contains ∨ operation = .notContains)) ∨
    (t.isRange = true ∧ operation = .range) ∨
    (t = .boolean ∧ (operation = .isTrue ∨ operation = .isFalse)) := by
  cases t with
  | text =>
    simp only [operations, List.mem_cons, List.not_mem_nil, or_false] at h
    rcases h with rfl | rfl | hcontains
    · exact .inl ⟨rfl, nofun, .eq, rfl⟩
    · exact .inl ⟨rfl, nofun, .ne, rfl⟩
    · exact .inr (.inl ⟨rfl, hcontains⟩)
  | integer => exact .inl ⟨rfl, nofun, exists_comparison h⟩
  | float => exact .inl ⟨rfl, nofun, exists_comparison h⟩
  | date => exact .inl ⟨rfl, nofun, exists_comparison h⟩
  | integerRange => exact .inr (.inr (.inl ⟨rfl, List.mem_singleton.1 h⟩))
  | floatRange => exact .inr (.inr (.inl ⟨rfl, List.mem_singleton.1 h⟩))
  | dateRange => exact .inr (.inr (.inl ⟨rfl, List.mem_singleton.1 h⟩))
  | boolean =>
    simp only [operations, List.mem_cons, List.not_mem_nil, or_false] at h
    exact .inr (.inr (.inr ⟨rfl, h⟩))
  | unrecognized => exact absurd h List.not_mem_nil

theorem range_mem_operations {t : OperandType} (h : t.isRange = true) :
    Operation.range ∈ t.operations := by
  cases t <;> first | contradiction | exact List.mem_singleton_self _

end OperandType

namespace Condition

variable {c : Condition} {column : String}

inductive IsIncomplete (c : Condition) : Prop where
  | start (h : IsMissing c.start)
  | last (h : IsMissing c.last)
  | includesStart (h : c.includesStart = none)
  | includesLast (h : c.includesLast = none)

/-- Why a condition cannot be used. -/
inductive Degrades (c : Condition) : Degradation → Prop where
  | illegal (h : c.operation ∉ c.type.operations) :
      Degrades c (.illegalOperation c.type c.operation)
  | missing (hlegal : c.operation ∈ c.type.operations) (hrange : c.type.isRange = false)
      (hboolean : c.type ≠ .boolean) (hvalue : IsMissing c.value) : Degrades c .missingValue
  | value {s : String} (hlegal : c.operation ∈ c.type.operations) (hrange : c.type.isRange = false)
      (ht : c.type.isNumeric = true) (hvalue : c.value = some (.text s)) (hs : IsNoNumber s) :
      Degrades c (.notNumeric s)
  | incomplete (hlegal : c.operation ∈ c.type.operations) (hrange : c.type.isRange = true)
      (h : c.IsIncomplete) : Degrades c .incompleteRange
  | start {s : String} (hlegal : c.operation ∈ c.type.operations) (hrange : c.type.isRange = true)
      (h : ¬c.IsIncomplete) (ht : c.type.isNumeric = true) (hstart : c.start = some (.text s))
      (hs : IsNoNumber s) : Degrades c (.notNumeric s)
  | last {v : Value} {l : Literal} {s : String} (hlegal : c.operation ∈ c.type.operations)
      (hrange : c.type.isRange = true) (h : ¬c.IsIncomplete) (ht : c.type.isNumeric = true)
      (hstart : c.start = some v) (hl : c.type.Takes v l) (hlast : c.last = some (.text s))
      (hs : IsNoNumber s) : Degrades c (.notNumeric s)

/-- What a condition that can be used demands of a column. -/
inductive Demands (c : Condition) (column : String) : Predicate → Prop where
  | compare {comparison : Comparison} {v : Value} {l : Literal}
      (hlegal : c.operation ∈ c.type.operations) (hoperation : c.operation = comparison.operation)
      (hvalue : c.value = some v) (hl : c.type.Takes v l) :
      Demands c column (.compare column comparison l)
  | contains {v : Value} {s : String} (ht : c.type = .text) (hoperation : c.operation = .contains)
      (hvalue : c.value = some v) (hs : v.toText? = some s) :
      Demands c column (.like column ("%" ++ s ++ "%") false)
  | notContains {v : Value} {s : String} (ht : c.type = .text)
      (hoperation : c.operation = .notContains) (hvalue : c.value = some v)
      (hs : v.toText? = some s) : Demands c column (.like column ("%" ++ s ++ "%") true)
  | range {v w : Value} {l m : Literal} {includesStart includesLast : Bool}
      (hrange : c.type.isRange = true) (hoperation : c.operation = .range)
      (hstart : c.start = some v) (hl : c.type.Takes v l)
      (hlast : c.last = some w) (hm : c.type.Takes w m)
      (hincludesStart : c.includesStart = some includesStart)
      (hincludesLast : c.includesLast = some includesLast) :
      Demands c column (.range column ⟨l, includesStart⟩ ⟨m, includesLast⟩)
  | isTrue (ht : c.type = .boolean) (hoperation : c.operation = .isTrue) :
      Demands c column (.compare column .eq (.integer 1))
  | isFalse (ht : c.type = .boolean) (hoperation : c.operation = .isFalse) :
      Demands c column (.compare column .eq (.integer 0))

theorem compile_of_illegal (h : c.operation ∉ c.type.operations) :
    c.compile column = .error (.illegalOperation c.type c.operation) := by
  obtain ⟨_, type, operation, _, _, _, _, _⟩ := c
  cases type <;> cases operation <;> first | rfl | simp [OperandType.operations] at h

theorem compileComparison_of_operation {comparison : Comparison}
    {operand : Option Value → Except Degradation Literal}
    (h : c.operation = comparison.operation) :
    c.compileComparison column operand = (operand c.value).map (.compare column comparison) := by
  have hcomparison : Comparison.ofOperation? c.operation = some comparison := by
    rw [h]
    cases comparison <;> rfl
  rw [compileComparison, hcomparison]
  rfl

theorem compile_of_comparison {comparison : Comparison}
    (hlegal : c.operation ∈ c.type.operations) (h : c.operation = comparison.operation) :
    c.compile column = (c.type.read c.value).map (.compare column comparison) := by
  rw [← compileComparison_of_operation h]
  obtain ⟨_, type, operation, _, _, _, _, _⟩ := c
  dsimp only at h hlegal
  subst h
  cases type <;> cases comparison <;> first
    | rfl
    | simp [OperandType.operations, Comparison.operation] at hlegal

theorem compile_of_contains (ht : c.type = .text) (h : c.operation = .contains) :
    c.compile column = c.compileContains column false := by
  rw [compile, ht, h]

theorem compile_of_notContains (ht : c.type = .text) (h : c.operation = .notContains) :
    c.compile column = c.compileContains column true := by
  rw [compile, ht, h]

theorem compile_of_range (hrange : c.type.isRange = true) (h : c.operation = .range) :
    c.compile column = c.compileRange column c.type.read := by
  obtain ⟨_, type, operation, _, _, _, _, _⟩ := c
  dsimp only at h
  subst h
  cases type <;> first | rfl | contradiction

theorem compileContains_of_isMissing {negated : Bool} (h : IsMissing c.value) :
    c.compileContains column negated = .error .missingValue := by
  unfold compileContains
  rcases h with h | h
  · rw [h]
    rfl
  · rw [h]
    rfl

theorem compileContains_of_toText? {v : Value} {s : String} {negated : Bool}
    (hvalue : c.value = some v) (hs : v.toText? = some s) :
    c.compileContains column negated = .ok (.like column ("%" ++ s ++ "%") negated) := by
  simp [compileContains, hvalue, hs]

/-! ### Ranges -/

theorem filter_isNull_of_isMissing {operand : Option Value} (h : IsMissing operand) :
    operand.filter (!·.isNull) = none := by
  rcases h with rfl | rfl <;> rfl

theorem filter_isNull_of_not_isMissing {operand : Option Value} (h : ¬IsMissing operand) :
    ∃ v, operand = some v ∧ operand.filter (!·.isNull) = some v := by
  cases hfilter : operand.filter (!·.isNull) with
  | none => exact absurd (eq_of_filter_isNull hfilter) h
  | some v => exact ⟨v, (Option.filter_eq_some_iff.1 hfilter).1, rfl⟩

theorem bounds_of_isIncomplete {operand : Option Value → Except Degradation Literal}
    (h : c.IsIncomplete) : c.bounds operand = .error .incompleteRange := by
  unfold bounds
  split
  · next hstart hlast hincludesStart hincludesLast =>
    cases h with
    | start h => simp [filter_isNull_of_isMissing h] at hstart
    | last h => simp [filter_isNull_of_isMissing h] at hlast
    | includesStart h => simp [h] at hincludesStart
    | includesLast h => simp [h] at hincludesLast
  · rfl

theorem exists_bounds (operand : Option Value → Except Degradation Literal)
    (h : ¬c.IsIncomplete) :
    ∃ includesStart includesLast, c.includesStart = some includesStart ∧
      c.includesLast = some includesLast ∧
      c.bounds operand = (do
        let lower ← operand c.start
        let upper ← operand c.last
        return (⟨lower, includesStart⟩, ⟨upper, includesLast⟩)) := by
  obtain ⟨v, hstart, hstart'⟩ := filter_isNull_of_not_isMissing fun h' => h (.start h')
  obtain ⟨w, hlast, hlast'⟩ := filter_isNull_of_not_isMissing fun h' => h (.last h')
  obtain ⟨i, hi⟩ := Option.ne_none_iff_exists'.1 fun h' => h (.includesStart h')
  obtain ⟨j, hj⟩ := Option.ne_none_iff_exists'.1 fun h' => h (.includesLast h')
  refine ⟨i, j, hi, hj, ?_⟩
  rw [bounds, hstart', hlast', hi, hj, hstart, hlast]

theorem compile_of_isIncomplete (hrange : c.type.isRange = true) (hoperation : c.operation = .range)
    (h : c.IsIncomplete) : c.compile column = .error .incompleteRange := by
  rw [compile_of_range hrange hoperation, compileRange, bounds_of_isIncomplete h]
  rfl

theorem exists_compile_of_range (column : String) (hrange : c.type.isRange = true)
    (hoperation : c.operation = .range) (h : ¬c.IsIncomplete) :
    ∃ includesStart includesLast, c.includesStart = some includesStart ∧
      c.includesLast = some includesLast ∧
      c.compile column = (do
        let lower ← c.type.read c.start
        let upper ← c.type.read c.last
        return .range column ⟨lower, includesStart⟩ ⟨upper, includesLast⟩) := by
  obtain ⟨i, j, hi, hj, hbounds⟩ := exists_bounds c.type.read h
  refine ⟨i, j, hi, hj, ?_⟩
  rw [compile_of_range hrange hoperation, compileRange, hbounds]
  cases c.type.read c.start with
  | error => rfl
  | ok lower => cases c.type.read c.last <;> rfl

/-! ### Reasons and demands -/

theorem operation_eq_range (hlegal : c.operation ∈ c.type.operations)
    (hrange : c.type.isRange = true) : c.operation = .range := by
  rcases OperandType.operation_cases hlegal with ⟨h, _⟩ | ⟨h, _⟩ | ⟨_, h⟩ | ⟨h, _⟩
  · simp [hrange] at h
  · simp [h, OperandType.isRange] at hrange
  · exact h
  · simp [h, OperandType.isRange] at hrange

theorem exists_operation (hlegal : c.operation ∈ c.type.operations)
    (hrange : c.type.isRange = false) (ht : c.type.isNumeric = true) :
    ∃ comparison : Comparison, c.operation = comparison.operation := by
  rcases OperandType.operation_cases hlegal with ⟨_, _, h⟩ | ⟨h, _⟩ | ⟨h, _⟩ | ⟨h, _⟩
  · exact h
  · simp [h, OperandType.isNumeric] at ht
  · simp [hrange] at h
  · simp [h, OperandType.isNumeric] at ht

theorem compile_of_degrades (column : String) {r : Degradation} (h : c.Degrades r) :
    c.compile column = .error r := by
  cases h with
  | illegal h => exact compile_of_illegal h
  | missing hlegal hrange hboolean hvalue =>
    rcases OperandType.operation_cases hlegal with
      ⟨_, _, comparison, h⟩ | ⟨ht, h | h⟩ | ⟨h, _⟩ | ⟨h, _⟩
    · rw [compile_of_comparison hlegal h, OperandType.read_of_isMissing hvalue]
      rfl
    · rw [compile_of_contains ht h, compileContains_of_isMissing hvalue]
    · rw [compile_of_notContains ht h, compileContains_of_isMissing hvalue]
    · simp [hrange] at h
    · contradiction
  | value hlegal hrange ht hvalue hs =>
    obtain ⟨comparison, h⟩ := exists_operation hlegal hrange ht
    rw [compile_of_comparison hlegal h, hvalue, OperandType.read_of_isNoNumber ht hs]
    rfl
  | incomplete hlegal hrange h =>
    exact compile_of_isIncomplete hrange (operation_eq_range hlegal hrange) h
  | start hlegal hrange h ht hstart hs =>
    obtain ⟨i, j, _, _, hcompile⟩ :=
      exists_compile_of_range column hrange (operation_eq_range hlegal hrange) h
    rw [hcompile, hstart, OperandType.read_of_isNoNumber ht hs]
    rfl
  | last hlegal hrange h ht hstart hl hlast hs =>
    obtain ⟨i, j, _, _, hcompile⟩ :=
      exists_compile_of_range column hrange (operation_eq_range hlegal hrange) h
    rw [hcompile, hstart, OperandType.read_of_takes hl, hlast, OperandType.read_of_isNoNumber ht hs]
    rfl

theorem compile_of_demands {p : Predicate} (h : c.Demands column p) : c.compile column = .ok p := by
  cases h with
  | compare hlegal h hvalue hl =>
    rw [compile_of_comparison hlegal h, hvalue, OperandType.read_of_takes hl]
    rfl
  | contains ht h hvalue hs => rw [compile_of_contains ht h, compileContains_of_toText? hvalue hs]
  | notContains ht h hvalue hs =>
    rw [compile_of_notContains ht h, compileContains_of_toText? hvalue hs]
  | range hrange h hstart hl hlast hm hi hj =>
    have hcomplete : ¬c.IsIncomplete := by
      intro h
      cases h with
      | start h => exact hl.not_isMissing (hstart ▸ h)
      | last h => exact hm.not_isMissing (hlast ▸ h)
      | includesStart h => simp [h] at hi
      | includesLast h => simp [h] at hj
    obtain ⟨i', j', hi', hj', hcompile⟩ :=
      exists_compile_of_range column hrange h hcomplete
    obtain rfl := Option.some.inj (hi.symm.trans hi')
    obtain rfl := Option.some.inj (hj.symm.trans hj')
    rw [hcompile, hstart, OperandType.read_of_takes hl, hlast, OperandType.read_of_takes hm]
    rfl
  | isTrue ht h => rw [compile, ht, h]
  | isFalse ht h => rw [compile, ht, h]

theorem degrades_or_demands_value (column : String) (hlegal : c.operation ∈ c.type.operations)
    (hrange : c.type.isRange = false) (hboolean : c.type ≠ .boolean)
    (hdemands : ∀ v l, c.value = some v → c.type.Takes v l → ∃ p, c.Demands column p) :
    (∃ r, c.Degrades r) ∨ ∃ p, c.Demands column p := by
  rcases c.type.read_cases c.value with hmissing | ⟨v, l, hvalue, hl⟩ | ⟨ht, s, hvalue, hs⟩
  · exact .inl ⟨_, .missing hlegal hrange hboolean hmissing⟩
  · exact .inr (hdemands v l hvalue hl)
  · exact .inl ⟨_, .value hlegal hrange ht hvalue hs⟩

theorem degrades_or_demands_range (column : String) (hrange : c.type.isRange = true)
    (hoperation : c.operation = .range) : (∃ r, c.Degrades r) ∨ ∃ p, c.Demands column p := by
  have hlegal : c.operation ∈ c.type.operations :=
    hoperation ▸ OperandType.range_mem_operations hrange
  by_cases h : c.IsIncomplete
  · exact .inl ⟨_, .incomplete hlegal hrange h⟩
  · rcases c.type.read_cases c.start with hmissing | ⟨v, l, hstart, hl⟩ | ⟨ht, s, hstart, hs⟩
    · exact absurd (.start hmissing) h
    · rcases c.type.read_cases c.last with hmissing | ⟨w, m, hlast, hm⟩ | ⟨ht, s, hlast, hs⟩
      · exact absurd (.last hmissing) h
      · obtain ⟨i, hi⟩ := Option.ne_none_iff_exists'.1 fun h' => h (.includesStart h')
        obtain ⟨j, hj⟩ := Option.ne_none_iff_exists'.1 fun h' => h (.includesLast h')
        exact .inr ⟨_, .range hrange hoperation hstart hl hlast hm hi hj⟩
      · exact .inl ⟨_, .last hlegal hrange h ht hstart hl hlast hs⟩
    · exact .inl ⟨_, .start hlegal hrange h ht hstart hs⟩

theorem degrades_or_demands (c : Condition) (column : String) :
    (∃ r, c.Degrades r) ∨ ∃ p, c.Demands column p := by
  by_cases hlegal : c.operation ∈ c.type.operations
  · rcases OperandType.operation_cases hlegal with
      ⟨hrange, hboolean, comparison, h⟩ | ⟨ht, h⟩ | ⟨hrange, h⟩ | ⟨ht, h⟩
    · apply degrades_or_demands_value column hlegal hrange hboolean
      intro v l hvalue hl
      exact ⟨_, .compare hlegal h hvalue hl⟩
    · apply degrades_or_demands_value column hlegal (by rw [ht]; rfl) (by rw [ht]; nofun)
      intro v l hvalue hl
      obtain ⟨s, hs⟩ := Option.ne_none_iff_exists'.1 (mt Value.toText?_eq_none_iff.1 hl.ne_null)
      rcases h with h | h
      · exact ⟨_, .contains ht h hvalue hs⟩
      · exact ⟨_, .notContains ht h hvalue hs⟩
    · exact degrades_or_demands_range column hrange h
    · rcases h with h | h
      · exact .inr ⟨_, .isTrue ht h⟩
      · exact .inr ⟨_, .isFalse ht h⟩
  · exact .inl ⟨_, .illegal hlegal⟩

theorem compile_eq_error_iff {r : Degradation} :
    c.compile column = .error r ↔ c.Degrades r := by
  constructor
  · intro h
    rcases c.degrades_or_demands column with ⟨r', hr⟩ | ⟨p, hp⟩
    · rw [compile_of_degrades column hr, Except.error.injEq] at h
      exact h ▸ hr
    · rw [compile_of_demands hp] at h
      contradiction
  · exact compile_of_degrades column

theorem isOk_compile_eq_false_iff : (c.compile column).isOk = false ↔ ∃ r, c.Degrades r := by
  have herror (r : Degradation) : c.Degrades r ↔ c.compile column = .error r :=
    compile_eq_error_iff.symm
  simp only [herror]
  cases c.compile column <;> simp [Except.isOk, Except.toBool]

theorem compile_eq_ok_iff {p : Predicate} : c.compile column = .ok p ↔ c.Demands column p := by
  constructor
  · intro h
    rcases c.degrades_or_demands column with ⟨r, hr⟩ | ⟨p', hp⟩
    · rw [compile_of_degrades column hr] at h
      contradiction
    · rw [compile_of_demands hp, Except.ok.injEq] at h
      exact h ▸ hp
  · exact compile_of_demands

/-! ### Operands that are not used -/

/-- Conditions with the same type and operation, and the same operands where these take any. -/
structure SameUse (c c' : Condition) : Prop where
  type : c.type = c'.type
  operation : c.operation = c'.operation
  value : c.type.isRange = false → c.type ≠ .boolean → c.value = c'.value
  start : c.type.isRange = true → c.start = c'.start
  last : c.type.isRange = true → c.last = c'.last
  includesStart : c.type.isRange = true → c.includesStart = c'.includesStart
  includesLast : c.type.isRange = true → c.includesLast = c'.includesLast

theorem SameUse.compile_eq {c' : Condition} (h : c.SameUse c') :
    c.compile column = c'.compile column := by
  have hoperations : c'.type.operations = c.type.operations := by rw [h.type]
  by_cases hlegal : c.operation ∈ c.type.operations
  · have hlegal' : c'.operation ∈ c'.type.operations := by rwa [← h.type, ← h.operation]
    rcases OperandType.operation_cases hlegal with
      ⟨hrange, hboolean, comparison, ho⟩ | ⟨ht, ho⟩ | ⟨hrange, ho⟩ | ⟨ht, ho⟩
    · have ho' := h.operation ▸ ho
      rw [compile_of_comparison hlegal ho, compile_of_comparison hlegal' ho',
        h.value hrange hboolean, h.type]
    · have ht' := h.type ▸ ht
      have hvalue := h.value (by rw [ht]; rfl) (by rw [ht]; nofun)
      rcases ho with ho | ho
      · have ho' := h.operation ▸ ho
        rw [compile_of_contains ht ho, compile_of_contains ht' ho', compileContains,
          compileContains, hvalue]
      · have ho' := h.operation ▸ ho
        rw [compile_of_notContains ht ho, compile_of_notContains ht' ho', compileContains,
          compileContains, hvalue]
    · have hrange' : c'.type.isRange = true := h.type ▸ hrange
      have ho' := h.operation ▸ ho
      rw [compile_of_range hrange ho, compile_of_range hrange' ho', compileRange, compileRange,
        bounds, bounds, h.start hrange, h.last hrange, h.includesStart hrange,
        h.includesLast hrange, h.type]
    · have ht' := h.type ▸ ht
      rcases ho with ho | ho
      · have ho' := h.operation ▸ ho
        rw [compile, compile, ht, ht', ho, ho']
      · have ho' := h.operation ▸ ho
        rw [compile, compile, ht, ht', ho, ho']
  · have hlegal' : c'.operation ∉ c'.type.operations := by rwa [← h.type, ← h.operation]
    rw [compile_of_illegal hlegal, compile_of_illegal hlegal', h.type, h.operation]

/--
A condition degrades for its first reason, and has one if and only if it demands nothing. Operands
that its type does not take never matter.
-/
theorem compile_iff (c : Condition) (column : String) :
    (∀ r, c.compile column = .error r ↔ c.Degrades r) ∧
    (∀ p, c.compile column = .ok p ↔ c.Demands column p) ∧
    ∀ c' : Condition, c.SameUse c' → c.compile column = c'.compile column :=
  ⟨fun _ => compile_eq_error_iff, fun _ => compile_eq_ok_iff, fun _ h => h.compile_eq⟩

def misspelled : Condition :=
  { Condition.range .floatRange (.text "few") true (.text "many") false with
    value := some (.text "three") }

theorem compile_misspelled :
    let plain := { misspelled with value := none }
    misspelled.compile "area" = .error (.notNumeric "few") ∧ misspelled.SameUse plain ∧
      misspelled.compile "area" = plain.compile "area" := by
  obtain ⟨hdegrades, _, huse⟩ := misspelled.compile_iff "area"
  have hcomplete : ¬misspelled.IsIncomplete := by
    rintro (h | h | h | h) <;> simp [misspelled, Condition.range, IsMissing] at h
  have huses : misspelled.SameUse { misspelled with value := none } :=
    ⟨rfl, rfl, nofun, fun _ => rfl, fun _ => rfl, fun _ => rfl, fun _ => rfl⟩
  refine ⟨?_, huses, huse _ huses⟩
  apply (hdegrades _).2
  exact .start (List.mem_singleton_self _) rfl hcomplete rfl rfl ⟨rfl, rfl⟩

end Condition

end Vacancy
