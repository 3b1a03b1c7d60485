import Vacancy.Proofs.Lexer
import Vacancy.Proofs.Usable

/-!
Conditions whose operands are percentages. An operand is read twice, as a double to divide it and as
a number of its own to compare with; both readings take the same texts, so that a percentage can be
used, or cannot for the same reason, as the fraction that it stands for.
-/

namespace Vacancy

open Sql

/-! ### Integers that are read as doubles -/

/-- The doubles that a number is read as. A zero may have been written with a minus sign. -/
inductive Sql.Literal.HasValue : Literal → Float → Prop where
  | integer (n : Int64) : HasValue (.integer n) (Float.ofInt n.toInt)
  | negativeZero : HasValue (.integer 0) (-(0 : Float))
  | real (x : Float) : HasValue (.real x) x

namespace Decimal

theorem scan?_of_isDigits {cs ds : List Char} {negative : Bool}
    (hsign : splitSign cs = (negative, ds)) (hne : ds ≠ []) (h : IsDigits ds) :
    scan? cs = some (⟨negative, natOfDigits ds, 0, true⟩, []) := by
  have hdigits : splitDigits (ds ++ []) = (ds, []) := Sql.Lexeme.splitDigits_append h nofun
  rw [List.append_nil] at hdigits
  simp [scan?, hsign, hdigits, hne, splitExponent]

theorem toFloat_plain {c : Nat} (negative : Bool) (h : c < 2 ^ 64) :
    (⟨negative, c, 0, true⟩ : Numeral).toFloat =
      if negative then -Float.ofNat c else Float.ofNat c := by
  have hlog := log2_le_of_lt h
  have hhigh : ¬400 < (c.log2 : Int) * 30103 / 100000 + 0 := by omega
  have hlow : ¬(c.log2 : Int) * 30103 / 100000 + 0 < -400 := by omega
  unfold Numeral.toFloat
  by_cases hc : c = 0
  · subst hc
    rfl
  · dsimp only
    rw [if_neg hc, if_neg hhigh, if_neg hlow]
    rfl

theorem toLower_of_isDigit {c : Char} (h : c.isDigit = true) : c.toLower = c := by
  simp only [Char.isDigit, Bool.and_eq_true, decide_eq_true_eq, ge_iff_le,
    UInt32.le_iff_toNat_le] at h
  apply dif_neg
  simp only [ge_iff_le, UInt32.le_iff_toNat_le, not_and, Nat.not_le]
  have : '9'.val.toNat < 'A'.val.toNat := by decide
  omega

theorem name_ne_of_isDigits {ds : List Char} (hne : ds ≠ []) (h : IsDigits ds) (name : String)
    (hname : ∃ c ∈ name.toList.head?, c.isDigit = false) :
    String.ofList (ds.map Char.toLower) ≠ name := by
  obtain ⟨d, ds, rfl⟩ := List.exists_cons_of_ne_nil hne
  obtain ⟨c, hc, hdigit⟩ := hname
  have hd := (IsDigits.cons_iff.1 h).1
  rintro rfl
  simp only [List.map_cons, String.toList_ofList, List.head?_cons, Option.mem_some_iff,
    toLower_of_isDigit hd] at hc
  subst hc
  exact Bool.false_ne_true (hdigit.symm.trans hd)

theorem readFloat?_of_isDigits {s : String} {ds : List Char} {negative : Bool}
    (hsign : splitSign s.toList = (negative, ds)) (hne : ds ≠ []) (h : IsDigits ds) :
    readFloat? s = some (⟨negative, natOfDigits ds, 0, true⟩ : Numeral).toFloat := by
  have hinf := name_ne_of_isDigits hne h "inf" ⟨'i', rfl, rfl⟩
  have hinfinity := name_ne_of_isDigits hne h "infinity" ⟨'i', rfl, rfl⟩
  have hnan := name_ne_of_isDigits hne h "nan" ⟨'n', rfl, rfl⟩
  rw [readFloat?, hsign]
  dsimp only
  rw [if_neg (not_or.2 ⟨hinf, hinfinity⟩), if_neg hnan, scan?_of_isDigits hsign hne h]

theorem readInt64?_eq_some {s : String} {n : Int64} (h : readInt64? s = some n) :
    ∃ negative ds, splitSign s.toList = (negative, ds) ∧ ds ≠ [] ∧ IsDigits ds ∧
      n.toInt = if negative then -(natOfDigits ds : Int) else natOfDigits ds := by
  unfold readInt64? at h
  rcases hsign : splitSign s.toList with ⟨negative, ds⟩
  rw [hsign] at h
  dsimp only at h
  split at h
  · contradiction
  · next hdigits =>
    simp only [Bool.or_eq_true, List.isEmpty_iff, Bool.not_eq_true', not_or, Bool.not_eq_false,
      List.all_eq_true] at hdigits
    exact ⟨negative, ds, rfl, hdigits.1, hdigits.2, toInt_of_int64?_eq_some h⟩

theorem hasValue_plain {n : Int64} {negative : Bool} {c : Nat}
    (h : n.toInt = if negative then -(c : Int) else c) :
    Literal.HasValue (.integer n) (⟨negative, c, 0, true⟩ : Numeral).toFloat := by
  have hlow := n.le_toInt
  have hhigh := n.toInt_lt
  have hsize : c < 2 ^ 64 := by
    split at h <;> omega
  rw [toFloat_plain negative hsize]
  cases negative with
  | false =>
    have hfloat : Float.ofInt n.toInt = Float.ofNat c := by rw [h]; rfl
    rw [if_neg Bool.false_ne_true, ← hfloat]
    exact .integer n
  | true =>
    rw [if_pos rfl] at h ⊢
    cases c with
    | zero =>
      obtain rfl : n = 0 := Int64.toInt_inj.1 h
      exact .negativeZero
    | succ c =>
      have hfloat : Float.ofInt n.toInt = -Float.ofNat (c + 1) := by rw [h]; rfl
      rw [← hfloat]
      exact .integer n

theorem isFinite_of_hasValue {n : Int64} {x : Float} (h : Literal.HasValue (.integer n) x) :
    x.isFinite = true := by
  cases h with
  | integer =>
    have hlow := n.le_toInt
    have hhigh := n.toInt_lt
    apply isFinite_ofInt <;> omega
  | negativeZero => exact isFinite_neg (isFinite_ofNat (by decide))

theorem exists_readFinite? {s : String} {n : Int64} (h : readInt64? s = some n) :
    ∃ x, readFinite? s = some x ∧ Literal.HasValue (.integer n) x := by
  obtain ⟨negative, ds, hsign, hne, hds, hn⟩ := readInt64?_eq_some h
  have hvalue := hasValue_plain hn
  refine ⟨_, ?_, hvalue⟩
  rw [readFinite?, readFloat?_of_isDigits hsign hne hds, Option.filter_some,
    if_pos (isFinite_of_hasValue hvalue)]

end Decimal

namespace Condition

variable {f : Float → Float} {operand : Option Value} {c : Condition}

/-! ### Operands -/

/-- An operand that is a number, as it is compared with, and the double that it is divided as. -/
structure IsNumber (operand : Option Value) (l : Literal) (y : Float) : Prop where
  toFloat? : operand.bind Value.toFloat? = some y
  value : l.HasValue y

theorem isMissing_mapNumber : IsMissing (mapNumber f operand) ↔ IsMissing operand := by
  unfold mapNumber
  split
  · next y hy =>
    constructor
    · rintro (h | h) <;> simp at h
    · rintro (rfl | rfl) <;> simp [Value.toFloat?] at hy
  · rfl

theorem numberOperand_mapNumber (f : Float → Float) (operand : Option Value) :
    (∃ r, numberOperand operand = .error r ∧ numberOperand (mapNumber f operand) = .error r) ∨
    ∃ l y, IsNumber operand l y ∧ numberOperand operand = .ok l ∧
      numberOperand (mapNumber f operand) = .ok (.real (f y)) := by
  rcases operand with _ | _ | n | x | s
  · exact .inl ⟨_, rfl, rfl⟩
  · exact .inl ⟨_, rfl, rfl⟩
  · exact .inr ⟨_, _, ⟨rfl, .integer n⟩, rfl, rfl⟩
  · exact .inr ⟨_, _, ⟨rfl, .real x⟩, rfl, rfl⟩
  · have htoFloat : (some (Value.text s)).bind Value.toFloat? =
        Decimal.readFinite? (Text.trim s) := by
      rw [Option.bind_some, Value.toFloat?]
    cases hn : Decimal.readInt64? (Text.trim s) with
    | some n =>
      obtain ⟨y, hy, hvalue⟩ := Decimal.exists_readFinite? hn
      right
      refine ⟨.integer n, y, ⟨htoFloat.trans hy, hvalue⟩, ?_, ?_⟩
      · simp only [numberOperand, Literal.ofNumber?, hn]
      · simp only [mapNumber, htoFloat, hy, numberOperand]
    | none =>
      cases hy : Decimal.readFinite? (Text.trim s) with
      | some y =>
        right
        refine ⟨.real y, y, ⟨htoFloat.trans hy, .real y⟩, ?_, ?_⟩
        · simp only [numberOperand, Literal.ofNumber?, hn, hy, Option.map_some]
        · simp only [mapNumber, htoFloat, hy, numberOperand]
      | none =>
        left
        refine ⟨.notNumeric s, ?_, ?_⟩
        · simp only [numberOperand, Literal.ofNumber?, hn, hy, Option.map_none]
        · simp only [mapNumber, htoFloat, hy, numberOperand, Literal.ofNumber?, hn, Option.map_none]

/-! ### Conditions -/

/-- Two predicates that differ in the operands of the condition only, which the second one has `f`
applied to. -/
inductive Maps (c : Condition) (f : Float → Float) : Predicate → Predicate → Prop where
  | compare {column : String} {comparison : Comparison} {l : Literal} {y : Float}
      (hvalue : IsNumber c.value l y) :
      Maps c f (.compare column comparison l) (.compare column comparison (.real (f y)))
  | range {column : String} {l m : Literal} {y z : Float} {includesStart includesLast : Bool}
      (hstart : IsNumber c.start l y) (hlast : IsNumber c.last m z) :
      Maps c f (.range column ⟨l, includesStart⟩ ⟨m, includesLast⟩)
        (.range column ⟨.real (f y), includesStart⟩ ⟨.real (f z), includesLast⟩)

/-- The same reason, or predicates that the operands make the difference between. -/
inductive KeepsFate (c : Condition) (f : Float → Float) :
    Except Degradation Predicate → Except Degradation Predicate → Prop where
  | error (r : Degradation) : KeepsFate c f (.error r) (.error r)
  | ok {p q : Predicate} (h : c.Maps f p q) : KeepsFate c f (.ok p) (.ok q)

theorem isIncomplete_mapNumbers (f : Float → Float) (c : Condition) :
    (c.mapNumbers f).IsIncomplete ↔ c.IsIncomplete := by
  constructor
  · rintro (h | h | h | h)
    · exact .start (isMissing_mapNumber.1 h)
    · exact .last (isMissing_mapNumber.1 h)
    · exact .includesStart h
    · exact .includesLast h
  · rintro (h | h | h | h)
    · exact .start (isMissing_mapNumber.2 h)
    · exact .last (isMissing_mapNumber.2 h)
    · exact .includesStart h
    · exact .includesLast h

theorem read_eq_numberOperand {t : OperandType} (ht : t.isNumeric = true) :
    t.read = numberOperand := by
  unfold OperandType.read
  rw [if_pos ht]

theorem keepsFate_comparison {comparison : Comparison} (f : Float → Float) (column : String)
    (ht : c.type.isNumeric = true) (hlegal : c.operation ∈ c.type.operations)
    (h : c.operation = comparison.operation) :
    c.KeepsFate f (c.compile column) ((c.mapNumbers f).compile column) := by
  have hlegal' : (c.mapNumbers f).operation ∈ (c.mapNumbers f).type.operations := hlegal
  have h' : (c.mapNumbers f).operation = comparison.operation := h
  have hread : (c.mapNumbers f).type.read = numberOperand := read_eq_numberOperand ht
  have hvalue : (c.mapNumbers f).value = mapNumber f c.value := rfl
  rw [compile_of_comparison hlegal h, compile_of_comparison hlegal' h', hread,
    read_eq_numberOperand ht, hvalue]
  rcases numberOperand_mapNumber f c.value with ⟨r, hr, hr'⟩ | ⟨l, y, hy, hl, hl'⟩
  · rw [hr, hr']
    exact .error r
  · rw [hl, hl']
    exact .ok (.compare hy)

theorem keepsFate_range (f : Float → Float) (column : String) (ht : c.type.isNumeric = true)
    (hrange : c.type.isRange = true) (h : c.operation = .range) :
    c.KeepsFate f (c.compile column) ((c.mapNumbers f).compile column) := by
  have hrange' : (c.mapNumbers f).type.isRange = true := hrange
  have h' : (c.mapNumbers f).operation = .range := h
  by_cases hincomplete : c.IsIncomplete
  · rw [compile_of_isIncomplete hrange h hincomplete,
      compile_of_isIncomplete hrange' h' ((isIncomplete_mapNumbers f c).2 hincomplete)]
    exact .error _
  · have hcomplete := mt (isIncomplete_mapNumbers f c).1 hincomplete
    obtain ⟨i, j, hi, hj, hcompile⟩ := exists_compile_of_range column hrange h hincomplete
    obtain ⟨i', j', hi', hj', hcompile'⟩ := exists_compile_of_range column hrange' h' hcomplete
    obtain rfl : i = i' := Option.some.inj (hi.symm.trans hi')
    obtain rfl : j = j' := Option.some.inj (hj.symm.trans hj')
    have hread : (c.mapNumbers f).type.read = numberOperand := read_eq_numberOperand ht
    have hstart : (c.mapNumbers f).start = mapNumber f c.start := rfl
    have hlast : (c.mapNumbers f).last = mapNumber f c.last := rfl
    rw [hcompile, hcompile', hread, read_eq_numberOperand ht, hstart, hlast]
    rcases numberOperand_mapNumber f c.start with ⟨r, hr, hr'⟩ | ⟨l, y, hy, hl, hl'⟩
    · rw [hr, hr']
      exact .error r
    · rw [hl, hl']
      rcases numberOperand_mapNumber f c.last with ⟨r, hr, hr'⟩ | ⟨m, z, hz, hm, hm'⟩
      · rw [hr, hr']
        exact .error r
      · rw [hm, hm']
        exact .ok (.range hy hz)

theorem keepsFate_mapNumbers (c : Condition) (f : Float → Float) (column : String)
    (ht : c.type.isNumeric = true) :
    c.KeepsFate f (c.compile column) ((c.mapNumbers f).compile column) := by
  by_cases hlegal : c.operation ∈ c.type.operations
  · by_cases hrange : c.type.isRange = true
    · exact keepsFate_range f column ht hrange (operation_eq_range hlegal hrange)
    · obtain ⟨comparison, h⟩ := exists_operation hlegal (Bool.eq_false_iff.2 hrange) ht
      exact keepsFate_comparison f column ht hlegal h
  · have hlegal' : (c.mapNumbers f).operation ∉ (c.mapNumbers f).type.operations := hlegal
    rw [compile_of_illegal hlegal, compile_of_illegal hlegal']
    exact .error _

theorem KeepsFate.error_iff {f : Float → Float} {X Y : Except Degradation Predicate}
    (h : c.KeepsFate f X Y) (r : Degradation) : Y = .error r ↔ X = .error r := by
  cases h with
  | error => rfl
  | ok => constructor <;> nofun

theorem KeepsFate.isOk_eq {f : Float → Float} {X Y : Except Degradation Predicate}
    (h : c.KeepsFate f X Y) : Y.isOk = X.isOk := by
  cases h <;> rfl

theorem KeepsFate.exists_ok {f : Float → Float} {Y : Except Degradation Predicate} {p : Predicate}
    (h : c.KeepsFate f (.ok p) Y) : ∃ q, Y = .ok q ∧ c.Maps f p q := by
  cases h with
  | ok h => exact ⟨_, rfl, h⟩

def isPercentage (c : Condition) (x : Option Column) : Bool :=
  x.any Column.isPercent && c.type.isFloat

/--
A percentage degrades for the reasons of the fraction that it stands for. Otherwise the predicate
stays, and only the operands are divided, each of them once.
-/
theorem compile_rescaled (c : Condition) (x : Option Column) (column : String) :
    (∀ r, (c.rescaled x).compile column = .error r ↔ c.compile column = .error r) ∧
    (c.isPercentage x = false → (c.rescaled x).compile column = c.compile column) ∧
    (c.isPercentage x = true → ∀ p, c.compile column = .ok p →
      ∃ q, (c.rescaled x).compile column = .ok q ∧ c.Maps (· / 100.0) p q) := by
  cases h : c.isPercentage x with
  | false =>
    have hsame : c.rescaled x = c := if_neg (Bool.eq_false_iff.1 h)
    rw [hsame]
    exact ⟨fun _ => Iff.rfl, fun _ => rfl, nofun⟩
  | true =>
    have hmapped : c.rescaled x = c.mapNumbers (· / 100.0) := if_pos h
    have ht := OperandType.isNumeric_of_isFloat (Bool.and_eq_true_iff.1 h).2
    have hfate := c.keepsFate_mapNumbers (· / 100.0) column ht
    rw [hmapped]
    refine ⟨hfate.error_iff, nofun, ?_⟩
    intro _ p hp
    rw [hp] at hfate
    exact hfate.exists_ok

def aged : Condition :=
  .range .floatRange (.text " +20 ") true (.integer 50) false

theorem compile_aged :
    let x := Grain.building.column? "percentage_over_65"
    aged.isPercentage x = true ∧
      aged.compile "percentage_over_65" =
        .ok (.range "percentage_over_65" ⟨.integer 20, true⟩ ⟨.integer 50, false⟩) ∧
      ∃ y z : Float, (aged.rescaled x).compile "percentage_over_65" =
        .ok (.range "percentage_over_65" ⟨.real (y / 100.0), true⟩ ⟨.real (z / 100.0), false⟩) := by
  intro x
  obtain ⟨_, _, hmaps⟩ := aged.compile_rescaled x "percentage_over_65"
  have hcompile : aged.compile "percentage_over_65" =
      .ok (.range "percentage_over_65" ⟨.integer 20, true⟩ ⟨.integer 50, false⟩) := rfl
  obtain ⟨q, hq, h⟩ := hmaps rfl _ hcompile
  cases h with
  | range => exact ⟨rfl, hcompile, _, _, hq⟩

end Condition

end Vacancy
