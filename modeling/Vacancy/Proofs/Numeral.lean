import Vacancy.Decimal.Layout
import Vacancy.Decimal.Numeral

/-!
The numerals that numbers are written as: digits, perhaps a point with digits after it, and perhaps
an exponent. Every layout writes them, whatever its limits are.
-/

namespace Vacancy.Decimal

def IsDigits (cs : List Char) : Prop :=
  ∀ c ∈ cs, c.isDigit = true

def IsPart (cs : List Char) : Prop :=
  cs = [] ∨ ∃ ds, cs = '.' :: ds ∧ IsDigits ds

def IsExponent (cs : List Char) : Prop :=
  cs = [] ∨ ∃ sign ds, cs = 'e' :: (sign ++ ds) ∧ (sign = [] ∨ sign = ['-'] ∨ sign = ['+']) ∧
    ds ≠ [] ∧ IsDigits ds

def IsNumeral (cs : List Char) : Prop :=
  ∃ whole part exponent, cs = whole ++ part ++ exponent ∧ whole ≠ [] ∧ IsDigits whole ∧
    IsPart part ∧ IsExponent exponent

namespace IsDigits

@[simp] theorem nil : IsDigits [] := by
  simp [IsDigits]

@[simp] theorem cons_iff {c : Char} {cs : List Char} :
    IsDigits (c :: cs) ↔ c.isDigit = true ∧ IsDigits cs :=
  List.forall_mem_cons

@[simp] theorem append_iff {cs ds : List Char} :
    IsDigits (cs ++ ds) ↔ IsDigits cs ∧ IsDigits ds :=
  List.forall_mem_append

theorem toDigits (n : Nat) : IsDigits (Nat.toDigits 10 n) :=
  fun _ hc => Nat.isDigit_of_mem_toDigits (by decide) (by decide) hc

theorem zeros (n : Nat) : IsDigits (Layout.zeros n) := by
  intro c hc
  rw [List.eq_of_mem_replicate hc]
  rfl

theorem take {cs : List Char} (h : IsDigits cs) (n : Nat) : IsDigits (cs.take n) :=
  fun c hc => h c (List.mem_of_mem_take hc)

theorem drop {cs : List Char} (h : IsDigits cs) (n : Nat) : IsDigits (cs.drop n) :=
  fun c hc => h c (List.mem_of_mem_drop hc)

end IsDigits

theorem IsNumeral.of_whole {whole : List Char} (hne : whole ≠ []) (h : IsDigits whole) :
    IsNumeral whole :=
  ⟨whole, [], [], by simp, hne, h, .inl rfl, .inl rfl⟩

theorem IsNumeral.of_point {whole ds : List Char} (hne : whole ≠ []) (h : IsDigits whole)
    (hds : IsDigits ds) : IsNumeral (whole ++ '.' :: ds) :=
  ⟨whole, '.' :: ds, [], by simp, hne, h, .inr ⟨ds, rfl, hds⟩, .inl rfl⟩

theorem IsNumeral.exists_cons {cs : List Char} (h : IsNumeral cs) :
    ∃ d ds, cs = d :: ds ∧ d.isDigit = true := by
  obtain ⟨whole, part, exponent, rfl, hne, hwhole, -, -⟩ := h
  obtain ⟨d, ds, rfl⟩ := List.exists_cons_of_ne_nil hne
  exact ⟨d, _, rfl, (IsDigits.cons_iff.1 hwhole).1⟩

theorem isNumeral_toDigits (n : Nat) : IsNumeral (Nat.toDigits 10 n) :=
  .of_whole Nat.toDigits_ne_nil (.toDigits n)

namespace Layout

theorem isNumeral_positional (l : Layout) {ds : List Char} (hne : ds ≠ []) (h : IsDigits ds)
    (k : Int) : IsNumeral (l.positional ds k) := by
  simp only [positional]
  split
  · have hwhole : IsDigits (ds ++ zeros k.toNat) := by simp [h, IsDigits.zeros]
    have hwhole' : ds ++ zeros k.toNat ≠ [] := by simp [hne]
    cases l.fraction with
    | true => exact .of_point hwhole' hwhole (by simp)
    | false => simpa using IsNumeral.of_whole hwhole' hwhole
  · split
    · next hp =>
      refine .of_point ?_ (h.take _) (h.drop _)
      rw [ne_eq, List.take_eq_nil_iff]
      have : (ds.length + k).toNat ≠ 0 := by omega
      simp [this, hne]
    · exact .of_point (List.cons_ne_nil '0' []) (by simp) (by simp [h, IsDigits.zeros])

theorem isExponent_exponent (l : Layout) (e : Int) : IsExponent ('e' :: l.exponent e) := by
  refine .inr ⟨if e < 0 then ['-'] else if l.plus then ['+'] else [],
    zeros (l.exponentWidth - (Nat.toDigits 10 e.natAbs).length) ++ Nat.toDigits 10 e.natAbs,
    ?_, ?_, ?_, ?_⟩
  · simp [exponent]
  · split
    · exact .inr (.inl rfl)
    · split
      · exact .inr (.inr rfl)
      · exact .inl rfl
  · simp [Nat.toDigits_ne_nil]
  · simp [IsDigits.zeros, IsDigits.toDigits]

theorem isNumeral_scientific (l : Layout) {ds : List Char} (hne : ds ≠ []) (h : IsDigits ds)
    (k : Int) : IsNumeral (l.scientific ds k) := by
  refine ⟨ds.take 1, _, 'e' :: l.exponent (ds.length + k - 1), rfl, by simp [hne], h.take 1, ?_,
    l.isExponent_exponent _⟩
  split
  · cases l.mantissaFraction with
    | true => exact .inr ⟨['0'], rfl, by simp⟩
    | false => exact .inl rfl
  · exact .inr ⟨ds.drop 1, rfl, h.drop 1⟩

theorem isNumeral_digits (l : Layout) (d : Digits) : IsNumeral (l.digits d) := by
  have hne : Nat.toDigits 10 d.c ≠ [] := Nat.toDigits_ne_nil
  simp only [digits]
  split
  · exact l.isNumeral_positional hne (.toDigits _) 0
  · split
    · exact l.isNumeral_positional hne (.toDigits _) d.k
    · exact l.isNumeral_scientific hne (.toDigits _) d.k

end Layout

def IsSigned (cs : List Char) : Prop :=
  IsNumeral cs ∨ ∃ ds, cs = '-' :: ds ∧ IsNumeral ds

theorem isSigned_toString (n : Int) : IsSigned (toString n).toList := by
  cases n with
  | ofNat m =>
    refine .inl ?_
    rw [Int.toString_eq_repr]
    simpa [Int.repr, Nat.repr] using isNumeral_toDigits m
  | negSucc m =>
    refine .inr ⟨Nat.toDigits 10 (m + 1), ?_, isNumeral_toDigits _⟩
    simp [Int.toString_eq_repr, Int.repr, Nat.repr]

theorem isNaN_of_isFinite {x : Float} (h : x.isFinite = true) : x.isNaN = false := by
  have h : x.toModel.unpack.isFinite = true := h
  show x.toModel.unpack.isNaN = false
  cases hu : x.toModel.unpack with
  | notANumber =>
    rw [hu] at h
    exact absurd h Bool.false_ne_true
  | _ => rfl

theorem Layout.isSigned_float (l : Layout) {x : Float} (h : x.isFinite = true) :
    IsSigned (l.float x).toList := by
  have hdigits := l.isNumeral_digits (shortest (magnitude x))
  simp only [float, isNaN_of_isFinite h, h, if_true, Bool.false_eq_true, if_false]
  split
  · exact .inr ⟨_, by simp, hdigits⟩
  · exact .inl (by simpa using hdigits)

end Vacancy.Decimal
