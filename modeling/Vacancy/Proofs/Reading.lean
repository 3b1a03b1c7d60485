import Vacancy.Json.Reader
import Vacancy.Proofs.Canonical
import Vacancy.Proofs.Finite

/-!
What a text is read as. Its integers fit 64 bits and its doubles are finite, however its numbers are
written: what is too large is refused, and what is divided by a power of ten does not grow.
-/

namespace Vacancy.Json

open Decimal

/-! ### Numbers -/

theorem atLeast_powerOfTen (k : Nat) : AtLeast 0 (powerOfTen k).toModel.unpack := by
  by_cases hk : k ≤ 22
  · have hsmall : ∀ k ≤ 22, AtLeast 0 (powerOfTen k).toModel.unpack := by decide
    exact hsmall k hk
  · have hlarge : powerOfTen k = ⟨Float.Model.ofScientific 1 k⟩ := by
      unfold powerOfTen Float.ofScientific
      exact dif_neg fun h => hk h.2
    rw [hlarge]
    exact atLeast_ofScientific (by decide) k

theorem below_div_powerOfTen {x : Float} {e : Int} (hx : Below 52 e x.toModel.unpack) (k : Nat)
    (hlow : -1077 < e) (hhigh : e ≤ 968) : Below 52 (e + 3) (x / powerOfTen k).toModel.unpack :=
  below_pack (low_div hx (atLeast_powerOfTen k) (by omega) (by omega)) (by omega) (by omega)

theorem isFinite_of_shifted? {x y : Float} {k : Int} (hx : Below 52 13 x.toModel.unpack)
    (h : shifted? x k = some y) : y.isFinite = true := by
  unfold shifted? at h
  split at h
  · split at h
    · exact (Option.filter_eq_some_iff.1 h).2
    · split at h
      · cases h
        exact hx.isFinite
      · cases h
  · split at h
    · cases h
      exact (below_div_powerOfTen hx _ (by decide) (by decide)).isFinite
    · split at h
      · cases h
        have hquotient := below_div_powerOfTen hx largestExponent (by decide) (by decide)
        exact (below_div_powerOfTen hquotient _ (by decide) (by decide)).isFinite
      · cases h
        decide

theorem isFinite_of_double? {negative : Bool} {whole part : List Char} {exponent : Int} {x : Float}
    (h : double? negative whole part exponent = some x) : x.isFinite = true := by
  obtain ⟨y, hy, rfl⟩ := Option.map_eq_some_iff.1 h
  have hfinite := isFinite_of_shifted? (below_toFloat _) hy
  split
  · exact isFinite_neg hfinite
  · exact hfinite

theorem inRange_of_number? {skip : Bool} {cs rest : List Char} {j : Json}
    (h : number? skip cs = some (j, rest)) : j.InRange := by
  unfold number? at h
  split at h
  next negative digits _ =>
  split at h
  next whole _ _ =>
  dsimp only at h
  split at h
  · simp at h
  · simp only [Option.bind_eq_bind, Option.bind_eq_some_iff, Option.pure_def] at h
    obtain ⟨_, _, _, _, h⟩ := h
    generalize (if negative = true then -(natOfDigits whole : Int) else natOfDigits whole) = n at h
    split at h
    · next hwhole =>
      simp only [Bool.and_eq_true, decide_eq_true_eq] at hwhole
      cases h
      exact .int hwhole.1.2 hwhole.2
    · split at h
      · next hx =>
        cases h
        exact .real (isFinite_of_double? hx)
      · split at h
        · cases h
          exact .null
        · cases h

/-! ### Trees -/

/-- Within `fuel` steps values, items and members are read whose numbers are in range. -/
structure InRangeWithin (fuel : Nat) : Prop where
  value {w : Wanted} {levels : Nat} {cs rest : List Char} {j : Json}
    (h : value? w levels fuel cs = some (j, rest)) : j.InRange
  items {w : Wanted} {i levels : Nat} {cs rest : List Char} {js : List Json}
    (h : items? w i levels fuel cs = some (js, rest)) : ∀ j ∈ js, j.InRange
  members {w : Wanted} {levels : Nat} {cs rest : List Char} {ms : List (String × Json)}
    (h : members? w levels fuel cs = some (ms, rest)) : ∀ m ∈ ms, m.2.InRange

variable {fuel : Nat}

theorem InRangeWithin.value_succ (ih : InRangeWithin fuel) {w : Wanted} {levels : Nat}
    {cs rest : List Char} {j : Json} (h : value? w levels (fuel + 1) cs = some (j, rest)) :
    j.InRange := by
  rw [value?] at h
  dsimp only at h
  split at h
  · obtain ⟨_, _, h⟩ := Option.map_eq_some_iff.1 h
    cases h
    exact .text _
  · split at h
    · cases h
    · split at h
      · cases h
        exact .array (by simp)
      · obtain ⟨_, hitems, h⟩ := Option.map_eq_some_iff.1 h
        cases h
        exact .array (ih.items hitems)
  · split at h
    · cases h
    · split at h
      · cases h
        exact .object (by simp)
      · obtain ⟨_, hmembers, h⟩ := Option.map_eq_some_iff.1 h
        cases h
        exact .object (ih.members hmembers)
  · obtain ⟨_, _, h⟩ := Option.map_eq_some_iff.1 h
    cases h
    exact .null
  · obtain ⟨_, _, h⟩ := Option.map_eq_some_iff.1 h
    cases h
    exact .bool true
  · obtain ⟨_, _, h⟩ := Option.map_eq_some_iff.1 h
    cases h
    exact .bool false
  · exact inRange_of_number? h

theorem InRangeWithin.items_succ (ih : InRangeWithin fuel) {w : Wanted} {i levels : Nat}
    {cs rest : List Char} {js : List Json}
    (h : items? w i levels (fuel + 1) cs = some (js, rest)) : ∀ j ∈ js, j.InRange := by
  simp only [items?, Option.bind_eq_bind, Option.bind_eq_some_iff, Option.pure_def] at h
  obtain ⟨_, hvalue, h⟩ := h
  split at h
  · obtain ⟨_, hitems, h⟩ := Option.bind_eq_some_iff.1 h
    cases h
    exact List.forall_mem_cons.2 ⟨ih.value hvalue, ih.items hitems⟩
  · cases h
    exact List.forall_mem_singleton.2 (ih.value hvalue)
  · cases h

theorem InRangeWithin.members_succ (ih : InRangeWithin fuel) {w : Wanted} {levels : Nat}
    {cs rest : List Char} {ms : List (String × Json)}
    (h : members? w levels (fuel + 1) cs = some (ms, rest)) : ∀ m ∈ ms, m.2.InRange := by
  simp only [members?, Option.bind_eq_bind, Option.bind_eq_some_iff, Option.pure_def] at h
  obtain ⟨_, _, ⟨k, _⟩, _, _, _, ⟨v, _⟩, hvalue, h⟩ := h
  have hkept : ∀ m ∈ if (w.member k).isNothing then [] else [(k, v)], m.2.InRange := by
    split
    · simp
    · exact List.forall_mem_singleton.2 (ih.value hvalue)
  split at h
  · obtain ⟨_, hmembers, h⟩ := Option.bind_eq_some_iff.1 h
    cases h
    exact List.forall_mem_append.2 ⟨hkept, ih.members hmembers⟩
  · cases h
    exact hkept
  · cases h

theorem inRangeWithin (fuel : Nat) : InRangeWithin fuel := by
  induction fuel with
  | zero => exact ⟨nofun, nofun, nofun⟩
  | succ fuel ih => exact ⟨ih.value_succ, ih.items_succ, ih.members_succ⟩

theorem inRange_of_readPart? {w : Wanted} {s : String} {j : Json} (h : readPart? w s = some j) :
    j.InRange := by
  simp only [readPart?, Option.bind_eq_bind, Option.bind_eq_some_iff, Option.pure_def,
    Option.ite_none_right_eq_some, Option.some.injEq] at h
  obtain ⟨_, hvalue, _, rfl⟩ := h
  exact (inRangeWithin _).value hvalue

end Vacancy.Json
