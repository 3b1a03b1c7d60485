/-!
Integers that fit 64 bits, with and without a sign.
-/

namespace Vacancy.Decimal

def int64? (n : Int) : Option Int64 :=
  if Int64.minValue.toInt ≤ n ∧ n ≤ Int64.maxValue.toInt then some (Int64.ofInt n) else none

def uint64? (n : Int) : Option UInt64 :=
  if 0 ≤ n ∧ n < UInt64.size then some (UInt64.ofNat n.toNat) else none

theorem toInt_of_int64?_eq_some {n : Int} {i : Int64} (h : int64? n = some i) : i.toInt = n := by
  simp only [int64?, Option.ite_none_right_eq_some, Option.some.injEq, Int64.toInt_minValue,
    Int64.toInt_maxValue] at h
  obtain ⟨⟨h₁, h₂⟩, rfl⟩ := h
  exact Int64.toInt_ofInt_of_le h₁ (by omega)

@[simp] theorem int64?_toInt (i : Int64) : int64? i.toInt = some i := by
  have h₁ := Int64.le_toInt i
  have h₂ := Int64.toInt_lt i
  simp [int64?, Int64.toInt_maxValue]
  omega

@[simp] theorem uint64?_toNat (u : UInt64) : uint64? u.toNat = some u := by
  have := u.toNat_lt
  simp [uint64?, UInt64.size]
  omega

theorem lt_add_one {i : Int64} (h : i < Int64.maxValue) : i < i + 1 := by
  rw [Int64.lt_iff_toInt_lt, Int64.toInt_maxValue] at h
  have hlow := Int64.le_toInt i
  rw [Int64.lt_iff_toInt_lt, Int64.toInt_add, Int64.toInt_one, Int.bmod_eq_of_le] <;> omega

end Vacancy.Decimal
