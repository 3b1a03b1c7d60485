/-!
The order of texts by the code points of their characters, which is the order of their bytes in
UTF-8 too. Main statements: no text is before itself, the order is transitive, and of two texts one
is before the other.
-/

namespace Vacancy.Text

def before : List Char → List Char → Bool
  | _, [] => false
  | [], _ :: _ => true
  | c :: cs, d :: ds => decide (c.toNat < d.toNat) || (c == d && before cs ds)

theorem before_irrefl (cs : List Char) : before cs cs = false := by
  induction cs with
  | nil => rfl
  | cons c cs ih => simp [before, ih]

theorem before_trans {cs ds es : List Char} (h₁ : before cs ds = true) (h₂ : before ds es = true) :
    before cs es = true := by
  induction cs generalizing ds es with
  | nil =>
    cases es with
    | nil => cases ds <;> simp [before] at h₂
    | cons e es => rfl
  | cons c cs ih =>
    cases ds with
    | nil => simp [before] at h₁
    | cons d ds =>
      cases es with
      | nil => simp [before] at h₂
      | cons e es =>
        simp only [before, Bool.or_eq_true, decide_eq_true_eq, Bool.and_eq_true, beq_iff_eq] at *
        rcases h₁ with h₁ | ⟨rfl, h₁⟩ <;> rcases h₂ with h₂ | ⟨rfl, h₂⟩
        · exact .inl (Nat.lt_trans h₁ h₂)
        · exact .inl h₁
        · exact .inl h₂
        · exact .inr ⟨rfl, ih h₁ h₂⟩

theorem before_asymm {cs ds : List Char} (h : before cs ds = true) : before ds cs = false := by
  rw [← Bool.not_eq_true]
  intro h'
  have := before_trans h h'
  rw [before_irrefl] at this
  contradiction

theorem before_or_eq_or_before (cs ds : List Char) :
    before cs ds = true ∨ cs = ds ∨ before ds cs = true := by
  induction cs generalizing ds with
  | nil => cases ds <;> simp [before]
  | cons c cs ih =>
    cases ds with
    | nil => simp [before]
    | cons d ds =>
      simp only [before, Bool.or_eq_true, decide_eq_true_eq, Bool.and_eq_true, beq_iff_eq]
      rcases Nat.lt_trichotomy c.toNat d.toNat with h | h | h
      · exact .inl (.inl h)
      · have h := Char.toNat_inj.1 h
        subst h
        rcases ih ds with h | rfl | h
        · exact .inl (.inr ⟨rfl, h⟩)
        · exact .inr (.inl rfl)
        · exact .inr (.inr (.inr ⟨rfl, h⟩))
      · exact .inr (.inr (.inl h))

end Vacancy.Text
