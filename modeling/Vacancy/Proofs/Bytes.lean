import Mathlib.Tactic.SplitIfs
import Vacancy.Text.Order

/-!
The bytes of texts. In UTF-8 the bytes of one character differ from those of another one before
either ends, and the smaller character has the smaller byte there; so texts are in the order of their
bytes.
-/

namespace Vacancy.Text

def bytes (s : String) : List UInt8 :=
  s.toUTF8.data.toList

theorem bytes_eq (s : String) : bytes s = s.toList.flatMap String.utf8EncodeChar := by
  rw [bytes, String.toUTF8, ← String.utf8Encode_toList, List.utf8Encode,
    List.toList_data_toByteArray]

theorem toNat_lt (c : Char) : c.toNat < 0x110000 := by
  rcases c.valid with h | h
  · exact Nat.lt_trans h (by decide)
  · exact h.2

/-- The order of two characters decides, whatever follows their bytes. -/
theorem utf8EncodeChar_append_lt {c d : Char} (h : c.toNat < d.toNat) (as bs : List UInt8) :
    String.utf8EncodeChar c ++ as < String.utf8EncodeChar d ++ bs := by
  have hmax := toNat_lt d
  rw [Char.toNat] at h hmax
  rw [Char.toNat] at h
  -- bytes after the first have six bits each
  have htwelve : ∀ v : Nat, v / 4096 = v / 64 / 64 := fun v => (Nat.div_div_eq_div_mul v 64 64).symm
  have heighteen : ∀ v : Nat, v / 262144 = v / 64 / 64 / 64 := by
    intro v
    rw [Nat.div_div_eq_div_mul, Nat.div_div_eq_div_mul]
  unfold String.utf8EncodeChar
  dsimp only
  generalize c.val.toNat = m at *
  generalize d.val.toNat = n at *
  split_ifs
  all_goals
    simp only [List.cons_append, List.nil_append, List.cons_lt_cons_iff, UInt8.lt_iff_toNat_lt,
      ← UInt8.toNat_inj, UInt8.toNat_ofNat', htwelve, heighteen]
    omega

theorem flatMap_lt_of_before {cs ds : List Char} (h : before cs ds = true) :
    cs.flatMap String.utf8EncodeChar < ds.flatMap String.utf8EncodeChar := by
  induction cs generalizing ds with
  | nil =>
    cases ds with
    | nil => contradiction
    | cons d ds =>
      obtain ⟨b, bs, hb⟩ := List.exists_cons_of_ne_nil (String.utf8EncodeChar_ne_nil (c := d))
      rw [List.flatMap_cons, hb]
      exact List.nil_lt_cons b _
  | cons c cs ih =>
    cases ds with
    | nil => contradiction
    | cons d ds =>
      simp only [before, Bool.or_eq_true, decide_eq_true_eq, Bool.and_eq_true, beq_iff_eq] at h
      rw [List.flatMap_cons, List.flatMap_cons]
      rcases h with h | ⟨rfl, h⟩
      · exact utf8EncodeChar_append_lt h _ _
      · exact List.append_left_lt (ih h)

theorem before_iff_bytes_lt (s t : String) :
    before s.toList t.toList = true ↔ bytes s < bytes t := by
  rw [bytes_eq, bytes_eq]
  constructor
  · exact flatMap_lt_of_before
  · intro h
    rcases before_or_eq_or_before s.toList t.toList with hbefore | heq | hafter
    · exact hbefore
    · rw [heq] at h
      exact absurd h (List.lt_irrefl _)
    · exact absurd h (List.lt_asymm (flatMap_lt_of_before hafter))

end Vacancy.Text
