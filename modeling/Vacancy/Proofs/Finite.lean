import Mathlib.Algebra.Group.Int.Defs
import Mathlib.Algebra.Group.Nat.Defs
import Mathlib.Data.Nat.Log

/-!
Doubles that are numbers for sure: those of integers of 64 bits, and what is divided by no less than
one. Only a large exponent makes an infinity, so it is exponents that are followed through packing,
rounding and the operations, from above and, for divisors, from below.
-/

namespace Vacancy.Decimal

open Float.Model (Format UnpackedFloat totalExponent)
open Float.Model.UnpackedFloat

/-! ### Sizes -/

theorem log2_le_of_lt {m a : Nat} (h : m < 2 ^ (a + 1)) : m.log2 ≤ a := by
  by_cases hm : m = 0
  · simp [hm]
  · exact Nat.le_of_lt_succ ((Nat.log2_lt hm).2 h)

theorem log2_mono {m n : Nat} (h : m ≤ n) : m.log2 ≤ n.log2 :=
  log2_le_of_lt (Nat.lt_of_le_of_lt h Nat.lt_log2_self)

theorem log2_succ_le (m : Nat) : (m + 1).log2 ≤ m.log2 + 1 := by
  apply log2_le_of_lt
  have h : m < 2 ^ (m.log2 + 1) := Nat.lt_log2_self
  rw [Nat.pow_succ]
  omega

theorem log2_mul_le (m n : Nat) : (m * n).log2 ≤ m.log2 + n.log2 + 1 := by
  apply log2_le_of_lt
  have hm : m < 2 ^ (m.log2 + 1) := Nat.lt_log2_self
  have hn : n < 2 ^ (n.log2 + 1) := Nat.lt_log2_self
  calc m * n < 2 ^ (m.log2 + 1) * 2 ^ (n.log2 + 1) := Nat.mul_lt_mul'' hm hn
    _ = 2 ^ (m.log2 + n.log2 + 1 + 1) := by
      rw [← Nat.pow_add]
      congr 1
      omega

theorem log2_shiftLeft_le (m k : Nat) : (m <<< k).log2 ≤ m.log2 + k + 1 := by
  rw [Nat.shiftLeft_eq]
  have h := log2_mul_le m (2 ^ k)
  rwa [Nat.log2_two_pow] at h

theorem log2_div_pow (m k : Nat) : (m / 2 ^ k).log2 = m.log2 - k := by
  rw [Nat.log2_eq_log_two, Nat.log2_eq_log_two, Nat.log_div_base_pow]

/-! ### Packing -/

/-- Zero, or a number whose exponent is at most `e`. -/
inductive Low (e : Int) : UnpackedFloat → Prop where
  | zero {s} : Low e (.zero s)
  | finite {s m e' hm} (he : e' ≤ e) : Low e (.finite s m e' hm)

/-- Zero, or a number of up to `a + 1` bits whose exponent is at most `e`. -/
inductive Below (a : Nat) (e : Int) : UnpackedFloat → Prop where
  | zero {s} : Below a e (.zero s)
  | finite {s m e' hm} (hsize : m.log2 ≤ a) (he : e' ≤ e) : Below a e (.finite s m e' hm)

inductive AtLeast (b : Int) : UnpackedFloat → Prop where
  | infinity {s} : AtLeast b (.infinity s)
  | finite {s m e hm} (h : b ≤ (m.log2 : Int) + e) : AtLeast b (.finite s m e hm)

instance (b : Int) : DecidablePred (AtLeast b)
  | .finite _ m e _ => decidable_of_iff (b ≤ (m.log2 : Int) + e) ⟨.finite, fun | .finite h => h⟩
  | .infinity _ => .isTrue .infinity
  | .zero _ => .isFalse nofun
  | .notANumber => .isFalse nofun

inductive Full (e : Int) : UnpackedFloat → Prop where
  | finite {s m e' hm} (hsize : m.log2 = 52) (he : e ≤ e') : Full e (.finite s m e' hm)

theorem Below.isFinite {a : Nat} {e : Int} {u : UnpackedFloat} (h : Below a e u) :
    u.isFinite = true := by
  cases h with
  | zero => rfl
  | finite _ _ => rfl

theorem mantissaBits_binary64 : Format.mantissaBits .binary64 = 53 :=
  rfl

theorem below_unpack {e : Int} {b : BitVec (Format.numBits .binary64)}
    (hb : unpackExponent b ≠ -1#_) (h : ((unpackExponent b).toNat : Int) - 1075 ≤ e)
    (hlow : -1074 ≤ e) : Below 52 e (UnpackedFloat.unpack .binary64 b) := by
  delta UnpackedFloat.unpack
  rw [if_neg hb]
  have hfraction := (unpackMantissa b).isLt
  have hwhole := (1#1 ++ unpackMantissa b).isLt
  simp only [Nat.reduceAdd] at hfraction hwhole
  by_cases hzero : unpackExponent b = 0#_
  · rw [if_pos hzero]
    by_cases hmantissa : unpackMantissa b = 0#_
    · rw [dif_pos hmantissa]
      exact .zero
    · rw [dif_neg hmantissa]
      refine .finite (log2_le_of_lt (by omega)) ?_
      rw [hzero]
      simpa [Format.exponentBias] using hlow
  · rw [if_neg hzero]
    refine .finite (log2_le_of_lt (by omega)) ?_
    simpa [Format.exponentBias] using h

theorem below_toModel {x : Float} (h : x.isFinite = true) : Below 52 971 x.toModel.unpack := by
  have hx : x.toModel.unpack = UnpackedFloat.unpack .binary64 x.toModel.toBits.toBitVec := rfl
  have hb : @unpackExponent .binary64 x.toModel.toBits.toBitVec ≠ -1#_ := by
    intro hb
    have h : x.toModel.unpack.isFinite = true := h
    rw [hx] at h
    delta UnpackedFloat.unpack at h
    rw [if_pos hb] at h
    by_cases hmantissa : @unpackMantissa .binary64 x.toModel.toBits.toBitVec = 0#_
    · rw [if_pos hmantissa] at h
      exact Bool.false_ne_true h
    · rw [if_neg hmantissa] at h
      exact Bool.false_ne_true h
  rw [hx]
  refine below_unpack hb ?_ (by decide)
  have hlt := (@unpackExponent .binary64 x.toModel.toBits.toBitVec).isLt
  have hne : (@unpackExponent .binary64 x.toModel.toBits.toBitVec).toNat ≠ 2047 := by
    intro heq
    apply hb
    apply BitVec.eq_of_toNat_eq
    rw [heq]
    rfl
  simp only [Nat.reducePow] at hlt
  omega

theorem toNat_biased {n : Nat} (h : n + 1 < 2 ^ 11) : (BitVec.ofNat 11 n).toNat = n := by
  rw [BitVec.toNat_ofNat]
  exact Nat.mod_eq_of_lt (by omega)

theorem biased_ne {n : Nat} (h : n + 1 < 2 ^ 11) : BitVec.ofNat 11 n ≠ -1#_ := by
  intro heq
  have heq := congrArg BitVec.toNat heq
  rw [toNat_biased h] at heq
  simp at heq
  omega

theorem below_pack {e : Int} {u : UnpackedFloat} (h : Low e u) (hlow : -1074 ≤ e)
    (hhigh : e ≤ 971) : Below 52 e (Float.Model.pack u).unpack := by
  have hbits : (Float.Model.pack u).unpack =
    UnpackedFloat.unpack .binary64 (UnpackedFloat.pack .binary64 u) := rfl
  rw [hbits]
  cases h with
  | zero =>
    delta UnpackedFloat.pack
    apply below_unpack _ _ hlow
    · simp [packedZero]
    · simp [packedZero]
      omega
  | @finite s m e' hm he =>
    delta UnpackedFloat.pack
    dsimp only
    split
    · next hbig =>
      simp only [Format.exponentBias] at hbig
      omega
    · next hbig =>
      have hbiased := Nat.not_le.1 hbig
      -- the exponent is stored with a bias, or it is the lowest
      split
      · apply below_unpack _ _ hlow
        · rw [unpackExponent_packComponents]
          exact biased_ne hbiased
        · rw [unpackExponent_packComponents]
          have hexponent := toNat_biased hbiased
          simp only [Format.exponentBias, Nat.reducePow, Nat.reduceSub] at hexponent ⊢
          omega
      · apply below_unpack _ _ hlow
        · simp
        · simp
          omega

theorem isFinite_pack {u : UnpackedFloat} (h : Low 971 u) :
    (Float.Model.pack u).isFinite = true :=
  (below_pack h (by decide) (by decide)).isFinite

theorem atLeast_unpack {e : Int} {b : BitVec (Format.numBits .binary64)}
    (hb : unpackExponent b ≠ -1#_) (h : e + 1023 ≤ (unpackExponent b).toNat)
    (hnormal : 0 < (unpackExponent b).toNat) : AtLeast e (UnpackedFloat.unpack .binary64 b) := by
  have hzero : unpackExponent b ≠ 0#_ := by
    intro hzero
    simp [hzero] at hnormal
  delta UnpackedFloat.unpack
  rw [if_neg hb, if_neg hzero]
  apply AtLeast.finite
  have hlog : 52 ≤ (1#1 ++ unpackMantissa b).toNat.log2 := by
    have hbit : 2 ^ 52 ≤ (1#1 ++ unpackMantissa b).toNat := by
      rw [BitVec.toNat_append]
      exact Nat.left_le_or
    exact (Nat.le_log2 (by omega)).2 hbit
  simp only [Format.exponentBias]
  omega

theorem unpack_packedInfinity (s : Sign) :
    UnpackedFloat.unpack .binary64 (packedInfinity .binary64 s) = .infinity s := by
  cases s <;> rfl

theorem atLeast_pack {e : Int} {u : UnpackedFloat} (h : Full e u) (hlow : -1074 ≤ e) :
    AtLeast (e + 52) (Float.Model.pack u).unpack := by
  have hbits : (Float.Model.pack u).unpack =
    UnpackedFloat.unpack .binary64 (UnpackedFloat.pack .binary64 u) := rfl
  rw [hbits]
  cases h with
  | @finite s m e' hm hsize he =>
    delta UnpackedFloat.pack
    dsimp only
    split
    · rw [unpack_packedInfinity]
      exact .infinity
    · next hbig =>
      have hbiased := Nat.not_le.1 hbig
      rw [if_pos (by rw [hsize]; rfl)]
      apply atLeast_unpack
      · rw [unpackExponent_packComponents]
        exact biased_ne hbiased
      · rw [unpackExponent_packComponents]
        have hexponent := toNat_biased hbiased
        simp only [Format.exponentBias, Nat.reducePow, Nat.reduceSub] at hexponent ⊢
        omega
      · rw [unpackExponent_packComponents]
        have hexponent := toNat_biased hbiased
        simp only [Format.exponentBias, Nat.reducePow, Nat.reduceSub] at hexponent ⊢
        omega

/-! ### Rounding -/

theorem roundToNearestEven_le (m : Nat) (a : Accuracy) : a.roundToNearestEven m ≤ m + 1 := by
  unfold Accuracy.roundToNearestEven
  split <;> omega

theorem le_roundToNearestEven (m : Nat) (a : Accuracy) : m ≤ a.roundToNearestEven m := by
  unfold Accuracy.roundToNearestEven
  split <;> omega

theorem mantissa_ofMantissaAndAccuracy (m : Nat) (a : Accuracy) :
    (ExtendedMantissa.ofMantissaAndAccuracy m a).mantissa = m := by
  unfold ExtendedMantissa.ofMantissaAndAccuracy
  split <;> rfl

theorem mantissa_shiftRight (em : ExtendedMantissa) (k : Nat) :
    (em >>> k).mantissa = em.mantissa / 2 ^ k := by
  induction k with
  | zero => exact (Nat.div_one _).symm
  | succ k ih =>
    have hstep : (em >>> (k + 1)).mantissa = (em >>> k).mantissa / 2 := rfl
    rw [hstep, ih, Nat.div_div_eq_div_mul, Nat.pow_succ]

theorem log2_roundedMantissa (m k : Nat) (a : Accuracy) :
    (ExtendedMantissa.ofMantissaAndAccuracy m a >>> k).roundedMantissa.log2 ≤ m.log2 - k + 1 := by
  have hround : (ExtendedMantissa.ofMantissaAndAccuracy m a >>> k).roundedMantissa ≤
      (ExtendedMantissa.ofMantissaAndAccuracy m a >>> k).mantissa + 1 :=
    roundToNearestEven_le _ _
  have hsucc := log2_succ_le (m / 2 ^ k)
  rw [mantissa_shiftRight, mantissa_ofMantissaAndAccuracy] at hround
  rw [log2_div_pow] at hsucc
  exact Nat.le_trans (log2_mono hround) hsucc

theorem le_log2_roundedMantissa (m k : Nat) (a : Accuracy) :
    m.log2 - k ≤ (ExtendedMantissa.ofMantissaAndAccuracy m a >>> k).roundedMantissa.log2 := by
  have hround : (ExtendedMantissa.ofMantissaAndAccuracy m a >>> k).mantissa ≤
      (ExtendedMantissa.ofMantissaAndAccuracy m a >>> k).roundedMantissa :=
    le_roundToNearestEven _ _
  rw [mantissa_shiftRight, mantissa_ofMantissaAndAccuracy] at hround
  rw [← log2_div_pow]
  exact log2_mono hround

theorem low_ofMantissa {s : Sign} {m : Nat} {e top : Int} (he : e ≤ top) :
    Low top (if hm : m = 0 then .zero s else .finite s m e (Nat.pos_of_ne_zero hm)) := by
  by_cases hm : m = 0
  · rw [dif_pos hm]
    exact .zero
  · rw [dif_neg hm]
    exact .finite he

/-- Rounding raises the exponent by one at most over what the number of bits asks for. -/
theorem low_roundWithAccuracy {s : Sign} {m : Nat} {e top : Int} {a : Accuracy}
    (he : e < top) (hsize : (m.log2 : Int) + 1 + e < top + 53) (hlow : -1074 < top) :
    Low top (roundWithAccuracy .binary64 s m e a) := by
  have hrounded := log2_roundedMantissa m
    (Format.targetExponent .binary64 (totalExponent m e) - e).toNat a
  delta roundWithAccuracy shiftToTargetExponent shiftToExponent
  apply low_ofMantissa
  revert hrounded
  generalize (ExtendedMantissa.ofMantissaAndAccuracy m a >>>
    (Format.targetExponent .binary64 (totalExponent m e) - e).toNat).roundedMantissa = r
  intro hrounded
  simp only [Format.targetExponent, totalExponent, mantissaBits_binary64, Format.minExponent]
    at hrounded ⊢
  omega

theorem full_ofMantissa {s : Sign} {m : Nat} {e bottom : Int} (hm : m.log2 = 52) (he : bottom ≤ e) :
    Full bottom (if hm : m = 0 then .zero s else .finite s m e (Nat.pos_of_ne_zero hm)) := by
  have hne : m ≠ 0 := by
    rintro rfl
    simp at hm
  rw [dif_neg hne]
  exact .finite hm he

theorem full_roundWithAccuracy {s : Sign} {m : Nat} {e bottom : Int} {a : Accuracy}
    (hlong : 52 ≤ m.log2) (hsize : bottom + 52 ≤ (m.log2 : Int) + e) (hlow : -1074 ≤ bottom) :
    Full bottom (roundWithAccuracy .binary64 s m e a) := by
  have hrounded := log2_roundedMantissa m
    (Format.targetExponent .binary64 (totalExponent m e) - e).toNat a
  have hbelow := le_log2_roundedMantissa m
    (Format.targetExponent .binary64 (totalExponent m e) - e).toNat a
  delta roundWithAccuracy shiftToTargetExponent shiftToExponent
  dsimp only
  apply full_ofMantissa
  · rw [mantissa_shiftRight, mantissa_ofMantissaAndAccuracy, log2_div_pow]
    revert hrounded hbelow
    generalize (ExtendedMantissa.ofMantissaAndAccuracy m a >>>
      (Format.targetExponent .binary64 (totalExponent m e) - e).toNat).roundedMantissa = r
    simp only [Format.targetExponent, totalExponent, mantissaBits_binary64, Format.minExponent]
    omega
  · simp only [Format.targetExponent, totalExponent, mantissaBits_binary64, Format.minExponent]
    omega

/-! ### Operations -/

theorem low_mul {a a' : Nat} {e e' top : Int} {u v : UnpackedFloat} (hu : Below a e u)
    (hv : Below a' e' v) (he : e + e' < top) (hsize : (a : Int) + a' + 2 + e + e' < top + 53)
    (hlow : -1074 < top) : Low top (mul .binary64 u v) := by
  cases hu with
  | zero => cases hv <;> exact .zero
  | @finite _ m _ _ _ _ =>
    cases hv with
    | zero => exact .zero
    | @finite _ m' _ _ _ _ =>
      have hmul := log2_mul_le m m'
      apply low_roundWithAccuracy
      · omega
      · omega
      · exact hlow

theorem low_div {e b top : Int} {u v : UnpackedFloat} (hu : Below 52 e u) (hv : AtLeast b v)
    (htop : e + 3 ≤ b + top) (hlow : -1074 < top) : Low top (div .binary64 u v) := by
  cases hv with
  | infinity => cases hu <;> exact .zero
  | @finite _ m' e' hm' hv =>
    cases hu with
    | zero => exact .zero
    | @finite _ m e hm hsize he =>
      have hquotient : ∀ k, ((m <<< k) / m').log2 ≤ m.log2 + k + 1 - m'.log2 := by
        intro k
        have hle : (m <<< k) / m' ≤ (m <<< k) / 2 ^ m'.log2 :=
          Nat.div_le_div_left (Nat.log2_self_le (Nat.ne_of_gt hm')) (Nat.two_pow_pos _)
        have hshift := log2_shiftLeft_le m k
        have hdivided := log2_mono hle
        rw [log2_div_pow] at hdivided
        omega
      delta div divCore
      dsimp only
      apply low_roundWithAccuracy
      · simp only [Format.targetExponent, totalExponent, mantissaBits_binary64, Format.minExponent]
        omega
      · have := hquotient (e - e' - min (e - e')
          (Format.targetExponent .binary64 (totalExponent m e - totalExponent m' e'))).toNat
        simp only [Format.targetExponent, totalExponent, mantissaBits_binary64, Format.minExponent]
          at this ⊢
        omega
      · exact hlow

theorem low_neg {a : Nat} {e : Int} {u : UnpackedFloat} (h : Below a e u) : Low e u.neg := by
  cases h with
  | zero => exact .zero
  | finite _ he => exact .finite he

theorem low_normalize {m : Nat} (hm : m < 2 ^ 64) :
    Low 13 (UnpackedFloat.normalize .binary64 m 0 .positive) := by
  have hsize : m.log2 ≤ 63 := log2_le_of_lt hm
  unfold UnpackedFloat.normalize
  split
  · next hneg =>
    rw [compare_lt_iff_lt] at hneg
    omega
  · exact .zero
  · simp only [UnpackedFloat.round, decreaseExponent, Int.toNat_natCast]
    generalize (0 - Format.targetExponent .binary64 (totalExponent m 0)).toNat = k
    have hshift := log2_shiftLeft_le m k
    apply low_roundWithAccuracy
    · omega
    · omega
    · decide

theorem low_ofScientific {m : Nat} (hm : m < 2 ^ 64) : Low 971 (ofScientific .binary64 m 0) := by
  delta ofScientific
  by_cases hzero : m = 0
  · rw [dif_pos hzero]
    exact .zero
  · rw [dif_neg hzero]
    have hhigh : ¬(0 : Int) > 2 ^ 11 := by decide
    have hlow : ¬(0 : Int) < -(2 ^ 11 + m.log2) := by omega
    rw [if_neg hhigh, if_neg hlow, if_pos (Int.le_refl 0)]
    have hsize : m.log2 ≤ 63 := log2_le_of_lt hm
    have hshift : (m <<< 53).log2 ≤ 117 := by
      have := log2_shiftLeft_le m 53
      omega
    have hone : (10 ^ Int.toNat 0).log2 ≤ 0 := by decide
    apply low_mul (.finite hshift (Int.le_refl _)) (.finite hone (Int.le_refl _))
    · decide
    · decide
    · decide

theorem atLeast_ofScientific {m : Nat} (hm : m ≠ 0) (k : Nat) :
    AtLeast 0 (Float.Model.ofScientific m k).unpack := by
  have hpack : Float.Model.ofScientific m k =
    Float.Model.pack (ofScientific .binary64 m k) := rfl
  rw [hpack]
  delta ofScientific
  rw [dif_neg hm]
  by_cases hhigh : (k : Int) > 2 ^ 11
  · rw [if_pos hhigh]
    exact .infinity
  · have hlow : ¬(k : Int) < -(2 ^ 11 + m.log2) := by omega
    rw [if_neg hhigh, if_neg hlow, if_pos (Int.natCast_nonneg k)]
    have hle : 2 ^ 53 ≤ m <<< 53 * 10 ^ (k : Int).toNat := by
      rw [Nat.shiftLeft_eq, Nat.mul_right_comm]
      exact Nat.le_mul_of_pos_left _ (Nat.mul_pos (Nat.pos_of_ne_zero hm) (Nat.pow_pos (by decide)))
    have hlong : 53 ≤ (m <<< 53 * 10 ^ (k : Int).toNat).log2 := (Nat.le_log2 (by omega)).2 hle
    have hfull : Full (-52) (mul .binary64
        (.finite .positive (m <<< 53) (-53) (by omega))
        (.finite .positive (10 ^ (k : Int).toNat) 0 (Nat.pow_pos (by decide)))) := by
      apply full_roundWithAccuracy (m := m <<< 53 * 10 ^ (k : Int).toNat)
      · omega
      · omega
      · decide
    exact atLeast_pack hfull (by decide)

theorem below_toFloat (n : UInt64) : Below 52 13 n.toFloat.toModel.unpack :=
  below_pack (low_normalize n.toNat_lt) (by decide) (by decide)

theorem isFinite_ofNat {n : Nat} (h : n < 2 ^ 64) : (Float.ofNat n).isFinite = true := by
  have hofNat : Float.ofNat n = Float.ofScientific n false 0 := rfl
  rw [hofNat]
  unfold Float.ofScientific
  split
  · -- the double of a small integer is taken times one
    have hone : Below 52 0 Float.exactlyRepresentablePowersOfTen[0].toModel.unpack := by
      have hunpack : Float.exactlyRepresentablePowersOfTen[0].toModel.unpack =
        .finite .positive (2 ^ 52) (-52) (by decide) := rfl
      rw [hunpack]
      exact .finite (by decide) (by decide)
    apply isFinite_pack
    exact low_mul (below_toFloat n.toUInt64) hone (by decide) (by decide) (by decide)
  · exact isFinite_pack (low_ofScientific h)

theorem isFinite_neg {x : Float} (h : x.isFinite = true) : x.neg.isFinite = true :=
  isFinite_pack (low_neg (below_toModel h))

theorem isFinite_ofInt {n : Int} (hlow : -2 ^ 63 ≤ n) (hhigh : n < 2 ^ 64) :
    (Float.ofInt n).isFinite = true := by
  cases n with
  | ofNat n =>
    apply isFinite_ofNat
    exact Int.ofNat_lt.1 hhigh
  | negSucc n =>
    apply isFinite_neg
    apply isFinite_ofNat
    omega

theorem atLeast_hundred : AtLeast 6 (100.0 : Float).toModel.unpack := by
  have hunpack : (100.0 : Float).toModel.unpack =
    .finite .positive (100 * 2 ^ 46) (-46) (by decide) := rfl
  rw [hunpack]
  exact .finite (by decide)

theorem isFinite_div_hundred {x : Float} (h : x.isFinite = true) :
    (x / 100.0).isFinite = true :=
  isFinite_pack (low_div (below_toModel h) atLeast_hundred (by decide) (by decide))

theorem isFinite_div {u v : UnpackedFloat} (hu : u.isFinite = false) (hv : v.isFinite = true) :
    (div .binary64 u v).isFinite = false := by
  delta div
  cases u with
  | finite => contradiction
  | zero => contradiction
  | notANumber => cases v <;> rfl
  | infinity => cases v <;> first | contradiction | rfl

theorem isFinite_pack_of_not_isFinite {u : UnpackedFloat} (hu : u.isFinite = false) :
    (Float.Model.pack u).isFinite = false := by
  cases u with
  | finite => contradiction
  | zero => contradiction
  | notANumber => rfl
  | infinity s => cases s <;> rfl

theorem isFinite_of_div_hundred {x : Float} (h : (x / 100.0).isFinite = true) :
    x.isFinite = true := by
  by_contra hx
  have hu : x.toModel.unpack.isFinite = false := Bool.eq_false_iff.2 hx
  have hv : (100.0 : Float).toModel.unpack.isFinite = true := rfl
  have hdiv : (x / 100.0).isFinite = false := isFinite_pack_of_not_isFinite (isFinite_div hu hv)
  exact Bool.false_ne_true (hdiv.symm.trans h)
end Vacancy.Decimal
