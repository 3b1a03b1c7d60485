import Mathlib.Algebra.Group.Nat.Defs
import Mathlib.Data.List.Perm.Subperm
import Vacancy.Database

/-!
The rows of a table of detail, as queries see them: each has the cells of the schema, its id is an
integer, and it is of a run just if the number of the run stands in it.
-/

namespace Vacancy

open Sql

namespace Row

def run? (r : Row) : Option Int64 :=
  (r.get? runColumn).bind Value.toInt64?

def isAfter (cursor : Option Int64) (r : Row) : Bool :=
  cursor.all (· < Table.key r)

end Row

namespace Table

variable {g : Grain}

theorem Holds.id?_eq {r : Row} (h : Holds g r) : r.id? = some (key r) := by
  obtain ⟨i, hi⟩ := Option.isSome_iff_exists.1 h.id
  simp [key, hi]

theorem Holds.get?_id {r : Row} (h : Holds g r) : r.get? idColumn = some (.integer (key r)) := by
  have hid := h.id?_eq
  unfold Row.id? at hid
  obtain ⟨v, hv, hi⟩ := Option.bind_eq_some_iff.1 hid
  rw [hv]
  cases v <;> simp_all [Value.toInt64?]

theorem Holds.zip_values {r : Row} (h : Holds g r) :
    ⟨(g.schema.map (·.1)).zip r.values⟩ = r := by
  obtain ⟨f, rfl⟩ := h.cells
  simp only [kept, Row.values, List.map_map]
  congr 1
  rw [List.zip_map', Function.comp_def]

theorem holds_kept {given : Row} {id : Int64}
    (hrun : ((kept g (valueFor given id)).get? runColumn).any (!·.isNull) = true) :
    Holds g (kept g (valueFor given id)) :=
  ⟨⟨_, rfl⟩, by simp [id?_kept], hrun⟩

theorem eval_id {r : Row} (h : Holds g r) (fs : Fields) :
    Expr.eval fs (.single r) (.column idColumn) = .integer (key r) := by
  simp [Expr.eval, Group.single, h.get?_id]

end Table

namespace Sql.SortKey

theorem lt_integer (i j : Int64) :
    lt (.ofValue (.integer i)) (.ofValue (.integer j)) = decide (i < j) := by
  simp only [ofValue, lt, Decimal.scaledInt_lt, Int64.lt_iff_toInt_lt]

end Sql.SortKey

namespace Sql

open Decimal

theorem scaledInt_inj {a b : Int} : scaledInt a = scaledInt b ↔ a = b := by
  have := @scaledInt_lt a b
  have := @scaledInt_lt b a
  constructor
  · intro h
    omega
  · intro h
    rw [h]

theorem pow2_mul_pow2 (m n : Nat) : pow2 m * pow2 n = pow2 (m + n) :=
  (Nat.pow_add 2 m n).symm

theorem pow2_le_pow2 {m n : Nat} (h : m ≤ n) : pow2 m ≤ pow2 n :=
  Nat.pow_le_pow_right (by decide) h

theorem scaledInt_lt_infinity (i : Int64) : scaledInt i.toInt < pow2 2100 := by
  have hle : pow2 63 * pow2 1074 ≤ pow2 2100 := by
    rw [pow2_mul_pow2]
    exact pow2_le_pow2 (by decide)
  have h : scaledInt i.toInt < scaledInt (pow2 63) := scaledInt_lt.2 i.toInt_lt
  rw [scaledInt, scaledInt, ← Int.natCast_mul] at h
  rw [scaledInt]
  exact Int.lt_of_lt_of_le h (Int.ofNat_le.2 hle)

theorem scaled_of_not_isFinite {x : Float} (h : x.isFinite = false) :
    scaled x ≤ 0 ∨ scaled x = pow2 2100 := by
  have hsize : 0 ≤ (pow2 2100 : Int) := Int.natCast_nonneg _
  by_cases hnan : x.isNaN = true
  · left
    simp only [scaled, hnan, if_true]
    split
    · exact Int.le_refl 0
    · exact Int.le_refl 0
  · by_cases hnegative : isNegative x = true
    · left
      simp only [scaled, hnan, h, hnegative, Bool.not_false, if_true, Bool.false_eq_true, if_false]
      omega
    · right
      simp only [scaled, hnan, h, hnegative, Bool.not_false, if_true, Bool.false_eq_true, if_false]

theorem integral?_of_scaled_eq {x : Float} {i : Int64} (hi : 0 < i)
    (h : scaled x = scaledInt i.toInt) : integral? x = some i.toInt := by
  have hpow := pow2_pos 1074
  have hpos : scaledInt 0 < scaledInt i.toInt := scaledInt_lt.2 (Int64.lt_iff_toInt_lt.1 hi)
  rw [scaledInt, Int.zero_mul] at hpos
  cases hx : x.isFinite with
  | false =>
    have := scaledInt_lt_infinity i
    have := scaled_of_not_isFinite hx
    omega
  | true =>
    simp only [integral?, hx, h, scaledInt, Int.mul_emod_left, and_self, if_true]
    rw [Int.mul_ediv_cancel _ (by omega)]

theorem numberOf_ne_text (n : Numeral) (s : String) : numberOf n ≠ .text s := by
  unfold numberOf
  split <;> simp

theorem toNumber_eq_text {v : Value} {s : String} (h : Value.toNumber v = .text s) :
    Value.toNumber (.text s) = .text s := by
  cases v with
  | text t =>
    cases hw : wholeNumber? t with
    | none =>
      simp only [Value.toNumber, hw, Option.getD_none, Value.text.injEq] at h
      simp [Value.toNumber, ← h, hw]
    | some w =>
      simp only [Value.toNumber, hw, Option.getD_some] at h
      subst h
      unfold wholeNumber? at hw
      split at hw
      · split at hw
        · exact absurd (Option.some.inj hw) (numberOf_ne_text _ _)
        · simp at hw
      · simp at hw
  | _ => simp [Value.toNumber] at h

theorem tighten_eq_text {v : Value} {s : String} (h : Value.tighten v = .text s) :
    v = .text s := by
  unfold Value.tighten at h
  split at h
  · split at h
    · split at h <;> simp at h
    · simp at h
  · exact h

theorem tighten_ne_real {x : Float} {i : Int64} (hi : 0 < i) (hx : integral? x = some i.toInt)
    (v : Value) : Value.tighten v ≠ .real x := by
  have hmin : Int64.minValue.toInt < i.toInt := by
    have := Int64.lt_iff_toInt_lt.1 hi
    simp only [Int64.toInt_zero] at this
    simp only [Int64.toInt_minValue]
    omega
  have hmax : i.toInt ≤ Int64.maxValue.toInt := by
    have := i.toInt_lt
    simp only [Int64.toInt_maxValue]
    omega
  intro h
  unfold Value.tighten at h
  split at h
  · next y =>
    split at h
    · next n hn =>
      split at h
      · simp at h
      · next hrange =>
        simp only [Value.real.injEq] at h
        subst h
        rw [hx, Option.some.injEq] at hn
        subst hn
        exact hrange ⟨hmin, hmax⟩
    · next hn =>
      simp only [Value.real.injEq] at h
      subst h
      rw [hx] at hn
      simp at hn
  · next hreal => exact hreal x h

theorem compare_stored_integer {v : Value} {i : Int64} (hi : 0 < i) :
    Operator.eq.compare .number (Affinity.integer.store v) (.integer i) = some true ↔
      Affinity.integer.store v = .integer i := by
  cases hv : Affinity.integer.store v with
  | null => simp [Operator.compare, Conversion.apply, Value.toNumber, Value.isNull]
  | integer n =>
    simp only [Operator.compare, Conversion.apply, Value.toNumber, Value.isNull, Bool.or_self,
      Bool.false_eq_true, if_false, Option.some.injEq, Operator.holds, SortKey.ofValue, beq_iff_eq,
      SortKey.number.injEq, scaledInt_inj, Int64.toInt_inj, Value.integer.injEq]
  | text s =>
    -- a text that the column keeps is none that reads as a number
    have := toNumber_eq_text (tighten_eq_text hv)
    simp only [Operator.compare, Conversion.apply, this]
    simp [Value.toNumber, Value.isNull, Operator.holds, SortKey.ofValue]
  | real x =>
    simp only [Operator.compare, Conversion.apply, Value.toNumber, Value.isNull, Bool.or_self,
      Bool.false_eq_true, if_false, Option.some.injEq, Operator.holds, SortKey.ofValue, beq_iff_eq,
      SortKey.number.injEq, reduceCtorEq, iff_false]
    -- a double that equals the integer would have been stored as the integer
    intro h
    exact tighten_ne_real hi (integral?_of_scaled_eq hi h) _ hv

end Sql

namespace Table

variable {g : Grain}

theorem eval_integer_column (op : Operator) (hop : op ≠ .and) {fs : Fields} {name : String}
    (haffinity : fs.affinity? name = some .integer) (r : Row) (i : Int64) :
    Truth.ofValue (Expr.eval fs (.single r) (.binary op (.column name) (.integer i))) =
      op.compare .number ((r.get? name).getD .null) (.integer i) := by
  have hconversion :
      Conversion.ofAffinities ((Expr.column name).affinity fs) ((Expr.integer i).affinity fs) =
        .number := by
    simp [Expr.affinity, Expr.integer, haffinity, Conversion.ofAffinities, Affinity.isNumeric]
  cases op
  all_goals simp_all [Expr.eval, Group.single, Literal.toValue, Expr.integer]

theorem get?_kept {name : String} {a : Affinity} (h : g.schema.affinity? name = some a)
    (f : String → Value) : (kept g f).get? name = some (a.store (f name)) := by
  obtain ⟨p, hp, rfl⟩ := Option.map_eq_some_iff.1 h
  have hname : p.1 = name := by simpa using List.find?_some hp
  rw [Row.get?, kept, List.find?_map]
  simp only [Function.comp_def, hp, Option.map_some, hname]

theorem affinity?_id : g.schema.affinity? idColumn = some .integer := by
  simp [Fields.affinity?, Grain.schema]

theorem affinity?_run : g.schema.affinity? runColumn = some .integer := by
  simp [Fields.affinity?, Grain.schema, idColumn, runColumn]

theorem admits_run {r : Row} (h : Holds g r) {run : Int64} (hrun : 0 < run) :
    Expr.admits g.schema (.binary .eq (.column runColumn) (.integer run)) r =
      decide (r.run? = some run) := by
  obtain ⟨f, rfl⟩ := h.cells
  rw [Bool.eq_iff_iff, decide_eq_true_iff]
  simp only [Expr.admits, Expr.isTrue, decide_eq_true_iff]
  rw [eval_integer_column .eq (by decide) affinity?_run, get?_run_kept, Option.getD_some,
    compare_stored_integer hrun, Row.run?, get?_run_kept, Option.bind_some]
  cases Affinity.integer.store (f runColumn) <;> simp [Value.toInt64?]

theorem admits_after {r : Row} (h : Holds g r) (id : Int64) :
    Expr.admits g.schema (.binary .gt (.column idColumn) (.integer id)) r =
      decide (id < key r) := by
  simp only [Expr.admits, Expr.isTrue]
  rw [eval_integer_column .gt (by decide) affinity?_id, h.get?_id, Option.getD_some]
  simp [Operator.compare, Conversion.apply, Value.toNumber, Value.isNull, Operator.holds,
    SortKey.lt_integer]

theorem nodup_ids (t : Table g) : t.ids.Nodup := by
  apply List.pairwise_map.2
  apply t.ascending.imp
  intro a b hab he
  rw [he] at hab
  exact Int64.lt_irrefl hab

theorem nodup_rows (t : Table g) : t.rows.Nodup :=
  List.Pairwise.of_map key (fun _ _ hne he => hne (congrArg key he)) t.nodup_ids

theorem length_rows_le {t u : Table g} (h : ∀ s ∈ t.rows, s ∈ u.rows) :
    t.rows.length ≤ u.rows.length :=
  (t.nodup_rows.subperm h).length_le

end Table

end Vacancy
