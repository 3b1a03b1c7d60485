import Vacancy.Decimal.Power

/-!
Doubles as exact numbers. A finite double is `± m · 2 ^ q` with `q ≥ -1074`, so that `2 ^ 1074`
times its value is an integer; comparing these integers compares the numbers, across integers and
doubles.
-/

namespace Vacancy.Decimal

/-- `m · 2 ^ q` -/
structure Dyadic where
  m : Nat
  q : Int

def isNegative (x : Float) : Bool :=
  pow2 63 ≤ x.toBits.toNat

def exponentField (x : Float) : Nat :=
  x.toBits.toNat / pow2 52 % pow2 11

def fractionField (x : Float) : Nat :=
  x.toBits.toNat % pow2 52

def magnitude (x : Float) : Dyadic :=
  match exponentField x with
  | 0 => ⟨fractionField x, -1074⟩
  | e + 1 => ⟨pow2 52 + fractionField x, (e : Int) - 1074⟩

/--
`2 ^ 1074` times the value of `x`. The infinities lie beyond all finite doubles, and a NaN, which is
never stored or compared, counts as zero.
-/
def scaled (x : Float) : Int :=
  let size : Nat :=
    if x.isNaN then 0
    else if !x.isFinite then pow2 2100
    else
      match exponentField x with
      | 0 => fractionField x
      | e + 1 => (pow2 52 + fractionField x) * pow2 e
  if isNegative x then -(size : Int) else size

def scaledInt (n : Int) : Int :=
  n * pow2 1074

def integral? (x : Float) : Option Int :=
  if x.isFinite ∧ scaled x % pow2 1074 = 0 then some (scaled x / pow2 1074) else none

theorem scaledInt_lt {a b : Int} : scaledInt a < scaledInt b ↔ a < b := by
  have := pow2_pos 1074
  exact Int.mul_lt_mul_right (by omega)

end Vacancy.Decimal
