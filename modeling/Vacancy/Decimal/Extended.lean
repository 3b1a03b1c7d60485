import Vacancy.Decimal.Numeral
import Vacancy.Decimal.Shortest

/-!
Numbers with 64 significant bits, on the way between decimals and doubles: a power of ten is reached
in steps, and each product is rounded to 64 bits. That is quick and mostly exact; but the double of
a numeral need not be the nearest one, and the last digits of a double need not be its own.
-/

namespace Vacancy.Decimal

def nearestQuotient (n d : Nat) : Nat :=
  if d < 2 * (n % d) ∨ (2 * (n % d) = d ∧ n / d % 2 = 1) then n / d + 1 else n / d

namespace Dyadic

def unitsOf (v : Dyadic) (q : Int) : Nat :=
  nearestQuotient (v.m * pow2 (v.q - q).toNat) (pow2 (q - v.q).toNat)

def rounded (bits : Nat) (v : Dyadic) : Dyadic :=
  let q := v.q + (v.m.log2 + 1 - bits : Nat)
  ⟨v.unitsOf q, q⟩

def times (v w : Dyadic) : Dyadic :=
  rounded 64 ⟨v.m * w.m, v.q + w.q⟩

/-- The power of ten. In a negative one the last of far more bits stands for all after it. -/
def tenTo (k : Int) : Dyadic :=
  if 0 ≤ k then rounded 64 ⟨pow10 k.toNat, 0⟩
  else
    let n := 128 + 4 * k.natAbs
    rounded 64 ⟨2 * (pow2 n / pow10 k.natAbs) + 1, -(n : Int) - 1⟩

def shifted (v : Dyadic) (k : Int) : Dyadic :=
  let power (n : Nat) : Dyadic := tenTo (if k < 0 then -n else n)
  let n := k.natAbs
  let v := Nat.repeat (·.times (power 100)) (n / 100) v
  let v := Nat.repeat (·.times (power 10)) (n % 100 / 10) v
  Nat.repeat (·.times (power 1)) (n % 10) v

def lt (v w : Dyadic) : Bool :=
  let q := min v.q w.q
  v.m * pow2 (v.q - q).toNat < w.m * pow2 (w.q - q).toNat

def largest : Dyadic :=
  ⟨pow2 53 - 1, 971⟩

def toFloat (v : Dyadic) : Float :=
  if v.m = 0 then 0.0
  else if largest.lt v then 1.0 / 0.0
  else
    let q := max (-1074) (v.q + v.m.log2 - 52)
    .ofBits (UInt64.ofNat (v.unitsOf q + (q + 1074).toNat * pow2 52))

def shiftWhile (test : Dyadic → Bool) (k : Int) (v : Dyadic × Int) : Dyadic × Int :=
  Nat.repeat (fun (v, n) => if test v then (v.times (tenTo k), n - k) else (v, n)) 12 v

def leadingDigits (v : Dyadic) : Digits :=
  let below (k : Int) (v : Dyadic) : Bool := v.lt (tenTo k)
  let (w, k) :=
    if below 19 v then
      shiftWhile (below 17) 1 (shiftWhile (below 7) 10 (shiftWhile (below (-97)) 100 (v, 0)))
    else
      shiftWhile (!below 19 ·) (-1)
        (shiftWhile (!below 29 ·) (-10) (shiftWhile (!below 119 ·) (-100) (v, 0)))
  ⟨w.m * pow2 w.q.toNat / pow2 (-w.q).toNat, k⟩

end Dyadic

namespace Digits

def count (d : Digits) : Nat :=
  (Nat.toDigits 10 d.c).length

/-- Cut off after the place of `10 ^ k`; a digit from five on that follows it counts as one more. -/
def roundedAt (k : Int) (d : Digits) : Digits :=
  if k ≤ d.k then d
  else
    let n := (k - d.k).toNat
    ⟨(d.c + 5 * pow10 (n - 1)) / pow10 n, k⟩

def significant (n : Nat) (d : Digits) : Digits :=
  (d.roundedAt (d.k + d.count - n)).trimmed

/-- One step towards the exponent zero, if `c` stays an integer of 64 bits. -/
def settle (d : Digits) : Digits :=
  if 0 < d.k ∧ d.c < (pow2 64 - 1) / 10 then ⟨10 * d.c, d.k - 1⟩
  else if d.k < 0 ∧ d.c % 10 = 0 then ⟨d.c / 10, d.k + 1⟩
  else d

end Digits

namespace Numeral

def leadingDigits (n : Numeral) : Digits :=
  let size := (⟨n.c, 0⟩ : Dyadic).decimalExponent.toNat
  let left := if n.c / pow10 (size - 19) < (pow2 64 - 10) / 10 then size - 20 else size - 19
  ⟨n.c / pow10 left, n.k + left⟩

def toFloatInSteps (n : Numeral) : Float :=
  let size :=
    if n.c = 0 then 0.0
    else
      let d := Nat.repeat Digits.settle 20 n.leadingDigits
      if 400 < d.k then 1.0 / 0.0
      else if d.k < -400 then 0.0
      else ((⟨d.c, 0⟩ : Dyadic).shifted d.k).toFloat
  if n.negative then -size else size

end Numeral

end Vacancy.Decimal
