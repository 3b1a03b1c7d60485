import Vacancy.Decimal.Exact

/-!
Decimal digits of a double: the fewest that read back as the same double. They are looked for on
grids of decimals `c · 10 ^ k`. On one grid the two points next to the value are the only
candidates: if any point of the grid reads back, one of these does.
-/

namespace Vacancy.Decimal

/-- `c · 10 ^ k` -/
structure Digits where
  c : Nat
  k : Int

namespace Dyadic

/-- `a · 10 ^ k` over the common denominator of `v` and `10 ^ k`. -/
def onGrid (v : Dyadic) (k : Int) (a : Nat) : Nat :=
  a * pow10 k.toNat * pow2 (-v.q).toNat

def onScale (v : Dyadic) (k : Int) (a : Nat) : Nat :=
  a * pow2 v.q.toNat * pow10 (-k).toNat

def decimalExponent (v : Dyadic) : Int :=
  let guess := ((v.m.log2 : Int) + v.q) * 30103 / 100000
  if v.onScale guess v.m < v.onGrid guess 1 then guess
  else if v.onScale (guess + 1) v.m < v.onGrid (guess + 1) 1 then guess + 1
  else guess + 2

def floorOn (v : Dyadic) (k : Int) : Nat :=
  v.onScale k v.m / v.onGrid k 1

end Dyadic

/-- The four times finer scale, on which the ends of the interval that reads back as `v` lie. -/
def quartered (v : Dyadic) : Dyadic :=
  ⟨4 * v.m, v.q - 2⟩

def gapBelow (v : Dyadic) : Nat :=
  if v.m = pow2 52 ∧ v.q ≠ -1074 then 1 else 2

/-- Whether `c · 10 ^ k` reads back as `v`; the ends of the interval do if the mantissa is even. -/
def readsBack (v : Dyadic) (k : Int) (c : Nat) : Bool :=
  let fine := quartered v
  let point := fine.onGrid k c
  let low := fine.onScale k (fine.m - gapBelow v)
  let high := fine.onScale k (fine.m + 2)
  if v.m % 2 = 0 then low ≤ point && point ≤ high else low < point && point < high

def nearer (v : Dyadic) (k : Int) (c : Nat) : Nat :=
  let twice := 2 * v.onScale k v.m
  let middle := v.onGrid k (2 * c + 1)
  if twice < middle then c
  else if middle < twice then c + 1
  else if c % 2 = 0 then c
  else c + 1

def shortestOn (v : Dyadic) (k : Int) : Option Digits :=
  let c := v.floorOn k
  match readsBack v k c, readsBack v k (c + 1) with
  | true, true => some ⟨nearer v k c, k⟩
  | true, false => some ⟨c, k⟩
  | false, true => some ⟨c + 1, k⟩
  | false, false => none

def Digits.trimmed (d : Digits) : Digits :=
  go 400 d.c d.k
where
  go : Nat → Nat → Int → Digits
    | 0, c, k => ⟨c, k⟩
    | fuel + 1, c, k => if c ≠ 0 ∧ c % 10 = 0 then go fuel (c / 10) (k + 1) else ⟨c, k⟩

/--
The fewest digits that read back as `v`, the nearest to it of that length. A grid point above `v`
may be a power of ten, hence the trimming.
-/
def shortest (v : Dyadic) : Digits :=
  if v.m = 0 then ⟨0, 0⟩
  else
    let e := v.decimalExponent
    let found := (List.range 17).findSome? fun (n : Nat) => shortestOn v (e - (n + 1))
    (found.getD ⟨v.floorOn (e - 17), e - 17⟩).trimmed

end Vacancy.Decimal
