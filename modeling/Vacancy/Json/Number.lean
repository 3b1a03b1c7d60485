import Vacancy.Decimal.Numeral

/-!
How the double of a number is found. Its digits are taken up into a word of 64 bits while they fit,
and what they spell is multiplied or divided by a power of ten, in doubles. That is quick; the
result need not be the nearest double when there are more than fifteen digits or a long exponent.
-/

namespace Vacancy.Json

open Decimal

/-- Takes up digits after `c` until one does not fit; that one and all after it are left. -/
def takeUp (c : Nat) : List Char → Nat × List Char
  | [] => (c, [])
  | d :: ds =>
    let next := 10 * c + (d.toNat - '0'.toNat)
    if next < UInt64.size then takeUp next ds else (c, d :: ds)

def largestExponent : Nat := 308

def powerOfTen (k : Nat) : Float :=
  Float.ofScientific 1 false k

def shifted? (x : Float) (k : Int) : Option Float :=
  if 0 ≤ k then
    if k ≤ largestExponent then some (x * powerOfTen k.toNat) |>.filter Float.isFinite
    else if x == 0.0 then some x
    else none
  else if -k ≤ largestExponent then some (x / powerOfTen k.natAbs)
  else if -k ≤ 2 * largestExponent then
    some (x / powerOfTen largestExponent / powerOfTen (k.natAbs - largestExponent))
  else some 0.0

/--
The double of `whole.part` times ten to the `exponent`. Digits of the whole part that are not taken
up count as zeros, and those of the fraction do not count.
-/
def double? (negative : Bool) (whole part : List Char) (exponent : Int) : Option Float :=
  let (c, uncounted) := takeUp 0 whole
  let (c, dropped) := takeUp c part
  let k := exponent + uncounted.length - (part.length - dropped.length : Nat)
  (shifted? (UInt64.ofNat c).toFloat k).map fun x => if negative then -x else x

end Vacancy.Json
