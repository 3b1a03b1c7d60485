import Vacancy.Decimal.Shortest

/-!
How decimal digits are written: where positional notation ends, and what belongs to the other one.
-/

namespace Vacancy.Decimal

/--
Positional notation is used while `low < p ≤ high`, with `p` the place of the decimal point in front
of which the digits begin; a missing `high` stands for no limit on either side.
-/
structure Layout where
  low : Int
  high : Option Int
  /-- `.0` is written after an integer. -/
  fraction : Bool
  /-- `.0` is written after the only digit before an exponent. -/
  mantissaFraction : Bool
  /-- A positive exponent has a sign. -/
  plus : Bool
  exponentWidth : Nat

namespace Layout

def isPositional (l : Layout) (p : Int) : Bool :=
  match l.high with
  | none => true
  | some high => l.low < p && p ≤ high

def zeros (n : Nat) : List Char :=
  List.replicate n '0'

def positional (l : Layout) (ds : List Char) (k : Int) : List Char :=
  let p := ds.length + k
  if 0 ≤ k then ds ++ zeros k.toNat ++ (if l.fraction then ['.', '0'] else [])
  else if 0 < p then ds.take p.toNat ++ '.' :: ds.drop p.toNat
  else '0' :: '.' :: zeros (-p).toNat ++ ds

def exponent (l : Layout) (e : Int) : List Char :=
  let ds := Nat.toDigits 10 e.natAbs
  let sign := if e < 0 then ['-'] else if l.plus then ['+'] else []
  sign ++ zeros (l.exponentWidth - ds.length) ++ ds

def scientific (l : Layout) (ds : List Char) (k : Int) : List Char :=
  let fraction :=
    if ds.length = 1 then (if l.mantissaFraction then ['.', '0'] else []) else '.' :: ds.drop 1
  ds.take 1 ++ fraction ++ 'e' :: l.exponent (ds.length + k - 1)

def digits (l : Layout) (d : Digits) : List Char :=
  let ds := Nat.toDigits 10 d.c
  if d.c = 0 then l.positional ds 0
  else if l.isPositional (ds.length + d.k) then l.positional ds d.k
  else l.scientific ds d.k

def float (l : Layout) (x : Float) : String :=
  if x.isNaN then "NaN"
  else
    let size := if x.isFinite then String.ofList (l.digits (shortest (magnitude x))) else "inf"
    if isNegative x then "-" ++ size else size

end Layout

end Vacancy.Decimal
