import Vacancy.Decimal.Numeral
import Vacancy.Decimal.Power
import Vacancy.Json.Reader

/-!
Numbers as TOML writes them: an underscore may stand between two digits, zeros do not lead, and
integers without a sign may have another base than ten. A number may be well written and still have
no value, because it is too large or has a base and no digits.
-/

namespace Vacancy.Toml.Number

open Decimal

def digits? (isDigit : Char → Bool) : List Char → Option (List Char)
  | [] => none
  | [c] => if isDigit c then some [c] else none
  | c :: '_' :: cs => if isDigit c then (digits? isDigit cs).map (c :: ·) else none
  | c :: cs => if isDigit c then (digits? isDigit cs).map (c :: ·) else none

def inBase? (base : Nat) (cs : List Char) : Option Nat := do
  let digit? (c : Char) : Option Nat := (Json.hexDigit? c).filter (· < base)
  let ds ← digits? (fun c => (digit? c).isSome) cs
  return ds.foldl (fun n c => base * n + (digit? c).getD 0) 0

/-- Decimal digits of which the first is a zero only if it is the only one. -/
def whole? (cs : List Char) : Option (List Char) := do
  let ds ← digits? Char.isDigit cs
  if ds.head? = some '0' ∧ 1 < ds.length then none else return ds

/-- Integers have at most 128 bits. -/
def bounded? (n : Int) : Option Int :=
  if -(pow2 127 : Int) ≤ n ∧ n < pow2 128 then some n else none

def based? (base : Nat) (cs : List Char) : Option (Option Int) :=
  if cs.isEmpty then some none else (inBase? base cs).map fun n => bounded? n

def integer? : List Char → Option (Option Int)
  | '0' :: 'x' :: cs => based? 16 cs
  | '0' :: 'o' :: cs => based? 8 cs
  | '0' :: 'b' :: cs => based? 2 cs
  | cs => do
    let (negative, cs) := splitSign cs
    let n := natOfDigits (← whole? cs)
    return bounded? (if negative then -n else n)

def isMark (c : Char) : Bool :=
  c == '.' || c == 'e' || c == 'E'

def fraction? : List Char → Option (List Char)
  | [] => some []
  | '.' :: cs => digits? Char.isDigit cs
  | _ => none

def exponent? : List Char → Option Int
  | [] => some 0
  | e :: cs => do
    if e ≠ 'e' ∧ e ≠ 'E' then none
    let (negative, cs) := splitSign cs
    let n := natOfDigits (← digits? Char.isDigit cs)
    return if negative then -n else n

def numeral? (negative : Bool) (cs : List Char) : Option (Option Float) := do
  if !cs.any isMark then none
  let isExponent (c : Char) : Bool := c == 'e' || c == 'E'
  let significand := cs.takeWhile (!isExponent ·)
  let whole ← whole? (significand.takeWhile (· ≠ '.'))
  let part ← fraction? (significand.dropWhile (· ≠ '.'))
  let exponent ← exponent? (cs.dropWhile (!isExponent ·))
  let digits := natOfDigits (whole ++ part)
  let x := (⟨negative, digits, exponent - part.length, false⟩ : Numeral).toFloat
  return if x.isFinite then some x else none

def real? (cs : List Char) : Option (Option Float) :=
  let (negative, cs) := splitSign cs
  if cs = ['i', 'n', 'f'] then some (some (if negative then -1.0 / 0.0 else 1.0 / 0.0))
  else if cs = ['n', 'a', 'n'] then some (some (0.0 / 0.0))
  else numeral? negative cs

end Vacancy.Toml.Number
