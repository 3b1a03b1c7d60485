import Vacancy.Decimal.Extended
import Vacancy.Text.Order
import Vacancy.Value

/-!
How a database stores and compares values. A column has an affinity: what is stored in it is
converted where it can be, and what is compared with it is converted first. Numbers are compared
exactly, below all texts; texts are compared character by character.
-/

namespace Vacancy.Sql

open Decimal

inductive Affinity where
  | none
  | text
  | integer
  | real
  deriving DecidableEq

def Affinity.isNumeric : Affinity → Bool
  | .integer | .real => true
  | _ => false

def realLayout : Layout where
  low := -4
  high := some 15
  fraction := true
  mantissaFraction := true
  plus := true
  exponentWidth := 2

def realText (x : Float) : String :=
  if x == 0.0 then "0.0"
  else
    let digits := (magnitude x).leadingDigits.significant 15
    let size := if x.isFinite then String.ofList (realLayout.digits digits) else "Inf"
    if x < 0.0 then "-" ++ size else size

def isSpace (c : Char) : Bool :=
  c == ' ' || (9 ≤ c.toNat && c.toNat ≤ 13)

def numberOf (n : Numeral) : Value :=
  match if n.plain then int64? n.toInt else none with
  | some i => .integer i
  | none => .real n.toFloatInSteps

def wholeNumber? (s : String) : Option Value :=
  match scan? (s.toList.dropWhile isSpace) with
  | some (n, rest) => if rest.all isSpace then some (numberOf n) else none
  | none => none

/-- The number that the text starts with, or zero, with a sign if that stands there alone. -/
def leadingNumber (s : String) : Float :=
  let cs := s.toList.dropWhile isSpace
  match scan? cs with
  | some (n, _) => n.toFloatInSteps
  | none => if (splitSign cs).1 then -0.0 else 0.0

namespace Value

def toNumber : Value → Value
  | .text s => (wholeNumber? s).getD (.text s)
  | v => v

def toText : Value → Value
  | .integer n => .text (toString n.toInt)
  | .real x => .text (realText x)
  | v => v

/-- A double without a fraction becomes an integer if it fits one. -/
def tighten : Value → Value
  | .real x =>
    match integral? x with
    | some n =>
      if Int64.minValue.toInt < n ∧ n ≤ Int64.maxValue.toInt then .integer (Int64.ofInt n)
      else .real x
    | none => .real x
  | v => v

def widen : Value → Value
  | .integer n => .real (Float.ofInt n.toInt)
  | .real x => .real (if scaled x = 0 then 0.0 else x)
  | v => v

/-- A value as a parameter of a statement. There is no parameter that is a NaN. -/
def bound : Value → Value
  | .real x => if x.isNaN then .null else .real x
  | v => v

end Value

def Affinity.store (a : Affinity) (v : Value) : Value :=
  let v := Value.bound v
  match a with
  | .none => v
  | .text => Value.toText v
  | .integer => Value.tighten (Value.toNumber v)
  | .real => Value.widen (Value.toNumber v)

inductive SortKey where
  | null
  | number (scaled : Int)
  | text (s : String)
  deriving DecidableEq

namespace SortKey

def ofValue : Value → SortKey
  | .null => .null
  | .integer n => .number (scaledInt n.toInt)
  | .real x => .number (scaled x)
  | .text s => .text s

def lt : SortKey → SortKey → Bool
  | .null, .null => false
  | .null, _ => true
  | _, .null => false
  | .number a, .number b => a < b
  | .number _, .text _ => true
  | .text _, .number _ => false
  | .text s, .text t => Text.before s.toList t.toList

theorem lt_irrefl (a : SortKey) : lt a a = false := by
  cases a <;> simp [lt, Text.before_irrefl]

theorem lt_asymm {a b : SortKey} (h : lt a b = true) : lt b a = false := by
  cases a <;> cases b <;> simp_all [lt]
  · omega
  · exact Text.before_asymm h

theorem lt_trans {a b c : SortKey} (h₁ : lt a b = true) (h₂ : lt b c = true) : lt a c = true := by
  cases a <;> cases b <;> cases c <;> simp_all [lt]
  · omega
  · exact Text.before_trans h₁ h₂

theorem lt_or_eq_or_lt (a b : SortKey) : lt a b = true ∨ a = b ∨ lt b a = true := by
  cases a <;> cases b <;> simp [lt]
  · omega
  · rename_i s t
    have h := Text.before_or_eq_or_before s.toList t.toList
    rwa [String.toList_inj] at h

end SortKey

inductive Conversion where
  | none
  | number
  | text
  deriving DecidableEq

namespace Conversion

/--
Of two columns, one of numbers turns the other side into numbers. A column compared with anything
else turns that into its own kind.
-/
def ofAffinities (a b : Affinity) : Conversion :=
  if a.isNumeric || b.isNumeric then .number
  else
    match a, b with
    | .text, .none | .none, .text => .text
    | _, _ => .none

def isText : Value → Bool
  | .text _ => true
  | _ => false

def apply (c : Conversion) (v w : Value) : Value × Value :=
  match c with
  | .none => (v, w)
  | .number => (Value.toNumber v, Value.toNumber w)
  | .text => if isText v || isText w then (Value.toText v, Value.toText w) else (v, w)

end Conversion

end Vacancy.Sql
