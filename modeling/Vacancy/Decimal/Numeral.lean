import Vacancy.Decimal.Word

/-!
Reading decimal numerals: a sign, digits with or without a point among them, and an exponent.
-/

namespace Vacancy.Decimal

/-- `± c · 10 ^ k` -/
structure Numeral where
  negative : Bool
  c : Nat
  k : Int
  /-- Neither a point nor an exponent was written. -/
  plain : Bool

def natOfDigits (ds : List Char) : Nat :=
  ds.foldl (fun n d => 10 * n + (d.toNat - '0'.toNat)) 0

def splitSign : List Char → Bool × List Char
  | '-' :: cs => (true, cs)
  | '+' :: cs => (false, cs)
  | cs => (false, cs)

def splitDigits (cs : List Char) : List Char × List Char :=
  (cs.takeWhile Char.isDigit, cs.dropWhile Char.isDigit)

def splitExponent (cs : List Char) : Option Int × List Char :=
  match cs with
  | e :: rest =>
    if e = 'e' ∨ e = 'E' then
      let (negative, rest) := splitSign rest
      let (ds, rest) := splitDigits rest
      if ds.isEmpty then (none, cs)
      else (some (if negative then -(natOfDigits ds : Int) else natOfDigits ds), rest)
    else (none, cs)
  | [] => (none, cs)

def scan? (cs : List Char) : Option (Numeral × List Char) :=
  let (negative, rest) := splitSign cs
  let (whole, rest) := splitDigits rest
  let (point, part, rest) :=
    match rest with
    | '.' :: rest => (true, splitDigits rest)
    | _ => (false, [], rest)
  if whole.isEmpty && part.isEmpty then none
  else
    let (exponent, rest) := splitExponent rest
    let k := exponent.getD 0 - part.length
    some (⟨negative, natOfDigits (whole ++ part), k, !point && exponent.isNone⟩, rest)

namespace Numeral

/--
The double nearest to the numeral. Sizes that no double comes near are settled first, so that powers
of ten stay small.
-/
def toFloat (n : Numeral) : Float :=
  let size :=
    if n.c = 0 then 0
    else
      let p := (n.c.log2 : Int) * 30103 / 100000 + n.k
      if 400 < p then 1.0 / 0.0
      else if p < -400 then 0
      else Float.ofScientific n.c (n.k < 0) n.k.natAbs
  if n.negative then -size else size

def toInt (n : Numeral) : Int :=
  if n.negative then -(n.c : Int) else n.c

end Numeral

def readInt64? (s : String) : Option Int64 :=
  let (negative, ds) := splitSign s.toList
  if ds.isEmpty || !ds.all Char.isDigit then none
  else int64? (if negative then -(natOfDigits ds : Int) else natOfDigits ds)

def readUInt64? (s : String) : Option UInt64 :=
  let (negative, ds) := splitSign s.toList
  if negative || ds.isEmpty || !ds.all Char.isDigit then none else uint64? (natOfDigits ds)

def readFloat? (s : String) : Option Float :=
  let (negative, rest) := splitSign s.toList
  let name := String.ofList (rest.map Char.toLower)
  if name = "inf" ∨ name = "infinity" then some (if negative then -1.0 / 0.0 else 1.0 / 0.0)
  else if name = "nan" then some (0.0 / 0.0)
  else
    match scan? s.toList with
    | some (n, []) => some n.toFloat
    | _ => none

def readFinite? (s : String) : Option Float :=
  (readFloat? s).filter Float.isFinite

end Vacancy.Decimal
