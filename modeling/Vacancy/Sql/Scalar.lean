import Vacancy.Failure
import Vacancy.Sql.Pattern

/-!
Functions of values. Null in an argument mostly gives null; numbers are taken by their text where
text is wanted, and texts by the number that they begin with where a number is wanted.
-/

namespace Vacancy.Sql

open Decimal

inductive Scalar where
  | absolute
  | characters
  | coalesce
  | concat
  | joined
  | glob
  | hex
  | ite
  | position
  | length
  | like
  | same
  | lower
  | greatest
  | least
  | nullIf
  | byteLength
  | quote
  | replace
  | round
  | sign
  | soundex
  | substring
  | trimStart
  | trimEnd
  | trim
  | typeName
  | codePoint
  | upper
  | version
  deriving DecidableEq

namespace Value

def textOf? (v : Value) : Option String :=
  match Value.toText v with
  | .text s => some s
  | _ => none

def toDouble : Value → Float
  | .null => 0.0
  | .integer n => Float.ofInt n.toInt
  | .real x => x
  | .text s => leadingNumber s

def clamped (n : Int) : Int :=
  max Int64.minValue.toInt (min n Int64.maxValue.toInt)

def toWhole : Value → Int
  | .null => 0
  | .integer n => n.toInt
  | .real x => if x.isNaN then 0 else clamped ((scaled x).tdiv (pow2 1074))
  | .text s =>
    let (negative, cs) := splitSign (s.toList.dropWhile isSpace)
    let n := natOfDigits (splitDigits cs).1
    clamped (if negative then -(n : Int) else n)

def toShort (v : Value) : Int :=
  (toWhole v).bmod (pow2 32)

end Value

namespace Scalar

def ofText (f : String → Value) (v : Value) : Value :=
  (Value.textOf? v).elim .null f

def number (n : Nat) : Value :=
  .integer (Int64.ofNat n)

def absoluteOf : Value → Value
  | .null => .null
  | .integer n => .integer (Int64.ofNat n.toInt.natAbs)
  | v => .real (if Value.toDouble v < 0 then -Value.toDouble v else Value.toDouble v)

/-- Numbers that are no code points stand for the replacement character. -/
def charactersOf (vs : List Value) : Value :=
  .text (String.ofList (vs.map fun v =>
    let n := Value.toWhole v
    if h : 0 ≤ n ∧ n.toNat.isValidChar then Char.ofNatAux n.toNat h.2 else '\ufffd'))

def firstKnown (vs : List Value) : Value :=
  (vs.find? (!·.isNull)).getD .null

def joinedBy (separator : String) (vs : List Value) : Value :=
  .text (separator.intercalate ((vs.filterMap Value.textOf?).filter (!·.isEmpty)))

def hexDigits (b : UInt8) : List Char :=
  [b.toNat / 16, b.toNat % 16].map fun n => (Nat.digitChar n).toUpper

def hexOf (v : Value) : Value :=
  .text (String.ofList (((Value.textOf? v).getD "").toUTF8.toList.flatMap hexDigits))

def positionOf (needle : List Char) : Nat → List Char → Nat
  | n, [] => if needle.isEmpty then n else 0
  | n, c :: cs => if needle.isPrefixOf (c :: cs) then n else positionOf needle (n + 1) cs

/-- Characters of a text up to its first zero byte, or bytes of a number's text. -/
def lengthOf : Value → Value
  | .null => .null
  | .text s => number (untilZero s).length
  | v => ofText (fun s => number s.utf8ByteSize) v

/-- The last of the least values, or the first of the greatest; null if any is null. -/
def extreme (better : SortKey → SortKey → Bool) (vs : List Value) : Value :=
  if vs.any Value.isNull then .null
  else
    match vs with
    | [] => .null
    | v :: vs => vs.foldl (fun best w => if better (.ofValue w) (.ofValue best) then w else best) v

def longLayout : Decimal.Layout :=
  { realLayout with low := 1, high := some 0, mantissaFraction := true }

/-- The double as a literal, in fifteen digits if they read back and else in all. -/
def quotedReal (x : Float) : String :=
  let short := realText x
  if leadingNumber short == x || !x.isFinite then
    if x.isFinite then short else if isNegative x then "-9.0e+999" else "9.0e+999"
  else
    let sign := if isNegative x then "-" else ""
    sign ++ String.ofList (longLayout.digits (magnitude x).leadingDigits.trimmed)

def quoteOf : Value → Value
  | .null => .text "NULL"
  | .integer n => .text (toString n.toInt)
  | .real x => .text (quotedReal x)
  | .text s => .text (quoteText (String.ofList (untilZero s)))

/-- Replaces from left to right; what has been put in is not looked at again. -/
def replaceAll (old new : List Char) : Nat → List Char → List Char
  | _, [] => []
  | skip + 1, _ :: cs => replaceAll old new skip cs
  | 0, c :: cs =>
    if old.isPrefixOf (c :: cs) then new ++ replaceAll old new (old.length - 1) cs
    else c :: replaceAll old new 0 cs

/-- If there is nothing to replace, what to replace it by does not matter. -/
def replaceOf (s old : String) (new : Option String) : Value :=
  if (untilZero old).isEmpty then .text s
  else
    new.elim .null fun new =>
      .text (String.ofList (replaceAll old.toList new.toList 0 s.toList))

def roundedTo (n : Nat) (x : Float) : Float :=
  if x == 0.0 then 0.0
  else
    let d := (magnitude x).leadingDigits.roundedAt (-(n : Int))
    Numeral.toFloatInSteps ⟨x < 0.0, d.c, d.k, false⟩

def roundOf (v : Value) (places : Int) : Value :=
  match v with
  | .null => .null
  | v =>
    let x := Value.toDouble v
    let places := (max 0 (min places 30)).toNat
    if x < -4503599627370496.0 || 4503599627370496.0 < x || x.isNaN then Value.bound (.real x)
    else if places = 0 then
      let shifted := x + (if x < 0.0 then -0.5 else 0.5)
      .real (Float.ofInt ((scaled shifted).tdiv (pow2 1074)))
    else .real (roundedTo places x)

def signOf (v : Value) : Value :=
  let ofDouble (x : Float) : Value := .integer (if x < 0.0 then -1 else if 0.0 < x then 1 else 0)
  match Value.toNumber v with
  | .integer n => .integer (if n < 0 then -1 else if 0 < n then 1 else 0)
  | .real x => ofDouble x
  | _ => .null

def soundexDigit (b : UInt8) : Nat :=
  let c := (Char.ofNat (b.toNat % 128)).toLower
  let groups := ["bfpv", "cgjkqsxz", "dt", "l", "mn", "r"]
  (groups.findIdx? fun s => s.toList.contains c).elim 0 (· + 1)

def soundexDigits : Nat → Nat → List UInt8 → List Nat
  | 0, _, _ | _, _, [] => []
  | n + 1, last, b :: bs =>
    let d := soundexDigit b
    if d = 0 then soundexDigits (n + 1) 0 bs
    else if d = last then soundexDigits (n + 1) last bs
    else d :: soundexDigits n d bs

def isLetter (b : UInt8) : Bool :=
  (Char.ofNat b.toNat).isAlpha

def soundexOf (v : Value) : Value :=
  let bytes := (String.ofList (untilZero ((Value.textOf? v).getD ""))).toUTF8.toList
  match bytes.dropWhile (!isLetter ·) with
  | [] => .text "?000"
  | b :: bs =>
    let ds := soundexDigits 3 (soundexDigit b) bs
    let digits := ds.map Nat.digitChar ++ List.replicate (3 - ds.length) '0'
    .text (String.ofList ((Char.ofNat b.toNat).toUpper :: digits))

/--
The characters from a place on, counted from one, or from the end if it is negative; as many as the
count says, or if it is negative, those in front of the place.
-/
def substringOf (start : Int) (count : Option Int) (s : String) : Value :=
  let cs := untilZero s
  let length : Int := cs.length
  let size : Int := (count.map fun n => (n.natAbs : Int)).getD 1000000000
  let first := if start < 0 then start + length else if 0 < start then start - 1 else 0
  let size :=
    if first < 0 then max 0 (size + first)
    else if start = 0 ∧ 0 < size then size - 1
    else size
  let first := max 0 first
  let (first, size) :=
    if count.any (· < 0) then
      if first < size then (0, first) else (first - size, size)
    else (first, size)
  .text (String.ofList ((cs.drop first.toNat).take size.toNat))

def trimmed (start last : Bool) (s cut : String) : String :=
  let cut := untilZero cut
  let cs := s.toList
  let cs := if start then cs.dropWhile cut.contains else cs
  let cs := if last then (cs.reverse.dropWhile cut.contains).reverse else cs
  String.ofList cs

def trimOf (start last : Bool) : List Value → Value
  | [v] => ofText (fun s => .text (trimmed start last s " ")) v
  | [v, w] => ofText (fun s => ofText (fun cut => .text (trimmed start last s cut)) w) v
  | _ => .null

def typeOf : Value → String
  | .null => "null"
  | .integer _ => "integer"
  | .real _ => "real"
  | .text _ => "text"

def codePointOf (s : String) : Value :=
  match seen s with
  | [] => .null
  | c :: _ => number c.toNat

def escape? (v : Value) : Option Char :=
  match (Value.textOf? v).map seen with
  | some [c] => some c
  | _ => none

def apply : Scalar → List Value → Value
  | .absolute, [v] => absoluteOf v
  | .characters, vs => charactersOf vs
  | .coalesce, vs => firstKnown vs
  | .concat, vs => joinedBy "" vs
  | .joined, v :: vs => ofText (joinedBy · vs) v
  | .glob, [p, v] => (matching Pattern.ofGlob v p).toValue
  | .hex, [v] => hexOf v
  | .ite, [c, v, w] => if Truth.ofValue c = some true then v else w
  | .position, [v, w] =>
    ofText (fun s => ofText (fun n => number (positionOf n.toList 1 s.toList)) w) v
  | .length, [v] => lengthOf v
  | .like, [p, v] => (Sql.like v p).toValue
  | .like, [p, v, e] =>
    ofText (fun _ => (matching (Pattern.ofLike (escape? e)) v p).toValue) e
  | .same, v :: _ => v
  | .lower, [v] => ofText (fun s => .text s.toLower) v
  | .greatest, vs => extreme (fun a b => b.lt a) vs
  | .least, vs => extreme (fun a b => !b.lt a) vs
  | .nullIf, [v, w] => if SortKey.ofValue v = .ofValue w then .null else v
  | .byteLength, [v] => ofText (fun s => number s.utf8ByteSize) v
  | .quote, [v] => quoteOf v
  | .replace, [v, old, new] =>
    ofText (fun s => ofText (fun old => replaceOf s old (Value.textOf? new)) old) v
  | .round, [v] => roundOf v 0
  | .round, [v, n] => if n.isNull then .null else roundOf v (Value.toWhole n)
  | .sign, [v] => signOf v
  | .soundex, [v] => soundexOf v
  | .substring, [v, start] =>
    if start.isNull then .null else ofText (substringOf (Value.toShort start) none) v
  | .substring, [v, start, count] =>
    if start.isNull || count.isNull then .null
    else ofText (substringOf (Value.toShort start) (some (Value.toShort count))) v
  | .trimStart, vs => trimOf true false vs
  | .trimEnd, vs => trimOf false true vs
  | .trim, vs => trimOf true true vs
  | .typeName, [v] => .text (typeOf v)
  | .codePoint, [v] => ofText codePointOf v
  | .upper, [v] => ofText (fun s => .text s.toUpper) v
  | .version, _ => .text "3.46.0"
  | _, _ => .null

def failure? : Scalar → List Value → Option SqlError
  | .absolute, [.integer n] => if n = Int64.minValue then some .overflow else none
  | .like, p :: _ :: e => longPattern? p <|> unclear? e
  | .glob, p :: _ => longPattern? p
  | _, _ => none
where
  longPattern? (p : Value) : Option SqlError :=
    if (Value.textOf? p).any (Pattern.sizeLimit < ·.utf8ByteSize) then some .longPattern else none
  unclear? : List Value → Option SqlError
    | [e] => if e.isNull || (escape? e).isSome then none else some .escape
    | _ => none

end Scalar

end Vacancy.Sql
