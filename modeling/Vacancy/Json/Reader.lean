import Vacancy.Json.Number
import Vacancy.Json.Wanted

/-!
Reading JSON text. In what is read nesting is limited, numbers outside the range of doubles are
refused, and so is an escape that names half of a surrogate pair.
-/

namespace Vacancy.Json

open Decimal

def nestingLimit : Nat := 127

def skipSpace (cs : List Char) : List Char :=
  cs.dropWhile fun c => c == ' ' || c == '\n' || c == '\r' || c == '\t'

def after? (word : String) (cs : List Char) : Option (List Char) :=
  if word.toList.isPrefixOf cs then some (cs.drop word.length) else none

def hexDigit? (c : Char) : Option Nat :=
  if c.isDigit then some (c.toNat - '0'.toNat)
  else if 'a' ≤ c ∧ c ≤ 'f' then some (c.toNat - 'a'.toNat + 10)
  else if 'A' ≤ c ∧ c ≤ 'F' then some (c.toNat - 'A'.toNat + 10)
  else none

def hexUnit? : List Char → Option (Nat × List Char)
  | a :: b :: c :: d :: rest => do
    let a ← hexDigit? a
    let b ← hexDigit? b
    let c ← hexDigit? c
    let d ← hexDigit? d
    return (((a * 16 + b) * 16 + c) * 16 + d, rest)
  | _ => none

/--
The character of a `\u` escape, whose `\u` has been read; a pair of surrogates takes two. What is
skipped may hold any code.
-/
def unicodeEscape? (skip : Bool) (cs : List Char) : Option (Char × List Char) := do
  let (high, rest) ← hexUnit? cs
  if skip ∨ high < 0xD800 ∨ 0xDFFF < high then return (Char.ofNat high, rest)
  else if 0xDC00 ≤ high then none
  else
    let rest ← after? "\\u" rest
    let (low, rest) ← hexUnit? rest
    if low < 0xDC00 ∨ 0xDFFF < low then none
    else return (Char.ofNat (0x10000 + (high - 0xD800) * 0x400 + (low - 0xDC00)), rest)

def escape? (skip : Bool) : List Char → Option (Char × List Char)
  | '"' :: rest => some ('"', rest)
  | '\\' :: rest => some ('\\', rest)
  | '/' :: rest => some ('/', rest)
  | 'b' :: rest => some ('\x08', rest)
  | 'f' :: rest => some ('\x0C', rest)
  | 'n' :: rest => some ('\n', rest)
  | 'r' :: rest => some ('\r', rest)
  | 't' :: rest => some ('\t', rest)
  | 'u' :: rest => unicodeEscape? skip rest
  | _ => none

/-- The characters up to the closing quote; `done` holds those read so far, the last one first. -/
def chars? (skip : Bool) (done : List Char) : Nat → List Char → Option (String × List Char)
  | 0, _ => none
  | fuel + 1, cs =>
    match cs with
    | [] => none
    | '"' :: rest => some (String.ofList done.reverse, rest)
    | '\\' :: rest =>
      match escape? skip rest with
      | some (c, rest) => chars? skip (c :: done) fuel rest
      | none => none
    | c :: rest => if c.toNat < 0x20 then none else chars? skip (c :: done) fuel rest

def string? (skip : Bool) (cs : List Char) : Option (String × List Char) :=
  chars? skip [] (cs.length + 1) cs

def fraction? : List Char → Option (List Char × List Char)
  | '.' :: rest =>
    let (ds, rest) := splitDigits rest
    if ds.isEmpty then none else some (ds, rest)
  | rest => some ([], rest)

def exponent? (cs : List Char) : Option (Option Int × List Char) :=
  match splitExponent cs with
  | (some e, rest) => some (some e, rest)
  | (none, c :: rest) => if c = 'e' ∨ c = 'E' then none else some (none, c :: rest)
  | (none, []) => some (none, [])

/-- A number. What is skipped may be beyond all doubles. -/
def number? (skip : Bool) (cs : List Char) : Option (Json × List Char) := do
  let (negative, cs) := match cs with
    | '-' :: cs => (true, cs)
    | _ => (false, cs)
  let (whole, rest) := splitDigits cs
  if whole.isEmpty ∨ (whole.head? = some '0' ∧ 1 < whole.length) then none
  let (part, rest) ← fraction? rest
  let (exponent, rest) ← exponent? rest
  let n : Int := if negative then -(natOfDigits whole : Int) else natOfDigits whole
  let plain := part.isEmpty && exponent.isNone
  let negativeZero := negative && n == 0
  if plain && !negativeZero && Int64.minValue.toInt ≤ n && n < UInt64.size then
    return (.int n, rest)
  else
    match double? negative whole part (exponent.getD 0) with
    | some x => return (.real x, rest)
    | none => if skip then return (.null, rest) else none

mutual

def value? (w : Wanted) (levels : Nat) : Nat → List Char → Option (Json × List Char)
  | 0, _ => none
  | fuel + 1, cs =>
    let tooDeep := levels == 0 && !w.isNothing
    match skipSpace cs with
    | '"' :: rest => (string? w.isNothing rest).map fun (s, rest) => (.text s, rest)
    | '[' :: rest =>
      if tooDeep then none
      else
        match skipSpace rest with
        | ']' :: rest => some (.array [], rest)
        | rest => (items? w 0 (levels - 1) fuel rest).map fun (js, rest) => (.array js, rest)
    | '\x7b' :: rest =>
      if tooDeep then none
      else
        match skipSpace rest with
        | '\x7d' :: rest => some (.object [], rest)
        | rest => (members? w (levels - 1) fuel rest).map fun (ms, rest) => (.object ms, rest)
    | 'n' :: rest => (after? "ull" rest).map fun rest => (.null, rest)
    | 't' :: rest => (after? "rue" rest).map fun rest => (.bool true, rest)
    | 'f' :: rest => (after? "alse" rest).map fun rest => (.bool false, rest)
    | rest => number? w.isNothing rest
termination_by structural fuel => fuel

def items? (w : Wanted) (i levels : Nat) : Nat → List Char → Option (List Json × List Char)
  | 0, _ => none
  | fuel + 1, cs => do
    let (j, rest) ← value? (w.item i) levels fuel cs
    match skipSpace rest with
    | ',' :: rest =>
      let (js, rest) ← items? w (i + 1) levels fuel rest
      return (j :: js, rest)
    | ']' :: rest => return ([j], rest)
    | _ => none
termination_by structural fuel => fuel

def members? (w : Wanted) (levels : Nat) :
    Nat → List Char → Option (List (String × Json) × List Char)
  | 0, _ => none
  | fuel + 1, cs => do
    let quote ← after? "\"" (skipSpace cs)
    let (k, rest) ← string? w.isNothing quote
    let colon ← after? ":" (skipSpace rest)
    let (v, rest) ← value? (w.member k) levels fuel colon
    let kept := if (w.member k).isNothing then [] else [(k, v)]
    match skipSpace rest with
    | ',' :: rest =>
      let (ms, rest) ← members? w levels fuel rest
      return (kept ++ ms, rest)
    | '\x7d' :: rest => return (kept, rest)
    | _ => none
termination_by structural fuel => fuel

end

def readPart? (w : Wanted) (s : String) : Option Json := do
  let cs := s.toList
  let (j, rest) ← value? w nestingLimit (cs.length + 1) cs
  if (skipSpace rest).isEmpty then return j else none

def read? (s : String) : Option Json :=
  readPart? .all s

end Vacancy.Json
