import Vacancy.Sql.Logic

/-!
Patterns of texts. A pattern is a row of stretches, each of which tests one character after the
other; between two stretches there may be any text. It is enough to look for each stretch where it
comes first, as long as the last one is looked for at the end.

In `LIKE`, `%` stands for any text and `_` for one character, and ASCII letters match in either
case. In `GLOB` these are `*` and `?`, letters match as they are, and brackets hold a set of
characters. Neither sees all of a text: it ends at its first zero byte, and two code points that are
no characters are taken for the replacement character.
-/

namespace Vacancy.Sql

abbrev Stretch := List (Char → Bool)

structure Pattern where
  first : Stretch
  /-- The stretches after the first, each with any text in front of it. -/
  others : List Stretch := []

namespace Stretch

def after? : Stretch → List Char → Option (List Char)
  | [], s => some s
  | test :: tests, c :: cs => if test c then after? tests cs else none
  | _ :: _, [] => none

def find? (p : Stretch) : List Char → Option (List Char)
  | [] => p.after? []
  | c :: cs =>
    match p.after? (c :: cs) with
    | some rest => some rest
    | none => find? p cs

def isAll (p : Stretch) (s : List Char) : Bool :=
  p.after? s matches some []

def isEnd (p : Stretch) (s : List Char) : Bool :=
  p.length ≤ s.length && p.isAll (s.drop (s.length - p.length))

end Stretch

namespace Pattern

def anywhere : List Stretch → List Char → Bool
  | [], _ => true
  | [p], s => p.isEnd s
  | p :: q :: ps, s =>
    match p.find? s with
    | some rest => anywhere (q :: ps) rest
    | none => false

def holds (p : Pattern) (s : List Char) : Bool :=
  if p.others.isEmpty then p.first.isAll s
  else
    match p.first.after? s with
    | some rest => anywhere p.others rest
    | none => false

def test (f : Char → Bool) (p : Pattern) : Pattern :=
  { p with first := f :: p.first }

def gap (p : Pattern) : Pattern :=
  ⟨[], p.first :: p.others⟩

def broken : Pattern :=
  ⟨[fun _ => false], []⟩

def sameLetter (c d : Char) : Bool :=
  c.toLower == d.toLower

def ofLike (escape : Option Char) : List Char → Pattern
  | [] => ⟨[], []⟩
  | c :: cs =>
    if escape = some c then
      match cs with
      | [] => broken
      | d :: ds => (ofLike escape ds).test (sameLetter d)
    else if c = '%' then (ofLike escape cs).gap
    else if c = '_' then (ofLike escape cs).test fun _ => true
    else (ofLike escape cs).test (sameLetter c)

def ranges? : List Char → Option (List (Char × Char) × List Char)
  | [] => none
  | ']' :: cs => some ([], cs)
  | a :: '-' :: ']' :: cs => some ([(a, a), ('-', '-')], cs)
  | a :: '-' :: b :: cs => (ranges? cs).map fun (rs, rest) => ((a, b) :: rs, rest)
  | a :: cs => (ranges? cs).map fun (rs, rest) => ((a, a) :: rs, rest)

/-- A bracket that comes first in a set belongs to it. -/
def set? (cs : List Char) : Option ((Char → Bool) × List Char) :=
  let (negated, cs) := match cs with
    | '^' :: cs => (true, cs)
    | _ => (false, cs)
  let (first, cs) := match cs with
    | ']' :: cs => ([(']', ']')], cs)
    | _ => ([], cs)
  (ranges? cs).map fun (rs, rest) =>
    (fun c => (first ++ rs).any (fun (a, b) => a ≤ c && c ≤ b) != negated, rest)

/-- Every step takes a character at least, so the length of the text is fuel enough. -/
def ofGlobWith : Nat → List Char → Pattern
  | _, [] | 0, _ => ⟨[], []⟩
  | fuel + 1, c :: cs =>
    if c = '*' then (ofGlobWith fuel cs).gap
    else if c = '?' then (ofGlobWith fuel cs).test fun _ => true
    else if c = '[' then
      match set? cs with
      | some (f, rest) => (ofGlobWith fuel rest).test f
      | none => broken
    else (ofGlobWith fuel cs).test (· == c)

def ofGlob (cs : List Char) : Pattern :=
  ofGlobWith cs.length cs

def sizeLimit : Nat := 50000

end Pattern

def untilZero (s : String) : List Char :=
  s.toList.takeWhile (· ≠ '\x00')

/-- The last two code points of the first plane are no characters. -/
def seenAs (c : Char) : Char :=
  if c = '\ufffe' ∨ c = '\uffff' then '\ufffd' else c

def seen (s : String) : List Char :=
  (untilZero s).map seenAs

def matching (pattern : List Char → Pattern) (v p : Value) : Truth :=
  match Value.toText v, Value.toText p with
  | .text s, .text p => some ((pattern (seen p)).holds (seen s))
  | _, _ => none

/-- A number matches by its text, and null is unknown. -/
def like (v pattern : Value) : Truth :=
  matching (Pattern.ofLike none) v pattern

end Vacancy.Sql
