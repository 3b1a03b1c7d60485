import Vacancy.Toml.Basic
import Vacancy.Toml.Moment
import Vacancy.Toml.Number

/-!
Reading TOML text. Tables that are written as values may stretch over lines, also around an equals
sign, and end with a comma, as arrays do. Control characters other than tabs stand nowhere; a
carriage return only before a line feed.
-/

namespace Vacancy.Toml

/--
Arrays and tables that are written as values may be nested this deep, and keys have as many parts.
-/
def nestingLimit : Nat := 80

def isSpace (c : Char) : Bool :=
  c == ' ' || c == '\t'

def skipSpace (cs : List Char) : List Char :=
  cs.dropWhile isSpace

def isPlain (c : Char) : Bool :=
  c == '\t' || (0x20 ≤ c.toNat && c.toNat != 0x7F)

def newline? : List Char → Option (List Char)
  | '\n' :: cs => some cs
  | '\r' :: '\n' :: cs => some cs
  | _ => none

def skipLines : List Char → List Char
  | '\n' :: cs => skipLines cs
  | '\r' :: '\n' :: cs => skipLines cs
  | c :: cs => if isSpace c then skipLines cs else c :: cs
  | [] => []

/-- Skips spaces, ends of lines and comments; `comment` tells whether the text starts in one. -/
def skipFill (comment : Bool) : List Char → List Char
  | '\n' :: cs => skipFill false cs
  | '\r' :: '\n' :: cs => skipFill false cs
  | c :: cs =>
    if comment then if isPlain c then skipFill true cs else c :: cs
    else if isSpace c then skipFill false cs
    else if c = '#' then skipFill true cs
    else c :: cs
  | [] => []

def lineEnd? (cs : List Char) : Option (List Char) :=
  let cs :=
    match skipSpace cs with
    | '#' :: cs => cs.dropWhile isPlain
    | cs => cs
  if cs.isEmpty then some [] else newline? cs

/-! ### Strings -/

def codePoint? (n : Nat) (cs : List Char) : Option (Char × List Char) := do
  let ds := cs.take n
  if ds.length < n then none
  let v ← ds.foldlM (fun v d => (Json.hexDigit? d).map (16 * v + ·)) 0
  if v.isValidChar then return (Char.ofNat v, cs.drop n) else none

def escape? : List Char → Option (Char × List Char)
  | '"' :: cs => some ('"', cs)
  | '\\' :: cs => some ('\\', cs)
  | 'b' :: cs => some ('\x08', cs)
  | 'e' :: cs => some ('\x1B', cs)
  | 'f' :: cs => some ('\x0C', cs)
  | 'n' :: cs => some ('\n', cs)
  | 'r' :: cs => some ('\r', cs)
  | 't' :: cs => some ('\t', cs)
  | 'x' :: cs => codePoint? 2 cs
  | 'u' :: cs => codePoint? 4 cs
  | 'U' :: cs => codePoint? 8 cs
  | _ => none

structure Quoting where
  /-- Between double quotes there are escapes, between single ones there are none. -/
  quote : Char
  /-- Between three quotes a string may stretch over lines. -/
  triple : Bool

namespace Quoting

def escapes (q : Quoting) : Bool :=
  q.quote == '"'

/-- The text after the closing quotes, and the quotes before them that belong to the string. -/
def close? (q : Quoting) (cs : List Char) : Option (List Char × List Char) :=
  let run := cs.takeWhile (· == q.quote)
  if q.triple then
    if run.length < 3 then none
    else
      let extra := min (run.length - 3) 2
      some (run.take extra, cs.drop (extra + 3))
  else if run.isEmpty then none
  else some ([], cs.drop 1)

def line? (q : Quoting) (cs : List Char) : Option (List Char × List Char) :=
  match q.triple, cs with
  | true, '\n' :: cs => some (['\n'], cs)
  | true, '\r' :: '\n' :: cs => some (['\r', '\n'], cs)
  | _, _ => none

def escaped? (q : Quoting) (cs : List Char) : Option (List Char × List Char) :=
  match escape? cs with
  | some (c, cs) => some ([c], cs)
  | none => if q.triple then (newline? (skipSpace cs)).map fun cs => ([], skipLines cs) else none

def piece? (q : Quoting) (cs : List Char) : Option (List Char × List Char) :=
  match q.line? cs with
  | some r => some r
  | none =>
    match cs with
    | [] => none
    | c :: cs =>
      if q.escapes && c == '\\' then q.escaped? cs
      else if isPlain c then some ([c], cs)
      else none

def string? (q : Quoting) : Nat → List Char → Option (List Char × List Char)
  | 0, _ => none
  | fuel + 1, cs =>
    match q.close? cs with
    | some r => some r
    | none => do
      let (cs, rest) ← q.piece? cs
      let (ds, rest) ← q.string? fuel rest
      return (cs ++ ds, rest)

end Quoting

def string? (quote : Char) (cs : List Char) : Option (String × List Char) := do
  let (s, rest) ← Quoting.string? ⟨quote, false⟩ (cs.length + 1) cs
  return (String.ofList s, rest)

def lines? (quote : Char) (cs : List Char) : Option (String × List Char) := do
  let (s, rest) ← Quoting.string? ⟨quote, true⟩ (cs.length + 1) ((newline? cs).getD cs)
  return (String.ofList s, rest)

/-! ### Keys -/

def isBare (c : Char) : Bool :=
  c.isAlphanum || c == '_' || c == '-'

def key? : List Char → Option (String × List Char)
  | '"' :: cs => string? '"' cs
  | '\x27' :: cs => string? '\x27' cs
  | cs =>
    let name := cs.takeWhile isBare
    if name.isEmpty then none else some (String.ofList name, cs.dropWhile isBare)

def parts? : Nat → List Char → Option (Path × List Char)
  | 0, _ => none
  | limit + 1, cs => do
    let (k, rest) ← key? (skipSpace cs)
    match skipSpace rest with
    | '.' :: rest =>
      let (p, rest) ← parts? limit rest
      return (⟨k :: p.parents, p.name⟩, rest)
    | rest => return (⟨[], k⟩, rest)

def path? (cs : List Char) : Option (Path × List Char) :=
  parts? nestingLimit cs

/-! ### Values -/

def isWord (c : Char) : Bool :=
  c.isAlphanum || c == '_' || c == '+' || c == '-' || c == '.' || c == ':'

def ofWord? (cs : List Char) : Option Toml :=
  if cs = ['t', 'r', 'u', 'e'] then some (.bool true)
  else if cs = ['f', 'a', 'l', 's', 'e'] then some (.bool false)
  else if Moment.isMoment cs then some (.moment (String.ofList cs))
  else
    match Number.integer? cs with
    | some n => some (n.elim .noValue .integer)
    | none => (Number.real? cs).map fun x => x.elim .noValue .real

/-- A word; a space between a date and a digit is part of one. -/
def splitWord (cs : List Char) : List Char × List Char :=
  let word := cs.takeWhile isWord
  match cs.dropWhile isWord with
  | ' ' :: d :: rest =>
    if d.isDigit && Moment.isDate word then
      (word ++ ' ' :: (d :: rest).takeWhile isWord, (d :: rest).dropWhile isWord)
    else (word, ' ' :: d :: rest)
  | rest => (word, rest)

mutual

def value? (levels : Nat) : Nat → List Char → Option (Toml × List Char)
  | 0, _ => none
  | fuel + 1, cs =>
    match cs with
    | '"' :: '"' :: '"' :: rest => (lines? '"' rest).map fun (s, rest) => (.text s, rest)
    | '"' :: rest => (string? '"' rest).map fun (s, rest) => (.text s, rest)
    | '\x27' :: '\x27' :: '\x27' :: rest =>
      (lines? '\x27' rest).map fun (s, rest) => (.text s, rest)
    | '\x27' :: rest => (string? '\x27' rest).map fun (s, rest) => (.text s, rest)
    | '[' :: rest =>
      if levels = 0 then none
      else (items? (levels - 1) fuel rest).map fun (vs, rest) => (.array false vs, rest)
    | '\x7b' :: rest => do
      if levels = 0 then none
      let (ps, rest) ← assignments? (levels - 1) fuel rest
      return (← ofAssignments? ps, rest)
    | cs =>
      let (word, rest) := splitWord cs
      (ofWord? word).map fun v => (v, rest)
termination_by structural fuel => fuel

def items? (levels : Nat) : Nat → List Char → Option (List Toml × List Char)
  | 0, _ => none
  | fuel + 1, cs =>
    match skipFill false cs with
    | ']' :: rest => some ([], rest)
    | cs => do
      let (v, rest) ← value? levels fuel cs
      match skipFill false rest with
      | ',' :: rest =>
        let (vs, rest) ← items? levels fuel rest
        return (v :: vs, rest)
      | ']' :: rest => return ([v], rest)
      | _ => none
termination_by structural fuel => fuel

def assignments? (levels : Nat) : Nat → List Char → Option (List (Path × Toml) × List Char)
  | 0, _ => none
  | fuel + 1, cs =>
    match skipFill false cs with
    | '\x7d' :: rest => some ([], rest)
    | cs => do
      let (p, rest) ← assignment? (skipFill false) levels fuel cs
      match skipFill false rest with
      | ',' :: rest =>
        let (ps, rest) ← assignments? levels fuel rest
        return (p :: ps, rest)
      | '\x7d' :: rest => return ([p], rest)
      | _ => none
termination_by structural fuel => fuel

def assignment? (skip : List Char → List Char) (levels : Nat) :
    Nat → List Char → Option ((Path × Toml) × List Char)
  | 0, _ => none
  | fuel + 1, cs => do
    let (p, rest) ← path? cs
    match skip rest with
    | '=' :: rest =>
      let (v, rest) ← value? levels fuel (skip rest)
      return ((p, v), rest)
    | _ => none
termination_by structural fuel => fuel

end

/-! ### Documents -/

def statement? : List Char → Option (Statement × List Char)
  | '[' :: '[' :: cs => do
    let (p, rest) ← path? cs
    match rest with
    | ']' :: ']' :: rest => return (.element p, rest)
    | _ => none
  | '[' :: cs => do
    let (p, rest) ← path? cs
    match rest with
    | ']' :: rest => return (.table p, rest)
    | _ => none
  | cs => do
    let ((p, v), rest) ← assignment? skipSpace nestingLimit (cs.length + 2) cs
    return (.assignment p v, rest)

def statements? : Nat → List Char → Option (List Statement)
  | 0, _ => none
  | fuel + 1, cs =>
    match skipFill false cs with
    | [] => some []
    | cs => do
      let (s, rest) ← statement? cs
      return s :: (← statements? fuel (← lineEnd? rest))

/-- The document that a text writes; a byte order mark may stand before it. -/
def read? (s : String) : Option Toml := do
  let cs :=
    match s.toList with
    | '\uFEFF' :: cs => cs
    | cs => cs
  ofStatements? (← statements? (cs.length + 1) cs)

end Vacancy.Toml
