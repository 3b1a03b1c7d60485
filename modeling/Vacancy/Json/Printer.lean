import Vacancy.Decimal.Layout
import Vacancy.Json.Basic
import Vacancy.Text.Quoted

/-!
Writing JSON text, on one line or with one item a line.
-/

namespace Vacancy.Json

/--
Numbers without a fraction keep `.0`; from `10 ^ 16` on, and below `10 ^ -5`, an exponent is used.
-/
def layout : Decimal.Layout where
  low := -5
  high := some 16
  fraction := true
  mantissaFraction := false
  plus := true
  exponentWidth := 1

def escapedChar (c : Char) : String :=
  match c with
  | '"' => "\\\""
  | '\\' => "\\\\"
  | '\x08' => "\\b"
  | '\x0C' => "\\f"
  | '\n' => "\\n"
  | '\r' => "\\r"
  | '\t' => "\\t"
  | c =>
    if c.toNat < 0x20 then
      let digits := Text.hex c.toNat
      "\\u" ++ String.ofList (List.replicate (4 - digits.length) '0') ++ digits
    else c.toString

def printText (s : String) : String :=
  "\"" ++ String.join (s.toList.map escapedChar) ++ "\""

def printReal (x : Float) : String :=
  if x.isFinite then layout.float x else "null"

mutual

def compact : Json → String
  | .null => "null"
  | .bool b => if b then "true" else "false"
  | .int n => toString n
  | .real x => printReal x
  | .text s => printText s
  | .array items => "[" ++ ",".intercalate (compactItems items) ++ "]"
  | .object members => "\x7b" ++ ",".intercalate (compactMembers members) ++ "\x7d"

def compactItems : List Json → List String
  | [] => []
  | j :: js => compact j :: compactItems js

def compactMembers : List (String × Json) → List String
  | [] => []
  | (k, v) :: ms => (printText k ++ ":" ++ compact v) :: compactMembers ms

end

def indentation (depth : Nat) : String :=
  "\n" ++ String.ofList (List.replicate (2 * depth) ' ')

def block (depth : Nat) (left right : String) (entries : List String) : String :=
  if entries.isEmpty then left ++ right
  else
    let inner := indentation (depth + 1)
    left ++ inner ++ ("," ++ inner).intercalate entries ++ indentation depth ++ right

mutual

def prettyAt (depth : Nat) : Json → String
  | .array items => block depth "[" "]" (prettyItems (depth + 1) items)
  | .object members => block depth "\x7b" "\x7d" (prettyMembers (depth + 1) members)
  | .null => "null"
  | .bool b => if b then "true" else "false"
  | .int n => toString n
  | .real x => printReal x
  | .text s => printText s

def prettyItems (depth : Nat) : List Json → List String
  | [] => []
  | j :: js => prettyAt depth j :: prettyItems depth js

def prettyMembers (depth : Nat) : List (String × Json) → List String
  | [] => []
  | (k, v) :: ms => (printText k ++ ": " ++ prettyAt depth v) :: prettyMembers depth ms

end

def pretty (j : Json) : String :=
  prettyAt 0 j

end Vacancy.Json
