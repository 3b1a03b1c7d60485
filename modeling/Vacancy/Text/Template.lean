import Vacancy.Text.Alphanumeric

/-!
Texts with references to variables: `$name`, where the name goes on as long as there are letters,
digits and underscores, or a name in braces, which goes on to the closing brace or to the end. A
dollar sign without a name stands for itself, and the braces around no name are dropped.
-/

namespace Vacancy.Text

inductive Piece where
  | char (c : Char)
  | reference (name : String)
  deriving DecidableEq

def Piece.name? : Piece → Option String
  | .char _ => none
  | .reference name => some name

namespace Template

def isName (c : Char) : Bool :=
  isAlphanumeric c || c == '_'

def dollar (name : List Char) : Piece :=
  if name.isEmpty then .char '$' else .reference (String.ofList name)

theorem length_dropWhile_le (p : Char → Bool) (cs : List Char) :
    (cs.dropWhile p).length ≤ cs.length :=
  (List.dropWhile_sublist p).length_le

def pieces : List Char → List Piece
  | '$' :: '\x7b' :: cs =>
    dollar (cs.takeWhile (· ≠ '\x7d')) :: pieces ((cs.dropWhile (· ≠ '\x7d')).drop 1)
  | '$' :: cs => dollar (cs.takeWhile isName) :: pieces (cs.dropWhile isName)
  | c :: cs => .char c :: pieces cs
  | [] => []
termination_by cs => cs.length
decreasing_by
  · have := length_dropWhile_le (fun c => decide (c ≠ '\x7d')) cs
    simp only [List.length_drop, List.length_cons]
    omega
  · have := length_dropWhile_le isName cs
    simp only [List.length_cons]
    omega
  · simp

def substitute (value? : String → Option String) : List Piece → Except String String
  | [] => .ok ""
  | .char c :: ps => (substitute value? ps).map (c.toString ++ ·)
  | .reference name :: ps =>
    match value? name with
    | some s => (substitute value? ps).map (s ++ ·)
    | none => .error name

/-- The text with values in place of its references. Values are not looked at again. -/
def expand (value? : String → Option String) (s : String) : Except String String :=
  substitute value? (pieces s.toList)

end Template

end Vacancy.Text
