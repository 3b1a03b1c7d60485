import Vacancy.Value

/-!
Literals of SQL. A statement carries them either written out or as parameters.
-/

namespace Vacancy.Sql

inductive Literal where
  | null
  | integer (n : Int64)
  | real (x : Float)
  | text (s : String)
  | bool (b : Bool)
  deriving BEq, Inhabited

namespace Literal

def ofValue : Value → Literal
  | .null => .null
  | .integer n => .integer n
  | .real x => .real x
  | .text s => .text s

def ofNumber? : Value → Option Literal
  | .null => none
  | .integer n => some (.integer n)
  | .real x => some (.real x)
  | .text s =>
    let s := Text.trim s
    match Decimal.readInt64? s with
    | some n => some (.integer n)
    | none => (Decimal.readFinite? s).map .real

/-- Whether the literal may be a parameter. Null and the doubles that are no numbers may not. -/
def isParameter : Literal → Bool
  | .null => false
  | .real x => x.isFinite
  | _ => true

def toValue : Literal → Value
  | .null => .null
  | .integer n => .integer n
  | .real x => if x.isFinite then .real x else .null
  | .text s => .text s
  | .bool b => .integer (if b then 1 else 0)

end Literal

end Vacancy.Sql
