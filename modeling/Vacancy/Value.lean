import Vacancy.Decimal.Layout
import Vacancy.Decimal.Numeral
import Vacancy.Json.Fields
import Vacancy.Text.Blank

/-!
Scalars: the operands of conditions and the cells of rows. In JSON a scalar is null, a number or a
string.
-/

namespace Vacancy

inductive Value where
  | null
  | integer (n : Int64)
  | real (x : Float)
  | text (s : String)
  deriving BEq, Inhabited

namespace Value

def layout : Decimal.Layout where
  low := -5
  high := some 16
  fraction := true
  mantissaFraction := false
  plus := false
  exponentWidth := 1

def isNull : Value → Bool
  | .null => true
  | _ => false

/-- The number that the scalar is or spells. Text spells only finite numbers. -/
def toFloat? : Value → Option Float
  | .null => none
  | .integer n => some (Float.ofInt n.toInt)
  | .real x => some x
  | .text s => Decimal.readFinite? (Text.trim s)

def toInt64? : Value → Option Int64
  | .integer n => some n
  | _ => none

def toText? : Value → Option String
  | .null => none
  | .integer n => some (toString n.toInt)
  | .real x => some (layout.float x)
  | .text s => some s

def toJson : Value → Json
  | .null => .null
  | .integer n => .int n.toInt
  | .real x => if x.isFinite then .real x else .null
  | .text s => .text s

/-- An integer beyond 64 bits with a sign is read as a double. -/
def ofJson? : Json → Option Value
  | .null => some .null
  | .int n =>
    match Decimal.int64? n with
    | some i => some (.integer i)
    | none => some (.real (Float.ofInt n))
  | .real x => some (.real x)
  | .text s => some (.text s)
  | _ => none

@[simp] theorem isNull_iff {v : Value} : v.isNull = true ↔ v = .null := by
  cases v <;> simp [isNull]

theorem toText?_eq_none_iff {v : Value} : v.toText? = none ↔ v = .null := by
  cases v <;> simp [toText?]

end Value

end Vacancy
