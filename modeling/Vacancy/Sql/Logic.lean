import Vacancy.Sql.Affinity
import Vacancy.Sql.Expr

/-!
Truth with three values: true, false and, of anything that involves null, unknown.
-/

namespace Vacancy.Sql

/-- Unknown is `none`. -/
abbrev Truth := Option Bool

namespace Truth

def and : Truth → Truth → Truth
  | some false, _ => some false
  | _, some false => some false
  | some true, t => t
  | t, some true => t
  | none, none => none

def not (t : Truth) : Truth :=
  t.map (!·)

def any : List Truth → Truth
  | [] => some false
  | t :: ts =>
    match t, any ts with
    | some true, _ => some true
    | _, some true => some true
    | some false, u => u
    | none, _ => none

def toValue : Truth → Value
  | some true => .integer 1
  | some false => .integer 0
  | none => .null

/-- Numbers other than zero are true; text counts as the number it starts with. -/
def ofValue : Value → Truth
  | .null => none
  | .integer n => some (n != 0)
  | .real x => some (x != 0.0)
  | .text s => some (leadingNumber s != 0.0)

@[simp] theorem ofValue_toValue (t : Truth) : ofValue t.toValue = t := by
  match t with
  | none | some true | some false => rfl

theorem and_eq_true {t u : Truth} : and t u = some true ↔ t = some true ∧ u = some true := by
  match t, u with
  | none, none | none, some true | none, some false
  | some true, none | some true, some true | some true, some false
  | some false, none | some false, some true | some false, some false => simp [and]

theorem any_eq_true {ts : List Truth} : any ts = some true ↔ some true ∈ ts := by
  induction ts with
  | nil => simp [any]
  | cons t ts ih =>
    rw [List.mem_cons, ← ih]
    match t, h : any ts with
    | none, none | none, some true | none, some false
    | some true, none | some true, some true | some true, some false
    | some false, none | some false, some true | some false, some false => simp [any, h]

end Truth

def Operator.holds : Operator → SortKey → SortKey → Bool
  | .eq, a, b => a == b
  | .ne, a, b => a != b
  | .lt, a, b => a.lt b
  | .gt, a, b => b.lt a
  | .lte, a, b => !b.lt a
  | .gte, a, b => !a.lt b
  | .and, _, _ => false

def Operator.compare (op : Operator) (c : Conversion) (v w : Value) : Truth :=
  let (v, w) := c.apply v w
  if v.isNull || w.isNull then none
  else some (op.holds (.ofValue v) (.ofValue w))

def memberOf (c : Conversion) (v : Value) (ws : List Value) : Truth :=
  Truth.any (ws.map (Operator.eq.compare c v))

end Vacancy.Sql
