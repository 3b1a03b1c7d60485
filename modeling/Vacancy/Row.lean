import Vacancy.Catalog
import Vacancy.Value

/-!
Rows of a result: values under their columns' names, in the order in which they were selected.
-/

namespace Vacancy

structure Row where
  cells : List (String × Value) := []
  deriving BEq, Inhabited

namespace Row

def get? (r : Row) (name : String) : Option Value :=
  (r.cells.find? (·.1 == name)).map (·.2)

def columns (r : Row) : List String :=
  r.cells.map (·.1)

def values (r : Row) : List Value :=
  r.cells.map (·.2)

def id? (r : Row) : Option Int64 :=
  (r.get? idColumn).bind Value.toInt64?

def toJson (r : Row) : Json :=
  .object (r.cells.map fun (name, v) => (name, v.toJson))

@[simp] theorem get?_cons (name : String) (c : String × Value) (cs : List (String × Value)) :
    get? ⟨c :: cs⟩ name = if c.1 = name then some c.2 else get? ⟨cs⟩ name := by
  by_cases h : c.1 = name <;> simp [get?, h]

end Row

end Vacancy
