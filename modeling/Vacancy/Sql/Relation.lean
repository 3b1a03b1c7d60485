import Vacancy.Row
import Vacancy.Sql.Expr
import Vacancy.Sql.Affinity

/-!
Relations, and what names mean in expressions about their rows. Names are compared without regard to
the case of ASCII letters, and a name that nothing bears stands for its own text.
-/

namespace Vacancy.Sql

abbrev Fields := List (String × Affinity)

structure Relation where
  fields : Fields
  rows : List Row
  /-- The column that identifies a row. Unless other columns have them, it has names of its own. -/
  key : Option String := none
  /-- The column that an index of the rows begins with. -/
  index : Option String := none

namespace Fields

def affinity? (fs : Fields) (name : String) : Option Affinity :=
  (fs.find? (·.1 == name)).map (·.2)

def declared? (fs : Fields) (name : String) : Option String :=
  (fs.find? (·.1.toLower == name.toLower)).map (·.1)

end Fields

namespace Relation

def keyNames : List String :=
  ["rowid", "oid", "_rowid_"]

def column? (rel : Relation) (name : String) : Option String :=
  match rel.fields.declared? name with
  | some name => some name
  | none => if keyNames.contains name.toLower then rel.key else none

end Relation

namespace Expr

mutual

def replaceNames (f : String → Expr) : Expr → Expr
  | .column name => f name
  | .literal l => .literal l
  | .binary op left right => .binary op (replaceNames f left) (replaceNames f right)
  | .call name args => .call name (replaceNamesInList f args)
  | .choice arms otherwise => .choice (replaceNamesInArms f arms) (replaceNames f otherwise)
  | .among e values => .among (replaceNames f e) (replaceNamesInList f values)
  | .like e pattern negated => .like (replaceNames f e) (replaceNames f pattern) negated
  | .star => .star
  | .group e => .group (replaceNames f e)

def replaceNamesInList (f : String → Expr) : List Expr → List Expr
  | [] => []
  | e :: es => replaceNames f e :: replaceNamesInList f es

def replaceNamesInArms (f : String → Expr) : List (Expr × Expr) → List (Expr × Expr)
  | [] => []
  | (condition, result) :: arms =>
    (replaceNames f condition, replaceNames f result) :: replaceNamesInArms f arms

end

@[simp] theorem replaceNamesInList_literals (f : String → Expr) (ls : List Literal) :
    replaceNamesInList f (ls.map .literal) = ls.map .literal := by
  induction ls with
  | nil => rfl
  | cons l ls ih => simp [replaceNamesInList, replaceNames, ih]

end Expr

end Vacancy.Sql
