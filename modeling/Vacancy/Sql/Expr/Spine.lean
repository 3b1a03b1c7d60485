import Vacancy.Sql.Expr

/-!
How a database reads an expression. Operators are written without parentheses, so what is written
need not be read as it was built: the reader sees a row of operands with operators between them and
groups these by how strongly the operators bind. Comparisons of order bind more strongly than
equality, LIKE and IN, and these more strongly than AND; operators that bind equally are grouped
from the left.
-/

namespace Vacancy.Sql

inductive Link where
  | operator (op : Operator) (right : Expr)
  | like (negated : Bool) (pattern : Expr)
  | among (values : List Expr)

structure Spine where
  first : Expr
  links : List Link

/-- Operands of operators that wait for all that binds more strongly on their right. -/
structure Pending where
  ands : Option Expr := none
  equals : Option (Expr → Expr) := none

namespace Pending

def closeEquals (p : Pending) (e : Expr) : Expr :=
  p.equals.elim e (· e)

def closeAnds (p : Pending) (e : Expr) : Expr :=
  let e := p.closeEquals e
  p.ands.elim e (.binary .and · e)

end Pending

namespace Operator

def isOrder : Operator → Bool
  | .lt | .gt | .lte | .gte => true
  | .eq | .ne | .and => false

end Operator

namespace Spine

def group (p : Pending) (e : Expr) : List Link → Expr
  | [] => p.closeAnds e
  | .operator .and right :: links => group ⟨some (p.closeAnds e), none⟩ right links
  | .operator op right :: links =>
    if op.isOrder then group p (.binary op e right) links
    else group { p with equals := some (.binary op (p.closeEquals e)) } right links
  | .like negated pattern :: links =>
    let left := p.closeEquals e
    group { p with equals := some fun r => .like left r negated } pattern links
  | .among values :: links =>
    group { p with equals := none } (.among (p.closeEquals e) values) links

def toExpr (s : Spine) : Expr :=
  group {} s.first s.links

end Spine

namespace Expr

def never : Expr :=
  .among .null []

/-- Whether an expression is read as zero: membership of no values, and AND with such a side. -/
def isNever : Expr → Bool
  | .among _ [] => true
  | .binary .and left right => left.isNever || right.isNever
  | .group e => e.isNever
  | _ => false

mutual

def spine : Expr → List Link → Spine
  | .binary op left right, links =>
    let s := spine right links
    spine left (.operator op s.first :: s.links)
  | .like e pattern negated, links =>
    let s := spine pattern links
    spine e (.like negated s.first :: s.links)
  | .among _ [], links => ⟨never, links⟩
  | .among e (v :: vs), links =>
    spine e (.among ((spine v []).toExpr :: regroupedList vs) :: links)
  | .call name args, links => ⟨.call name (regroupedList args), links⟩
  | .choice arms otherwise, links =>
    ⟨.choice (regroupedArms arms) (spine otherwise []).toExpr, links⟩
  | .group e, links => ⟨.group (spine e []).toExpr, links⟩
  | .column name, links => ⟨.column name, links⟩
  | .literal l, links => ⟨.literal l, links⟩
  | .star, links => ⟨.star, links⟩

def regroupedList : List Expr → List Expr
  | [] => []
  | e :: es => (spine e []).toExpr :: regroupedList es

def regroupedArms : List (Expr × Expr) → List (Expr × Expr)
  | [] => []
  | (condition, result) :: arms =>
    ((spine condition []).toExpr, (spine result []).toExpr) :: regroupedArms arms

end

def regrouped (e : Expr) : Expr :=
  (e.spine []).toExpr

theorem isNever_compared {op : Operator} (hop : op ≠ .and) (name : String) (l : Literal) :
    (Expr.binary op (.column name) (.literal l)).isNever = false := by
  cases op <;> simp_all [isNever]

@[simp] theorem regroupedList_literals (ls : List Literal) :
    regroupedList (ls.map .literal) = ls.map .literal := by
  induction ls with
  | nil => rfl
  | cons l ls ih => simp [regroupedList, spine, Spine.toExpr, Spine.group, Pending.closeAnds,
      Pending.closeEquals, ih]

end Expr

end Vacancy.Sql
