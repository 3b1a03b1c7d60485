import Vacancy.Sql.Expr.Spine
import Vacancy.Sql.Function

/-!
Expressions that have the same value on all rows, by their form alone: no columns are in them and no
aggregates are called, but for what is read as zero anyway.
-/

namespace Vacancy.Sql.Expr

mutual

def isConstant : Expr → Bool
  | .column _ | .star => false
  | .literal _ => true
  | .binary op left right =>
    (op = .and && (left.isNever || right.isNever)) || (left.isConstant && right.isConstant)
  | .call name args =>
    areConstant args && (Function.named? name args.length matches some (.scalar _))
  | .choice arms otherwise => haveConstants arms && otherwise.isConstant
  | .among e values => e.isConstant && areConstant values
  | .like e pattern _ => e.isConstant && pattern.isConstant
  | .group e => e.isConstant

def areConstant : List Expr → Bool
  | [] => true
  | e :: es => e.isConstant && areConstant es

def haveConstants : List (Expr × Expr) → Bool
  | [] => true
  | (condition, result) :: arms =>
    condition.isConstant && result.isConstant && haveConstants arms

end

end Vacancy.Sql.Expr
