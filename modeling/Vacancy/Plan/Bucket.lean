import Vacancy.Plan.Predicate

/-!
The buckets that ordered rules sort rows into. The first rule that a row meets gives it its label; a
row that meets none has no label.
-/

namespace Vacancy

open Sql

structure Buckets where
  label : Expr
  rank : Expr
  arms : Nat

namespace Buckets

def rules (column : String) (groups : List (String × Condition)) : List (Expr × String) :=
  groups.filterMap fun (label, condition) => (condition.toExpr? column).map (·, label)

def chosen (arms : List (Expr × Expr)) : Expr :=
  if arms.isEmpty then .null else .choice arms .null

def ofRules (rules : List (Expr × String)) : Buckets where
  label := chosen (rules.map fun (condition, label) => (condition, .text label))
  rank := chosen (rules.zipIdx.map fun ((condition, _), i) => (condition, .integer (Int64.ofNat i)))
  arms := rules.length

def build (column : String) (groups : List (String × Condition)) : Buckets :=
  ofRules (rules column groups)

end Buckets

end Vacancy
