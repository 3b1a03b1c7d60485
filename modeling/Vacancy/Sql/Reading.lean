import Vacancy.Sql.Eval
import Vacancy.Sql.Expr.Spine
import Vacancy.Sql.Query

/-!
How a database reads a query over a relation: expressions as their text is grouped, with every name
replaced by what it stands for. A condition and an order may use the names of the query's own items,
where the relation has no column of that name.
-/

namespace Vacancy.Sql

namespace Relation

def meaning (rel : Relation) (name : String) : Expr :=
  (rel.column? name).elim (.text name) .column

end Relation

namespace Select

def mapExprs (f : Expr → Expr) (s : Select) : Select :=
  { s with
    items := s.items.map fun i => { i with expr := f i.expr }
    condition := s.condition.map f
    groups := s.groups.map f
    order := s.order.map fun k => { k with expr := f k.expr } }

def regrouped (s : Select) : Select :=
  s.mapExprs Expr.regrouped

def itemFields (rel : Relation) (i : SelectItem) : Fields :=
  let affinity := ((i.expr.replaceNames rel.meaning).affinity rel.fields)
  match i.expr, i.name with
  | .star, _ => rel.fields
  | _, some name => [(name, affinity)]
  | .column name, none => [((rel.column? name).getD (quoteIdentifier name), affinity)]
  | e, none => [((Token.bound .sqlite e.tokens).text, affinity)]

def fields (rel : Relation) (s : Select) : Fields :=
  s.items.flatMap (itemFields rel)

/-- The number and the expression of the item of a name. -/
def alias? (s : Select) (name : String) : Option (Nat × Expr) :=
  s.items.zipIdx.findSome? fun (i, n) =>
    if i.name.any (·.toLower == name.toLower) then some (n, i.expr) else none

def meaning (s : Select) (rel : Relation) (name : String) : Expr :=
  match rel.column? name, s.alias? name with
  | some column, _ => .column column
  | none, some (_, e) => e.replaceNames rel.meaning
  | none, none => .text name

def named (s : Select) (rel : Relation) : Select :=
  { s.mapExprs (·.replaceNames (s.meaning rel)) with
    items := s.items.map fun i => { i with expr := i.expr.replaceNames rel.meaning } }

end Select

end Vacancy.Sql
