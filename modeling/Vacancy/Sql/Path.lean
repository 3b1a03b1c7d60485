import Vacancy.Sql.Fault.Syntax
import Vacancy.Sql.Reading

/-!
The order in which a database goes through a table: that of its keys, or that of an index of another
column, whose equal entries stand in the order of the keys. It shows wherever a query leaves the
order of its rows open. The choice depends on what the condition says of the two columns, on whether
the index has all columns that the query reads, and on the column that the query orders by.
-/

namespace Vacancy.Sql

inductive Path where
  | key
  | index (direction : Direction)

structure Limits where
  equal : Bool := false
  among : Bool := false
  lower : Bool := false
  upper : Bool := false

namespace Limits

def join (a b : Limits) : Limits :=
  ⟨a.equal || b.equal, a.among || b.among, a.lower || b.lower, a.upper || b.upper⟩

def ofOperator : Operator → Limits
  | .eq => { equal := true }
  | .gt | .gte => { lower := true }
  | .lt | .lte => { upper := true }
  | .ne | .and => {}

def sides (l : Limits) : Nat :=
  l.lower.toNat + l.upper.toNat

end Limits

namespace Operator

def mirrored : Operator → Operator
  | .lt => .gt
  | .gt => .lt
  | .lte => .gte
  | .gte => .lte
  | op => op

end Operator

namespace Expr

def terms : Expr → List Expr
  | .binary .and left right => terms left ++ terms right
  | .group e => terms e
  | e => [e]

def isColumn (name : String) : Expr → Bool
  | .column n => n == name
  | .group e => e.isColumn name
  | _ => false

def limitsOn (name : String) : Expr → Limits
  | .binary op left right =>
    if left.isColumn name && right.isConstant then .ofOperator op
    else if right.isColumn name && left.isConstant then .ofOperator op.mirrored
    else {}
  | .among e values =>
    if e.isColumn name && areConstant values then
      if values.length = 1 then { equal := true } else { among := true }
    else {}
  | _ => {}

mutual

/-- Whether all columns of an expression are among some, but for what is read as zero. -/
def readsOnly (names : List String) : Expr → Bool
  | .column name => names.contains name
  | .literal _ => true
  | .star => false
  | .binary op left right =>
    (op = .and && (left.isNever || right.isNever)) ||
      (readsOnly names left && readsOnly names right)
  | .call _ [.star] => true
  | .call _ args => readOnly names args
  | .choice arms otherwise => armsReadOnly names arms && readsOnly names otherwise
  | .among e values => readsOnly names e && readOnly names values
  | .like e pattern _ => readsOnly names e && readsOnly names pattern
  | .group e => readsOnly names e

def readOnly (names : List String) : List Expr → Bool
  | [] => true
  | e :: es => readsOnly names e && readOnly names es

def armsReadOnly (names : List String) : List (Expr × Expr) → Bool
  | [] => true
  | (condition, result) :: arms =>
    readsOnly names condition && readsOnly names result && armsReadOnly names arms

end

end Expr

inductive Lead where
  | key
  | index (direction : Direction) (left : Nat)

namespace Path

/--
Whether the index is the better way, given the limits, whether it has all columns that are read, how
the order begins and the number of terms that are no limits on the key, where a first one that needs
other columns counts twice.
-/
def goesByIndex (key index : Limits) (covered : Bool) (lead : Option Lead) (others : Nat) : Bool :=
  match lead with
  | some .key => index.among || (index.sides = 2 && key.sides < 2)
  | some (.index _ left) =>
    index.among || index.sides = 2 ||
      match index.sides, key.sides with
      | _, 0 => true
      | 0, 1 => left = 0 || (left = 1 && (covered || others ≤ 1))
      | _, 1 => true
      | 0, _ => false
      | _, _ => covered && left = 0
  | none =>
    index.among ||
      match index.sides, key.sides with
      | 0, 0 => covered
      | 0, _ => false
      | _, 0 => true
      | 1, 1 => covered
      | 1, _ => false
      | _, 1 => true
      | _, _ => covered

def ofLimits (key index : Limits) (covered : Bool) (lead : Option Lead) (others : Nat) : Path :=
  if key.equal || key.among || index.equal || !goesByIndex key index covered lead others then .key
  else
    match lead with
    | some (.index direction _) => .index direction
    | _ => .index .ascending

def arrange (column : String) (rows : List Row) : Path → List Row
  | .key => rows
  | .index direction =>
    let place (r : Row) : SortKey := .ofValue ((r.get? column).getD .null)
    let rows := rows.mergeSort fun a b => !(place b).lt (place a)
    match direction with
    | .ascending => rows
    | .descending => rows.reverse

end Path

namespace Select

variable (s : Select)

def values : List Expr :=
  s.items.map (·.expr) ++ s.order.map (·.expr)

def expressions : List Expr :=
  s.items.map (·.expr) ++ s.condition.toList ++ s.groups ++ s.order.map (·.expr)

def terms : List Expr :=
  s.condition.elim [] Expr.terms

def limitsOn (name : String) : Limits :=
  s.terms.foldl (fun l e => l.join (e.limitsOn name)) {}

def isIdle (k : OrderKey) : Bool :=
  k.expr.isConstant || !k.expr.readsOnly []

def openKeys : List OrderKey :=
  s.order.filter fun k =>
    match k.expr with
    | .column name => !(s.limitsOn name).equal
    | _ => true

def lead? (key index : String) : Option Lead :=
  match s.openKeys with
  | [] => none
  | k :: ks =>
    if k.expr.isColumn key then some .key
    else if k.expr.isColumn index then
      some <| .index k.direction <|
        match ks with
        | [] => 0
        | l :: ls =>
          if l.expr.isColumn key && l.direction = k.direction && ls.all isIdle then 0 else ks.length
    else none

def path (rel : Relation) : Path :=
  match rel.key, rel.index with
  | some key, some index =>
    let limits := s.limitsOn key
    let others := s.terms.countP (!·.isConstant) - limits.sides
    let far := s.terms.head?.any (!·.readsOnly [key, index])
    .ofLimits limits (s.limitsOn index) (Expr.readOnly [key, index] s.expressions)
      (s.lead? key index) (others + far.toNat)
  | _, _ => .key

/--
What is left of an order on the path: nothing after the columns that no two rows share, as long as
all that follows them is constant or depends on columns.
-/
def orderOn (rel : Relation) : List OrderKey :=
  let isKey (k : OrderKey) : Bool := rel.key.any fun key => k.expr.isColumn key
  match s.path rel, s.order with
  | .key, k :: ks => if isKey k && ks.all isIdle then [k] else k :: ks
  | .index _, k :: l :: ks =>
    let isIndex := rel.index.any fun index => k.expr.isColumn index
    if isIndex && isKey l && k.direction = l.direction && ks.all isIdle then [k, l] else k :: l :: ks
  | _, ks => ks

end Select

end Vacancy.Sql
