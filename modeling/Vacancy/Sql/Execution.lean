import Vacancy.Sql.Answer

/-!
Running a query. A database may refuse its statement, and it may fail on the way through the rows;
then there is no answer.

What is not needed is not worked out: nothing of a query without rows to return, no part of a
condition after one that is not true, and nothing else of a row that fails the condition. A part
that compares a column with a constant for equality holds the column to that constant, and so
settles the other parts that read no columns but such ones. Parts that are settled, or constant
anyway, come before all rows. On a row those come first that the path through the table takes care
of, and after them the ones that the index of the path covers; otherwise the order is that of the
text. A query that reads from another one is put together with it, so that both conditions come
before the values of either.
-/

namespace Vacancy.Sql

namespace Expr

def column? : Expr → Option String
  | .column name => some name
  | .group e => e.column?
  | _ => none

def pin? : Expr → Option (String × Expr)
  | .binary .eq left right =>
    if right.isConstant then left.column?.map (·, right)
    else if left.isConstant then right.column?.map (·, left)
    else none
  | .among e [v] => if v.isConstant then e.column?.map (·, v) else none
  | .group e => e.pin?
  | _ => none

end Expr

namespace Select

variable (s : Select)

/--
The columns that the condition holds to one constant, each with this and the number of the term that
does. Of several terms about a column the last one counts.
-/
def pins : List (String × Expr × Nat) :=
  firsts (·.1) (s.terms.zipIdx.reverse.filterMap fun (e, i) =>
    e.pin?.map fun (name, constant) => (name, constant, i))

def pinned (fs : Fields) : Row :=
  ⟨s.pins.map fun (name, constant, _) =>
    (name, ((fs.affinity? name).getD .none).store (constant.eval fs (.single {})))⟩

def isSettled (e : Expr) (i : Nat) : Bool :=
  e.isConstant || (s.pins.all (·.2.2 != i) && e.readsOnly (s.pins.map (·.1)))

def settledTerms : List Expr :=
  (s.terms.zipIdx.filter fun (e, i) => s.isSettled e i).map (·.1)

/-- The terms that the rows of the path meet anyway: an equality, or the first bound each way. -/
def usedTerms (key index : String) (terms : List Expr) : List Expr :=
  let first (name : String) (p : Limits → Bool) : List Expr :=
    (terms.find? fun e => p (e.limitsOn name)).toList
  if (s.limitsOn key).equal then first key (·.equal)
  else first index (·.equal) ++ first key (·.lower) ++ first key (·.upper)

def usesIndex (rel : Relation) (key index : String) : Bool :=
  match s.path rel with
  | .index _ => true
  | .key => (s.limitsOn index).equal && !(s.limitsOn key).equal

/-- The terms that are not settled, in the order in which they are evaluated on a row. -/
def rowTerms (rel : Relation) : List Expr :=
  let terms := (s.terms.zipIdx.filter fun (e, i) => !s.isSettled e i).map (·.1)
  match rel.key, rel.index with
  | some key, some index =>
    let (covered, rest) := terms.partition fun e =>
      s.usesIndex rel key index && e.readsOnly [key, index]
    s.usedTerms key index terms ++ covered ++ rest
  | _, _ => terms

def failureOfTerms? (fs : Fields) (g : Group) : List Expr → Option SqlError
  | [] => none
  | e :: es =>
    e.failure? fs g true <|> if e.isTrue fs g then failureOfTerms? fs g es else none

def failureOfValues? (fs : Fields) (g : Group) (es : List Expr) : Option SqlError :=
  es.findSome? fun e => e.failure? fs g false

/--
The failure on a row: of the terms that are evaluated on it and, if it meets the condition, of what
the query or its groups, which have the `grouped` values, need of it.
-/
def failureOnRow? (fs : Fields) (terms grouped : List Expr) (r : Row) : Option SqlError :=
  failureOfTerms? fs (.single r) terms <|>
    if s.condition.all (·.admits fs r) then
      failureOfValues? fs (.single r) <|
        if s.isPlain then s.values
        else if s.groups.isEmpty then (Expr.aggregateCallsOfList grouped).flatMap (·.2)
        else s.groups
    else none

def failureOnRows? (rel : Relation) (grouped : List Expr) (rows : List Row) : Option SqlError :=
  let fs := rel.fields
  let fixed : Group := .single (s.pinned fs)
  let settled := s.settledTerms
  failureOfTerms? fs fixed settled <|>
    if settled.all (·.isTrue fs fixed) then
      rows.findSome? (s.failureOnRow? fs (s.rowTerms rel) grouped)
    else none

/-- The failure of a group, which is not evaluated if it does not meet the last condition. -/
def failureOfGroup? (fs : Fields) (having : Option Expr) (g : Group) : Option SqlError :=
  Expr.aggregateFailure? fs g.rows (s.values ++ having.toList) <|>
    failureOfTerms? fs g having.toList <|>
      if having.all (·.isTrue fs g) then failureOfValues? fs g s.values else none

def failureOfGroups? (fs : Fields) (having : Option Expr) (rows : List Row) : Option SqlError :=
  if s.isPlain then none else (s.groupsOf fs rows).findSome? (s.failureOfGroup? fs having)

def failure? (rel : Relation) (having : Option Expr) : Option SqlError :=
  if s.limit = some 0 then none
  else
    let t := s.resolved rel
    let rows := t.arranged rel
    t.failureOnRows? rel (t.values ++ having.toList) rows <|>
      t.failureOfGroups? rel.fields having (t.kept rel.fields rows)

def unfold (inner : Select) (rel : Relation) (e : Expr) : Expr :=
  e.replaceNames fun name =>
    ((inner.alias? name).map (·.2)).elim (inner.meaning rel name) (·.replaceNames rel.meaning)

def unfolded (inner : Select) (rel : Relation) : Select :=
  let t := s.mapExprs (inner.unfold rel)
  let own := inner.condition.map (·.replaceNames (inner.meaning rel))
  { t with
    source := inner.source
    condition := Expr.conjunction (own.toList ++ t.condition.toList) }

end Select

namespace Query

def failureWith? (tables : String → Relation) (s : Select) (having : Option Expr) :
    List (String × Select) → Option SqlError
  | [] => s.failure? (source tables s) having
  | (name, inner) :: rest =>
    let rel := source tables inner
    if inner.isPlain then failureWith? tables (s.unfolded inner rel) having rest
    else
      failureWith? tables inner (s.condition.map (inner.unfold rel)) rest <|>
        let rel := answerWith tables inner rest
        s.failure? (source (fun n => if n = name then rel else tables n) s) having

def failure? (q : Query) (tables : String → Relation) : Option SqlError :=
  failureWith? tables q.select.regrouped none
    (q.common.map fun (name, s) => (name, s.regrouped))

def run (tables : String → Relation) (q : Query) : Except SqlError Relation :=
  match q.refusal? tables <|> q.failure? tables with
  | some e => .error e
  | none => .ok (q.answer tables)

end Query

end Vacancy.Sql
