import Vacancy.Sql.Fault.Statement

/-!
What queries yield. A query takes the rows of its source that meet its condition, makes groups of
them, orders the groups, cuts out a page and writes one row for each group. Without GROUP BY each
row is a group of its own, or if an item aggregates, all rows together are one.
-/

namespace Vacancy.Sql

def inOrder : List Direction → List SortKey → List SortKey → Bool
  | d :: ds, a :: as, b :: bs =>
    let (a, b) := match d with
      | .ascending => (a, b)
      | .descending => (b, a)
    if a.lt b then true else if b.lt a then false else inOrder ds as bs
  | _, _, _ => true

def firsts [DecidableEq κ] (key : α → κ) : List α → List α
  | [] => []
  | a :: as => a :: (firsts key as).filter fun b => key b ≠ key a

/-- Numbers of pages that no integer of 64 bits with a sign reaches count as the largest. -/
def pageCount (n : UInt64) : Nat :=
  min n.toNat Int64.maxValue.toInt.toNat

def page (limit offset : Option UInt64) (rows : List α) : List α :=
  let rest := rows.drop (offset.elim 0 pageCount)
  match limit with
  | some n => rest.take (pageCount n)
  | none => rest

namespace Select

variable (s : Select) (fs : Fields)

/--
The row of a group that columns are read from: that of the last MIN or MAX, as soon as it has a
value, and else the first.
-/
def chosen (rows : List Row) : Row :=
  let extremes := (Expr.aggregateCallsOfList s.values).filter (·.1.isExtreme)
  match extremes.getLast? with
  | none => rows.headD {}
  | some (a, args) =>
    let step (best : Value × Row) (r : Row) : Value × Row :=
      let v := (Expr.evalList fs (.single r) args).headD .null
      if best.1.isNull || (!v.isNull && a.improves v best.1) then (v, r) else best
    (rows.foldl step (.null, {})).2

def group (rows : List Row) : Group :=
  ⟨s.chosen fs rows, rows⟩

def keysOf (es : List Expr) (r : Row) : List SortKey :=
  es.map fun e => .ofValue (e.eval fs (.single r))

def groupsBy (es : List Expr) (rows : List Row) : List (List Row) :=
  let keys := (firsts (keysOf fs es) rows).map (keysOf fs es)
  let sorted := keys.mergeSort (inOrder (es.map fun _ => .ascending))
  sorted.map fun k => rows.filter fun r => keysOf fs es r = k

def groupsOf (rows : List Row) : List Group :=
  if s.isPlain then rows.map .single
  else if s.groups.isEmpty then [s.group fs rows]
  else (groupsBy fs s.groups rows).map (s.group fs)

def kept (rows : List Row) : List Row :=
  match s.condition with
  | some c => rows.filter (c.admits fs)
  | none => rows

def orderKeys (g : Group) : List SortKey :=
  s.order.map fun k => .ofValue (k.expr.eval fs g)

def rowOf (names : List String) (g : Group) : Row :=
  ⟨names.zip (s.items.flatMap fun i =>
    match i.expr with
    | .star => g.row.values
    | e => [e.eval fs g])⟩

def sorted (es : List (List SortKey × Row)) : List Row :=
  let kept := if s.distinct then firsts (·.2.values.map SortKey.ofValue) es else es
  let directions := s.order.map (·.direction)
  (kept.mergeSort fun a b => inOrder directions a.1 b.1).map (·.2)

def rowsOf (names : List String) (rows : List Row) : List Row :=
  let groups := s.groupsOf fs (s.kept fs rows)
  let entries := groups.map fun g => (s.orderKeys fs g, s.rowOf fs names g)
  page s.limit s.offset (s.sorted entries)

def arranged (rel : Relation) : List Row :=
  (s.path rel).arrange (rel.index.getD "") rel.rows

def resolved (rel : Relation) : Select :=
  let t := s.named rel
  { t with order := t.orderOn rel }

def answer (rel : Relation) : Relation :=
  let t := s.resolved rel
  let fields := s.fields rel
  { fields, rows := t.rowsOf rel.fields (fields.map (·.1)) (t.arranged rel) }

end Select

namespace Query

/-- A query without a source has one row without columns. -/
def source (tables : String → Relation) (s : Select) : Relation :=
  s.source.elim { fields := [], rows := [{}] } tables

def answerWith (tables : String → Relation) (s : Select) : List (String × Select) → Relation
  | [] => s.regrouped.answer (source tables s)
  | (name, inner) :: rest =>
    let rel := answerWith tables inner rest
    s.regrouped.answer (source (fun n => if n = name then rel else tables n) s)

def answer (q : Query) (tables : String → Relation) : Relation :=
  answerWith tables q.select q.common

end Query

end Vacancy.Sql
