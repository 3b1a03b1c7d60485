import Vacancy.Failure
import Vacancy.Sql.Fault.Calls
import Vacancy.Sql.Path

/-!
Whether a database takes a statement. Its form is looked at first, from the beginning to the end;
then the meaning of each query in it, of those that others read from before these.
-/

namespace Vacancy.Sql

/-- A token of a statement: by its number, or by the number of those of its kind before it. -/
inductive Landmark where
  | token (n : Nat)
  | function (n : Nat)
  | truth (n : Nat)

namespace Landmark

def place? (p : Token → Bool) : Nat → List Token → Option Nat
  | _, [] => none
  | n, t :: ts =>
    if p t then
      match n with
      | 0 => some 0
      | n + 1 => (place? p n ts).map (· + 1)
    else (place? p n ts).map (· + 1)

def index? (ts : List Token) : Landmark → Option Nat
  | .token n => some n
  | .function n => place? Token.isFunction n ts
  | .truth n => place? Token.isTruth n ts

def offset? (ts : List Token) (l : Landmark) : Option Nat :=
  (l.index? ts).map fun n => (Token.bound .sqlite (ts.take n)).text.utf8ByteSize

end Landmark

abbrev Located := Fault × Option Landmark

def columnLimit : Nat := 2000

namespace Select

def callCount (es : List Expr) : Nat :=
  (Expr.callsOfList es).length

def truthCount (es : List Expr) : Nat :=
  (es.flatMap Expr.tokens).countP Token.isTruth

def sizeFault? (s : Select) (calls : Nat) : Option Located :=
  let many (c : (String × Nat) × Nat) : Option Located :=
    if argumentLimit < c.1.2 then
      some (.manyArguments (Text.upper c.1.1), some (.function (calls + c.2)))
    else none
  (Expr.callsOfList s.expressions).zipIdx.findSome? many <|>
    if s.expressions.any (heightLimit < ·.height) then some (.deepExpression, none) else none

def hasAggregates (es : List Expr) : Bool :=
  !(Expr.aggregatesOfList (fun _ => []) 0 es).isEmpty

/--
The first fault in terms of an order. The number zero would be that of a column; where it stands for
more than its own token, the fault has no place.
-/
def orderFault? (named : String → Option String) (columns term calls truths : Nat) :
    List Expr → Option Located
  | [] => none
  | e :: es =>
    if e.isNever then
      let isToken := e.tokens.all fun t => t.isTruth || t matches .symbol _
      some (.termOutOfRange term columns, if isToken then some (.truth truths) else none)
    else
      match (e.check named true calls {}).fault with
      | some (f, i) => some (f, i.map .function)
      | none =>
        orderFault? named columns (term + 1) (calls + e.calls.length) (truths + truthCount [e]) es

def aliasAggregates (s : Select) (rel : Relation) (calls : Nat) (name : String) :
    List (String × Nat) :=
  match rel.column? name, s.alias? name with
  | none, some (n, e) =>
    e.aggregates (fun _ => []) (calls + callCount ((s.items.take n).map (·.expr)))
  | _, _ => []

def aggregateItem? (s : Select) (rel : Relation) (name : String) : Option String :=
  match rel.column? name, s.alias? name with
  | none, some (n, e) =>
    if hasAggregates [e] then (s.items[n]?).bind (·.name) else none
  | _, _ => none

def meaningFault? (s : Select) (rel : Relation) (calls truths : Nat) : Option Located :=
  let items := s.items.map (·.expr)
  let rest := s.condition.toList ++ s.groups
  let order := s.order.map (·.expr)
  let aggregated := hasAggregates items || !s.groups.isEmpty
  let restCalls := calls + callCount items
  let orderCalls := restCalls + callCount rest
  let named := s.aggregateItem? rel
  let located (f : Fault × Option Nat) : Located := (f.1, f.2.map .function)
  let early : List (String × Nat) :=
    s.condition.toList.flatMap (·.aggregates (s.aliasAggregates rel calls) restCalls) ++
      if aggregated then []
      else
        let kept := ((s.named rel).orderOn rel).length
        Expr.aggregatesOfList (fun _ => []) orderCalls (order.take kept)
  (if columnLimit < (s.fields rel).length then some (.manyColumns, none) else none) <|>
    (Expr.callFaultOf? (fun _ => none) true calls items).map located <|>
    (Expr.callFaultOf? named aggregated restCalls rest).map located <|>
    orderFault? named (s.fields rel).length 1 orderCalls (truths + truthCount (items ++ rest))
      order <|>
    (if columnLimit < order.length then some (.manyTerms, none) else none) <|>
    early.getLast?.map fun (name, i) => located (.earlyAggregate name, some i)

def isPlain (s : Select) : Bool :=
  s.groups.isEmpty && !hasAggregates (s.items.map (·.expr))

end Select

namespace Query

def selects (q : Query) : List Select :=
  (q.common.map (·.2)).reverse ++ [q.select]

def sizeFaultOf? (calls : Nat) : List Select → Option Located
  | [] => none
  | s :: ss => s.sizeFault? calls <|> sizeFaultOf? (calls + Select.callCount s.expressions) ss

def formFault? (q : Query) : Option Located :=
  let ts := q.tokens .sqlite
  (Token.firstFault? 0 [] ts).map (fun (f, n) => (f, some (.token n))) <|>
    (if parameterLimit < ts.countP (·.parameter?.isSome) then some (.manyParameters, none)
      else none) <|>
    sizeFaultOf? 0 (q.selects.map Select.regrouped)

/--
A query that reads from a plain one is put together with it, and the two conditions are joined by
AND.
-/
def joinedFault? (s inner : Select) : Option Located :=
  match s.condition, inner.condition with
  | some outer, some condition =>
    if inner.isPlain && decide (heightLimit < (condition.and outer).height) then
      some (.deepExpression, none)
    else none
  | _, _ => none

structure Passed where
  tables : String → Relation
  calls : Nat := 0
  truths : Nat := 0

def meaningFaultAfter? (p : Passed) (s : Select) : Except Located Passed :=
  let rel := s.source.elim { fields := [], rows := [] } p.tables
  match s.meaningFault? rel p.calls p.truths with
  | some f => .error f
  | none => .ok {
      tables := p.tables
      calls := p.calls + Select.callCount s.expressions
      truths := p.truths + Select.truthCount s.expressions }

def meaningFaultWith? (tables : String → Relation) (s : Select) :
    List (String × Select) → Except Located Passed
  | [] => meaningFaultAfter? { tables } s
  | (name, inner) :: rest => do
    let p ← meaningFaultWith? tables inner rest
    let source := inner.source.elim { fields := [], rows := [] } p.tables
    let shape : Relation := { fields := inner.fields source, rows := [] }
    let q ← meaningFaultAfter?
      { p with tables := fun n => if n = name then shape else p.tables n } s
    match joinedFault? s inner with
    | some f => .error f
    | none => return q

def meaningFault? (q : Query) (tables : String → Relation) : Option Located :=
  match meaningFaultWith? tables q.select.regrouped
      (q.common.map fun (name, s) => (name, s.regrouped)) with
  | .ok _ => none
  | .error f => some f

def refusal? (q : Query) (tables : String → Relation) : Option SqlError :=
  (q.formFault? <|> q.meaningFault? tables).map fun (f, landmark) =>
    let ts := q.tokens .sqlite
    .refused f ((landmark.bind (·.offset? ts)).map fun n => ⟨(Token.bound .sqlite ts).text, n⟩)

end Query

end Vacancy.Sql
