import Vacancy.Sql.Expr.Constant
import Vacancy.Sql.Relation

/-!
The value of an expression. It is about a group of rows: columns are read from one of these, and
aggregates take all of them. Evaluation is total; an expression that cannot be evaluated has the
reason beside its value, which then means nothing.
-/

namespace Vacancy.Sql

structure Group where
  row : Row := {}
  rows : List Row

def Group.single (r : Row) : Group :=
  ⟨r, [r]⟩

namespace Expr

/-- Only columns have an affinity, in parentheses or not. -/
def affinity (fs : Fields) : Expr → Affinity
  | .column name => (fs.affinity? name).getD .none
  | .group e => affinity fs e
  | _ => .none

def arguments : List Expr → List Expr
  | [.star] => []
  | args => args

def function? (name : String) (args : List Expr) : Option Function :=
  Function.named? name (arguments args).length

mutual

def eval (fs : Fields) (g : Group) : Expr → Value
  | .column name => (g.row.get? name).getD .null
  | .literal l => l.toValue
  | .binary .and left right =>
    (Truth.and (.ofValue (eval fs g left)) (.ofValue (eval fs g right))).toValue
  | .binary op left right =>
    (op.compare (.ofAffinities (left.affinity fs) (right.affinity fs)) (eval fs g left)
      (eval fs g right)).toValue
  | .call _ [.star] => .integer (Int64.ofNat g.rows.length)
  | .call name args =>
    match function? name args with
    | some (.scalar f) => f.apply (evalList fs g args)
    | some (.aggregate f) =>
      (f.apply (g.rows.map fun r => evalList fs (.single r) args)).toOption.getD .null
    | _ => .null
  | .choice arms otherwise => (evalArms fs g arms).getD (eval fs g otherwise)
  | .among e values =>
    (memberOf (.ofAffinities (e.affinity fs) .none) (eval fs g e) (evalList fs g values)).toValue
  | .like e pattern negated =>
    let t := Sql.like (eval fs g e) (eval fs g pattern)
    (if negated then t.not else t).toValue
  | .star => .null
  | .group e => eval fs g e

def evalList (fs : Fields) (g : Group) : List Expr → List Value
  | [] => []
  | e :: es => eval fs g e :: evalList fs g es

def evalArms (fs : Fields) (g : Group) : List (Expr × Expr) → Option Value
  | [] => none
  | (condition, result) :: arms =>
    if Truth.ofValue (eval fs g condition) = some true then some (eval fs g result)
    else evalArms fs g arms

end

mutual

def aggregateCalls : Expr → List (Aggregate × List Expr)
  | .column _ | .literal _ | .star => []
  | .binary op left right =>
    if op = .and && (left.isNever || right.isNever) then []
    else aggregateCalls left ++ aggregateCalls right
  | .call name args =>
    match function? name args with
    | some (.aggregate f) => [(f, args)]
    | _ => aggregateCallsOfList args
  | .choice arms otherwise => aggregateCallsOfArms arms ++ aggregateCalls otherwise
  | .among e values => aggregateCalls e ++ aggregateCallsOfList values
  | .like e pattern _ => aggregateCalls pattern ++ aggregateCalls e
  | .group e => aggregateCalls e

def aggregateCallsOfList : List Expr → List (Aggregate × List Expr)
  | [] => []
  | e :: es => aggregateCalls e ++ aggregateCallsOfList es

def aggregateCallsOfArms : List (Expr × Expr) → List (Aggregate × List Expr)
  | [] => []
  | (condition, result) :: arms =>
    aggregateCalls condition ++ aggregateCalls result ++ aggregateCallsOfArms arms

end

def isTrue (fs : Fields) (g : Group) (e : Expr) : Bool :=
  Truth.ofValue (e.eval fs g) = some true

def admits (fs : Fields) (e : Expr) (r : Row) : Bool :=
  e.isTrue fs (.single r)

/-- Whether a list of values is evaluated as a whole before the operand: more than two constants. -/
def isGathered (values : List Expr) : Bool :=
  2 < values.length && areConstant values

mutual

/--
Why an expression has no value on a group, whose aggregates have theirs. Of a condition only the
parts up to the first that is not true are evaluated; elsewhere AND takes both its sides.
-/
def failure? (fs : Fields) (g : Group) (condition : Bool) : Expr → Option SqlError
  | .column _ | .literal _ | .star | .call _ [.star] => none
  | .binary .and left right =>
    if left.isNever || right.isNever then none
    else
      failure? fs g condition left <|>
        if condition && !isTrue fs g left then none else failure? fs g condition right
  | .binary _ left right => failure? fs g false left <|> failure? fs g false right
  | .call name args =>
    match function? name args with
    | some (.scalar .coalesce) => failureUpToKnown? fs g args
    | some (.scalar .ite) => failureOfChoice? fs g args
    | some (.scalar f) => failureOfList? fs g args <|> f.failure? (evalList fs g args)
    | _ => none
  | .choice arms otherwise => (failureOfArms? fs g arms).getD (failure? fs g false otherwise)
  | .among e values =>
    if isGathered values then failureOfList? fs g values <|> failure? fs g false e
    else
      failure? fs g false e <|>
        failureUpToMember? fs g (.ofAffinities (e.affinity fs) .none) (eval fs g e) values
  | .like e pattern _ =>
    failure? fs g false pattern <|> failure? fs g false e <|>
      Scalar.like.failure? [eval fs g pattern, eval fs g e]
  | .group e => failure? fs g condition e

def failureOfList? (fs : Fields) (g : Group) : List Expr → Option SqlError
  | [] => none
  | e :: es => failure? fs g false e <|> failureOfList? fs g es

def failureUpToMember? (fs : Fields) (g : Group) (c : Conversion) (v : Value) :
    List Expr → Option SqlError
  | [] => none
  | e :: es =>
    failure? fs g false e <|>
      if Operator.eq.compare c v (eval fs g e) = some true then none
      else failureUpToMember? fs g c v es

def failureUpToKnown? (fs : Fields) (g : Group) : List Expr → Option SqlError
  | [] => none
  | e :: es =>
    failure? fs g false e <|> if (eval fs g e).isNull then failureUpToKnown? fs g es else none

def failureOfChoice? (fs : Fields) (g : Group) : List Expr → Option SqlError
  | [e, v, w] =>
    failure? fs g true e <|>
      if isTrue fs g e then failure? fs g false v else failure? fs g false w
  | _ => none

def failureOfArms? (fs : Fields) (g : Group) : List (Expr × Expr) → Option (Option SqlError)
  | [] => none
  | (condition, result) :: arms =>
    match failure? fs g true condition with
    | some e => some (some e)
    | none =>
      if isTrue fs g condition then some (failure? fs g false result)
      else failureOfArms? fs g arms

end

/--
Why the aggregates of expressions have no value on rows. Each takes all rows, whether its expression
comes to need it or not.
-/
def aggregateFailure? (fs : Fields) (rows : List Row) (es : List Expr) : Option SqlError :=
  let calls := aggregateCallsOfList es
  (rows.findSome? fun r => calls.findSome? fun (_, args) => failureOfList? fs (.single r) args) <|>
    calls.findSome? fun (f, args) =>
      match f.apply (rows.map fun r => evalList fs (.single r) args) with
      | .ok _ => none
      | .error e => some e

theorem evalArms_literals (fs : Fields) (g : Group) (arms : List (Expr × Literal)) :
    evalArms fs g (arms.map fun a => (a.1, .literal a.2)) =
      (arms.find? (·.1.isTrue fs g)).map (·.2.toValue) := by
  induction arms with
  | nil => rfl
  | cons a arms ih =>
    simp only [List.map_cons, evalArms, List.find?_cons, isTrue]
    split
    · next h =>
      simp [h, eval]
    · next h =>
      rw [ih]
      simp [h, isTrue]

@[simp] theorem aggregateCallsOfList_literals (ls : List Literal) :
    aggregateCallsOfList (ls.map .literal) = [] := by
  induction ls with
  | nil => rfl
  | cons l ls ih => simp [aggregateCallsOfList, aggregateCalls, ih]

@[simp] theorem failureOfList?_literals (fs : Fields) (g : Group) (ls : List Literal) :
    failureOfList? fs g (ls.map .literal) = none := by
  induction ls with
  | nil => simp [failureOfList?]
  | cons l ls ih => simp [failureOfList?, failure?, ih]

@[simp] theorem failureUpToMember?_literals (fs : Fields) (g : Group) (c : Conversion) (v : Value)
    (ls : List Literal) : failureUpToMember? fs g c v (ls.map .literal) = none := by
  induction ls with
  | nil => simp [failureUpToMember?]
  | cons l ls ih => simp [failureUpToMember?, failure?, ih]

end Expr

end Vacancy.Sql
