import Vacancy.Sql.Eval
import Vacancy.Sql.Fault.Syntax

/-!
Faults of the functions that an expression calls. A database goes through the expression from its
root. The last fault that it finds is the one that it reports; but once there is one, it goes no
further than the next part that is neither a column nor a call, and takes that up again after the
call around it.
-/

namespace Vacancy.Sql

structure Found where
  /-- The last fault, and the number of calls in the text before the one that it is about. -/
  fault : Option (Fault × Option Nat) := none
  stopped : Bool := false

namespace Found

def note (f : Found) (fault : Option Fault) (i : Nat) : Found :=
  match fault with
  | some fault => { f with fault := some (fault, some i) }
  | none => f

def pass (f : Found) : Found :=
  { f with stopped := f.stopped || f.fault.isSome }

def resume (f : Found) : Found :=
  { f with stopped := false }

end Found

def callFault? (aggregates : Bool) (name : String) (count : Nat) : Option Fault :=
  match Function.named? name count with
  | some .window => some (.windowFunction (Text.upper name))
  | some (.aggregate _) => if aggregates then none else some (.strayAggregate (Text.upper name))
  | some (.scalar _) =>
    if Text.upper name = "LIKELIHOOD" then some (.likelihood (Text.upper name)) else none
  | none =>
    some (if Function.isKnown name then .wrongArguments (Text.upper name)
      else .noFunction (Text.upper name))

def isAggregate (name : String) (count : Nat) : Bool :=
  Function.named? name count matches some (.aggregate _)

namespace Expr

mutual

/--
Goes through an expression after `i` calls. In an aggregate there may be no other, nor a name that
stands for one; `named` are the names of items that do.
-/
def check (named : String → Option String) (aggregates : Bool) (i : Nat) (found : Found)
    (e : Expr) : Found :=
  if found.stopped then found
  else
    match e with
    | .column name =>
      match named name with
      | some item => if aggregates then found else ⟨some (.namedAggregate item, none), true⟩
      | none => found
    | .literal _ | .star | .among _ [] => found.pass
    | .group e => check named aggregates i found e
    | .call name args =>
      let count := (arguments args).length
      let found := found.note (callFault? aggregates name count) i
      (checkList named (aggregates && !isAggregate name count) (i + 1) found args).resume
    | .like e pattern negated =>
      let found := if negated then found.pass else found
      if found.stopped then found
      else
        let found := check named aggregates (i + e.calls.length) found pattern
        (check named aggregates i found e).resume
    | .binary op left right =>
      let found := found.pass
      if op = .and && (left.isNever || right.isNever) then found
      else
        let found := check named aggregates i found left
        check named aggregates (i + left.calls.length) found right
    | .choice arms otherwise =>
      let found := checkArms named aggregates i found.pass arms
      check named aggregates (i + (callsOfArms arms).length) found otherwise
    | .among e values =>
      let found := check named aggregates i found.pass e
      checkList named aggregates (i + e.calls.length) found values

def checkList (named : String → Option String) (aggregates : Bool) (i : Nat) (found : Found) :
    List Expr → Found
  | [] => found
  | e :: es => checkList named aggregates (i + e.calls.length) (check named aggregates i found e) es

def checkArms (named : String → Option String) (aggregates : Bool) (i : Nat) (found : Found) :
    List (Expr × Expr) → Found
  | [] => found
  | (condition, result) :: arms =>
    let j := i + condition.calls.length
    let found := check named aggregates j (check named aggregates i found condition) result
    checkArms named aggregates (j + result.calls.length) found arms

end

def callFaultOf? (named : String → Option String) (aggregates : Bool) (i : Nat) :
    List Expr → Option (Fault × Option Nat)
  | [] => none
  | e :: es =>
    (e.check named aggregates i {}).fault <|>
      callFaultOf? named aggregates (i + e.calls.length) es

mutual

/--
The aggregates of an expression with their places, in the order in which it is evaluated; `names`
are those of the expressions that names stand for.
-/
def aggregates (names : String → List (String × Nat)) (i : Nat) : Expr → List (String × Nat)
  | .column name => names name
  | .literal _ | .star | .among _ [] => []
  | .group e => aggregates names i e
  | .call name args =>
    if isAggregate name (arguments args).length then [(Text.upper name, i)]
    else aggregatesOfList names (i + 1) args
  | .like e pattern _ => aggregates names (i + e.calls.length) pattern ++ aggregates names i e
  | .binary op left right =>
    if op = .and && (left.isNever || right.isNever) then []
    else aggregates names i left ++ aggregates names (i + left.calls.length) right
  | .choice arms otherwise =>
    aggregatesOfArms names i arms ++ aggregates names (i + (callsOfArms arms).length) otherwise
  | .among e (v :: vs) =>
    aggregates names i e ++ aggregates names (i + e.calls.length) v ++
      aggregatesOfList names (i + e.calls.length + v.calls.length) vs

def aggregatesOfList (names : String → List (String × Nat)) (i : Nat) :
    List Expr → List (String × Nat)
  | [] => []
  | e :: es => aggregates names i e ++ aggregatesOfList names (i + e.calls.length) es

def aggregatesOfArms (names : String → List (String × Nat)) (i : Nat) :
    List (Expr × Expr) → List (String × Nat)
  | [] => []
  | (condition, result) :: arms =>
    let j := i + condition.calls.length
    aggregates names i condition ++ aggregates names j result ++
      aggregatesOfArms names (j + result.calls.length) arms

end

@[simp] theorem checkList_literals (named : String → Option String) (aggregates : Bool) (i : Nat)
    (ls : List Literal) : checkList named aggregates i {} (ls.map .literal) = {} := by
  induction ls with
  | nil => rfl
  | cons l ls ih => simp [checkList, check, Found.pass, calls, ih]

@[simp] theorem aggregatesOfList_literals (named : String → List (String × Nat)) (i : Nat)
    (ls : List Literal) : aggregatesOfList named i (ls.map .literal) = [] := by
  induction ls generalizing i with
  | nil => rfl
  | cons l ls ih => simp [aggregatesOfList, aggregates, ih]

end Expr

end Vacancy.Sql
