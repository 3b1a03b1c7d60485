import Vacancy.Sql.Expr.Constant
import Vacancy.Sql.Expr.Spine
import Vacancy.Sql.Fault

/-!
Faults of a statement's form: tokens that may not stand where they stand, and sizes beyond what a
database takes.
-/

namespace Vacancy.Sql

namespace Token

/-- Words that are no names of functions, as a parenthesis after them shows or they themselves. -/
def reservedWords : List String :=
  ["ADD", "ALL", "ALTER", "AND", "AS", "AUTOINCREMENT", "BETWEEN", "CHECK", "COLLATE", "COMMIT",
    "CONSTRAINT", "CREATE", "DEFAULT", "DEFERRABLE", "DELETE", "DISTINCT", "DROP", "ELSE", "ESCAPE",
    "EXCEPT", "FOREIGN", "FROM", "GROUP", "HAVING", "IN", "INDEX", "INSERT", "INTERSECT", "INTO",
    "IS", "ISNULL", "JOIN", "LIMIT", "NOTHING", "NOTNULL", "ON", "OR", "ORDER", "PRIMARY",
    "REFERENCES", "RETURNING", "SELECT", "SET", "TABLE", "THEN", "TO", "TRANSACTION", "UNION",
    "UNIQUE", "UPDATE", "USING", "VALUES", "WHEN", "WHERE"]

def valueWords : List String :=
  ["CURRENT_DATE", "CURRENT_TIME", "CURRENT_TIMESTAMP", "NULL"]

def isFunction : Token → Bool
  | .function _ => true
  | _ => false

def isTruth : Token → Bool
  | .truth _ => true
  | _ => false

def skipSpaces (n : Nat) : List Token → Option (Nat × Token)
  | [] => none
  | .space :: ts => skipSpaces (n + 1) ts
  | t :: _ => some (n, t)

/-- The fault of the next token that is no space, unless a star may stand in front of it. -/
def afterStar (allowed : Token → Bool) (rest : List Token) : Option (Fault × Nat) :=
  match skipSpaces 1 rest with
  | some (n, t) => if allowed t then none else some (.unexpected (t.render .sqlite), n)
  | none => none

def endsItem : Token → Bool
  | .newline | .symbol .comma => true
  | _ => false

def endsCall : Token → Bool
  | .symbol .rightParen => true
  | _ => false

def fault? (before : List Token) (rest : List Token) : Token → Option (Fault × Nat)
  | .identifier name =>
    if name.contains '\x00' then
      some (.unrecognized (String.ofList ((quoteIdentifier name).toList.takeWhile (· ≠ '\x00'))), 0)
    else none
  | .symbol .star =>
    match before with
    | .indent _ :: _ => afterStar endsItem rest
    | .symbol .leftParen :: .function _ :: _ => afterStar endsCall rest
    | _ => some (.unexpected "*", 0)
  | .keyword .choice =>
    match rest with
    | .space :: .keyword .otherwise :: _ => some (.unexpected "ELSE", 2)
    | _ => none
  | .function name =>
    let word := Text.upper name
    if reservedWords.contains word then some (.unexpected word, 0)
    else if valueWords.contains word then some (.unexpected "(", 1)
    else none
  | _ => none

def firstFault? (n : Nat) (before : List Token) : List Token → Option (Fault × Nat)
  | [] => none
  | t :: ts =>
    match t.fault? before ts with
    | some (f, i) => some (f, n + i)
    | none => firstFault? (n + 1) [t, before.headD .space] ts

theorem firstFault?_of_none {t : Token} {before ts : List Token}
    (h : t.fault? before ts = none) (n : Nat) :
    firstFault? n before (t :: ts) = firstFault? (n + 1) [t, before.headD .space] ts := by
  simp only [firstFault?, h]

end Token

def parameterLimit : Nat := 32766

def argumentLimit : Nat := 127

def heightLimit : Nat := 1000

namespace Expr

mutual

/--
The height of the tree that an expression is read as. Membership of a single constant is an equality
with a sign in front of the constant, and what is read as zero is small unless a part of it was too
high before.
-/
def height : Expr → Nat
  | .column _ | .literal _ | .star | .among _ [] => 1
  | .binary op left right =>
    let h := max left.height right.height
    if op = .and && (left.isNever || right.isNever) then (if h ≤ heightLimit then 1 else h)
    else 1 + h
  | .call _ args => 1 + heightOfList args
  | .choice arms otherwise => 1 + max (heightOfArms arms) otherwise.height
  | .among e [v] => 1 + max e.height (v.height + if v.isConstant then 1 else 0)
  | .among e values => 1 + max e.height (heightOfList values)
  | .like e pattern negated => (if negated then 2 else 1) + max e.height pattern.height
  | .group e => e.height

def heightOfList : List Expr → Nat
  | [] => 0
  | e :: es => max e.height (heightOfList es)

def heightOfArms : List (Expr × Expr) → Nat
  | [] => 0
  | (condition, result) :: arms =>
    max (max condition.height result.height) (heightOfArms arms)

end

mutual

def calls : Expr → List (String × Nat)
  | .column _ | .literal _ | .star | .among _ [] => []
  | .binary _ left right => calls left ++ calls right
  | .call name args => (name, args.length) :: callsOfList args
  | .choice arms otherwise => callsOfArms arms ++ calls otherwise
  | .among e (v :: vs) => calls e ++ calls v ++ callsOfList vs
  | .like e pattern _ => calls e ++ calls pattern
  | .group e => calls e

def callsOfList : List Expr → List (String × Nat)
  | [] => []
  | e :: es => calls e ++ callsOfList es

def callsOfArms : List (Expr × Expr) → List (String × Nat)
  | [] => []
  | (condition, result) :: arms => calls condition ++ calls result ++ callsOfArms arms

end

theorem height_and {c e : Expr} (hc : c.isNever = false) (he : e.isNever = false) :
    (Expr.and c e).height = 1 + max c.height e.height := by
  simp [Expr.and, height, hc, he]

theorem height_compared {op : Operator} (hop : op ≠ .and) (name : String) (l : Literal) :
    (Expr.binary op (.column name) (.literal l)).height = 2 := by
  simp [height, hop]

theorem heightOfList_literals (ls : List Literal) : heightOfList (ls.map .literal) ≤ 1 := by
  induction ls with
  | nil => simp [heightOfList]
  | cons l ls ih =>
    simp only [List.map_cons, heightOfList, height]
    omega

@[simp] theorem callsOfList_literals (ls : List Literal) :
    callsOfList (ls.map .literal) = [] := by
  induction ls with
  | nil => rfl
  | cons l ls ih => simp [callsOfList, calls, ih]

end Expr

end Vacancy.Sql
