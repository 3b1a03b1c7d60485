import Vacancy.Sql.Token

/-!
Expressions and their tokens. Operators are written without parentheses of their own; `group` adds a
pair.
-/

namespace Vacancy.Sql

inductive Operator where
  | eq
  | ne
  | lt
  | gt
  | lte
  | gte
  | and
  deriving DecidableEq

def Operator.token : Operator → Token
  | .eq => .symbol .eq
  | .ne => .symbol .ne
  | .lt => .symbol .lt
  | .gt => .symbol .gt
  | .lte => .symbol .lte
  | .gte => .symbol .gte
  | .and => .keyword .and

inductive Expr where
  | column (name : String)
  | literal (l : Literal)
  | binary (op : Operator) (left right : Expr)
  | call (name : String) (args : List Expr)
  /-- The result of the first arm whose condition is true. -/
  | choice (arms : List (Expr × Expr)) (otherwise : Expr)
  | among (e : Expr) (values : List Expr)
  | like (e pattern : Expr) (negated : Bool)
  | star
  | group (e : Expr)
  deriving Inhabited

namespace Expr

def integer (n : Int64) : Expr :=
  .literal (.integer n)

def text (s : String) : Expr :=
  .literal (.text s)

def null : Expr :=
  .literal .null

def and (left right : Expr) : Expr :=
  .binary .and left right

def count : Expr :=
  .call "COUNT" [.star]

def sum (e : Expr) : Expr :=
  .call "SUM" [e]

def average (e : Expr) : Expr :=
  .call "AVG" [e]

def least (e : Expr) : Expr :=
  .call "MIN" [e]

def conjunction : List Expr → Option Expr
  | [] => none
  | e :: es => some (es.foldl and e)

mutual

def tokens : Expr → List Token
  | .column name => [.identifier name]
  | .literal l => [.literal l]
  | .binary op left right => tokens left ++ [.space, op.token, .space] ++ tokens right
  | .call name args =>
    [.function name, .symbol .leftParen] ++ Token.separated (tokensOfList args) ++
      [.symbol .rightParen]
  | .choice arms otherwise =>
    [.keyword .choice] ++ tokensOfArms arms ++ [.space, .keyword .otherwise, .space] ++
      tokens otherwise ++ [.space, .keyword .done]
  | .among _ [] => [.truth false]
  | .among e (v :: vs) =>
    tokens e ++ [.space, .keyword .among, .space, .symbol .leftParen] ++
      Token.separated (tokens v :: tokensOfList vs) ++ [.symbol .rightParen]
  | .like e pattern negated =>
    tokens e ++ (if negated then [.space, .keyword .not] else []) ++
      [.space, .keyword .like, .space] ++ tokens pattern
  | .star => [.symbol .star]
  | .group e => [.symbol .leftParen] ++ tokens e ++ [.symbol .rightParen]

def tokensOfList : List Expr → List (List Token)
  | [] => []
  | e :: es => tokens e :: tokensOfList es

def tokensOfArms : List (Expr × Expr) → List Token
  | [] => []
  | (condition, result) :: arms =>
    [.space, .keyword .when, .space] ++ tokens condition ++
      [.space, .keyword .result, .space] ++ tokens result ++ tokensOfArms arms

end

theorem tokensOfList_literals (ls : List Literal) :
    tokensOfList (ls.map .literal) = ls.map fun l => [.literal l] := by
  induction ls with
  | nil => rfl
  | cons l ls ih => rw [List.map_cons, tokensOfList, tokens, ih, List.map_cons]

theorem conjunction_append_singleton (es : List Expr) (e : Expr) :
    conjunction (es ++ [e]) = some (match conjunction es with
      | some c => and c e
      | none => e) := by
  cases es <;> simp [conjunction]

end Expr

end Vacancy.Sql
