import Vacancy.Sql.Expr

/-!
Queries over one table, with the queries they name in front. A query is laid out one clause a line.
-/

namespace Vacancy.Sql

structure SelectItem where
  expr : Expr
  name : Option String := none

inductive Direction where
  | ascending
  | descending
  deriving DecidableEq, Inhabited

structure OrderKey where
  expr : Expr
  direction : Direction := .ascending

structure Select where
  items : List SelectItem := []
  distinct : Bool := false
  source : Option String := none
  condition : Option Expr := none
  groups : List Expr := []
  order : List OrderKey := []
  limit : Option UInt64 := none
  offset : Option UInt64 := none

/-- A query and the one it may read from, that one's own and so on inwards, each with its name. -/
structure Query where
  select : Select
  common : List (String × Select) := []

/-- Page numbers are written as integers of 64 bits with a sign; beyond those no row is left. -/
def pageLiteral (n : UInt64) : Literal :=
  .integer ((Decimal.int64? n.toNat).getD Int64.maxValue)

/-- An offset alone is an error in SQLite, where a limit of -1 is none. -/
def Dialect.pageTokens (d : Dialect) (limit offset : Option UInt64) : List Token :=
  let offsetTokens (n : UInt64) : List Token :=
    [.keyword .offset, .space, .literal (pageLiteral n)]
  match limit, offset with
  | none, none => []
  | some l, none => [.keyword .limit, .space, .literal (pageLiteral l)]
  | some l, some o => [.keyword .limit, .space, .literal (pageLiteral l), .space] ++ offsetTokens o
  | none, some o =>
    match d with
    | .sqlite => [.keyword .limit, .space, .raw "-1", .space] ++ offsetTokens o
    | _ => offsetTokens o

namespace SelectItem

def tokens (i : SelectItem) : List Token :=
  i.expr.tokens ++
    match i.name with
    | some name => [.space, .keyword .alias, .space, .identifier name]
    | none => []

end SelectItem

namespace OrderKey

def tokens (k : OrderKey) : List Token :=
  k.expr.tokens ++ [.space, .keyword (if k.direction = .ascending then .ascending else .descending)]

end OrderKey

namespace Select

def restrict (s : Select) (condition : Expr) : Select :=
  { s with
    condition := some (match s.condition with
      | some c => c.and condition
      | none => condition) }

def itemTokens : List SelectItem → List Token
  | [] => []
  | [i] => [.newline, .indent 1] ++ i.tokens
  | i :: is => [.newline, .indent 1] ++ i.tokens ++ [.symbol .comma] ++ itemTokens is

def clause (k : Keyword) (ts : List Token) : List Token :=
  [.newline, .keyword k, .space] ++ ts

def tokens (d : Dialect) (s : Select) : List Token :=
  [.keyword .select] ++ (if s.distinct then [.space, .keyword .distinct] else []) ++
    itemTokens s.items ++
    (match s.source with
      | some table => clause .source [.identifier table]
      | none => []) ++
    (match s.condition with
      | some c => clause .filter c.tokens
      | none => []) ++
    (if s.groups.isEmpty then []
      else clause .groupBy (Token.separated (s.groups.map Expr.tokens))) ++
    (if s.order.isEmpty then []
      else clause .orderBy (Token.separated (s.order.map OrderKey.tokens))) ++
    (match d.pageTokens s.limit s.offset with
      | [] => []
      | ts => .newline :: ts)

end Select

namespace Query

def tokensWith (d : Dialect) (s : Select) : List (String × Select) → List Token
  | [] => s.tokens d
  | (name, inner) :: rest =>
    [.keyword .common, .space, .identifier name, .space, .keyword .alias, .space,
      .symbol .leftParen, .newline] ++
      tokensWith d inner rest ++ [.newline, .symbol .rightParen, .newline] ++ s.tokens d

def tokens (d : Dialect) (q : Query) : List Token :=
  tokensWith d q.select q.common

def withCommon (q : Query) (name : String) (inner : Query) : Query :=
  { q with common := (name, inner.select) :: inner.common }

def inline (d : Dialect) (q : Query) : String :=
  Token.inline d (q.tokens d)

def bound (d : Dialect) (q : Query) : Statement :=
  Token.bound d (q.tokens d)

end Query

end Vacancy.Sql
