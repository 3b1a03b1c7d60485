import Vacancy.Sql.Dialect
import Vacancy.Text.Upper

/-!
Tokens of a statement and its two texts: one with its literals written out, and one with a
placeholder for each of them and the list of their values.
-/

namespace Vacancy.Sql

inductive Keyword where
  | select
  | distinct
  | source
  | filter
  | groupBy
  | orderBy
  | ascending
  | descending
  | limit
  | offset
  | common
  | alias
  | and
  | not
  | among
  | like
  | choice
  | when
  | result
  | otherwise
  | done
  deriving DecidableEq

def Keyword.text : Keyword → String
  | .select => "SELECT"
  | .distinct => "DISTINCT"
  | .source => "FROM"
  | .filter => "WHERE"
  | .groupBy => "GROUP BY"
  | .orderBy => "ORDER BY"
  | .ascending => "ASC"
  | .descending => "DESC"
  | .limit => "LIMIT"
  | .offset => "OFFSET"
  | .common => "WITH"
  | .alias => "AS"
  | .and => "AND"
  | .not => "NOT"
  | .among => "IN"
  | .like => "LIKE"
  | .choice => "CASE"
  | .when => "WHEN"
  | .result => "THEN"
  | .otherwise => "ELSE"
  | .done => "END"

inductive Symbol where
  | comma
  | star
  | leftParen
  | rightParen
  | eq
  | ne
  | lt
  | gt
  | lte
  | gte
  deriving DecidableEq

def Symbol.text : Symbol → String
  | .comma => ","
  | .star => "*"
  | .leftParen => "("
  | .rightParen => ")"
  | .eq => "="
  | .ne => "<>"
  | .lt => "<"
  | .gt => ">"
  | .lte => "<="
  | .gte => ">="

inductive Token where
  | keyword (k : Keyword)
  | symbol (s : Symbol)
  /-- A truth value that belongs to the statement, not to its data. -/
  | truth (b : Bool)
  | space
  | newline
  | indent (depth : Nat)
  | identifier (name : String)
  | function (name : String)
  | literal (l : Literal)
  | raw (text : String)

namespace Token

def render (d : Dialect) : Token → String
  | .keyword k => k.text
  | .symbol s => s.text
  | .truth b => d.truth b
  | .space => " "
  | .newline => "\n"
  | .indent depth => String.ofList (List.replicate (2 * depth) ' ')
  | .identifier name => quoteIdentifier name
  | .function name => Text.upper name
  | .literal l => d.literal l
  | .raw text => text

def parameter? : Token → Option Literal
  | .literal l => if l.isParameter then some l else none
  | _ => none

end Token

structure Statement where
  text : String
  parameters : List Literal

namespace Token

def inline (d : Dialect) (ts : List Token) : String :=
  String.join (ts.map (render d))

def bindAfter (d : Dialect) (n : Nat) : List Token → Statement
  | [] => ⟨"", []⟩
  | t :: ts =>
    match t.parameter? with
    | some l =>
      let rest := bindAfter d (n + 1) ts
      ⟨d.placeholder (n + 1) ++ rest.text, l :: rest.parameters⟩
    | none =>
      let rest := bindAfter d n ts
      ⟨t.render d ++ rest.text, rest.parameters⟩

def bound (d : Dialect) (ts : List Token) : Statement :=
  bindAfter d 0 ts

def separated : List (List Token) → List Token
  | [] => []
  | [ts] => ts
  | ts :: rest => ts ++ [.symbol .comma, .space] ++ separated rest

end Token

end Vacancy.Sql
