import Vacancy.Catalog
import Vacancy.Parameter
import Vacancy.Plan.Predicate

/-!
The rows that a view or a batch reads: those of one estimation run, restricted term by term.
-/

namespace Vacancy

open Sql

namespace Condition

/-- Percent columns hold fractions of one, while operands for them are written in percent. -/
def rescaled (c : Condition) (column : Option Column) : Condition :=
  if column.any Column.isPercent && c.type.isFloat then c.mapNumbers (· / 100.0) else c

def filterColumn (c : Condition) (g : Grain) : Except Degradation String :=
  match c.column with
  | none => .error .missingColumn
  | some name => if g.has name then .ok name else .error (.unknownColumn name)

def filterPredicate (c : Condition) (g : Grain) : Except Degradation Predicate := do
  let name ← c.filterColumn g
  (c.rescaled (g.column? name)).compile name

def filterTerm? (c : Condition) (g : Grain) : Option Expr :=
  (c.filterPredicate g).toOption.map Predicate.toExpr

end Condition

structure Scope where
  grain : Grain
  terms : List Expr

namespace Scope

def ofRun (grain : Grain) (run : Int64) : Scope :=
  ⟨grain, [.binary .eq (.column runColumn) (.integer run)]⟩

def add (s : Scope) (terms : List Expr) : Scope :=
  { s with terms := s.terms ++ terms }

def yearTerms (range : YearRange) : List Expr :=
  (range.startDate?.map fun date => Expr.binary .gte (.column dateColumn) (.text date)).toList ++
    (range.lastDate?.map fun date => Expr.binary .lte (.column dateColumn) (.text date)).toList

/-- Each side of the range restricts on its own. -/
def year (s : Scope) (range : Option YearRange) : Scope :=
  s.add (range.elim [] yearTerms)

def referenceDate (s : Scope) (date : Option String) : Scope :=
  s.add (date.map fun date => Expr.binary .eq (.column dateColumn) (.text date)).toList

def after (s : Scope) (cursor : Option Int64) : Scope :=
  s.add (cursor.map fun id => Expr.binary .gt (.column idColumn) (.integer id)).toList

/-- The rows of the areas; of all areas if none is named. -/
def areas (s : Scope) (names : List String) : Scope :=
  s.add (if names.isEmpty then [] else [.among (.column areaColumn) (names.map .text)])

def filters (s : Scope) (conditions : List Condition) : Scope :=
  s.add (conditions.filterMap (·.filterTerm? s.grain))

def predicate (s : Scope) : Option Expr :=
  Expr.conjunction s.terms

end Scope

end Vacancy
