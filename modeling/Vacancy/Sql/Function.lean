import Vacancy.Sql.Aggregate
import Vacancy.Sql.Scalar
import Vacancy.Text.Upper

/-!
The functions that a database knows, by their names and the numbers of arguments that they take. A
star between the parentheses stands for no arguments.
-/

namespace Vacancy.Sql

inductive Function where
  | scalar (f : Scalar)
  | aggregate (f : Aggregate)
  /-- Of the rows around a row; without a description of these it may stand nowhere. -/
  | window
  deriving DecidableEq

inductive Arity where
  | exactly (n : Nat)
  | between (m n : Nat)
  | atLeast (n : Nat)

def Arity.admits : Arity → Nat → Bool
  | .exactly m, n => m == n
  | .between l m, n => l ≤ n && n ≤ m
  | .atLeast m, n => m ≤ n

namespace Function

def catalog : List (String × Arity × Function) := [
  ("COUNT", .between 0 1, .aggregate .count),
  ("SUM", .exactly 1, .aggregate .sum),
  ("AVG", .exactly 1, .aggregate .average),
  ("MIN", .exactly 1, .aggregate .least),
  ("MAX", .exactly 1, .aggregate .greatest),
  ("TOTAL", .exactly 1, .aggregate .total),
  ("GROUP_CONCAT", .between 1 2, .aggregate .joined),
  ("STRING_AGG", .exactly 2, .aggregate .joined),
  ("ABS", .exactly 1, .scalar .absolute),
  ("CHAR", .atLeast 0, .scalar .characters),
  ("COALESCE", .atLeast 2, .scalar .coalesce),
  ("CONCAT", .atLeast 1, .scalar .concat),
  ("CONCAT_WS", .atLeast 2, .scalar .joined),
  ("GLOB", .exactly 2, .scalar .glob),
  ("HEX", .exactly 1, .scalar .hex),
  ("IFNULL", .exactly 2, .scalar .coalesce),
  ("IIF", .exactly 3, .scalar .ite),
  ("INSTR", .exactly 2, .scalar .position),
  ("LENGTH", .exactly 1, .scalar .length),
  ("LIKE", .between 2 3, .scalar .like),
  ("LIKELIHOOD", .exactly 2, .scalar .same),
  ("LIKELY", .exactly 1, .scalar .same),
  ("LOWER", .exactly 1, .scalar .lower),
  ("LTRIM", .between 1 2, .scalar .trimStart),
  ("MAX", .atLeast 2, .scalar .greatest),
  ("MIN", .atLeast 2, .scalar .least),
  ("NULLIF", .exactly 2, .scalar .nullIf),
  ("OCTET_LENGTH", .exactly 1, .scalar .byteLength),
  ("QUOTE", .exactly 1, .scalar .quote),
  ("REPLACE", .exactly 3, .scalar .replace),
  ("ROUND", .between 1 2, .scalar .round),
  ("RTRIM", .between 1 2, .scalar .trimEnd),
  ("SIGN", .exactly 1, .scalar .sign),
  ("SOUNDEX", .exactly 1, .scalar .soundex),
  ("SQLITE_VERSION", .exactly 0, .scalar .version),
  ("SUBSTR", .between 2 3, .scalar .substring),
  ("SUBSTRING", .between 2 3, .scalar .substring),
  ("TRIM", .between 1 2, .scalar .trim),
  ("TYPEOF", .exactly 1, .scalar .typeName),
  ("UNICODE", .exactly 1, .scalar .codePoint),
  ("UNLIKELY", .exactly 1, .scalar .same),
  ("UPPER", .exactly 1, .scalar .upper),
  ("CUME_DIST", .exactly 0, .window),
  ("DENSE_RANK", .exactly 0, .window),
  ("FIRST_VALUE", .exactly 1, .window),
  ("LAG", .between 1 3, .window),
  ("LAST_VALUE", .exactly 1, .window),
  ("LEAD", .between 1 3, .window),
  ("NTH_VALUE", .exactly 2, .window),
  ("NTILE", .exactly 1, .window),
  ("PERCENT_RANK", .exactly 0, .window),
  ("RANK", .exactly 0, .window),
  ("ROW_NUMBER", .exactly 0, .window)]

def named? (name : String) (count : Nat) : Option Function :=
  (catalog.find? fun (n, arity, _) => n == Text.upper name && arity.admits count).map (·.2.2)

def isKnown (name : String) : Bool :=
  catalog.any (·.1 == Text.upper name)

end Function

end Vacancy.Sql
