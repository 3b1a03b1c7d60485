import Vacancy.Json.Basic

/-!
What of a JSON text is read. Of the rest only the form is checked, so that it may hold what no tree
holds: numbers beyond the doubles, halves of surrogate pairs, and nesting without limit.
-/

namespace Vacancy.Json

inductive Wanted where
  | all
  | nothing
  /-- The same of each item of an array. -/
  | items (each : Wanted)
  /-- The fields of a record, each under any of its spellings. -/
  | fields (named : List (List String × Wanted))
  deriving Inhabited

namespace Wanted

def ofFields (fields : List (List String)) (parts : List (String × Wanted)) : Wanted :=
  .fields (fields.map fun names =>
    (names, (parts.find? fun p => names.contains p.1).elim .all (·.2)))

def isNothing : Wanted → Bool
  | .nothing => true
  | _ => false

def member (k : String) : Wanted → Wanted
  | .all | .items _ => .all
  | .nothing => .nothing
  | .fields named => (named.find? (·.1.contains k)).elim .nothing (·.2)

def item (i : Nat) : Wanted → Wanted
  | .all => .all
  | .nothing => .nothing
  | .items each => each
  | .fields named => named[i]?.elim .all (·.2)

end Wanted

end Vacancy.Json
