/-!
TOML documents. A document is a list of statements that put values into tables; each table remembers
how it came about, since that decides which statements may add to it.
-/

namespace Vacancy

inductive Toml.Origin where
  /-- Written as a value; nothing is added to it later. -/
  | inline
  /-- On the way to the table of a header. -/
  | implied
  /-- On the way to the value of a dotted key. -/
  | dotted
  /-- The table of a header, or the document. -/
  | header
  deriving DecidableEq

inductive Toml where
  | text (s : String)
  | integer (n : Int)
  | real (x : Float)
  | bool (b : Bool)
  /-- A number without a value. It does no harm as long as nobody reads it. -/
  | noValue
  /-- A date, a time or both, as it is written. -/
  | moment (written : String)
  /-- Only the arrays that headers make are growing. -/
  | array (growing : Bool) (items : List Toml)
  | table (origin : Toml.Origin) (members : List (String × Toml))
  deriving Inhabited

namespace Toml

mutual

def isReadable : Toml → Bool
  | .noValue => false
  | .array _ items => areReadable items
  | .table _ members => haveReadable members
  | _ => true

def areReadable : List Toml → Bool
  | [] => true
  | t :: ts => isReadable t && areReadable ts

def haveReadable : List (String × Toml) → Bool
  | [] => true
  | (_, t) :: ms => isReadable t && haveReadable ms

end

structure Path where
  parents : List String
  name : String

def Path.names (p : Path) : List String :=
  p.parents ++ [p.name]

inductive Statement where
  /-- `[path]`: a table. -/
  | table (path : Path)
  /-- `[[path]]`: one more table at the end of an array. -/
  | element (path : Path)
  /-- `path = value`, in the table of the last header. -/
  | assignment (path : Path) (value : Toml)

abbrev Members := List (String × Toml)

def put (k : String) (v : Toml) : Members → Members
  | [] => [(k, v)]
  | m :: ms => if m.1 = k then (k, v) :: ms else m :: put k v ms

/--
Changes the members of the table that the names lead to; a growing array leads to its last table,
and tables that are missing are made. Dotted keys do not lead into the tables of headers.
-/
def modifyAt? (dotted : Bool) (f : Origin → Members → Option Members) :
    List String → Origin → Members → Option Members
  | [], o, ms => f o ms
  | k :: ks, _, ms =>
    match ms.lookup k with
    | none =>
      let o := if dotted then .dotted else .implied
      (modifyAt? dotted f ks o []).map fun us => put k (.table o us) ms
    | some (.table o us) =>
      if o = .inline ∨ (dotted ∧ o = .header) then none
      else (modifyAt? dotted f ks o us).map fun us => put k (.table o us) ms
    | some (.array true items) =>
      match items.getLast? with
      | some (.table o us) =>
        if dotted ∧ o = .header then none
        else
          (modifyAt? dotted f ks o us).map fun us =>
            put k (.array true (items.dropLast ++ [.table o us])) ms
      | _ => none
    | some _ => none

/-- A header's table may have been implied before, but there is no other with its name. -/
def define? (name : String) (_ : Origin) (ms : Members) : Option Members :=
  match ms.lookup name with
  | none => some (put name (.table .header []) ms)
  | some (.table .implied us) => some (put name (.table .header us) ms)
  | some _ => none

def append? (name : String) (_ : Origin) (ms : Members) : Option Members :=
  match ms.lookup name with
  | none => some (put name (.array true [.table .header []]) ms)
  | some (.array true items) => some (put name (.array true (items ++ [.table .header []])) ms)
  | some _ => none

/-- A name is given one value; dotted keys keep to the tables that dotted keys made. -/
def assign? (p : Path) (v : Toml) : Origin → Members → Option Members :=
  modifyAt? true (fun o ms =>
    if (o = .dotted ↔ p.parents ≠ []) ∧ (ms.lookup p.name).isNone then some (put p.name v ms)
    else none) p.parents

def members? (current : List String) : List Statement → Members → Option Members
  | [], ms => some ms
  | .table p :: ss, ms =>
    (modifyAt? false (define? p.name) p.parents .header ms).bind (members? p.names ss)
  | .element p :: ss, ms =>
    (modifyAt? false (append? p.name) p.parents .header ms).bind (members? p.names ss)
  | .assignment p v :: ss, ms =>
    (modifyAt? false (assign? p v) current .header ms).bind (members? current ss)

def ofStatements? (ss : List Statement) : Option Toml :=
  (members? [] ss []).map (.table .header)

def ofAssignments? (ps : List (Path × Toml)) : Option Toml :=
  (members? [] (ps.map fun (p, v) => .assignment p v) []).map (.table .inline)

end Toml

end Vacancy
