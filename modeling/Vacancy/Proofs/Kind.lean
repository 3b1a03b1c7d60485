import Vacancy.View

/-!
Kinds of parameters. Most readings of a view take the first parameter of their kind, and a kind that
is read so has one key for all its parameters.
-/

namespace Vacancy

theorem Slot.key_injective {s t : Slot} (h : s.key = t.key) : s = t := by
  have := congrArg Slot.ofKey? h
  simpa using this

namespace Parameter

inductive Kind where
  | column (slot : Slot)
  | table
  | filter
  | group
  | aggregation
  | year
  | areas
  | unknown
  deriving DecidableEq

def kind : Parameter → Kind
  | .column slot _ => .column slot
  | .table _ => .table
  | .filter _ _ => .filter
  | .group _ _ _ => .group
  | .aggregation _ => .aggregation
  | .year _ => .year
  | .areas _ => .areas
  | .unknown _ => .unknown

/-- Kinds of which only the first parameter counts. -/
def Kind.isSingle : Kind → Bool
  | .filter | .group | .unknown => false
  | _ => true

/-- The key of all parameters of the kind, if it has one for them. -/
def Kind.key? : Kind → Option String
  | .column slot => some slot.key
  | .table => some tableKey
  | .aggregation => some aggregationKey
  | .year => some yearKey
  | .areas => some areasKey
  | .filter | .group | .unknown => none

theorem key_of_kind {k : Kind} {key : String} (hk : k.key? = some key) {p : Parameter}
    (hp : p.kind = k) : p.key = key := by
  subst hp
  cases p <;> simp_all [kind, Kind.key?, Parameter.key]

theorem findSome?_eq_bind_find? {f : Parameter → Option β} {k : Kind}
    (hf : ∀ p, (f p).isSome = decide (p.kind = k)) (ps : List Parameter) :
    ps.findSome? f = (ps.find? (·.kind = k)).bind f := by
  induction ps with
  | nil => rfl
  | cons p ps ih =>
    have hp := hf p
    rw [List.findSome?_cons, List.find?_cons]
    cases hfp : f p with
    | none =>
      rw [hfp, Option.isSome_none] at hp
      rw [← hp]
      exact ih
    | some b =>
      rw [hfp, Option.isSome_some] at hp
      rw [← hp]
      exact hfp.symm

end Parameter

namespace View

def first? (v : View) (k : Parameter.Kind) : Option Parameter :=
  v.parameters.find? (·.kind = k)

theorem kind_of_first? {v : View} {k : Parameter.Kind} {p : Parameter} (h : v.first? k = some p) :
    p.kind = k := by
  simpa using List.find?_some h

theorem findSome?_eq_bind_first? {f : Parameter → Option β} {k : Parameter.Kind}
    (hf : ∀ p, (f p).isSome = decide (p.kind = k)) (v : View) :
    v.parameters.findSome? f = (v.first? k).bind f :=
  Parameter.findSome?_eq_bind_find? hf v.parameters

theorem column?_eq_first? (v : View) (slot : Slot) :
    v.column? slot = match v.first? (.column slot) with
      | some (.column _ name) => some name
      | _ => none := by
  rw [column?, findSome?_eq_bind_first? (k := .column slot)]
  · cases h : v.first? (.column slot) with
    | none => rfl
    | some p =>
      have := kind_of_first? h
      cases p <;> simp_all [Parameter.kind]
  · intro p
    cases p with
    | column s name =>
      dsimp only
      split <;> simp_all [Parameter.kind]
    | _ => rfl

theorem tableColumns?_eq_first? (v : View) :
    v.tableColumns? = match v.first? .table with
      | some (.table names) => some names
      | _ => none := by
  rw [tableColumns?, findSome?_eq_bind_first? (k := .table)]
  · cases v.first? .table with
    | none => rfl
    | some p => cases p <;> rfl
  · intro p
    cases p <;> rfl

theorem aggregation_eq_first? (v : View) :
    v.aggregation = match v.first? .aggregation with
      | some (.aggregation a) => a
      | _ => .average := by
  rw [aggregation, findSome?_eq_bind_first? (k := .aggregation)]
  · cases v.first? .aggregation with
    | none => rfl
    | some p => cases p <;> rfl
  · intro p
    cases p <;> rfl

theorem year?_eq_first? (v : View) :
    v.year? = match v.first? .year with
      | some (.year range) => some range
      | _ => none := by
  rw [year?, findSome?_eq_bind_first? (k := .year)]
  · cases v.first? .year with
    | none => rfl
    | some p => cases p <;> rfl
  · intro p
    cases p <;> rfl

theorem areas_eq_first? (v : View) :
    v.areas = match v.first? .areas with
      | some (.areas names) => names
      | _ => [] := by
  rw [areas, findSome?_eq_bind_first? (k := .areas)]
  · cases v.first? .areas with
    | none => rfl
    | some p => cases p <;> rfl
  · intro p
    cases p <;> rfl

end View

end Vacancy
