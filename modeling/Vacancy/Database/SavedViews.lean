import Vacancy.Failure
import Vacancy.Json.Printer
import Vacancy.View

/-!
Saved views. Each has an id that no other view had before. Style, unit and parameters are saved as
text, which is only understood when the view is loaded.
-/

namespace Vacancy

structure SavedView where
  id : Int64
  run : Int64
  style : String
  grain : String
  title : String
  parameters : String
  deriving Inhabited

namespace SavedView

def ofView (id : Int64) (v : View) : SavedView where
  id := id
  run := v.run
  style := v.style.name
  grain := v.grain.name
  title := v.title
  parameters := (Json.array (v.parameters.map Parameter.toJson)).compact

def readParameters? (s : String) : Option (List Parameter) :=
  (Json.readPart? (.items Parameter.wanted) s).bind (Json.list? Parameter.ofJson?)

def toView? (s : SavedView) : Option View := do
  let parameters ← readParameters? s.parameters
  let style ← Style.ofName? s.style
  let grain ← Grain.ofName? s.grain
  return { id := some s.id, run := s.run, style, grain, title := s.title, parameters }

end SavedView

structure SavedViews where
  /-- In the order of their ids. -/
  entries : List SavedView
  /-- The largest id that was ever given, or zero. -/
  last : Int64
  ascending : entries.Pairwise (·.id < ·.id)
  id_le : ∀ e ∈ entries, e.id ≤ last

namespace SavedViews

def empty : SavedViews :=
  ⟨[], 0, .nil, nofun⟩

def find? (s : SavedViews) (id : Int64) : Option SavedView :=
  s.entries.find? (·.id == id)

/-- Saves a new view and returns its id; the id that the view has is ignored. -/
def insert (s : SavedViews) (v : View) : Except StoreError (Int64 × SavedViews) :=
  if h : s.last < Int64.maxValue then
    let id := s.last + 1
    have lt : s.last < id := by
      rw [Int64.lt_iff_toInt_lt] at h ⊢
      have := Int64.le_toInt s.last
      have := Int64.toInt_maxValue
      rw [Int64.toInt_add, Int64.toInt_one, Int.bmod_eq_of_le] <;> omega
    .ok (id, {
      entries := s.entries ++ [.ofView id v]
      last := id
      ascending := by
        rw [List.pairwise_append]
        refine ⟨s.ascending, by simp, fun e he f hf => ?_⟩
        rw [List.mem_singleton.1 hf]
        exact Int64.lt_of_le_of_lt (s.id_le e he) lt
      id_le := by
        intro e he
        rcases List.mem_append.1 he with he | he
        · exact Int64.le_of_lt (Int64.lt_of_le_of_lt (s.id_le e he) lt)
        · rw [List.mem_singleton.1 he]
          exact Int64.le_refl _ })
  else .error (.sql .full)

def get (s : SavedViews) (id : Int64) : Except StoreError (Option View) :=
  match s.find? id with
  | none => .ok none
  | some e =>
    match e.toView? with
    | some v => .ok (some v)
    | none => .error .json

def modify (s : SavedViews) (id : Int64) (f : SavedView → SavedView) : SavedViews where
  entries := s.entries.map fun e => if e.id = id then { f e with id := e.id } else e
  last := s.last
  ascending := by
    rw [List.pairwise_map]
    exact s.ascending.imp fun h => by split <;> split <;> exact h
  id_le := by
    intro e he
    obtain ⟨d, hd, rfl⟩ := List.mem_map.1 he
    have := s.id_le d hd
    split <;> exact this

def update (s : SavedViews) (id : Int64) (v : View) : SavedViews :=
  s.modify id fun e => .ofView e.id v

def erase (s : SavedViews) (id : Int64) : SavedViews where
  entries := s.entries.filter (·.id ≠ id)
  last := s.last
  ascending := s.ascending.filter _
  id_le e he := s.id_le e (List.mem_filter.1 he).1

def contains (s : SavedViews) (id : Int64) : Bool :=
  (s.find? id).isSome

end SavedViews

end Vacancy
