import Vacancy.Failure
import Vacancy.Sql.Relation

/-!
Tables of detail. A row has every column of its table; its cells are what the columns keep of the
values that were given, its id is an integer that no other row has, and it belongs to a run. Rows
stand in the order of their ids.
-/

namespace Vacancy

open Sql

namespace Grain

def affinityOf (t : ColumnType) : Affinity :=
  match t with
  | .text | .date => .text
  | .integer | .boolean => .integer
  | .float => .real

def schema (g : Grain) : Fields :=
  [(idColumn, .integer), (runColumn, .integer), (dateColumn, .text), (areaColumn, .text)] ++
    (g.columns.filter fun c => !structuralColumns.contains c.name).map fun c =>
      (c.name, affinityOf c.type)

end Grain

namespace Table

def kept (g : Grain) (f : String → Value) : Row where
  cells := g.schema.map fun (name, a) => (name, a.store (f name))

def key (r : Row) : Int64 :=
  r.id?.getD 0

structure Holds (g : Grain) (r : Row) : Prop where
  cells : ∃ f, r = kept g f
  id : r.id?.isSome = true
  run : (r.get? runColumn).any (!·.isNull) = true

end Table

structure Table (g : Grain) where
  rows : List Row
  holds : ∀ r ∈ rows, Table.Holds g r
  ascending : rows.Pairwise fun r s => Table.key r < Table.key s

namespace Table

variable {g : Grain}

def empty : Table g :=
  ⟨[], by simp, .nil⟩

instance : Inhabited (Table g) :=
  ⟨empty⟩

def relation (t : Table g) : Relation :=
  ⟨g.schema, t.rows, some idColumn, some runColumn⟩

def add (t : Table g) (r : Row) (h : Holds g r) : Table g where
  rows := t.rows.filter (key · < key r) ++ r :: t.rows.filter (key r < key ·)
  holds := by
    intro s hs
    simp only [List.mem_append, List.mem_cons, List.mem_filter] at hs
    rcases hs with hs | rfl | hs
    · exact t.holds s hs.1
    · exact h
    · exact t.holds s hs.1
  ascending := by
    rw [List.pairwise_append, List.pairwise_cons]
    refine ⟨t.ascending.filter _, ⟨?_, t.ascending.filter _⟩, ?_⟩
    · intro s hs
      simpa using (List.mem_filter.1 hs).2
    · intro s hs u hu
      have hs : key s < key r := by simpa using (List.mem_filter.1 hs).2
      rcases List.mem_cons.1 hu with rfl | hu
      · exact hs
      · have hu : key r < key u := by simpa using (List.mem_filter.1 hu).2
        exact Int64.lt_trans hs hu

def ids (t : Table g) : List Int64 :=
  t.rows.map key

def leastFree (ids : List Int64) : Int64 :=
  let numbers := (List.range (ids.length + 1)).map fun i => Int64.ofNat (i + 1)
  (numbers.find? fun i => !ids.contains i).getD 1

/-- An id above all others. If there is none, any free id would do; the least one is taken. -/
def freshId (t : Table g) : Int64 :=
  match t.ids.getLast? with
  | none => 1
  | some last => if last < Int64.maxValue then last + 1 else leastFree t.ids

/-- The value that a row gives for its id; of several the last one counts. -/
def givenId (given : Row) : Value :=
  ((given.cells.reverse.find? (·.1 == idColumn)).map (·.2)).getD .null

def idFor (t : Table g) (given : Row) : Except SqlError Int64 :=
  match Affinity.integer.store (givenId given) with
  | .null => .ok t.freshId
  | .integer i => .ok i
  | _ => .error .typeMismatch

/-- The values of a new row. Of several values for a column the first one counts. -/
def valueFor (given : Row) (id : Int64) (name : String) : Value :=
  if name = idColumn then .integer id else (given.get? name).getD .null

theorem get?_id_kept (f : String → Value) :
    (kept g f).get? idColumn = some (Affinity.integer.store (f idColumn)) := by
  simp [kept, Grain.schema, Row.get?]

theorem get?_run_kept (f : String → Value) :
    (kept g f).get? runColumn = some (Affinity.integer.store (f runColumn)) := by
  simp [kept, Grain.schema, Row.get?, idColumn, runColumn]

theorem store_integer (i : Int64) : Affinity.integer.store (.integer i) = .integer i :=
  rfl

theorem id?_kept (given : Row) (id : Int64) :
    (kept g (valueFor given id)).id? = some id := by
  simp [Row.id?, get?_id_kept, valueFor, store_integer, Value.toInt64?]

def unknownColumn? (g : Grain) (given : Row) : Option String :=
  given.columns.find? fun name => !g.has name

def noColumns (g : Grain) : SqlError :=
  let start := "INSERT INTO " ++ quoteIdentifier g.table ++ " ("
  .refused (.unexpected ")") (some ⟨start ++ ") VALUES ()", start.length⟩)

/--
Adds a row and returns its id. A failure leaves the table as it is; of several the one that comes
first here is reported.
-/
def insert (t : Table g) (given : Row) : Except StoreError (Int64 × Table g) :=
  match unknownColumn? g given with
  | some name => .error (.unknownColumn name g)
  | none =>
    if given.cells.isEmpty then .error (.sql (noColumns g))
    else
      match t.idFor given with
      | .error e => .error (.sql e)
      | .ok id =>
        if h : ((kept g (valueFor given id)).get? runColumn).any (!·.isNull) = true then
          if t.ids.contains id then .error (.sql (.takenKey g.table idColumn))
          else .ok (id, t.add (kept g (valueFor given id)) ⟨⟨_, rfl⟩, by simp [id?_kept], h⟩)
        else .error (.sql (.missingValue g.table runColumn))

end Table

end Vacancy
