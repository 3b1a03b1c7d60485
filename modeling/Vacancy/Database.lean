import Vacancy.Database.SavedViews
import Vacancy.Database.Table
import Vacancy.Sql.Execution
import Vacancy.TabularStore

/-!
A database: a table of detail for each grain, and saved views. It answers what plans ask by running
their queries on its tables.
-/

namespace Vacancy

open Sql

structure Database where
  buildings : Table .building := .empty
  areas : Table .area := .empty
  views : SavedViews := .empty

namespace Database

instance : Inhabited Database :=
  ⟨{}⟩

def table (d : Database) : (g : Grain) → Table g
  | .building => d.buildings
  | .area => d.areas

def withTable (d : Database) : (g : Grain) → Table g → Database
  | .building, t => { d with buildings := t }
  | .area, t => { d with areas := t }

@[simp] theorem table_withTable (d : Database) (g : Grain) (t : Table g) :
    (d.withTable g t).table g = t := by
  cases g <;> rfl

theorem table_withTable_of_ne (d : Database) {g h : Grain} (t : Table g) (ne : h ≠ g) :
    (d.withTable g t).table h = d.table h := by
  cases g <;> cases h <;> simp_all [table, withTable]

def relation (d : Database) (name : String) : Relation :=
  if name = Grain.building.table then d.buildings.relation
  else if name = Grain.area.table then d.areas.relation
  else { fields := [], rows := [] }

theorem relation_table (d : Database) (g : Grain) : d.relation g.table = (d.table g).relation := by
  cases g <;> simp [relation, table, Grain.table]

def rows (d : Database) (q : Query) : Except StoreError (List Row) :=
  match q.run d.relation with
  | .ok rel => .ok rel.rows
  | .error e => .error (.sql e)

def distinctQuery (g : Grain) (column : String) (condition : Option Expr) (direction : Direction) :
    Query where
  select := {
    items := [⟨.column column, none⟩]
    distinct := true
    source := some g.table
    condition
    order := [⟨.column column, direction⟩] }

def pairOf (r : Row) : Value × Value :=
  let p := Point.ofRow r
  (p.x, p.y)

def store : TabularStore Database where
  select g s := fun d => (d.rows (s.toQuery g), d)
  distinct g column condition direction := fun d =>
    ((d.rows (distinctQuery g column condition direction)).map fun rows =>
      rows.filterMap (·.values.head?), d)
  aggregate g b := fun d => ((d.rows (b.toQuery g)).map fun rows => rows.map pairOf, d)

def insert (d : Database) (g : Grain) (r : Row) : Except StoreError (Int64 × Database) :=
  match (d.table g).insert r with
  | .ok (id, t) => .ok (id, d.withTable g t)
  | .error e => .error e

/-- Adds rows one after the other. Those before a failure stay. -/
def insertRows (d : Database) (g : Grain) : List Row → Except StoreError (List Int64) × Database
  | [] => (.ok [], d)
  | r :: rs =>
    match d.insert g r with
    | .error e => (.error e, d)
    | .ok (id, d) =>
      let (ids, d) := d.insertRows g rs
      (ids.map (id :: ·), d)

def insertView (d : Database) (v : View) : Except StoreError (Int64 × Database) :=
  match d.views.insert v with
  | .ok (id, views) => .ok (id, { d with views })
  | .error e => .error e

end Database

end Vacancy
