import Vacancy.Database
import Vacancy.Json.Printer
import Vacancy.Json.Reader

/-!
Databases as files. A file holds a JSON tree of the rows and the saved views, behind a byte that no
text in UTF-8 begins with. Rows are inserted anew when a file is read, so it cannot break the
tables.
-/

namespace Vacancy

def Value.toSnapshot : Value → Json
  | .real x => .object [("bits", .int x.toBits.toNat)]
  | v => v.toJson

def Value.ofSnapshot? : Json → Option Value
  | .object [("bits", .int n)] => some (.real (Float.ofBits (UInt64.ofNat n.toNat)))
  | j => Value.ofJson? j

namespace Row

def toSnapshot (r : Row) : Json :=
  .object (r.cells.map fun (name, v) => (name, v.toSnapshot))

def ofSnapshot? : Json → Option Row
  | .object ms => do
    return ⟨← ms.mapM fun (name, j) => return (name, ← Value.ofSnapshot? j)⟩
  | _ => none

end Row

namespace SavedView

def toSnapshot (s : SavedView) : Json :=
  .object [("id", .int s.id.toInt), ("run", .int s.run.toInt), ("style", .text s.style),
    ("grain", .text s.grain), ("title", .text s.title), ("parameters", .text s.parameters)]

def ofSnapshot? (j : Json) : Option SavedView :=
  match j.record? [["id"], ["run"], ["style"], ["grain"], ["title"], ["parameters"]] with
  | some [id, run, style, grain, title, parameters] => do
    let id ← Json.required Json.int64? id
    let run ← Json.required Json.int64? run
    let style ← Json.required Json.text? style
    let grain ← Json.required Json.text? grain
    let title ← Json.required Json.text? title
    let parameters ← Json.required Json.text? parameters
    return { id, run, style, grain, title, parameters }
  | _ => none

end SavedView

def SavedViews.ofEntries? (entries : List SavedView) (last : Int64) : Option SavedViews :=
  if h : entries.Pairwise (·.id < ·.id) ∧ ∀ e ∈ entries, e.id ≤ last then
    some { entries, last, ascending := h.1, id_le := h.2 }
  else none

namespace Database

def toSnapshot (d : Database) : Json :=
  .object [
    ("buildings", .array (d.buildings.rows.map Row.toSnapshot)),
    ("areas", .array (d.areas.rows.map Row.toSnapshot)),
    ("views", .array (d.views.entries.map SavedView.toSnapshot)),
    ("last", .int d.views.last.toInt)]

def insertAll? (g : Grain) (rows : List Row) (d : Database) : Option Database :=
  match d.insertRows g rows with
  | (.ok _, d) => some d
  | (.error _, _) => none

def ofSnapshot? (j : Json) : Option Database :=
  match j.record? [["buildings"], ["areas"], ["views"], ["last"]] with
  | some [buildings, areas, entries, last] => do
    let buildings ← Json.required (Json.list? Row.ofSnapshot?) buildings
    let areas ← Json.required (Json.list? Row.ofSnapshot?) areas
    let entries ← Json.required (Json.list? SavedView.ofSnapshot?) entries
    let views ← SavedViews.ofEntries? entries (← Json.required Json.int64? last)
    insertAll? .area areas (← insertAll? .building buildings { views })
  | _ => none

def mark : UInt8 := 0xFF

def toBytes (d : Database) : ByteArray :=
  ⟨#[mark]⟩ ++ d.toSnapshot.compact.toUTF8

/-- The database in a file; an empty file is an empty database. -/
def ofBytes? (bytes : ByteArray) : Option Database :=
  if bytes.isEmpty then some {}
  else if bytes[0]? = some mark then do
    ofSnapshot? (← Json.read? (← String.fromUTF8? (bytes.extract 1 bytes.size)))
  else none

end Database

end Vacancy
