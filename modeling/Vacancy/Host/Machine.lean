import Vacancy.Host

/-!
A machine in memory: variables, and a tree of files below a working folder. Paths are followed name
by name, and every name but the last has to lead to a folder.
-/

namespace Vacancy

inductive Entry where
  | text (s : String)
  | database (d : Database)
  | folder

/-- The names that lead to a place from the working folder, or from the root after `"/"`. -/
abbrev Place := List String

namespace Place

def parent : Place → Place
  | ["/"] => ["/"]
  | p => p.dropLast

def step (p : Place) (name : String) : Place :=
  if name = "" ∨ name = "." then p
  else if name = ".." then p.parent
  else p ++ [name]

def start (path : String) : Place :=
  if path.startsWith "/" then ["/"] else []

end Place

structure Machine where
  environment : List (String × String) := []
  entries : List (Place × Entry) := []

namespace Machine

def find? (m : Machine) : Place → Option Entry
  | [] | ["/"] => some .folder
  | p => m.entries.lookup p

def put (m : Machine) (p : Place) (e : Entry) : Machine :=
  { m with entries := (p, e) :: m.entries.filter (·.1 ≠ p) }

def follow (m : Machine) (p : Place) : List String → Except FileError Place
  | [] => .ok p
  | name :: names =>
    match m.find? p with
    | some .folder => m.follow (p.step name) names
    | some _ => .error .notFolder
    | none => .error .missing

def place (m : Machine) (path : String) : Except FileError Place :=
  m.follow (Place.start path) (Host.names path)

def entry (m : Machine) (path : String) : Except FileError Entry := do
  match m.find? (← m.place path) with
  | some e => return e
  | none => throw .missing

def isFile (m : Machine) (path : String) : Bool :=
  match m.entry path with
  | .ok (.text _) | .ok (.database _) => true
  | _ => false

def readText (m : Machine) (path : String) : Except FileError String := do
  match ← m.entry path with
  | .text s => return s
  | .database _ => throw .notText
  | .folder => throw .isFolder

def makeFolders (m : Machine) (p : Place) : List String → Option FileError × Machine
  | [] => (none, m)
  | name :: names =>
    let q := p.step name
    match m.find? q with
    | some .folder => m.makeFolders q names
    | some _ => (some (if names.isEmpty then .taken else .notFolder), m)
    | none => (m.put q .folder).makeFolders q names

/-- The place of a database: its path is not followed, a name and `..` after it cancel. -/
def databasePlace (path : String) : Place :=
  (Host.names path).foldl Place.step (Place.start path)

def makeDatabase (l : Location) : Except SqlError Database :=
  if l.isWritable then .ok {} else .error .readOnly

def hasEntry (m : Machine) (path : String) : Bool :=
  path ≠ "" && (m.entry path).isOk

def isBlocked (m : Machine) (p : Place) : Bool :=
  (List.range p.length).any fun n => m.find? (p.take n) matches some (.text _) | some (.database _)

def isEmptyFile (s : String) : Bool :=
  s.utf8ByteSize ≤ 1

def openFile (m : Machine) (l : Location) (path : String) : Except SqlError Machine :=
  let p := databasePlace l.path
  match m.find? p with
  | none =>
    if l.creates ∧ m.find? p.parent matches some .folder then .ok (m.put p (.text ""))
    else .error (.cannotOpen path)
  | some .folder => .error (if l.mode = .readOnly then .unreadable else .cannotOpen path)
  | some _ => .ok m

/-- The database in a file. A file with at most one byte becomes one. -/
def openAt (m : Machine) (l : Location) (path : String) : Except SqlError Database × Machine :=
  let p := databasePlace l.path
  if m.isBlocked p then (.error (.cannotOpen path), m)
  else if l.model.any (!m.hasEntry ·) then (.error .unreadable, m)
  else
    match m.openFile l path with
    | .error e => (.error e, m)
    | .ok m =>
      match m.find? p with
      | some (.database d) => (.ok d, m)
      | some (.text s) =>
        if isEmptyFile s then
          match makeDatabase l with
          | .ok d => (.ok d, m.put p (.database d))
          | .error e => (.error e, m)
        else (.error .notADatabase, m)
      | _ => (.error (.cannotOpen path), m)

def openDatabase (m : Machine) (path : String) : Except StoreError Database × Machine :=
  let parents := Host.parents path
  if parents.any (·.contains '\x00') then (.error (.io FileError.zeroByte.message), m)
  else
    match m.makeFolders (Place.start path) parents with
    | (some e, m) => (.error (.io e.message), m)
    | (none, m) =>
      match Host.location path with
      | .error e => (.error (.sql e), m)
      | .ok l =>
        let (r, m) := if l.isTemporary then (makeDatabase l, m) else m.openAt l path
        (r.mapError .sql, m)

def write (m : Machine) (path : String) (e : Entry) : Machine :=
  let m := (m.makeFolders (Place.start path) (Host.parents path)).2
  match m.place path with
  | .ok p => m.put p e
  | .error _ => m

instance : Host (StateM Machine) where
  valueOf? name := fun m => (m.environment.lookup name, m)
  isFile path := fun m => (m.isFile path, m)
  readText path := fun m => (m.readText path, m)
  openDatabase path := fun m => m.openDatabase path

end Machine

end Vacancy
