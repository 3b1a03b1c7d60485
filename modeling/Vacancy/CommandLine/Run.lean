import Vacancy.Batch
import Vacancy.CommandLine.Invocation
import Vacancy.CommandLine.Report
import Vacancy.Display
import Vacancy.Json.Printer
import Vacancy.Json.Reader

/-!
Running commands. The settings are loaded first, then the database is opened, whatever the command.
-/

namespace Vacancy.CommandLine

open Sql

variable {m : Type → Type} [Monad m] [Host m]

/-! ### Settings -/

def settingsAt (path : String) : m (Except SettingsError Settings) := do
  if ← Host.isFile path then
    match ← Host.readText path with
    | .ok s => return Settings.ofText s
    | .error e => return .error (.unreadable e.message)
  else return .error (.noFile path)

def settingsVariable : String :=
  "SOMA_BI_CONFIG"

def configFolder? (config? home? : Option String) : Option String :=
  match config?.filter (·.startsWith "/") with
  | some folder => some folder
  | none => (home?.filter (· ≠ "")).map (· ++ "/.config")

def settingsAmong : List String → m (Except SettingsError Settings)
  | [] => return .ok {}
  | path :: paths => do
    if ← Host.isFile path then settingsAt path else settingsAmong paths

/-- A file that is named has to be there; of the usual ones none has. -/
def loadSettings (config : Option String) : m (Except SettingsError Settings) := do
  match config.or (← Host.valueOf? settingsVariable) with
  | some path => settingsAt path
  | none =>
    let folder? := configFolder? (← Host.valueOf? "XDG_CONFIG_HOME") (← Host.valueOf? "HOME")
    settingsAmong ("soma-bi.toml" :: (folder?.map (· ++ "/soma-bi/config.toml")).toList)

def databasePath (given : Option String) (s : Settings) : m (Except SettingsError String) := do
  match given with
  | some path => return .ok path
  | none =>
    let values ← Host.values s.variableNames
    return s.databasePath fun name => values.lookup name

/-! ### Commands -/

def readView (path : String) : m (Except Error View) := do
  match ← Host.readText path with
  | .error e => return .error (.unreadableView path e)
  | .ok s =>
    match View.read? s with
    | some v => return .ok v
    | none => return .error (.malformedView path)

def savedView (d : Database) (id : Int64) : Except Error View :=
  match d.views.get id with
  | .ok (some v) => .ok v
  | .ok none => .error (.unknownView id)
  | .error e => .error (.savedView e)

def viewOf (d : Database) : ViewSource → m (Except Error View)
  | .file path => readView path
  | .saved id => return savedView d id

def PageOptions.page (o : PageOptions) (s : Settings) : Page where
  limit := some (o.limit.getD s.defaultLimit)
  offset := some o.offset

def ask (d : Database) (question : StateM Database (Except EngineError α)) : Except Error α :=
  (question d).1.mapError .engine

def query (d : Database) (page : Page) (raw : Bool) (v : View) : Except Error (List String) := do
  let payload ← ask d (Database.store.execute v page)
  return [(if raw then payload else payload.displayed).toJson.pretty]

def explain (dialect : Dialect) (page : Page) (v : View) : Except Error (List String) := do
  let s ← (v.explain page dialect).mapError fun e => .engine (.view e)
  return [s]

def batchLine (rows : List Row) : String :=
  (Json.array (rows.map Row.toJson)).compact

def batchLines : List BatchCursor.Pull → Report
  | [] => {}
  | ⟨some (.ok rows), _⟩ :: ps =>
    let r := batchLines ps
    { r with lines := batchLine rows :: r.lines }
  | ⟨some (.error e), _⟩ :: _ => { error := some (.engine e) }
  | ⟨none, _⟩ :: _ => {}

/-- Every batch has a row, so there are no more of them than rows. -/
def stream (d : Database) (r : BatchRequest) : Report :=
  let n := (d.table r.grain).rows.length + 1
  batchLines ((BatchCursor.ofRequest r).pulls Database.store n d).1

def texts (names : List String) : List String :=
  [(Json.array (names.map .text)).pretty]

def runOn (d : Database) (path : String) (s : Settings) : Command → m Report
  | .query source page raw => do
    return .ofExcept ((← viewOf d source) >>= query d (page.page s) raw)
  | .explain file dialect page => do
    return .ofExcept ((← readView file) >>= explain (dialect.getD s.dialect) (page.page s))
  | .stream scope date areas size =>
    return stream d {
      run := scope.run, grain := scope.grain, date, areas, size := size.getD s.batchSize }
  | .dates scope =>
    return .ofExcept ((ask d (Database.store.referenceDates scope.run scope.grain)).map texts)
  | .areas scope =>
    return .ofExcept ((ask d (Database.store.areaGroups scope.run scope.grain)).map texts)
  | .init => return { lines := ["Initialized " ++ path] }

def runWith (s : Settings) (c : Call) : m Report := do
  match ← databasePath c.database s with
  | .error e => return { error := some (.databasePath e) }
  | .ok path =>
    match ← Host.openDatabase path with
    | .error e => return { error := some (.noDatabase path e) }
    | .ok d => runOn d path s c.command

def runCall (c : Call) : m Report := do
  match ← loadSettings c.config with
  | .error e => return { error := some (.settings e) }
  | .ok s => runWith s c

def version : String :=
  "soma-bi 0.1.0"

def run (args : List String) : m Report :=
  match ofArguments? args with
  | none => return { error := some .usage }
  | some .version => return { lines := [version] }
  | some (.call c) => runCall c

end Vacancy.CommandLine
