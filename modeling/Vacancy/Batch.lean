import Vacancy.TabularStore

/-!
Batches: the rows of a run in the order of their ids, some at a time. Each batch starts above the
largest id before it, so a stream can be taken up again from its request.
-/

namespace Vacancy

structure BatchRequest where
  run : Int64
  grain : Grain
  date : Option String := none
  areas : List String := []
  filters : List Condition := []
  /-- The largest id that was returned. -/
  cursor : Option Int64 := none
  size : UInt64
  deriving Inhabited

namespace BatchRequest

def selection (r : BatchRequest) : Except ViewError Selection :=
  if r.run ≤ 0 then .error .missingRun
  else if r.size = 0 then .error .emptyBatch
  else
    let dated := (Scope.ofRun r.grain r.run).referenceDate r.date
    let scope := (dated.areas r.areas).filters r.filters
    .ok {
      columns := []
      condition := (scope.after r.cursor).predicate
      order := [idOrder]
      page := { limit := some r.size } }

def toJson (r : BatchRequest) : Json :=
  .object ([("dataSetResultId", .int r.run.toInt), ("unit", r.grain.toJson)] ++
    Json.member? "referenceDate" .text r.date ++
    [("areas", .array (r.areas.map .text)), ("filters", .array (r.filters.map Condition.toJson))] ++
    Json.member? "cursor" (fun i : Int64 => .int i.toInt) r.cursor ++
    [("batchSize", .int r.size.toNat)])

def fields : List (List String) :=
  [["dataSetResultId", "datasetResultId"], ["unit"], ["referenceDate"], ["areas"], ["filters"],
    ["cursor"], ["batchSize"]]

def ofJson? (j : Json) : Option BatchRequest :=
  match j.record? fields with
  | some [run, grain, date, areas, filters, cursor, size] => do
    let run ← Json.required Json.int64? run
    let grain ← Json.required Grain.ofJson? grain
    let date ← Json.optional Json.text? date
    let areas ← Json.defaulted [] (Json.list? Json.text?) areas
    let filters ← Json.defaulted [] (Json.list? Condition.ofJson?) filters
    let cursor ← Json.optional Json.int64? cursor
    let size ← Json.required Json.uint64? size
    return { run, grain, date, areas, filters, cursor, size }
  | _ => none

def wanted : Json.Wanted :=
  .ofFields fields [("filters", .items Condition.wanted)]

def read? (s : String) : Option BatchRequest :=
  (Json.readPart? wanted s).bind ofJson?

end BatchRequest

def TabularStore.nextBatch (store : TabularStore σ) (r : BatchRequest) :
    StateM σ (Except EngineError (List Row)) :=
  match r.selection with
  | .ok selection => conclude id (store.select r.grain selection)
  | .error e => return .error (.view e)

structure BatchCursor where
  request : BatchRequest
  fetched : Nat := 0
  finished : Bool := false

namespace BatchCursor

def ofRequest (r : BatchRequest) : BatchCursor :=
  { request := r }

def position (c : BatchCursor) : Option Int64 :=
  c.request.cursor

def resume (c : BatchCursor) : BatchRequest :=
  c.request

def advance (c : BatchCursor) :
    Except EngineError (List Row) → Option (Except EngineError (List Row)) × BatchCursor
  | .error e => (some (.error e), { c with finished := true })
  | .ok rows =>
    match rows.getLast? with
    | none => (none, { c with finished := true })
    | some row =>
      match row.id? with
      | none => (some (.error (.store .missingCursor)), { c with finished := true })
      | some id =>
        (some (.ok rows),
          { c with
            request := { c.request with cursor := some id }
            finished := decide (rows.length < c.request.size.toNat) })

/-- The next batch, or none at the end. A short batch is the last one; so is a failure. -/
def next (store : TabularStore σ) (c : BatchCursor) :
    StateM σ (Option (Except EngineError (List Row)) × BatchCursor) := do
  if c.finished then return (none, c)
  else
    let answer ← store.nextBatch c.request
    return ({ c with fetched := c.fetched + 1 } : BatchCursor).advance answer

structure Pull where
  batch : Option (Except EngineError (List Row))
  cursor : BatchCursor

def pulls (store : TabularStore σ) : Nat → BatchCursor → StateM σ (List Pull)
  | 0, _ => return []
  | n + 1, c => do
    let (batch, c) ← c.next store
    if batch.isSome then return ⟨batch, c⟩ :: (← pulls store n c)
    else return [⟨batch, c⟩]

end BatchCursor

end Vacancy
