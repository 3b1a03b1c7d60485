import Vacancy.Failure
import Vacancy.Payload
import Vacancy.Plan

/-!
Stores of rows and what is run on them. A store answers three kinds of question and may change its
state with every one; plans turn its answers into payloads.
-/

namespace Vacancy

open Sql

abbrev Answer (σ α : Type) := StateM σ (Except StoreError α)

structure TabularStore (σ : Type) where
  select : Grain → Selection → Answer σ (List Row)
  /-- The different values of a column among the rows that meet a condition. -/
  distinct : Grain → String → Option Expr → Direction → Answer σ (List Value)
  /-- A label and an aggregate for each bucket, in the order of the rules. -/
  aggregate : Grain → Bucketing → Answer σ (List (Value × Value))

namespace TabularStore

variable {σ : Type} (store : TabularStore σ)

def conclude (f : α → β) (answer : Answer σ α) : StateM σ (Except EngineError β) := do
  match ← answer with
  | .ok a => return .ok (f a)
  | .error e => return .error (.store e)

def read (g : Grain) : Reading → StateM σ (Except EngineError Payload)
  | .table columns selection => conclude (.table columns) (store.select g selection)
  | .points x y a selection =>
    conclude (fun rows => .chart (rows.map Point.ofRow) x y a true) (store.select g selection)
  | .buckets x y bucketing =>
    let points (buckets : List (Value × Value)) : List Point := buckets.map fun (x, y) => ⟨x, y⟩
    conclude (fun buckets => .chart (points buckets) x y bucketing.aggregation false)
      (store.aggregate g bucketing)

def execute (v : View) (page : Page) : StateM σ (Except EngineError Payload) :=
  match v.plan page with
  | .ok plan => store.read plan.grain plan.reading
  | .error e => return .error (.view e)

def distinctOf (run : Int64) (g : Grain) (column : String) (direction : Direction)
    (f : List Value → List String) : StateM σ (Except EngineError (List String)) :=
  if run ≤ 0 then return .error (.view .missingRun)
  else conclude f (store.distinct g column (Scope.ofRun g run).predicate direction)

def referenceDates (run : Int64) (g : Grain) : StateM σ (Except EngineError (List String)) :=
  store.distinctOf run g dateColumn .descending (·.filterMap Value.toText?)

def areaName? : Value → Option String
  | .text s => if s = "" then none else some s
  | _ => none

def areaGroups (run : Int64) (g : Grain) : StateM σ (Except EngineError (List String)) :=
  store.distinctOf run g areaColumn .ascending (·.filterMap areaName?)

end TabularStore

end Vacancy
