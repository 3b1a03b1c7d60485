import Vacancy.TabularStore

/-!
Stores that record what they are asked. The answers are those of the store underneath.
-/

namespace Vacancy

open Sql

inductive StoreCall where
  | select (g : Grain) (s : Selection)
  | distinct (g : Grain) (column : String) (condition : Option Expr) (direction : Direction)
  | aggregate (g : Grain) (b : Bucketing)

/-- A store's state and the questions that it was asked, the last one first. -/
structure Recorded (σ : Type) where
  state : σ
  calls : List StoreCall := []

namespace Recorded

variable {σ : Type}

def ask (call : StoreCall) (answer : StateM σ α) : StateM (Recorded σ) α := fun r =>
  let (a, state) := answer r.state
  (a, ⟨state, call :: r.calls⟩)

@[simp] theorem calls_ask (call : StoreCall) (answer : StateM σ α) (r : Recorded σ) :
    (ask call answer r).2.calls = call :: r.calls :=
  rfl

@[simp] theorem fst_ask (call : StoreCall) (answer : StateM σ α) (r : Recorded σ) :
    (ask call answer r).1 = (answer r.state).1 :=
  rfl

end Recorded

def TabularStore.recording (store : TabularStore σ) : TabularStore (Recorded σ) where
  select g s := Recorded.ask (.select g s) (store.select g s)
  distinct g column condition direction :=
    Recorded.ask (.distinct g column condition direction)
      (store.distinct g column condition direction)
  aggregate g b := Recorded.ask (.aggregate g b) (store.aggregate g b)

end Vacancy
