import Vacancy.Proofs.Stream
import Vacancy.TabularStore.Recording

/-!
The turns of a cursor, whatever the store answers. As long as no answer has ended the stream, each
turn asks the store for the rows behind the position, and hands out what it answers or its failure;
the position follows the rows that are handed out and nothing else. Once an answer has ended the
stream, no turn changes anything. The fetches that a cursor counts are the selections that it makes,
unless its request is not valid.
-/

namespace Vacancy

open Sql

namespace BatchRequest

/-- A request that is checked to be one of a run, and for some rows at a time. -/
structure Valid (r : BatchRequest) : Prop where
  run : 0 < r.run
  size : r.size ≠ 0

/-- A selection of the rows that are asked for behind a position, in the order of their ids. -/
structure SelectsAfter (r : BatchRequest) (position : Option Int64) (s : Selection) : Prop where
  columns : s.columns = []
  condition : s.condition = Expr.conjunction (r.scope.terms ++
    (position.map fun id => .binary .gt (.column idColumn) (.integer id)).toList)
  order : s.order = [idOrder]
  page : s.page = { limit := some r.size }

variable {r : BatchRequest}

theorem Valid.size_pos (h : r.Valid) : 0 < r.size.toNat := by
  rw [Nat.pos_iff_ne_zero]
  exact fun hzero => h.size (UInt64.toNat_inj.1 hzero)

theorem Valid.exists_selection (h : r.Valid) (position : Option Int64) :
    ∃ s, ({ r with cursor := position } : BatchRequest).selection = .ok s ∧
      r.SelectsAfter position s := by
  let s : Selection := ⟨[], (r.scope.after position).predicate, [idOrder], { limit := some r.size }⟩
  refine ⟨s, ?_, ⟨rfl, rfl, rfl, rfl⟩⟩
  rw [selection, if_neg (Int64.not_le.2 h.run), if_neg h.size]
  rfl

theorem exists_error (h : ¬r.Valid) : ∃ e, r.selection = .error e := by
  unfold selection
  split
  case isTrue => exact ⟨_, rfl⟩
  case isFalse hrun =>
    split
    case isTrue => exact ⟨_, rfl⟩
    case isFalse hsize => exact absurd ⟨Int64.not_le.1 hrun, hsize⟩ h

end BatchRequest

namespace BatchCursor

/-- An answer that ends a stream of batches of a size. -/
inductive Ends (size : UInt64) : Except StoreError (List Row) → Prop where
  | failed (e : StoreError) : Ends size (.error e)
  | empty : Ends size (.ok [])
  | short {rows : List Row} (h : rows.length < size.toNat) : Ends size (.ok rows)
  | unmarked {rows : List Row} {row : Row} (hlast : rows.getLast? = some row)
      (hid : row.id? = none) : Ends size (.ok rows)

/-- What a cursor at a position hands out for an answer, and its position then. -/
inductive HandsOut (position : Option Int64) : Except StoreError (List Row) →
    Option (Except EngineError (List Row)) → Option Int64 → Prop where
  | failed (e : StoreError) : HandsOut position (.error e) (some (.error (.store e))) position
  | empty : HandsOut position (.ok []) none position
  | unmarked {rows : List Row} {row : Row} (hlast : rows.getLast? = some row)
      (hid : row.id? = none) :
      HandsOut position (.ok rows) (some (.error (.store .missingCursor))) position
  | batch {rows : List Row} {row : Row} {id : Int64} (hlast : rows.getLast? = some row)
      (hid : row.id? = some id) : HandsOut position (.ok rows) (some (.ok rows)) (some id)

variable {σ : Type}

/--
A turn of the cursor of a request, on a store that records what it is asked: the answer of the
store, if it was asked, what was handed out, and the cursor and the store afterwards.
-/
inductive Turn (store : TabularStore σ) (request : BatchRequest) (c : BatchCursor)
    (s : Recorded σ) : Option (Except StoreError (List Row)) →
      Option (Except EngineError (List Row)) → BatchCursor → Recorded σ → Prop where
  | idle (h : c.finished = true) : Turn store request c s none none c s
  | asks {selection answer state item position finished} (h : c.finished = false)
      (hselection : request.SelectsAfter c.position selection)
      (hanswer : store.select request.grain selection s.state = (answer, state))
      (hitem : HandsOut c.position answer item position)
      (hfinished : finished = true ↔ Ends request.size answer) :
      Turn store request c s (some answer) item
        ⟨{ request with cursor := position }, c.fetched + 1, finished⟩
        ⟨state, .select request.grain selection :: s.calls⟩

def after (store : TabularStore σ) (c : BatchCursor) (s : σ) : Nat → BatchCursor × σ
  | 0 => (c, s)
  | n + 1 =>
    let (c, s) := after store c s n
    let ((_, c), s) := c.next store s
    (c, s)

def item (store : TabularStore σ) (c : BatchCursor) (s : σ) (n : Nat) :
    Option (Except EngineError (List Row)) :=
  let (c, s) := after store c s n
  (c.next store s).1.1

theorem after_succ (store : TabularStore σ) (c : BatchCursor) (s : σ) (n : Nat) :
    after store c s (n + 1) =
      (((after store c s n).1.next store (after store c s n).2).1.2,
        ((after store c s n).1.next store (after store c s n).2).2) :=
  rfl

theorem ends_ok_iff_of_id {size : UInt64} {rows : List Row} {row : Row}
    (hlast : rows.getLast? = some row) (hid : row.id?.isSome = true) :
    Ends size (.ok rows) ↔ rows.length < size.toNat := by
  constructor
  · intro h
    cases h with
    | empty => simp at hlast
    | short h => exact h
    | unmarked hlast' hid' =>
      rw [hlast, Option.some.injEq] at hlast'
      simp [hlast', hid'] at hid
  · exact .short

theorem handsOut_advance (c : BatchCursor) (answer : Except StoreError (List Row)) :
    ∃ item position finished,
      c.advance (answer.mapError .store) =
        (item, { c with request := { c.request with cursor := position }, finished }) ∧
      HandsOut c.position answer item position ∧
      (finished = true ↔ Ends c.request.size answer) := by
  cases answer with
  | error e => exact ⟨_, c.position, true, rfl, .failed e, by simp [Ends.failed]⟩
  | ok rows =>
    cases hlast : rows.getLast? with
    | none =>
      obtain rfl := List.getLast?_eq_none_iff.1 hlast
      exact ⟨_, c.position, true, rfl, .empty, by simp [Ends.empty]⟩
    | some row =>
      cases hid : row.id? with
      | none =>
        refine ⟨_, c.position, true, ?_, .unmarked hlast hid, by simp [Ends.unmarked hlast hid]⟩
        simp only [advance, Except.mapError, hlast, hid]
        rfl
      | some id =>
        refine ⟨_, some id, decide (rows.length < c.request.size.toNat), ?_, .batch hlast hid, ?_⟩
        · simp only [advance, Except.mapError, hlast, hid]
        · rw [ends_ok_iff_of_id hlast (by simp [hid]), decide_eq_true_iff]

theorem next_recording {c : BatchCursor} {selection : Selection}
    (hselection : c.request.selection = .ok selection) (hfinished : c.finished = false)
    (store : TabularStore σ) (s : Recorded σ) :
    let answer := store.select c.request.grain selection s.state
    c.next store.recording s =
      (({ c with fetched := c.fetched + 1 } : BatchCursor).advance (answer.1.mapError .store),
        ⟨answer.2, .select c.request.grain selection :: s.calls⟩) := by
  have hbatch : store.recording.nextBatch c.request s =
      ((store.select c.request.grain selection s.state).1.mapError .store,
        ⟨(store.select c.request.grain selection s.state).2,
          .select c.request.grain selection :: s.calls⟩) := by
    simp only [TabularStore.nextBatch, hselection, TabularStore.conclude_eq, Except.map_id]
    rfl
  simp only [next, hfinished, Bool.false_eq_true, if_false, bind, StateT.bind, hbatch]
  rfl

theorem turn_next {request : BatchRequest} (hvalid : request.Valid) {c : BatchCursor}
    (hrequest : c.request = { request with cursor := c.position }) (store : TabularStore σ)
    (s : Recorded σ) :
    ∃ answer,
      Turn store request c s answer (c.next store.recording s).1.1 (c.next store.recording s).1.2
        (c.next store.recording s).2 := by
  cases hfinished : c.finished with
  | true =>
    rw [next_of_finished hfinished]
    exact ⟨none, .idle hfinished⟩
  | false =>
    obtain ⟨selection, hselection, hafter⟩ := hvalid.exists_selection c.position
    rw [← hrequest] at hselection
    have hnext := next_recording hselection hfinished store s
    have hgrain : c.request.grain = request.grain := by rw [hrequest]
    have hsize : c.request.size = request.size := by rw [hrequest]
    rw [hgrain] at hnext
    obtain ⟨item, position, finished, hadvance, hitem, hends⟩ :=
      ({ c with fetched := c.fetched + 1 } : BatchCursor).handsOut_advance
        (store.select request.grain selection s.state).1
    refine ⟨some (store.select request.grain selection s.state).1, ?_⟩
    rw [hnext, hadvance, hrequest]
    exact .asks hfinished hafter rfl hitem (hsize ▸ hends)

section

variable {store : TabularStore σ} {request : BatchRequest} {c c' : BatchCursor}
  {s s' : Recorded σ} {answer : Option (Except StoreError (List Row))}
  {item : Option (Except EngineError (List Row))}

theorem Turn.request_eq (h : Turn store request c s answer item c' s')
    (hrequest : c.request = { request with cursor := c.position }) :
    c'.request = { request with cursor := c'.position } := by
  cases h with
  | idle _ => exact hrequest
  | asks _ _ _ _ _ => rfl

theorem Turn.finished_iff (h : Turn store request c s answer item c' s') :
    c'.finished = true ↔ c.finished = true ∨ ∃ a, answer = some a ∧ Ends request.size a := by
  cases h with
  | idle h => simp [h]
  | asks h _ _ _ hfinished => simp [h, hfinished]

end

theorem next_eq_next_recording (store : TabularStore σ) (c : BatchCursor) (s : Recorded σ) :
    c.next store s.state =
      ((c.next store.recording s).1, (c.next store.recording s).2.state) := by
  cases hfinished : c.finished with
  | true => rw [next_of_finished hfinished, next_of_finished hfinished]
  | false =>
    simp only [next, hfinished, Bool.false_eq_true, if_false, bind, StateT.bind,
      TabularStore.nextBatch]
    cases c.request.selection with
    | error e => rfl
    | ok selection =>
      simp only [TabularStore.conclude_eq]
      rfl

theorem after_eq_after_recording (store : TabularStore σ) (c : BatchCursor) (s : Recorded σ)
    (n : Nat) :
    after store c s.state n =
      ((after store.recording c s n).1, (after store.recording c s n).2.state) := by
  induction n with
  | zero => rfl
  | succ n ih => rw [after_succ, after_succ, ih, next_eq_next_recording]

theorem item_eq_item_recording (store : TabularStore σ) (c : BatchCursor) (s : Recorded σ)
    (n : Nat) : item store c s.state n = item store.recording c s n := by
  simp only [item, after_eq_after_recording, next_eq_next_recording]

theorem request_after {request : BatchRequest} (hvalid : request.Valid) (store : TabularStore σ)
    (s : Recorded σ) (n : Nat) :
    (after store.recording (.ofRequest request) s n).1.request =
      { request with cursor := (after store.recording (.ofRequest request) s n).1.position } := by
  induction n with
  | zero => rfl
  | succ n ih =>
    obtain ⟨_, hturn⟩ :=
      turn_next hvalid ih store (after store.recording (.ofRequest request) s n).2
    rw [after_succ]
    exact hturn.request_eq ih

theorem after_add_of_finished (store : TabularStore σ) (c : BatchCursor) (s : σ) {n : Nat}
    (h : (after store c s n).1.finished = true) (k : Nat) :
    after store c s (n + k) = after store c s n := by
  induction k with
  | zero => rfl
  | succ k ih => rw [← Nat.add_assoc, after_succ, ih, next_of_finished h]

theorem item_add_of_finished (store : TabularStore σ) (c : BatchCursor) (s : σ) {n : Nat}
    (h : (after store c s n).1.finished = true) (k : Nat) : item store c s (n + k) = none := by
  rw [item, after_add_of_finished store c s h]
  simp only [next_of_finished h]

/-- The turns of a cursor from the first one on, with the answers of the store. -/
structure Turns (store : TabularStore σ) (request : BatchRequest)
    (run : Nat → BatchCursor × Recorded σ) (items : Nat → Option (Except EngineError (List Row)))
    (answers : Nat → Option (Except StoreError (List Row))) : Prop where
  turn : ∀ n, Turn store request (run n).1 (run n).2 (answers n) (items n) (run (n + 1)).1
    (run (n + 1)).2
  request_eq : ∀ n, (run n).1.request = { request with cursor := (run n).1.position }
  /-- The first answer that ends the stream is the last one. -/
  finished_iff : ∀ n, (run n).1.finished = true ↔
    ∃ m < n, ∃ answer, answers m = some answer ∧ Ends request.size answer
  rests : ∀ n, (run n).1.finished = true → ∀ k, run (n + k) = run n ∧ items (n + k) = none

/--
Whatever a store answers, the turns of a cursor keep to its request, follow the answers until one
of them ends the stream, and change nothing from then on.
-/
theorem exists_turns {request : BatchRequest} (hvalid : request.Valid) (store : TabularStore σ)
    (s : Recorded σ) :
    let run := after store.recording (.ofRequest request) s
    let items := item store.recording (.ofRequest request) s
    (∀ n, after store (.ofRequest request) s.state n = ((run n).1, (run n).2.state) ∧
      item store (.ofRequest request) s.state n = items n) ∧
    ∃ answers, Turns store request run items answers := by
  intro run items
  have hrequest := request_after hvalid store s
  choose answers hturn using fun n => turn_next hvalid (hrequest n) store (run n).2
  have hfinished : ∀ n, (run n).1.finished = true ↔
      ∃ m < n, ∃ answer, answers m = some answer ∧ Ends request.size answer := by
    intro n
    induction n with
    | zero => simp [run, after, ofRequest]
    | succ n ih =>
      have hstep : (run (n + 1)).1.finished = true ↔ (run n).1.finished = true ∨
          ∃ answer, answers n = some answer ∧ Ends request.size answer :=
        (hturn n).finished_iff
      simp only [hstep, ih, Nat.lt_succ_iff_lt_or_eq, or_and_right, exists_or, exists_eq_left]
  constructor
  · intro n
    exact ⟨after_eq_after_recording store _ s n, item_eq_item_recording store _ s n⟩
  · refine ⟨answers, hturn, hrequest, hfinished, ?_⟩
    intro n hn k
    exact ⟨after_add_of_finished store.recording _ s hn k,
      item_add_of_finished store.recording _ s hn k⟩

def scripted : TabularStore (List (Except StoreError (List Row))) where
  select _ _ := fun script => (script.headD (.error (.sql .full)), script.tail)
  distinct _ _ _ _ := fun script => (.error (.sql .full), script)
  aggregate _ _ := fun script => (.error (.sql .full), script)

theorem exists_turns_scripted :
    let request : BatchRequest := { run := 1, grain := .building, size := 1 }
    let script : List (Except StoreError (List Row)) :=
      [.ok [⟨[(idColumn, .integer 9)]⟩, ⟨[(idColumn, .integer 7)]⟩], .ok [⟨[(areaColumn, .null)]⟩]]
    let run := after scripted.recording (.ofRequest request) ⟨script, []⟩
    let items := item scripted.recording (.ofRequest request) ⟨script, []⟩
    request.Valid ∧ (∃ answers, Turns scripted request run items answers) ∧
      (run 1).1.finished = false ∧ (run 2).1.finished = true ∧ (run 2).1.position = some 7 ∧
      items 1 = some (.error (.store .missingCursor)) ∧ (run 5).2.calls.length = 2 := by
  intro request script run items
  have hvalid : request.Valid := ⟨by decide, by decide⟩
  obtain ⟨_, hturns⟩ := exists_turns hvalid scripted ⟨script, []⟩
  exact ⟨hvalid, hturns, rfl, rfl, rfl, rfl, rfl⟩

/-! ### Fetches -/

theorem Turn.exists_asked {store : TabularStore σ} {request : BatchRequest} {c c' : BatchCursor}
    {s s' : Recorded σ} {answer : Option (Except StoreError (List Row))}
    {item : Option (Except EngineError (List Row))}
    (h : Turn store request c s answer item c' s') :
    ∃ asked : List Selection, s'.calls = asked.map (.select request.grain) ++ s.calls ∧
      c'.fetched = asked.length + c.fetched := by
  cases h with
  | idle _ => exact ⟨[], rfl, (Nat.zero_add _).symm⟩
  | @asks selection _ _ _ _ _ _ _ _ _ _ => exact ⟨[selection], rfl, Nat.add_comm _ _⟩

theorem exists_asked_after {request : BatchRequest} (hvalid : request.Valid)
    (store : TabularStore σ) (s : Recorded σ) (n : Nat) :
    ∃ asked : List Selection,
      (after store.recording (.ofRequest request) s n).2.calls =
        asked.map (.select request.grain) ++ s.calls ∧
      (after store.recording (.ofRequest request) s n).1.fetched = asked.length := by
  induction n with
  | zero => exact ⟨[], rfl, rfl⟩
  | succ n ih =>
    obtain ⟨before, hbefore, hcounted⟩ := ih
    obtain ⟨_, hturn⟩ := turn_next hvalid (request_after hvalid store s n) store
      (after store.recording (.ofRequest request) s n).2
    obtain ⟨asked, hasked, hfetched⟩ := hturn.exists_asked
    refine ⟨asked ++ before, ?_, ?_⟩
    · rw [after_succ, List.map_append, List.append_assoc, ← hbefore]
      exact hasked
    · rw [after_succ, List.length_append, ← hcounted]
      exact hfetched

theorem after_of_not_valid {request : BatchRequest} (hvalid : ¬request.Valid)
    (store : TabularStore σ) (s : σ) (n : Nat) :
    after store (.ofRequest request) s (n + 1) = (⟨request, 1, true⟩, s) := by
  obtain ⟨e, he⟩ := BatchRequest.exists_error hvalid
  have hfirst : after store (.ofRequest request) s 1 = (⟨request, 1, true⟩, s) := by
    simp only [after, next, ofRequest, Bool.false_eq_true, bind, TabularStore.nextBatch, he]
    rfl
  rw [Nat.add_comm, after_add_of_finished store _ s (by rw [hfirst]), hfirst]

/--
A cursor of a valid request counts the selections that it makes, the one that ends the stream
included. With any other request it makes none, and counts one nevertheless.
-/
theorem fetched_after (request : BatchRequest) (store : TabularStore σ) (s : Recorded σ) (n : Nat) :
    let run := after store.recording (.ofRequest request) s n
    after store (.ofRequest request) s.state n = (run.1, run.2.state) ∧
      ∃ asked : List Selection, run.2.calls = asked.map (.select request.grain) ++ s.calls ∧
        (request.Valid → run.1.fetched = asked.length) ∧
        (¬request.Valid → asked = [] ∧ run.1.fetched = min n 1) := by
  intro run
  refine ⟨after_eq_after_recording store _ s n, ?_⟩
  by_cases hvalid : request.Valid
  · obtain ⟨asked, hasked, hfetched⟩ := exists_asked_after hvalid store s n
    exact ⟨asked, hasked, fun _ => hfetched, fun h => absurd hvalid h⟩
  · have hrun : run.2.calls = s.calls ∧ run.1.fetched = min n 1 := by
      cases n with
      | zero => exact ⟨rfl, rfl⟩
      | succ n => simp [run, after_of_not_valid hvalid]
    exact ⟨[], hrun.1, fun h => absurd h hvalid, fun _ => ⟨rfl, hrun.2⟩⟩

/-- A request for batches of no rows is counted, though the store is never asked. -/
theorem not_forall_fetched_eq_length_calls :
    ¬∀ (request : BatchRequest) (n : Nat),
      let run := after scripted.recording (.ofRequest request) ⟨[], []⟩ n
      run.1.fetched = run.2.calls.length := by
  intro h
  exact absurd (h { run := 1, grain := .building, size := 0 } 1) (by decide)

end BatchCursor

end Vacancy
