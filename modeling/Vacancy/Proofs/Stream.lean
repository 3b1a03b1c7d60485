import Vacancy.Proofs.Batch
import Vacancy.Proofs.Insertion
import Vacancy.Proofs.Refusal

/-!
Streams of batches. A call to a cursor hands out the rows that come next and moves the cursor behind
them, or it fails and leaves the cursor where it is. So what was handed out and what is left to see
make up the rows that were asked for, however often the stream is taken up again; and on a table
that grows meanwhile, no row that was there stays behind the cursor unseen.
-/

namespace Vacancy

open Sql

namespace TabularStore

variable {σ : Type} {store : TabularStore σ} {d : Database}

/-- A store that gives the rows that a database gives, or fails. -/
def FollowsOrFails (store : TabularStore σ) (d : Database) : Prop :=
  ∀ g s state, (store.select g s state).1 = d.rows (s.toQuery g) ∨
    ∃ e, (store.select g s state).1 = .error e

theorem nextBatch_eq {r : BatchRequest} {state : σ} (h : ∀ s,
    (store.select r.grain s state).1 = d.rows (s.toQuery r.grain) ∨
      ∃ e, (store.select r.grain s state).1 = .error e) :
    (∃ e, (store.nextBatch r state).1 = .error e) ∨
      r.size ≠ 0 ∧ (store.nextBatch r state).1 =
        .ok ((r.pending (d.table r.grain).rows).take (pageCount r.size)) := by
  cases hs : r.selection with
  | error e =>
    left
    exact ⟨.view e, by simp only [nextBatch, hs]; rfl⟩
  | ok s =>
    simp only [nextBatch, hs, fst_conclude]
    cases hanswer : (store.select r.grain s state).1 with
    | error e =>
      left
      exact ⟨.store e, rfl⟩
    | ok rows =>
      right
      have hrows : d.rows (s.toQuery r.grain) = .ok rows := by
        rcases h s with h | ⟨e, h⟩
        · rw [← h, hanswer]
        · simp [h] at hanswer
      refine ⟨(BatchRequest.selection_eq_ok hs).2.1, ?_⟩
      rw [BatchRequest.rows_eq_take hs hrows]
      rfl

end TabularStore

namespace BatchCursor

/-- What a call does to a cursor and what it gives, over the rows of a table. -/
inductive Pulled (rows : List Row) (c : BatchCursor) :
    Option (Except EngineError (List Row)) → BatchCursor → Prop where
  | finished (h : c.finished = true) : Pulled rows c none c
  | failed {e c'} (hrequest : c'.request = c.request) (hfinished : c'.finished = true) :
      Pulled rows c (some (.error e)) c'
  | ended {c'} (hpending : c.request.pending rows = []) (hrequest : c'.request = c.request)
      (hfinished : c'.finished = true) : Pulled rows c none c'
  | batch {batch rest row c'} (hpending : c.request.pending rows = batch ++ rest)
      (hlast : batch.getLast? = some row)
      (hrequest : c'.request = { c.request with cursor := some (Table.key row) })
      (hfinished : c'.finished = true → rest = []) : Pulled rows c (some (.ok batch)) c'

theorem pageCount_ne_zero {n : UInt64} (h : n ≠ 0) : pageCount n ≠ 0 := by
  have hmax : Int64.maxValue.toInt.toNat = 2 ^ 63 - 1 := by
    decide
  have hn : n.toNat ≠ 0 := by
    intro hn
    exact h (UInt64.toNat_inj.1 hn)
  unfold pageCount
  omega

theorem drop_eq_nil_of_short {rows : List Row} (hrows : rows.length < 2 ^ 63) {size : UInt64}
    (h : (rows.take (pageCount size)).length < size.toNat) : rows.drop (pageCount size) = [] := by
  have hmax : Int64.maxValue.toInt.toNat = 2 ^ 63 - 1 := by
    decide
  rw [List.drop_eq_nil_iff]
  rw [List.length_take] at h
  unfold pageCount at *
  omega

theorem pulled_advance {g : Grain} {t : Table g} {c : BatchCursor} (hsize : c.request.size ≠ 0)
    (hrows : t.rows.length < 2 ^ 63) {answer : Except EngineError _}
    (hanswer : answer = .ok ((c.request.pending t.rows).take (pageCount c.request.size)))
    (n : Nat) :
    Pulled t.rows c (({ c with fetched := n } : BatchCursor).advance answer).1
      (({ c with fetched := n } : BatchCursor).advance answer).2 := by
  have hsplit := List.take_append_drop (pageCount c.request.size) (c.request.pending t.rows)
  rw [hanswer]
  cases hlast : ((c.request.pending t.rows).take (pageCount c.request.size)).getLast? with
  | none =>
    -- a page takes some row, so an empty batch says that there is none left
    simp only [advance, hlast]
    refine .ended ?_ rfl rfl
    have := List.getLast?_eq_none_iff.1 hlast
    exact (List.take_eq_nil_iff.1 this).resolve_left (pageCount_ne_zero hsize)
  | some row =>
    have hmem : row ∈ t.rows :=
      (List.mem_filter.1 (List.mem_of_mem_take (List.mem_of_getLast? hlast))).1
    simp only [advance, hlast, (t.holds row hmem).id?_eq]
    refine .batch hsplit.symm hlast rfl ?_
    -- the cursor ends early just if the batch has fewer rows than were asked for
    intro hshort
    have hlength : (c.request.pending t.rows).length < 2 ^ 63 :=
      Nat.lt_of_le_of_lt (List.length_filter_le _ _) hrows
    exact drop_eq_nil_of_short hlength (of_decide_eq_true hshort)

theorem next_of_finished {σ : Type} {c : BatchCursor} (h : c.finished = true)
    (store : TabularStore σ) (state : σ) : c.next store state = ((none, c), state) := by
  simp only [next, h]
  rfl

theorem next_of_not_finished {σ : Type} {c : BatchCursor} (h : c.finished = false)
    (store : TabularStore σ) (state : σ) :
    (c.next store state).1 = ({ c with fetched := c.fetched + 1 } : BatchCursor).advance
      (store.nextBatch c.request state).1 := by
  simp only [next, h]
  rfl

theorem pulled_next {σ : Type} {store : TabularStore σ} {d : Database} {c : BatchCursor} {state : σ}
    {g : Grain} (hgrain : c.request.grain = g) (h : ∀ s,
      (store.select g s state).1 = d.rows (s.toQuery g) ∨
        ∃ e, (store.select g s state).1 = .error e)
    (hrows : (d.table g).rows.length < 2 ^ 63) :
    Pulled (d.table g).rows c (c.next store state).1.1 (c.next store state).1.2 := by
  subst hgrain
  cases hfinished : c.finished with
  | true =>
    rw [next_of_finished hfinished]
    exact .finished hfinished
  | false =>
    rw [next_of_not_finished hfinished]
    rcases TabularStore.nextBatch_eq h with ⟨e, he⟩ | ⟨hsize, hbatch⟩
    · rw [he]
      exact .failed rfl rfl
    · exact pulled_advance hsize hrows hbatch (c.fetched + 1)

theorem state_next (c : BatchCursor) (d : Database) : (c.next Database.store d).2 = d := by
  unfold next
  split
  · rfl
  · simp only [bind, StateT.bind, TabularStore.nextBatch]
    cases c.request.selection with
    | error e => rfl
    | ok s =>
      simp only [TabularStore.conclude, Database.store, bind, StateT.bind]
      cases d.rows (s.toQuery c.request.grain) with
      | error e => rfl
      | ok rows => rfl

end BatchCursor

/-- Someone who reads a stream, with what the calls have given. -/
structure Reader (σ : Type) where
  state : σ
  cursor : BatchCursor
  /-- The rows of all batches, in the order in which they were handed out. -/
  rows : List Row := []
  /-- Whether the cursor has given an error. -/
  failed : Bool := false
  /-- Whether a cursor has come to its end and had given no error. -/
  complete : Bool := false

namespace Reader

variable {σ : Type}

def start (request : BatchRequest) (state : σ) : Reader σ :=
  { state, cursor := .ofRequest request }

def note (r : Reader σ) : Option (Except EngineError (List Row)) → Reader σ
  | none => { r with complete := r.complete || !r.failed }
  | some (.error _) => { r with failed := true }
  | some (.ok batch) => { r with rows := r.rows ++ batch }

def pull (store : TabularStore σ) (r : Reader σ) : Reader σ :=
  let ((batch, cursor), state) := r.cursor.next store r.state
  ({ r with state, cursor } : Reader σ).note batch

def resume (r : Reader σ) (size : UInt64) : Reader σ :=
  { r with cursor := .ofRequest { r.cursor.resume with size }, failed := false }

/-! ### Examples of databases and stores -/

def loneRow : Row :=
  Table.kept .building (Table.valueFor ⟨[(runColumn, .integer 1)]⟩ 1)

theorem holds_loneRow : Table.Holds .building loneRow :=
  Table.holds_kept rfl

def loneDatabase : Database :=
  ({} : Database).withTable .building (Table.empty.add loneRow holds_loneRow)

/-- A store that answers every other call as a database does, and fails on the rest. -/
def unsteady (d : Database) : TabularStore Bool where
  select g s := fun fails =>
    (if fails then .error (.sql .full) else (Database.store.select g s d).1, !fails)
  distinct g column condition direction := fun fails =>
    (if fails then .error (.sql .full)
      else (Database.store.distinct g column condition direction d).1, !fails)
  aggregate g b := fun fails =>
    (if fails then .error (.sql .full) else (Database.store.aggregate g b d).1, !fails)

theorem followsOrFails_unsteady (d : Database) : (unsteady d).FollowsOrFails d := by
  intro g s fails
  cases fails with
  | false => exact .inl rfl
  | true => exact .inr ⟨_, rfl⟩

/-! ### A table that stays as it is -/

structure Splits (rows : List Row) (request : BatchRequest) (r : Reader σ) : Prop where
  scope : r.cursor.request.scope = request.scope
  split : r.rows ++ r.cursor.request.pending rows = request.pending rows
  finished : r.cursor.finished = true → r.failed = false → r.cursor.request.pending rows = []
  complete : r.complete = true → r.cursor.request.pending rows = []

theorem splits_start (rows : List Row) (request : BatchRequest) (state : σ) :
    Splits rows request (start request state) := by
  refine ⟨rfl, rfl, ?_, ?_⟩
  · intro h
    simp [start, BatchCursor.ofRequest] at h
  · intro h
    simp [start] at h

theorem failed_or_complete {r : Reader σ} (h : (r.note none).complete = true) :
    r.complete = true ∨ r.failed = false := by
  simpa only [note, Bool.or_eq_true, Bool.not_eq_true'] using h

theorem Splits.note {rows : List Row} (hrows : rows.Pairwise fun a b => Table.key a < Table.key b)
    {request : BatchRequest} {r : Reader σ} (h : r.Splits rows request) {batch} {c : BatchCursor}
    (hpulled : r.cursor.Pulled rows batch c) (state : σ) :
    (({ r with state, cursor := c } : Reader σ).note batch).Splits rows request := by
  cases hpulled with
  | finished hfinished =>
    refine ⟨h.scope, h.split, h.finished, ?_⟩
    intro hcomplete
    exact (failed_or_complete hcomplete).elim h.complete (h.finished hfinished)
  | failed hrequest _ =>
    simp only [Reader.note]
    refine ⟨?_, ?_, ?_, ?_⟩
    · rw [hrequest, h.scope]
    · rw [hrequest, h.split]
    · simp
    · rw [hrequest]
      exact h.complete
  | ended hpending hrequest _ =>
    simp only [Reader.note]
    refine ⟨?_, ?_, ?_, ?_⟩
    · rw [hrequest, h.scope]
    · rw [hrequest, h.split]
    · rw [hrequest]
      exact fun _ _ => hpending
    · rw [hrequest]
      exact fun _ => hpending
  | batch hpending hlast hrequest hfinished =>
    rename_i batch rest row
    -- what is handed out and what is left are the two parts of what was left before
    have hrest := BatchRequest.pending_after_batch hrows hpending hlast
    simp only [Reader.note]
    refine ⟨?_, ?_, ?_, ?_⟩
    · rw [hrequest]
      exact h.scope
    · rw [hrequest, hrest, List.append_assoc, ← hpending, h.split]
    · rw [hrequest, hrest]
      exact fun hf _ => hfinished hf
    · intro hcomplete
      rw [hrequest, hrest]
      have := h.complete hcomplete
      rw [hpending] at this
      exact (List.append_eq_nil_iff.1 this).2

theorem Splits.resume {rows : List Row} {request : BatchRequest} {r : Reader σ}
    (h : r.Splits rows request) (size : UInt64) : (r.resume size).Splits rows request := by
  refine ⟨h.scope, h.split, ?_, h.complete⟩
  intro hfinished
  simp [Reader.resume, BatchCursor.ofRequest] at hfinished

theorem grain_eq {request : BatchRequest} {c : BatchCursor} (h : c.request.scope = request.scope) :
    c.request.grain = request.grain :=
  congrArg Scope.grain h

theorem Splits.pull {store : TabularStore σ} {d : Database} (hstore : store.FollowsOrFails d)
    {request : BatchRequest} (hrows : (d.table request.grain).rows.length < 2 ^ 63) {r : Reader σ}
    (h : r.Splits (d.table request.grain).rows request) :
    (r.pull store).Splits (d.table request.grain).rows request := by
  apply h.note (d.table request.grain).ascending
  apply BatchCursor.pulled_next (grain_eq h.scope)
  · intro s
    exact hstore request.grain s r.state
  · exact hrows

inductive Action where
  | pull
  | resume (size : UInt64)

def act (store : TabularStore σ) (r : Reader σ) : Action → Reader σ
  | .pull => r.pull store
  | .resume size => r.resume size

def run (store : TabularStore σ) (r : Reader σ) (actions : List Action) : Reader σ :=
  actions.foldl (act store) r

theorem Splits.run {store : TabularStore σ} {d : Database} (hstore : store.FollowsOrFails d)
    {request : BatchRequest} (hrows : (d.table request.grain).rows.length < 2 ^ 63) {r : Reader σ}
    (h : r.Splits (d.table request.grain).rows request) (actions : List Action) :
    (r.run store actions).Splits (d.table request.grain).rows request := by
  induction actions generalizing r with
  | nil => exact h
  | cons action actions ih =>
    -- every call keeps the split, also one that fails
    apply ih
    cases action with
    | pull => exact h.pull hstore hrows
    | resume size => exact h.resume size

/--
On a table that stays as it is, what was handed out is the front of what was asked for, and all of
it once a cursor has come to its end without an error.
-/
theorem rows_prefix_pending {store : TabularStore σ} {d : Database}
    (hstore : store.FollowsOrFails d) {request : BatchRequest}
    (hrows : (d.table request.grain).rows.length < 2 ^ 63) (state : σ) (actions : List Action) :
    let asked := request.pending (d.table request.grain).rows
    let r := (start request state).run store actions
    asked.Pairwise (fun a b => Table.key a < Table.key b) ∧ r.rows <+: asked ∧
      (r.complete = true → r.rows = asked) := by
  intro asked r
  have h : r.Splits (d.table request.grain).rows request :=
    (splits_start _ request state).run hstore hrows actions
  refine ⟨(d.table request.grain).ascending.filter _, ⟨_, h.split⟩, ?_⟩
  intro hcomplete
  have := h.split
  rw [h.complete hcomplete, List.append_nil] at this
  exact this

theorem rows_prefix_pending_unsteady :
    let request : BatchRequest := { run := 1, grain := .building, size := 1 }
    let asked := request.pending (loneDatabase.table .building).rows
    let r := (start request false).run (unsteady loneDatabase) [.pull, .pull, .resume 2, .pull]
    (unsteady loneDatabase).FollowsOrFails loneDatabase ∧
      (loneDatabase.table .building).rows.length < 2 ^ 63 ∧
      asked.Pairwise (fun a b => Table.key a < Table.key b) ∧ r.rows <+: asked ∧
      (r.complete = true → r.rows = asked) :=
  ⟨followsOrFails_unsteady _, by decide,
    rows_prefix_pending (followsOrFails_unsteady loneDatabase) (by decide) false
      [.pull, .pull, .resume 2, .pull]⟩

/-! ### A table that grows -/

/-- What holds of a reader while rows are added to the table that had the `first` rows. -/
structure Follows (first rows : List Row) (request : BatchRequest) (r : Reader σ) : Prop where
  scope : r.cursor.request.scope = request.scope
  ascending : r.rows.Pairwise fun a b => Table.key a < Table.key b
  behind : ∀ row ∈ r.rows, row.isAfter r.cursor.request.cursor = false
  asked : ∀ row ∈ r.rows, request.scope.admits row = true ∧ row.isAfter request.cursor = true
  onward : ∀ row : Row, row.isAfter r.cursor.request.cursor = true →
    row.isAfter request.cursor = true
  covered : ∀ row ∈ request.pending first, row ∈ r.rows ∨ row ∈ r.cursor.request.pending rows
  finished : r.cursor.finished = true → r.failed = false →
    ∀ row ∈ request.pending first, row ∈ r.rows
  complete : r.complete = true → ∀ row ∈ request.pending first, row ∈ r.rows

theorem follows_start (rows : List Row) (request : BatchRequest) (state : σ) :
    Follows rows rows request (start request state) := by
  constructor
  case scope => rfl
  case ascending => exact .nil
  case behind => simp [start]
  case asked => simp [start]
  case onward => exact fun row h => h
  case covered => exact fun row h => .inr h
  case finished => simp [start, BatchCursor.ofRequest]
  case complete => simp [start]

theorem Follows.batch {first rows : List Row}
    (hrows : rows.Pairwise fun a b => Table.key a < Table.key b) {request : BatchRequest}
    {r : Reader σ} (h : r.Follows first rows request) {batch rest : List Row} {row : Row}
    {c : BatchCursor} (hpending : r.cursor.request.pending rows = batch ++ rest)
    (hlast : batch.getLast? = some row)
    (hrequest : c.request = { r.cursor.request with cursor := some (Table.key row) })
    (hfinished : c.finished = true → rest = []) (state : σ) :
    ({ r with state, cursor := c, rows := r.rows ++ batch } : Reader σ).Follows first rows
      request := by
  have hrest := BatchRequest.pending_after_batch hrows hpending hlast
  have hsorted : (batch ++ rest).Pairwise fun a b => Table.key a < Table.key b := by
    rw [← hpending]
    exact hrows.filter _
  have hbatch : ∀ s ∈ batch, r.cursor.request.scope.admits s = true ∧
      s.isAfter r.cursor.request.cursor = true := by
    intro s hs
    have : s ∈ r.cursor.request.pending rows := by
      rw [hpending]
      exact List.mem_append_left _ hs
    exact Bool.and_eq_true_iff.1 (List.mem_filter.1 this).2
  have hrow := (hbatch row (List.mem_of_getLast? hlast)).2
  have hcovered : ∀ s ∈ request.pending first, s ∈ r.rows ++ batch ∨ s ∈ rest := by
    intro s hs
    rcases h.covered s hs with hs | hs
    · exact .inl (List.mem_append_left _ hs)
    · rw [hpending, List.mem_append] at hs
      exact hs.imp_left (List.mem_append_right _)
  constructor
  case scope =>
    rw [hrequest]
    exact h.scope
  case ascending =>
    -- all rows from before are behind the old cursor, all of the batch after it
    rw [List.pairwise_append]
    refine ⟨h.ascending, (List.pairwise_append.1 hsorted).1, ?_⟩
    intro a ha b hb
    exact Row.lt_of_isAfter (h.behind a ha) (hbatch b hb).2
  case behind =>
    intro s hs
    rw [hrequest]
    rcases List.mem_append.1 hs with hs | hs
    · have := Row.lt_of_isAfter (h.behind s hs) hrow
      simpa [Row.isAfter] using Int64.le_of_lt this
    · exact Row.isAfter_last (List.pairwise_append.1 hsorted).1 hlast s hs
  case asked =>
    intro s hs
    rcases List.mem_append.1 hs with hs | hs
    · exact h.asked s hs
    · rw [← h.scope]
      exact ⟨(hbatch s hs).1, h.onward s (hbatch s hs).2⟩
  case onward =>
    intro s hs
    rw [hrequest] at hs
    simp only [Row.isAfter, Option.all_some, decide_eq_true_eq] at hs
    exact h.onward s (Row.isAfter_of_lt hrow hs)
  case covered =>
    intro s hs
    rw [hrequest, hrest]
    exact hcovered s hs
  case finished =>
    -- a batch that ends the stream leaves nothing to see
    intro hf _ s hs
    have := hcovered s hs
    rw [hfinished hf] at this
    simpa using this
  case complete =>
    intro hcomplete s hs
    exact List.mem_append_left _ (h.complete hcomplete s hs)

theorem Follows.of_request {first rows : List Row} {request : BatchRequest} {r r' : Reader σ}
    (h : r.Follows first rows request) (hrequest : r'.cursor.request = r.cursor.request)
    (hrows : r'.rows = r.rows)
    (hfinished : r'.cursor.finished = true → r'.failed = false →
      ∀ row ∈ request.pending first, row ∈ r.rows)
    (hcomplete : r'.complete = true → ∀ row ∈ request.pending first, row ∈ r.rows) :
    r'.Follows first rows request := by
  constructor
  all_goals simp only [hrequest, hrows]
  case scope => exact h.scope
  case ascending => exact h.ascending
  case behind => exact h.behind
  case asked => exact h.asked
  case onward => exact h.onward
  case covered => exact h.covered
  case finished => exact hfinished
  case complete => exact hcomplete

theorem Follows.note {first rows : List Row}
    (hrows : rows.Pairwise fun a b => Table.key a < Table.key b) {request : BatchRequest}
    {r : Reader σ} (h : r.Follows first rows request) {batch} {c : BatchCursor}
    (hpulled : r.cursor.Pulled rows batch c) (state : σ) :
    (({ r with state, cursor := c } : Reader σ).note batch).Follows first rows request := by
  cases hpulled with
  | finished hfinished =>
    refine h.of_request rfl rfl h.finished ?_
    intro hcomplete
    exact (failed_or_complete hcomplete).elim h.complete (h.finished hfinished)
  | failed hrequest _ =>
    refine h.of_request hrequest rfl ?_ h.complete
    intro _ hfailed
    contradiction
  | ended hpending hrequest _ =>
    have hseen : ∀ row ∈ request.pending first, row ∈ r.rows := by
      intro row hrow
      have := h.covered row hrow
      rw [hpending] at this
      simpa using this
    exact h.of_request hrequest rfl (fun _ _ => hseen) fun _ => hseen
  | batch hpending hlast hrequest hfinished =>
    exact h.batch hrows hpending hlast hrequest hfinished state

theorem Follows.grow {first rows rows' : List Row} {request : BatchRequest} {r : Reader σ}
    (h : r.Follows first rows request) (hrows : ∀ row ∈ rows, row ∈ rows') (state : σ) :
    ({ r with state } : Reader σ).Follows first rows' request := by
  refine ⟨h.scope, h.ascending, h.behind, h.asked, h.onward, ?_, h.finished, h.complete⟩
  intro row hrow
  refine (h.covered row hrow).imp_right ?_
  intro hpending
  obtain ⟨hmem, hadmits⟩ := List.mem_filter.1 hpending
  exact List.mem_filter.2 ⟨hrows row hmem, hadmits⟩

inductive Event where
  | pull
  | insert (g : Grain) (rows : List Row)

def meet (r : Reader Database) : Event → Reader Database
  | .pull => r.pull Database.store
  | .insert g rows => { r with state := (r.state.insertRows g rows).2 }

def live (r : Reader Database) (events : List Event) : Reader Database :=
  events.foldl meet r

theorem state_note (r : Reader σ) (batch) : (r.note batch).state = r.state := by
  rcases batch with _ | _ | _
  · rfl
  · rfl
  · rfl

theorem state_meet_pull (r : Reader Database) : (r.meet .pull).state = r.state :=
  (state_note _ _).trans (r.cursor.state_next r.state)

theorem state_meet_insert (r : Reader Database) (g : Grain) (rows : List Row) :
    (r.meet (.insert g rows)).state = (r.state.insertRows g rows).2 :=
  rfl

theorem mem_rows_meet (r : Reader Database) (event : Event) {g : Grain} {row : Row}
    (h : row ∈ (r.state.table g).rows) : row ∈ ((r.meet event).state.table g).rows := by
  cases event with
  | pull =>
    rw [state_meet_pull]
    exact h
  | insert g' rows => exact r.state.mem_rows_insertRows g' g rows h

theorem mem_rows_live (r : Reader Database) (events : List Event) {g : Grain} {row : Row}
    (h : row ∈ (r.state.table g).rows) : row ∈ ((r.live events).state.table g).rows := by
  induction events generalizing r with
  | nil => exact h
  | cons event events ih =>
    apply ih
    exact r.mem_rows_meet event h

theorem Follows.meet {first : List Row} {request : BatchRequest} {r : Reader Database}
    (hrows : (r.state.table request.grain).rows.length < 2 ^ 63)
    (h : r.Follows first (r.state.table request.grain).rows request) (event : Event) :
    (r.meet event).Follows first ((r.meet event).state.table request.grain).rows request := by
  cases event with
  | pull =>
    rw [state_meet_pull]
    apply h.note (r.state.table request.grain).ascending
    apply BatchCursor.pulled_next (grain_eq h.scope)
    · intro s
      exact .inl rfl
    · exact hrows
  | insert g rows =>
    apply h.grow
    intro row
    exact r.state.mem_rows_insertRows g request.grain rows

theorem Follows.live {first : List Row} {request : BatchRequest} {r : Reader Database}
    (events : List Event)
    (hrows : ((r.live events).state.table request.grain).rows.length < 2 ^ 63)
    (h : r.Follows first (r.state.table request.grain).rows request) :
    (r.live events).Follows first ((r.live events).state.table request.grain).rows request := by
  induction events generalizing r with
  | nil => exact h
  | cons event events ih =>
    -- tables only grow, so the bound on the last one is a bound on all
    apply ih hrows
    apply h.meet
    apply Nat.lt_of_le_of_lt _ hrows
    apply Table.length_rows_le
    intro row
    exact r.mem_rows_live (event :: events)

theorem filter_key_eq {rows : List Row}
    (h : rows.Pairwise fun a b => Table.key a < Table.key b) {row : Row} (hrow : row ∈ rows) :
    rows.filter (Table.key · = Table.key row) = [row] := by
  induction rows with
  | nil => simp at hrow
  | cons a rows ih =>
    rw [List.pairwise_cons] at h
    rcases List.mem_cons.1 hrow with rfl | hmem
    · have : rows.filter (Table.key · = Table.key row) = [] := by
        rw [List.filter_eq_nil_iff]
        intro b hb hkey
        have := h.1 b hb
        rw [of_decide_eq_true hkey] at this
        exact Int64.lt_irrefl this
      simp [this]
    · have hne : Table.key a ≠ Table.key row := by
        intro hkey
        have := h.1 row hmem
        rw [hkey] at this
        exact Int64.lt_irrefl this
      rw [List.filter_cons, ih h.2 hmem]
      simp [hne]

/--
On a table that grows, rows are handed out in the order of their ids, and once the stream has come
to its end without an error, each row that was asked for and was there at first has come once.
-/
theorem rows_of_live (d : Database) (request : BatchRequest) (events : List Event)
    (hrows : (((start request d).live events).state.table request.grain).rows.length < 2 ^ 63) :
    let r := (start request d).live events
    r.rows.Pairwise (fun a b => Table.key a < Table.key b) ∧
      (∀ row ∈ r.rows, request.scope.admits row = true ∧ row.isAfter request.cursor = true) ∧
      (r.complete = true → ∀ row ∈ request.pending (d.table request.grain).rows,
        r.rows.filter (Table.key · = Table.key row) = [row]) := by
  intro r
  have h := (follows_start (d.table request.grain).rows request d).live events hrows
  refine ⟨h.ascending, h.asked, ?_⟩
  intro hcomplete row hrow
  exact filter_key_eq h.ascending (h.complete hcomplete row hrow)

theorem rows_of_live_insert :
    let request : BatchRequest := { run := 1, grain := .building, size := 1 }
    let r := (start request loneDatabase).live
      [.pull, .insert .building [⟨[(runColumn, .integer 1)]⟩], .pull]
    (r.state.table .building).rows.length < 2 ^ 63 ∧
      r.rows.Pairwise (fun a b => Table.key a < Table.key b) ∧
      (∀ row ∈ r.rows, request.scope.admits row = true ∧ row.isAfter request.cursor = true) ∧
      (r.complete = true → ∀ row ∈ request.pending (loneDatabase.table .building).rows,
        r.rows.filter (Table.key · = Table.key row) = [row]) := by
  intro request r
  have hstate : r.state =
      (loneDatabase.insertRows .building [⟨[(runColumn, .integer 1)]⟩]).2 := by
    simp only [r, live, List.foldl_cons, List.foldl_nil, state_meet_pull, state_meet_insert]
    rfl
  have hrows : (r.state.table .building).rows.length < 2 ^ 63 := by
    rw [hstate]
    decide
  exact ⟨hrows, rows_of_live loneDatabase request _ hrows⟩

/-! ### A statement that is refused -/

theorem pull_eq (store : TabularStore σ) (r : Reader σ) :
    r.pull store = ({ r with
      state := (r.cursor.next store r.state).2
      cursor := (r.cursor.next store r.state).1.2 } : Reader σ).note
        (r.cursor.next store r.state).1.1 :=
  rfl

theorem pull_of_error {store : TabularStore σ} {r : Reader σ}
    (hfinished : r.cursor.finished = false)
    {e : EngineError} (h : (store.nextBatch r.cursor.request r.state).1 = .error e) :
    (r.pull store).rows = r.rows ∧ (r.pull store).cursor.finished = true := by
  rw [pull_eq, BatchCursor.next_of_not_finished hfinished, h]
  exact ⟨rfl, rfl⟩

theorem nextBatch_of_many_terms {request : BatchRequest}
    (hmany : heightLimit ≤ request.scope.terms.length) (d : Database) :
    ∃ e, (Database.store.nextBatch request d).1 = .error e := by
  cases hs : request.selection with
  | error e =>
    refine ⟨.view e, ?_⟩
    simp only [TabularStore.nextBatch, hs]
    rfl
  | ok s =>
    have hreads := BatchRequest.reads hs
    obtain ⟨_, _, rfl⟩ := BatchRequest.selection_eq_ok hs
    have hscope := request.ofRun_scope.after request.cursor
    obtain ⟨c, hc, _⟩ := hscope.predicate_eq
    have hhigh : heightLimit < c.height := by
      have := (Expr.height_of_conjunction hscope.terms hc).1
      simp only [Scope.after, Scope.add, List.length_append] at this
      omega
    obtain ⟨e, he⟩ := d.rows_of_high hreads hc hhigh
    refine ⟨.store (.sql e), ?_⟩
    simp only [TabularStore.nextBatch, hs, TabularStore.fst_conclude, Database.store]
    exact congrArg (fun rows => (rows.mapError EngineError.store).map id) he

def wordyRequest : BatchRequest where
  run := 1
  grain := .building
  filters := .replicate 1000
    { column := some runColumn, type := .integer, operation := .eq, value := some (.integer 1) }
  size := 2

theorem terms_wordyRequest :
    wordyRequest.scope.terms = Scope.runTerm 1 :: .replicate 1000 (Scope.runTerm 1) := by
  have hterm : Condition.filterTerm?
      { column := some runColumn, type := .integer, operation := .eq, value := some (.integer 1) }
      .building = some (Scope.runTerm 1) := by
    rfl
  have hscope : wordyRequest.scope.terms = Scope.runTerm 1 ::
      wordyRequest.filters.filterMap (·.filterTerm? .building) := by
    rfl
  rw [hscope]
  simp only [wordyRequest, List.filterMap_replicate, hterm]

theorem loneRow_mem_pending :
    loneRow ∈ wordyRequest.pending (loneDatabase.table .building).rows := by
  have hrun : (Scope.runTerm 1).admits Grain.building.schema loneRow = true := by
    rw [Scope.runTerm, Table.admits_run holds_loneRow (by decide)]
    rfl
  apply List.mem_filter.2
  refine ⟨List.mem_cons_self, ?_⟩
  have hterms := terms_wordyRequest
  simp only [Scope.admits, hterms, Bool.and_eq_true, List.all_cons, List.all_replicate]
  exact ⟨by simp [show wordyRequest.scope.grain = .building from rfl, hrun], rfl⟩

/-- A stream may end without the rows that were there, if it ends with an error. -/
theorem loneRow_not_mem_rows :
    let r := (start wordyRequest loneDatabase).live [.pull]
    0 < wordyRequest.run ∧ wordyRequest.size ≠ 0 ∧
      loneRow ∈ wordyRequest.pending (loneDatabase.table wordyRequest.grain).rows ∧
      (r.cursor.next Database.store r.state).1.1 = none ∧ loneRow ∉ r.rows := by
  have hmany : heightLimit ≤ wordyRequest.scope.terms.length := by
    rw [terms_wordyRequest, List.length_cons, List.length_replicate]
    decide
  obtain ⟨e, he⟩ := nextBatch_of_many_terms hmany loneDatabase
  have hstart : (start wordyRequest loneDatabase).cursor.finished = false := rfl
  obtain ⟨hrows, hfinished⟩ := pull_of_error hstart he
  intro r
  have hr : r = (start wordyRequest loneDatabase).pull Database.store := rfl
  refine ⟨by decide, by decide, loneRow_mem_pending, ?_, ?_⟩
  · rw [hr, BatchCursor.next_of_finished hfinished]
  · rw [hr, hrows]
    exact List.not_mem_nil

end Reader

end Vacancy
