import Vacancy.Proofs.Limits
import Vacancy.Proofs.Turns

/-!
The schedule of a stream on a table that stays as it is. The rows that are asked for come in batches
of the size of the request, the last of which may be shorter; a stream that ends with a batch of
that size, or has nothing to hand out, makes one more fetch to see that nothing is left.
-/

namespace Vacancy

open Sql

/-- A list in stretches of a length, the last of which may be shorter. -/
def inBatches (size : Nat) (as : List α) : List (List α) :=
  (List.range ((as.length + size - 1) / size)).map fun i => (as.drop (i * size)).take size

theorem inBatches_nil {size : Nat} (h : 0 < size) : inBatches size ([] : List α) = [] := by
  have hcount : (0 + size - 1) / size = 0 := Nat.div_eq_of_lt (by omega)
  simp only [inBatches, List.length_nil, hcount]
  rfl

theorem inBatches_of_ne_nil {size : Nat} (h : 0 < size) {as : List α} (hne : as ≠ []) :
    inBatches size as = as.take size :: inBatches size (as.drop size) := by
  have hcount : (as.length + size - 1) / size = ((as.drop size).length + size - 1) / size + 1 := by
    have hlength := List.length_pos_iff.2 hne
    have hfirst : as.length + size - 1 = as.length - 1 + size := by omega
    rw [hfirst, Nat.add_div_right _ h, List.length_drop, Nat.add_right_cancel_iff]
    rcases Nat.lt_or_ge as.length size with hlt | hle
    · rw [Nat.div_eq_of_lt (by omega), Nat.div_eq_of_lt (by omega)]
    · congr 1
      omega
  rw [inBatches, hcount, List.range_succ_eq_map, List.map_cons, List.map_map, inBatches]
  congr 1
  · simp
  · apply List.map_congr_left
    intro i _
    simp [Nat.succ_mul, Nat.add_comm]

theorem flatten_inBatches {size : Nat} (h : 0 < size) (as : List α) :
    (inBatches size as).flatten = as := by
  generalize hn : as.length = n
  induction n using Nat.strongRecOn generalizing as with
  | ind n ih =>
    by_cases hne : as = []
    · rw [hne, inBatches_nil h, List.flatten_nil]
    · have hlength := List.length_pos_iff.2 hne
      have hrest := ih (as.drop size).length (by rw [List.length_drop]; omega) (as.drop size) rfl
      rw [inBatches_of_ne_nil h hne, List.flatten_cons, hrest, List.take_append_drop]

theorem length_div_of_full {size : Nat} (h : 0 < size) {as : List α} (hfull : size ≤ as.length) :
    as.length / size = (as.drop size).length / size + 1 := by
  rw [List.length_drop, ← Nat.add_div_right _ h, Nat.sub_add_cancel hfull]

namespace BatchRequest

variable {r : BatchRequest}

/-- A request whose next batch a database has room for. -/
def Fits (r : BatchRequest) : Prop :=
  ∀ s, r.selection = .ok s → s.Fits r.grain

theorem accepted_of_fits {s : Selection} (hs : r.selection = .ok s) (hfits : s.Fits r.grain)
    (d : Database) :
    (s.toQuery r.grain).refusal? d.relation = none ∧
      (s.toQuery r.grain).failure? d.relation = none := by
  have hreads := reads hs
  obtain ⟨_, _, rfl⟩ := selection_eq_ok hs
  obtain ⟨c, hc, hchain, _⟩ := (r.ofRun_scope.after r.cursor).predicate_eq
  constructor
  · apply Query.refusal?_of_reads hreads
    · have hclean := Query.clean_star hchain (some r.size) none
      rw [← hc] at hclean
      exact hclean.firstFault?
    · exact hfits.parameters
    · exact hfits.height
    · have hfields : ((Selection.toQuery ⟨[], (r.scope.after r.cursor).predicate, [idOrder],
          { limit := some r.size }⟩ r.grain).select.fields (d.table r.grain).relation).length =
            r.grain.schema.length := by
        simp [Select.fields, Selection.toQuery, Select.itemFields, Table.relation]
      rw [hfields]
      cases r.grain <;> exact Nat.le_of_ble_eq_true rfl
    · exact Nat.le_of_ble_eq_true rfl
  · apply hreads.failure?_eq
    · intro e he
      apply hfits.terms c hc
      simpa [Select.terms, Selection.toQuery, hc] using he
    · intro i hi
      rw [List.mem_singleton.1 hi]
      rfl

theorem fits_of_few (hlength : r.scope.terms.length + 3 ≤ heightLimit)
    (hterms : ∀ e ∈ r.scope.terms, e.parameters ≤ 2 ∧ e.hasLongPattern = false) : r.Fits := by
  intro s hs
  obtain ⟨_, _, rfl⟩ := selection_eq_ok hs
  have hscope := r.ofRun_scope.after r.cursor
  obtain ⟨c, hc, _⟩ := hscope.predicate_eq
  have hlength' : (r.scope.after r.cursor).terms.length ≤ r.scope.terms.length + 1 := by
    simp only [Scope.after, Scope.add, List.length_append]
    cases r.cursor <;> simp
  have hterms' : ∀ e ∈ (r.scope.after r.cursor).terms,
      e.parameters ≤ 2 ∧ e.hasLongPattern = false := by
    intro e he
    simp only [Scope.after, Scope.add, List.mem_append, Option.mem_toList,
      Option.map_eq_some_iff] at he
    rcases he with he | ⟨id, _, rfl⟩
    · exact hterms e he
    · exact ⟨Nat.le_succ 1, rfl⟩
  rw [hc]
  constructor
  case parameters =>
    have hcount := Expr.parameters_of_conjunction_le hc fun e he => (hterms' e he).1
    have hrest : ((Selection.toQuery ⟨[], none, [idOrder], { limit := some r.size }⟩ r.grain).tokens
        .sqlite).countP (·.parameter?.isSome) = 1 := rfl
    have htokens :=
      Selection.countP_tokens r.grain ⟨[], none, [idOrder], { limit := some r.size }⟩ c
    simp only at htokens
    rw [htokens, hrest]
    unfold heightLimit at hlength
    unfold parameterLimit
    omega
  case height =>
    rintro _ ⟨⟩
    have := (Expr.height_of_conjunction hscope.terms hc).2
    omega
  case columns => exact Nat.zero_le _
  case terms =>
    rintro _ ⟨⟩
    exact hscope.hasLongPattern_eq_false hc fun e he => (hterms' e he).2

theorem rows_selection {s : Selection} (hs : r.selection = .ok s) (d : Database) :
    d.rows (s.toQuery r.grain) =
        .ok ((r.pending (d.table r.grain).rows).take (pageCount r.size)) ∨
      ¬r.Fits ∧ ∃ e, d.rows (s.toQuery r.grain) = .error (.sql e) := by
  cases hrows : d.rows (s.toQuery r.grain) with
  | ok rows =>
    left
    rw [rows_eq_take hs hrows]
  | error e =>
    right
    obtain ⟨e', rfl⟩ := Database.sql_of_rows hrows
    refine ⟨fun hfits => ?_, e', rfl⟩
    obtain ⟨hrefusal, hfailure⟩ := accepted_of_fits hs (hfits s hs) d
    simp [Database.rows, Query.run, hrefusal, hfailure] at hrows

end BatchRequest

namespace BatchCursor

variable {σ : Type} {store : TabularStore σ} {c c' : BatchCursor} {s s' : σ}

theorem pulls_succ_of_some {answer : Except EngineError (List Row)}
    (h : c.next store s = ((some answer, c'), s')) (n : Nat) :
    pulls store (n + 1) c s =
      (⟨some answer, c'⟩ :: (pulls store n c' s').1, (pulls store n c' s').2) := by
  simp only [pulls, bind, StateT.bind, h]
  rfl

theorem pulls_succ_of_none (h : c.next store s = ((none, c'), s')) (n : Nat) :
    pulls store (n + 1) c s = ([⟨none, c'⟩], s') := by
  simp only [pulls, bind, StateT.bind, h]
  rfl

theorem pulls_eq_pulls_recording (n : Nat) (c : BatchCursor) (s : Recorded σ) :
    (pulls store n c s.state).1 = (pulls store.recording n c s).1 := by
  induction n generalizing c s with
  | zero => rfl
  | succ n ih =>
    have hnext := next_eq_next_recording store c s
    rcases hrecorded : c.next store.recording s with ⟨⟨_ | answer, c'⟩, s'⟩
    · rw [hrecorded] at hnext
      rw [pulls_succ_of_none hrecorded, pulls_succ_of_none hnext]
    · rw [hrecorded] at hnext
      rw [pulls_succ_of_some hrecorded, pulls_succ_of_some hnext, ih]

/--
An iteration over a stream, of at most so many calls, that comes to its end: the batches that it
hands out and the error that cuts it short, if one does; and after how many fetches and at which
position it ends.
-/
structure Iterates (c : BatchCursor) (s : Recorded Database) (calls : Nat)
    (batches : List (List Row)) (error : Option EngineError) (fetches : Nat)
    (position : Option Int64) : Prop where
  items : (pulls Database.store.recording calls c s).1.map (·.batch) =
    batches.map (some <| .ok ·) ++ (error.map (some <| .error ·)).toList ++ [none]
  fetched : ∃ asked, asked.length = fetches ∧
    (pulls Database.store.recording calls c s).2 = ⟨s.state, asked ++ s.calls⟩
  last : ∃ p, (pulls Database.store.recording calls c s).1.getLast? = some p ∧
    p.cursor = ⟨{ c.request with cursor := position }, c.fetched + fetches, true⟩

end BatchCursor

namespace BatchCursor

variable {c : BatchCursor} {s : Recorded Database} {batches : List (List Row)}
  {error : Option EngineError} {fetches : Nat} {position position' : Option Int64}
  {call : StoreCall}

theorem iterates_of_none
    (h : c.next Database.store.recording s =
      ((none, ⟨c.request, c.fetched + 1, true⟩), ⟨s.state, call :: s.calls⟩)) (n : Nat) :
    c.Iterates s (n + 1) [] none 1 c.position := by
  have hpulls := pulls_succ_of_none h n
  constructor
  case items =>
    rw [hpulls]
    rfl
  case fetched => exact ⟨[call], rfl, by rw [hpulls]; rfl⟩
  case last => exact ⟨_, by rw [hpulls]; rfl, rfl⟩

theorem iterates_of_finishing {answer : Except EngineError (List Row)}
    (hanswer : [some answer] =
      batches.map (some <| .ok ·) ++ (error.map (some <| .error ·)).toList)
    (h : c.next Database.store.recording s =
      ((some answer, ⟨{ c.request with cursor := position }, c.fetched + 1, true⟩),
        ⟨s.state, call :: s.calls⟩)) (n : Nat) :
    c.Iterates s (n + 2) batches error 1 position := by
  have hpulls : pulls Database.store.recording (n + 2) c s =
      ([⟨some answer, ⟨{ c.request with cursor := position }, c.fetched + 1, true⟩⟩,
        ⟨none, ⟨{ c.request with cursor := position }, c.fetched + 1, true⟩⟩],
        ⟨s.state, call :: s.calls⟩) := by
    rw [pulls_succ_of_some h, pulls_succ_of_none (next_of_finished rfl _ _)]
  constructor
  case items =>
    rw [hpulls, ← hanswer]
    rfl
  case fetched => exact ⟨[call], rfl, by rw [hpulls]; rfl⟩
  case last => exact ⟨_, by rw [hpulls]; rfl, rfl⟩

theorem Iterates.cons {batch : List Row} {n : Nat}
    (h : c.next Database.store.recording s =
      ((some (.ok batch), ⟨{ c.request with cursor := position' }, c.fetched + 1, false⟩),
        ⟨s.state, call :: s.calls⟩))
    (hrest : Iterates ⟨{ c.request with cursor := position' }, c.fetched + 1, false⟩
      ⟨s.state, call :: s.calls⟩ n batches error fetches position) :
    c.Iterates s (n + 1) (batch :: batches) error (fetches + 1) position := by
  have hpulls := pulls_succ_of_some h n
  obtain ⟨asked, hlength, hasked⟩ := hrest.fetched
  obtain ⟨p, hlast, hp⟩ := hrest.last
  constructor
  case items =>
    rw [hpulls, List.map_cons, hrest.items]
    rfl
  case fetched =>
    refine ⟨asked ++ [call], by rw [List.length_append, hlength]; rfl, ?_⟩
    rw [hpulls, hasked]
    simp
  case last =>
    refine ⟨p, ?_, ?_⟩
    · rw [hpulls, List.getLast?_cons, hlast]
      rfl
    · rw [hp, Nat.add_assoc, Nat.add_comm 1]

theorem next_database (hvalid : c.request.Valid) (hopen : c.finished = false)
    (s : Recorded Database) :
    ∃ call,
      c.next Database.store.recording s =
          (({ c with fetched := c.fetched + 1 } : BatchCursor).advance
            (.ok ((c.request.pending (s.state.table c.request.grain).rows).take
              (pageCount c.request.size))), ⟨s.state, call :: s.calls⟩) ∨
        ¬c.request.Fits ∧ ∃ e, c.next Database.store.recording s =
          ((some (.error (.store (.sql e))), ⟨c.request, c.fetched + 1, true⟩),
            ⟨s.state, call :: s.calls⟩) := by
  obtain ⟨selection, hselection, _⟩ := hvalid.exists_selection c.position
  have hnext := next_recording hselection hopen Database.store s
  refine ⟨.select c.request.grain selection, ?_⟩
  rw [hnext]
  simp only [Database.store]
  rcases BatchRequest.rows_selection hselection s.state with hrows | ⟨hfits, e, hrows⟩
  · left
    rw [hrows]
    rfl
  · right
    refine ⟨hfits, e, ?_⟩
    rw [hrows]
    rfl

def behind (position : Option Int64) (rows : List Row) : Option Int64 :=
  (rows.getLast?.map Table.key).or position

theorem behind_append (position : Option Int64) (rows rows' : List Row) :
    behind position (rows ++ rows') = behind (behind position rows) rows' := by
  rw [behind, List.getLast?_append, Option.map_or, Option.or_assoc]
  rfl

theorem take_pageCount {rows : List α} {size : UInt64} {limit : Nat} (hrows : rows.length ≤ limit)
    (hroom : limit < 2 ^ 63 ∨ size.toNat < 2 ^ 63) :
    rows.take (pageCount size) = rows.take size.toNat := by
  have hmax : Int64.maxValue.toInt.toNat = 2 ^ 63 - 1 := rfl
  unfold pageCount
  rw [hmax]
  rcases Nat.lt_or_ge size.toNat (2 ^ 63) with hsize | hsize
  · rw [Nat.min_eq_left (Nat.le_sub_one_of_lt hsize)]
  · rw [Nat.min_eq_right (by omega), List.take_of_length_le (by omega),
      List.take_of_length_le (by omega)]

theorem advance_batch {g : Grain} {t : Table g} (c : BatchCursor) {batch : List Row}
    (hmem : ∀ row ∈ batch, row ∈ t.rows) (hne : batch ≠ []) :
    c.advance (.ok batch) = (some (.ok batch),
      ⟨{ c.request with cursor := behind c.position batch }, c.fetched,
        decide (batch.length < c.request.size.toNat)⟩) := by
  have hlast := List.getLast?_eq_some_getLast hne
  have hid := (t.holds _ (hmem _ (List.mem_of_getLast? hlast))).id?_eq
  simp only [advance, hlast, hid, behind, Option.map_some, Option.some_or]

/--
An iteration that hands out rows in batches to the last of them, or in batches up to a fetch for
which a database has no room.
-/
def Delivers (c : BatchCursor) (s : Recorded Database) (calls : Nat) (asked : List Row) : Prop :=
  let size := c.request.size.toNat
  c.Iterates s calls (inBatches size asked) none (asked.length / size + 1)
      (behind c.position asked) ∨
    ∃ m e, m ≤ asked.length / size ∧
      ¬({ c.request with cursor := behind c.position (asked.take (m * size)) }
        : BatchRequest).Fits ∧
      c.Iterates s calls ((inBatches size asked).take m) (some (.store (.sql e))) (m + 1)
        (behind c.position (asked.take (m * size)))

theorem delivers_nil (hsize : 0 < c.request.size.toNat)
    (h : c.next Database.store.recording s =
      ((none, ⟨c.request, c.fetched + 1, true⟩), ⟨s.state, call :: s.calls⟩)) (n : Nat) :
    c.Delivers s (n + 2) [] := by
  left
  rw [inBatches_nil hsize, List.length_nil, Nat.zero_div]
  exact iterates_of_none h (n + 1)

theorem delivers_of_error {e : SqlError} (hfits : ¬c.request.Fits)
    (h : c.next Database.store.recording s =
      ((some (.error (.store (.sql e))), ⟨c.request, c.fetched + 1, true⟩),
        ⟨s.state, call :: s.calls⟩)) (n : Nat) (asked : List Row) :
    c.Delivers s (n + 2) asked := by
  right
  have hstart : behind c.position (asked.take (0 * c.request.size.toNat)) = c.position := by
    simp [behind]
  refine ⟨0, e, Nat.zero_le _, ?_⟩
  rw [hstart]
  exact ⟨hfits, iterates_of_finishing rfl h n⟩

theorem delivers_of_short {asked : List Row} (hne : asked ≠ [])
    (hshort : asked.length < c.request.size.toNat)
    (h : c.next Database.store.recording s = ((some (.ok (asked.take c.request.size.toNat)),
      ⟨{ c.request with cursor := behind c.position (asked.take c.request.size.toNat) },
        c.fetched + 1, decide ((asked.take c.request.size.toNat).length < c.request.size.toNat)⟩),
      ⟨s.state, call :: s.calls⟩)) (n : Nat) :
    c.Delivers s (n + 2) asked := by
  left
  have hsize : 0 < c.request.size.toNat := Nat.zero_lt_of_lt hshort
  rw [List.take_of_length_le (Nat.le_of_lt hshort), decide_eq_true hshort] at h
  rw [inBatches_of_ne_nil hsize hne, List.take_of_length_le (Nat.le_of_lt hshort),
    List.drop_of_length_le (Nat.le_of_lt hshort), inBatches_nil hsize, Nat.div_eq_of_lt hshort]
  exact iterates_of_finishing rfl h n

theorem delivers_of_full {asked : List Row} (hsize : 0 < c.request.size.toNat)
    (hfull : c.request.size.toNat ≤ asked.length)
    (h : c.next Database.store.recording s = ((some (.ok (asked.take c.request.size.toNat)),
      ⟨{ c.request with cursor := behind c.position (asked.take c.request.size.toNat) },
        c.fetched + 1, decide ((asked.take c.request.size.toNat).length < c.request.size.toNat)⟩),
      ⟨s.state, call :: s.calls⟩)) {n : Nat}
    (hrest : Delivers
      ⟨{ c.request with cursor := behind c.position (asked.take c.request.size.toNat) },
        c.fetched + 1, false⟩ ⟨s.state, call :: s.calls⟩ n (asked.drop c.request.size.toNat)) :
    c.Delivers s (n + 1) asked := by
  have hlength : (asked.take c.request.size.toNat).length = c.request.size.toNat := by
    rw [List.length_take, Nat.min_eq_left hfull]
  have hcount := length_div_of_full hsize hfull
  have hne : asked ≠ [] := List.ne_nil_of_length_pos (Nat.lt_of_lt_of_le hsize hfull)
  rw [hlength, decide_eq_false (Nat.lt_irrefl _)] at h
  simp only [Delivers] at hrest ⊢
  rw [inBatches_of_ne_nil hsize hne, hcount]
  rcases hrest with hrest | ⟨m, e, hm, hfits, hrest⟩
  · left
    have hbehind := behind_append c.position (asked.take c.request.size.toNat)
      (asked.drop c.request.size.toNat)
    rw [List.take_append_drop] at hbehind
    rw [hbehind]
    exact hrest.cons h
  · right
    have hbehind := behind_append c.position (asked.take c.request.size.toNat)
      ((asked.drop c.request.size.toNat).take (m * c.request.size.toNat))
    rw [← List.take_add, Nat.add_comm, ← Nat.succ_mul] at hbehind
    refine ⟨m + 1, e, Nat.succ_le_succ hm, ?_⟩
    rw [hbehind]
    exact ⟨hfits, hrest.cons h⟩

/--
An iteration over what a cursor has still to hand out comes to its end: it hands out all of it in
batches, or those before a fetch for which a database has no room.
-/
theorem delivers_pending {c : BatchCursor} {s : Recorded Database} (hvalid : c.request.Valid)
    (hopen : c.finished = false) {asked : List Row}
    (hasked : c.request.pending (s.state.table c.request.grain).rows = asked)
    (hroom : (s.state.table c.request.grain).rows.length < 2 ^ 63 ∨
      c.request.size.toNat < 2 ^ 63) {calls : Nat}
    (hcalls : asked.length / c.request.size.toNat + 2 ≤ calls) : c.Delivers s calls asked := by
  have hsize := hvalid.size_pos
  generalize hn : asked.length = n
  induction n using Nat.strongRecOn generalizing c s asked calls with
  | ind n ih =>
    obtain ⟨calls, rfl⟩ := Nat.exists_eq_add_of_le' (Nat.le_of_add_left_le hcalls)
    obtain ⟨call, hnext | ⟨hfits, e, hnext⟩⟩ := next_database hvalid hopen s
    · have hmem : ∀ row ∈ asked, row ∈ (s.state.table c.request.grain).rows := by
        intro row hrow
        rw [← hasked] at hrow
        exact (List.mem_filter.1 hrow).1
      have hlength : asked.length ≤ (s.state.table c.request.grain).rows.length := by
        rw [← hasked]
        exact List.length_filter_le _ _
      rw [hasked, take_pageCount hlength hroom] at hnext
      by_cases hne : asked = []
      · rw [hne, List.take_nil] at hnext
        rw [hne]
        exact delivers_nil hsize hnext calls
      · have hbatch : asked.take c.request.size.toNat ≠ [] := by
          simp [hne, hsize.ne']
        have hmem' : ∀ row ∈ asked.take c.request.size.toNat,
            row ∈ (s.state.table c.request.grain).rows :=
          fun row hrow => hmem row (List.mem_of_mem_take hrow)
        rw [advance_batch _ hmem' hbatch] at hnext
        rcases Nat.lt_or_ge asked.length c.request.size.toNat with hlt | hge
        · exact delivers_of_short hne hlt hnext calls
        · have hlast := List.getLast?_eq_some_getLast hbatch
          have hrest := BatchRequest.pending_after_batch (s.state.table c.request.grain).ascending
            (hasked.trans (List.take_append_drop c.request.size.toNat asked).symm) hlast
          have hcount := length_div_of_full hsize hge
          apply delivers_of_full hsize hge hnext
          apply ih (asked.drop c.request.size.toNat).length
          · rw [List.length_drop]
            omega
          · exact ⟨hvalid.run, hvalid.size⟩
          · rfl
          · simp only [behind, hlast, Option.map_some, Option.some_or]
            exact hrest
          · exact hroom
          · dsimp only
            omega
          · exact hsize
          · rfl
    · exact delivers_of_error hfits hnext calls asked

/--
An iteration over a stream hands out the rows that are asked for in the order of their ids, so many
in each batch, and sees after one fetch more than there are full batches that nothing is left. It
ends before that only at a fetch for which the database has no room.
-/
theorem iterates_of_valid {request : BatchRequest} (hvalid : request.Valid) (d : Database)
    (hfew : (d.table request.grain).rows.length < 2 ^ 63) (calls : Nat) :
    let asked := request.pending (d.table request.grain).rows
    let size := request.size.toNat
    let c := BatchCursor.ofRequest request
    asked.length / size + 2 ≤ calls →
      asked.Pairwise (fun a b => Table.key a < Table.key b) ∧
      (pulls Database.store calls c d).1 = (pulls Database.store.recording calls c ⟨d, []⟩).1 ∧
      (c.Iterates ⟨d, []⟩ calls (inBatches size asked) none (asked.length / size + 1)
          (behind request.cursor asked) ∨
        ∃ m e, m ≤ asked.length / size ∧
          ¬({ request with cursor := behind request.cursor (asked.take (m * size)) }
            : BatchRequest).Fits ∧
          c.Iterates ⟨d, []⟩ calls ((inBatches size asked).take m) (some (.store (.sql e))) (m + 1)
            (behind request.cursor (asked.take (m * size)))) := by
  intro asked size c hcalls
  refine ⟨(d.table request.grain).ascending.filter _, pulls_eq_pulls_recording calls c ⟨d, []⟩, ?_⟩
  exact delivers_pending (c := c) (s := ⟨d, []⟩) hvalid rfl rfl (.inl hfew) hcalls

end BatchCursor

def numberedRow (id : Int64) : Row :=
  Table.kept .building (Table.valueFor ⟨[(runColumn, .integer 1)]⟩ id)

theorem holds_numberedRow (id : Int64) : Table.Holds .building (numberedRow id) :=
  Table.holds_kept rfl

def twoDatabase : Database :=
  ({} : Database).withTable .building
    ((Table.empty.add (numberedRow 4) (holds_numberedRow 4)).add (numberedRow 2)
      (holds_numberedRow 2))

def pairRequest : BatchRequest where
  run := 1
  grain := .building
  size := 2

theorem fits_pairRequest (cursor : Option Int64) :
    ({ pairRequest with cursor } : BatchRequest).Fits := by
  apply BatchRequest.fits_of_few
  · exact Nat.le_of_ble_eq_true rfl
  · intro e he
    rw [List.mem_singleton.1 he]
    exact ⟨Nat.le_of_ble_eq_true rfl, rfl⟩

theorem pending_pairRequest :
    pairRequest.pending (twoDatabase.table .building).rows = [numberedRow 2, numberedRow 4] := by
  have hrows : (twoDatabase.table .building).rows = [numberedRow 2, numberedRow 4] := rfl
  have hadmits : ∀ id, pairRequest.scope.admits (numberedRow id) = true := by
    intro id
    have hrun : (Scope.runTerm 1).admits Grain.building.schema (numberedRow id) = true := by
      rw [Scope.runTerm, Table.admits_run (holds_numberedRow id) (by decide)]
      rfl
    have hterms : pairRequest.scope.terms = [Scope.runTerm 1] := rfl
    have hgrain : pairRequest.scope.grain = .building := rfl
    simp only [Scope.admits, hterms, hgrain, List.all_cons, hrun, List.all_nil, Bool.and_true]
  have hafter : ∀ row, Row.isAfter pairRequest.cursor row = true := fun _ => rfl
  rw [hrows, BatchRequest.pending, List.filter_eq_self]
  intro row hrow
  rw [hafter, Bool.and_true]
  rcases List.mem_pair.1 hrow with rfl | rfl
  · exact hadmits 2
  · exact hadmits 4

namespace BatchCursor

theorem iterates_pairRequest :
    pairRequest.Valid ∧ (twoDatabase.table pairRequest.grain).rows.length < 2 ^ 63 ∧
      (ofRequest pairRequest).Iterates ⟨twoDatabase, []⟩ 3 [[numberedRow 2, numberedRow 4]] none 2
        (some 4) := by
  have hvalid : pairRequest.Valid := ⟨by decide, by decide⟩
  have hfew : (twoDatabase.table pairRequest.grain).rows.length < 2 ^ 63 := by decide
  refine ⟨hvalid, hfew, ?_⟩
  have hasked : pairRequest.pending (twoDatabase.table pairRequest.grain).rows =
      [numberedRow 2, numberedRow 4] := pending_pairRequest
  have hall := iterates_of_valid hvalid twoDatabase hfew 3
  simp only [hasked] at hall
  obtain ⟨_, _, h | ⟨m, e, _, hfits, _⟩⟩ := hall (by decide)
  · exact h
  · exact absurd (fits_pairRequest _) hfits

end BatchCursor

namespace Reader

/-- With a thousand terms there is no first batch, although there is a row for it. -/
theorem pulls_wordyRequest :
    wordyRequest.Valid ∧ (loneDatabase.table wordyRequest.grain).rows.length < 2 ^ 63 ∧
      loneRow ∈ wordyRequest.pending (loneDatabase.table wordyRequest.grain).rows ∧
      ∃ e c, (BatchCursor.pulls Database.store 2 (.ofRequest wordyRequest) loneDatabase).1 =
        [⟨some (.error e), c⟩, ⟨none, c⟩] := by
  have hmany : heightLimit ≤ wordyRequest.scope.terms.length := by
    rw [terms_wordyRequest, List.length_cons, List.length_replicate]
    decide
  obtain ⟨e, he⟩ := nextBatch_of_many_terms hmany loneDatabase
  have hnext : (BatchCursor.ofRequest wordyRequest).next Database.store loneDatabase =
      ((some (.error e), ⟨wordyRequest, 1, true⟩), loneDatabase) := by
    refine Prod.ext ?_ (BatchCursor.state_next _ _)
    rw [BatchCursor.next_of_not_finished rfl]
    exact congrArg _ he
  refine ⟨⟨by decide, by decide⟩, by decide, loneRow_mem_pending, e, ⟨wordyRequest, 1, true⟩, ?_⟩
  rw [BatchCursor.pulls_succ_of_some hnext,
    BatchCursor.pulls_succ_of_none (BatchCursor.next_of_finished rfl _ _)]

end Reader

end Vacancy
