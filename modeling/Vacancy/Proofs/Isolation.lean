import Vacancy.Proofs.Accepted
import Vacancy.Proofs.Plan
import Vacancy.Proofs.Stream

/-!
Runs are kept apart. What is read of a run depends on the rows of that run alone, whatever filters,
groups and pages there are; only of whether a pattern that is too long is met on the way to them the
other rows may decide.
-/

namespace Vacancy

open Sql

/-- Two outcomes that are the same, but that either may be a failure which takes some condition. -/
def Agree (long : Prop) (failure : ε) (a b : Except ε α) : Prop :=
  a = b ∨ long ∧ (a = .error failure ∨ b = .error failure)

namespace Agree

variable {long : Prop} {failure : ε} {a b : Except ε α}

theorem map (h : Agree long failure a b) (f : α → β) :
    Agree long failure (a.map f) (b.map f) := by
  rcases h with rfl | ⟨hlong, rfl | rfl⟩
  · exact .inl rfl
  · exact .inr ⟨hlong, .inl rfl⟩
  · exact .inr ⟨hlong, .inr rfl⟩

theorem mapError (h : Agree long failure a b) (f : ε → δ) :
    Agree long (f failure) (a.mapError f) (b.mapError f) := by
  rcases h with rfl | ⟨hlong, rfl | rfl⟩
  · exact .inl rfl
  · exact .inr ⟨hlong, .inl rfl⟩
  · exact .inr ⟨hlong, .inr rfl⟩

theorem eq (h : Agree long failure a b) (hlong : ¬long) : a = b :=
  h.resolve_right fun h => hlong h.1

end Agree

/-! ### The rows of a run -/

namespace Sql.Expr

theorem admits_of_mem_terms {c : Expr} {fs : Fields} {r : Row} (h : c.admits fs r = true) :
    ∀ e ∈ c.terms, e.admits fs r = true := by
  fun_induction terms c with
  | case1 left right ihl ihr =>
    -- only AND has terms on both sides
    have := admits_and fs left right r
    rw [Expr.and] at this
    rw [this, Bool.and_eq_true] at h
    intro e he
    rcases List.mem_append.1 he with he | he
    · exact ihl h.1 e he
    · exact ihr h.2 e he
  | case2 e ih => exact ih h
  | case3 e _ _ =>
    intro e' he'
    rw [List.mem_singleton.1 he']
    exact h

end Sql.Expr

namespace Database

/-- Two databases with the same rows of a run, whatever other rows they have. -/
def SharesRun (run : Int64) (d e : Database) : Prop :=
  ∀ g row, row.run? = some run → (row ∈ (d.table g).rows ↔ row ∈ (e.table g).rows)

variable {run : Int64} {d e : Database}

theorem SharesRun.filter_eq (h : SharesRun run d e) (g : Grain) {p : Row → Bool}
    (hp : ∀ row, p row = true → row.run? = some run) :
    (d.table g).rows.filter p = (e.table g).rows.filter p := by
  have hd := (d.table g).ascending.filter p
  have he := (e.table g).ascending.filter p
  -- both are in the order of ids, so that they have the same members is enough
  apply List.Perm.eq_of_pairwise _ hd he
  · rw [List.perm_ext_iff_of_nodup ((d.table g).nodup_rows.filter p)
      ((e.table g).nodup_rows.filter p)]
    intro row
    simp only [List.mem_filter]
    constructor
    · rintro ⟨hmem, hrow⟩
      exact ⟨(h g row (hp row hrow)).1 hmem, hrow⟩
    · rintro ⟨hmem, hrow⟩
      exact ⟨(h g row (hp row hrow)).2 hmem, hrow⟩
  · intro a b _ _ hab hba
    exact absurd (Int64.lt_trans hab hba) Int64.lt_irrefl

end Database

namespace Sql.Select

variable {long : Prop} {run : Int64} {d e : Database} {g : Grain} {s : Select}

def AsksFor (run : Int64) (t : Select) : Prop :=
  ∃ c, t.condition = some c ∧ Scope.runTerm run ∈ c.terms

theorem Reads.asksFor (h : s.Reads g run) : s.AsksFor run := by
  obtain ⟨c, hc, _, hterm⟩ := h.condition
  exact ⟨c, hc, hterm⟩

theorem AsksFor.kept_eq {t : Select} (h : t.AsksFor run) (hrun : 0 < run)
    (hshares : d.SharesRun run e) (g : Grain) :
    t.kept g.schema (t.arranged (d.table g).relation) =
      t.kept g.schema (t.arranged (e.table g).relation) := by
  obtain ⟨c, hc, hterm⟩ := h
  have harranged : ∀ u : Table g, t.arranged u.relation = u.rows := by
    intro u
    rw [arranged, path_eq_key hc hterm u]
    rfl
  rw [harranged, harranged, kept_eq_filter hc, kept_eq_filter hc]
  -- the condition is about rows that the two tables may not share, too
  have hd : ∀ u : Table g, u.rows.filter (c.admits g.schema) =
      u.rows.filter fun r => r.run? = some run && c.admits g.schema r := by
    intro u
    apply List.filter_congr
    intro r hr
    cases hadmits : c.admits g.schema r with
    | false => simp
    | true =>
      have := Expr.admits_of_mem_terms hadmits _ hterm
      rw [Scope.runTerm, Table.admits_run (u.holds r hr) hrun] at this
      simpa using this
  rw [hd, hd]
  apply hshares.filter_eq
  intro row hrow
  exact of_decide_eq_true (Bool.and_eq_true_iff.1 hrow).1

theorem rowsOf_congr {t : Select} {fs : Fields} {rows rows' : List Row}
    (h : t.kept fs rows = t.kept fs rows') (names : List String) :
    t.rowsOf fs names rows = t.rowsOf fs names rows' := by
  simp only [rowsOf, h]

theorem answer_eq_of_shares (h : (s.resolved (d.table g).relation).AsksFor run)
    (hrun : 0 < run) (hshares : d.SharesRun run e) :
    s.answer (d.table g).relation = s.answer (e.table g).relation := by
  have hkept := h.kept_eq hrun hshares g
  exact congrArg (Relation.mk (s.fields (d.table g).relation) · none none) (rowsOf_congr hkept _)

theorem failure?_of_shares (h : (s.resolved (d.table g).relation).AsksFor run)
    (hfails : (s.resolved (d.table g).relation).FailsAtPattern long) (hrun : 0 < run)
    (hshares : d.SharesRun run e) :
    ∃ o p q, s.failure? (d.table g).relation none = (o <|> q) ∧
      s.failure? (e.table g).relation none = (p <|> q) ∧
      OnlyPattern long o ∧ OnlyPattern long p := by
  have hkept := h.kept_eq hrun hshares g
  have hrows := hfails.failureOnRows?
  let r := (d.table g).relation
  let t := s.resolved r
  by_cases hlimit : s.limit = some 0
  · refine ⟨none, none, none, ?_, ?_, .inl rfl, .inl rfl⟩
    · simp [failure?, hlimit]
    · simp [failure?, hlimit]
  · -- the rows may meet the pattern on either side; the groups are made of the same kept rows
    refine ⟨t.failureOnRows? r (t.values ++ []) (t.arranged r),
      t.failureOnRows? (e.table g).relation (t.values ++ []) (t.arranged (e.table g).relation),
      t.failureOfGroups? g.schema none (t.kept g.schema (t.arranged r)),
      ?_, ?_, hrows _ _ _, hrows _ _ _⟩
    · simp only [failure?, hlimit, if_false]
      rfl
    · simp only [failure?, hlimit, if_false]
      rw [hkept]
      rfl

end Sql.Select

namespace Database

variable {long : Prop} {run : Int64} {d e : Database} {g : Grain}

theorem rows_agree {q : Query} (hanswer : q.answer d.relation = q.answer e.relation)
    {o p r : Option SqlError} (hd : q.failure? d.relation = (o <|> r))
    (he : q.failure? e.relation = (p <|> r)) (ho : OnlyPattern long o) (hp : OnlyPattern long p) :
    Agree long (.sql .longPattern) (d.rows q) (e.rows q) := by
  -- whether a statement is refused does not depend on the rows of the database
  simp only [rows, Query.run, hanswer, hd, he, refusal?_eq q d e]
  cases q.refusal? e.relation with
  | some _ => exact .inl rfl
  | none =>
    rcases ho with rfl | ⟨hlong, rfl⟩
    · rcases hp with rfl | ⟨hlong, rfl⟩
      · exact .inl rfl
      · exact .inr ⟨hlong, .inr rfl⟩
    · exact .inr ⟨hlong, .inl rfl⟩

theorem rows_agree_of_reads (hrun : 0 < run) (hshares : d.SharesRun run e) {s : Select}
    (h : s.Reads g run) (hterms : ∀ e ∈ s.terms, e.hasLongPattern = true → long)
    (hitems : ∀ i ∈ s.items, i.expr.armsHaveLongPattern = true → long) :
    Agree long (.sql .longPattern) (d.rows ⟨s, []⟩) (e.rows ⟨s, []⟩) := by
  have hresolved := h.resolved_eq (d.table g)
  have hasks := (h.resolved (d.table g)).asksFor
  have hfails : (s.resolved (d.table g).relation).FailsAtPattern long := by
    apply (h.resolved (d.table g)).failsAtPattern
    · rw [hresolved]
      exact hterms
    · rw [hresolved]
      exact hitems
  have hsource : ∀ d : Database, Query.source d.relation s = (d.table g).relation := by
    intro d
    simp only [Query.source, h.source, Option.elim_some, d.relation_table]
  obtain ⟨o, p, r, hd, he, ho, hp⟩ := Select.failure?_of_shares hasks hfails hrun hshares
  refine rows_agree (r := r) ?_ ?_ ?_ ho hp
  · simp only [Query.answer, Query.answerWith, hsource, h.regrouped_eq]
    exact Select.answer_eq_of_shares hasks hrun hshares
  · simp only [Query.failure?, Query.failureWith?, List.map_nil, h.regrouped_eq, hsource]
    exact hd
  · simp only [Query.failure?, Query.failureWith?, List.map_nil, h.regrouped_eq, hsource]
    exact he

theorem rows_agree_of_buckets (hrun : 0 < run) (hshares : d.SharesRun run e) {b : Bucketing}
    (h : b.OfRun g run) {c : Expr} (hc : b.condition = some c)
    (hterms : ∀ e ∈ c.terms, e.hasLongPattern = true → long)
    (hlabel : b.label.armsHaveLongPattern = true → long) :
    Agree long (.sql .longPattern) (d.rows (b.toQuery g)) (e.rows (b.toQuery g)) := by
  have hresolved := h.resolved_joined hc (d.table g)
  have hasks : ((b.joined g c).resolved (d.table g).relation).AsksFor run := by
    obtain ⟨_, hterm⟩ := h.isChain hc
    rw [hresolved]
    refine ⟨_, rfl, ?_⟩
    simp [Expr.and, Expr.terms, hterm]
  have hfails : ((b.joined g c).resolved (d.table g).relation).FailsAtPattern long := by
    rw [hresolved]
    exact h.failsAtPattern_joined hc hterms hlabel
  obtain ⟨o, p, r, hd, he, ho, hp⟩ := Select.failure?_of_shares hasks hfails hrun hshares
  have hinner : (b.rows g).answer (d.table g).relation =
      (b.rows g).answer (e.table g).relation := by
    exact Select.answer_eq_of_shares (h.reads.resolved (d.table g)).asksFor hrun hshares
  refine rows_agree (r := r) ?_ ?_ ?_ ho hp
  · rw [h.answer_toQuery, h.answer_toQuery, hinner]
  · rw [h.failure?_toQuery hc]
    exact hd
  · rw [h.failure?_toQuery hc]
    exact he

end Database

/-! ### What is run on a store -/

def View.HasLongPattern (v : View) (page : Page) : Prop :=
  ∃ p, v.plan page = .ok p ∧ ∃ e ∈ p.reading.terms, e.hasLongPattern = true

def BatchRequest.HasLongPattern (r : BatchRequest) : Prop :=
  ∃ e ∈ r.scope.terms, e.hasLongPattern = true

def longPattern : EngineError :=
  .store (.sql .longPattern)

namespace Database

variable {long : Prop} {run : Int64} {d e : Database}

theorem conclude_agree {answer : Answer Database α} {f : α → β}
    (h : Agree long (.sql .longPattern) (answer d).1 (answer e).1) :
    Agree long longPattern (TabularStore.conclude f answer d).1
      (TabularStore.conclude f answer e).1 := by
  rw [TabularStore.fst_conclude, TabularStore.fst_conclude]
  exact (h.mapError EngineError.store).map f

theorem select_agree (hrun : 0 < run) (hshares : d.SharesRun run e) {g : Grain} {s : Selection}
    (h : (s.toQuery g).select.Reads g run)
    (hlong : ∀ e ∈ s.condition.elim [] Expr.terms, e.hasLongPattern = true → long) :
    Agree long (.sql .longPattern) (store.select g s d).1 (store.select g s e).1 := by
  apply rows_agree_of_reads hrun hshares h hlong
  intro i hi harms
  simp only [Selection.toQuery] at hi
  split at hi
  · simp [List.mem_singleton.1 hi, Expr.armsHaveLongPattern] at harms
  · obtain ⟨name, _, rfl⟩ := List.mem_map.1 hi
    simp [Expr.armsHaveLongPattern] at harms

theorem aggregate_agree (hrun : 0 < run) (hshares : d.SharesRun run e) {g : Grain}
    {b : Bucketing} (h : b.OfRun g run)
    (hlong : ∀ e ∈ b.condition.elim [] Expr.terms ++ b.label.conditions,
      e.hasLongPattern = true → long) :
    Agree long (.sql .longPattern) (store.aggregate g b d).1 (store.aggregate g b e).1 := by
  obtain ⟨c, hc, _⟩ := h.condition
  apply Agree.map
  apply rows_agree_of_buckets hrun hshares h hc
  · intro e he
    apply hlong
    rw [hc]
    exact List.mem_append_left _ he
  · intro harms
    rw [Expr.armsHaveLongPattern_eq, List.any_eq_true] at harms
    obtain ⟨e, he, helong⟩ := harms
    exact hlong e (List.mem_append_right _ he) helong

theorem read_agree (hrun : 0 < run) (hshares : d.SharesRun run e) {p : Plan} (h : p.OfRun run)
    (hlong : ∀ e ∈ p.reading.terms, e.hasLongPattern = true → long) :
    Agree long longPattern (store.read p.grain p.reading d).1
      (store.read p.grain p.reading e).1 := by
  obtain ⟨g, reading⟩ := p
  cases reading with
  | table columns s => exact conclude_agree (select_agree hrun hshares h hlong)
  | points x y a s => exact conclude_agree (select_agree hrun hshares h hlong)
  | buckets x y b => exact conclude_agree (aggregate_agree hrun hshares h hlong)

theorem execute_agree (hrun : 0 < run) (hshares : d.SharesRun run e) {v : View} (hv : v.run = run)
    (page : Page) :
    Agree (v.HasLongPattern page) longPattern (store.execute v page d).1
      (store.execute v page e).1 := by
  unfold TabularStore.execute
  cases hp : v.plan page with
  | error _ => exact .inl rfl
  | ok p =>
    apply read_agree hrun hshares (hv ▸ View.ofRun_plan hp)
    intro e he hlong
    exact ⟨p, hp, e, he, hlong⟩

theorem nextBatch_agree (hrun : 0 < run) (hshares : d.SharesRun run e) {r : BatchRequest}
    (hr : r.run = run) :
    Agree r.HasLongPattern longPattern (store.nextBatch r d).1 (store.nextBatch r e).1 := by
  unfold TabularStore.nextBatch
  cases hs : r.selection with
  | error _ => exact .inl rfl
  | ok s =>
    apply conclude_agree
    apply select_agree hrun hshares (hr ▸ BatchRequest.reads hs)
    intro e he hlong
    have hscope := r.ofRun_scope.after r.cursor
    obtain ⟨c, hc, _⟩ := hscope.predicate_eq
    obtain ⟨_, _, rfl⟩ := BatchRequest.selection_eq_ok hs
    simp only [hc, Option.elim_some] at he
    obtain ⟨e', he', hlong'⟩ := hscope.hasLongPattern_of_mem_terms hc he hlong
    rcases List.mem_append.1 he' with he' | he'
    · exact ⟨e', he', hlong'⟩
    · -- the term of the cursor has no pattern
      simp only [Option.mem_toList, Option.map_eq_some_iff] at he'
      obtain ⟨id, _, rfl⟩ := he'
      simp [Expr.hasLongPattern, Expr.pattern?] at hlong'

theorem reads_distinctQuery {g : Grain} {column : String} (hcolumn : column ∈ g.names)
    (direction : Direction) :
    (distinctQuery g column (Scope.ofRun g run).predicate direction).select.Reads g run := by
  refine ⟨rfl, ?_, (Scope.ofRun_ofRun g run).predicate_eq, rfl, ?_⟩
  · intro i hi
    simp only [distinctQuery, List.mem_singleton] at hi
    rw [hi]
    exact .column hcolumn
  · intro k hk
    simp only [distinctQuery, List.mem_singleton] at hk
    rw [hk]
    exact ⟨column, hcolumn, rfl⟩

theorem distinctOf_eq (hrun : 0 < run) (hshares : d.SharesRun run e) {g : Grain} {column : String}
    (hcolumn : column ∈ g.names) (direction : Direction) (f : List Value → List String) :
    (store.distinctOf run g column direction f d).1 =
      (store.distinctOf run g column direction f e).1 := by
  have hreads :
      (distinctQuery g column (Scope.ofRun g run).predicate direction).select.Reads g run :=
    reads_distinctQuery hcolumn direction
  have hagree : Agree False (.sql .longPattern)
      (d.rows (distinctQuery g column (Scope.ofRun g run).predicate direction))
      (e.rows (distinctQuery g column (Scope.ofRun g run).predicate direction)) := by
    apply rows_agree_of_reads hrun hshares hreads
    · intro t ht hlong
      have : t = Scope.runTerm run := by
        simpa [distinctQuery, Select.terms, Scope.ofRun, Scope.predicate, Expr.conjunction,
          Expr.terms, Scope.runTerm] using ht
      simp [this, Scope.runTerm, Expr.hasLongPattern, Expr.pattern?] at hlong
    · intro i hi harms
      simp only [distinctQuery, List.mem_singleton] at hi
      simp [hi, Expr.armsHaveLongPattern] at harms
  simp only [TabularStore.distinctOf, Int64.not_le.2 hrun, if_false, TabularStore.fst_conclude,
    store]
  rw [hagree.eq not_false]

theorem next_agree (hrun : 0 < run) (hshares : d.SharesRun run e) {c : BatchCursor}
    (hc : c.request.run = run) :
    (c.next store d).1 = (c.next store e).1 ∨ c.request.HasLongPattern ∧
      ((c.next store d).1.1 = some (.error longPattern) ∨
        (c.next store e).1.1 = some (.error longPattern)) := by
  cases hfinished : c.finished with
  | true =>
    left
    rw [BatchCursor.next_of_finished hfinished, BatchCursor.next_of_finished hfinished]
  | false =>
    rw [BatchCursor.next_of_not_finished hfinished, BatchCursor.next_of_not_finished hfinished]
    rcases nextBatch_agree hrun hshares hc with h | ⟨hlong, h | h⟩
    · left
      rw [h]
    · right
      exact ⟨hlong, .inl (by rw [h]; rfl)⟩
    · right
      exact ⟨hlong, .inr (by rw [h]; rfl)⟩

theorem request_next (c : BatchCursor) (d : Database) :
    ∃ cursor, (c.next store d).1.2.request = { c.request with cursor } := by
  cases hfinished : c.finished with
  | true =>
    rw [BatchCursor.next_of_finished hfinished]
    exact ⟨c.request.cursor, rfl⟩
  | false =>
    rw [BatchCursor.next_of_not_finished hfinished]
    unfold BatchCursor.advance
    split
    · exact ⟨c.request.cursor, rfl⟩
    · split
      · exact ⟨c.request.cursor, rfl⟩
      · split
        · exact ⟨c.request.cursor, rfl⟩
        · next id _ => exact ⟨some id, rfl⟩

theorem pulls_succ (n : Nat) (c : BatchCursor) (d : Database) :
    (BatchCursor.pulls store (n + 1) c d).1 =
      if (c.next store d).1.1.isSome then
        ⟨(c.next store d).1.1, (c.next store d).1.2⟩ ::
          (BatchCursor.pulls store n (c.next store d).1.2 d).1
      else [⟨(c.next store d).1.1, (c.next store d).1.2⟩] := by
  have hstate := c.state_next d
  simp only [BatchCursor.pulls, bind, StateT.bind]
  generalize c.next store d = answer at hstate ⊢
  obtain ⟨⟨batch, c'⟩, d'⟩ := answer
  simp only at hstate
  subst hstate
  cases batch with
  | none => rfl
  | some batch => rfl

theorem pulls_agree (hrun : 0 < run) (hshares : d.SharesRun run e) (n : Nat) {c : BatchCursor}
    (hc : c.request.run = run) :
    (BatchCursor.pulls store n c d).1 = (BatchCursor.pulls store n c e).1 ∨
      c.request.HasLongPattern ∧
        ∃ p ∈ (BatchCursor.pulls store n c d).1 ++ (BatchCursor.pulls store n c e).1,
          p.batch = some (.error longPattern) := by
  induction n generalizing c with
  | zero => exact .inl rfl
  | succ n ih =>
    rw [pulls_succ, pulls_succ]
    rcases next_agree hrun hshares hc with hnext | ⟨hlong, hfailed | hfailed⟩
    · -- with one answer both go on from the same cursor
      rw [← hnext]
      obtain ⟨cursor, hrequest⟩ := request_next c d
      split
      · have hthen := ih (c := (c.next store d).1.2) (by rw [hrequest]; exact hc)
        rcases hthen with h | ⟨hlong, p, hp, hb⟩
        · left
          rw [h]
        · right
          rw [hrequest] at hlong
          refine ⟨hlong, p, ?_, hb⟩
          rw [List.mem_append] at hp ⊢
          exact hp.imp (List.mem_cons_of_mem _) (List.mem_cons_of_mem _)
      · exact .inl rfl
    · right
      refine ⟨hlong, ⟨(c.next store d).1.1, (c.next store d).1.2⟩, ?_, hfailed⟩
      simp [hfailed]
    · right
      refine ⟨hlong, ⟨(c.next store e).1.1, (c.next store e).1.2⟩, ?_, hfailed⟩
      simp [hfailed]

/-- What is the same in two databases, but that either may fail at a pattern that is too long. -/
structure ReadSame (run : Int64) (d e : Database) : Prop where
  payloads : ∀ (v : View) (page : Page), v.run = run →
    Agree (v.HasLongPattern page) longPattern (store.execute v page d).1 (store.execute v page e).1
  batches : ∀ r : BatchRequest, r.run = run →
    Agree r.HasLongPattern longPattern (store.nextBatch r d).1 (store.nextBatch r e).1
  streams : ∀ (r : BatchRequest) (n : Nat), r.run = run →
    let p := (BatchCursor.pulls store n (.ofRequest r) d).1
    let q := (BatchCursor.pulls store n (.ofRequest r) e).1
    p = q ∨ r.HasLongPattern ∧ ∃ x ∈ p ++ q, x.batch = some (.error longPattern)
  dates : ∀ g, (store.referenceDates run g d).1 = (store.referenceDates run g e).1
  areas : ∀ g, (store.areaGroups run g d).1 = (store.areaGroups run g e).1

/-- What is read of a run is the same in all databases that share the rows of the run. -/
theorem readSame_of_sharesRun (hrun : 0 < run) (hshares : d.SharesRun run e) :
    ReadSame run d e := by
  constructor
  case payloads =>
    intro v page hv
    exact execute_agree hrun hshares hv page
  case batches =>
    intro r hr
    exact nextBatch_agree hrun hshares hr
  case streams =>
    intro r n hr
    exact pulls_agree hrun hshares n hr
  case dates =>
    intro g
    exact distinctOf_eq hrun hshares g.dateColumn_mem_names _ _
  case areas =>
    intro g
    exact distinctOf_eq hrun hshares g.areaColumn_mem_names _ _

/-! ### A row of another run -/

def strangerRow : Row :=
  Table.kept .building (Table.valueFor ⟨[(runColumn, .integer 2)]⟩ 5)

theorem holds_strangerRow : Table.Holds .building strangerRow :=
  Table.holds_kept rfl

def withStranger (d : Database) : Database :=
  d.withTable .building ((d.table .building).add strangerRow holds_strangerRow)

theorem sharesRun_withStranger (hid : 5 ∉ (d.table .building).ids) :
    d.SharesRun 1 d.withStranger := by
  intro g row hrow
  have hne : row ≠ strangerRow := by
    rintro rfl
    exact absurd hrow (by decide)
  by_cases hg : g = .building
  · subst hg
    simp only [withStranger, table_withTable]
    rw [(Table.perm_rows_add holds_strangerRow hid).mem_iff, List.mem_cons, or_iff_right hne]
  · rw [withStranger, table_withTable_of_ne _ _ hg]

theorem readSame_withStranger :
    (0 : Int64) < 1 ∧ Reader.loneDatabase.SharesRun 1 Reader.loneDatabase.withStranger ∧
      ReadSame 1 Reader.loneDatabase Reader.loneDatabase.withStranger :=
  have hid : 5 ∉ (Reader.loneDatabase.table .building).ids := by decide
  ⟨by decide, sharesRun_withStranger hid,
    readSame_of_sharesRun (by decide) (sharesRun_withStranger hid)⟩

def probe (text : String) : BatchRequest where
  run := 1
  grain := .building
  filters := [
    { column := some idColumn, type := .integer, operation := .eq, value := some (.integer 5) },
    { column := some areaColumn, type := .text, operation := .contains
      value := some (.text text) },
    { column := some runColumn, type := .integer, operation := .eq, value := some (.integer 1) }]
  size := 1

def probeTerms (text : String) : List Expr :=
  [Scope.runTerm 1, .binary .eq (.column idColumn) (.integer 5),
    .like (.column areaColumn) (.text ("%" ++ text ++ "%")) false, Scope.runTerm 1]

def probeSelect (text : String) : Select where
  items := [⟨.star, none⟩]
  source := some Grain.building.table
  condition := Expr.conjunction (probeTerms text)
  order := [idOrder]
  limit := some 1

theorem selection_probe (text : String) :
    ∃ s, (probe text).selection = .ok s ∧ s.toQuery .building = ⟨probeSelect text, []⟩ := by
  refine ⟨_, rfl, rfl⟩

theorem reads_probe (text : String) : (probeSelect text).Reads .building 1 := by
  obtain ⟨s, hs, hq⟩ := selection_probe text
  have := BatchRequest.reads hs
  have h := congrArg Query.select hq
  simp only at h
  rw [← h]
  exact this

theorem settled_probe (text : String) : (probeSelect text).settledTerms = [Scope.runTerm 1] := by
  rfl

theorem rowTerms_probe (text : String) (t : Table .building) :
    (probeSelect text).rowTerms t.relation = [
      .binary .eq (.column idColumn) (.integer 5), .binary .eq (.column idColumn) (.integer 5),
      .like (.column areaColumn) (.text ("%" ++ text ++ "%")) false, Scope.runTerm 1] := by
  rfl

theorem compare_integer_self (i : Int64) :
    Operator.eq.compare .number (.integer i) (.integer i) = some true := by
  simp [Operator.compare, Conversion.apply, Value.toNumber, Value.isNull, Operator.holds,
    SortKey.ofValue]

theorem isTrue_pinned_probe (text : String) :
    (Scope.runTerm 1).isTrue Grain.building.schema
      (.single ((probeSelect text).pinned Grain.building.schema)) = true := by
  have hpinned : ((probeSelect text).pinned Grain.building.schema).get? runColumn =
      some (.integer 1) := by
    rfl
  rw [Expr.isTrue, Scope.runTerm, Table.eval_integer_column .eq (by decide) Table.affinity?_run,
    hpinned, Option.getD_some, compare_integer_self]
  rfl

theorem resolved_probe (text : String) (t : Table .building) :
    (probeSelect text).resolved t.relation = probeSelect text := by
  rw [(reads_probe text).resolved_eq, (reads_probe text).orderOn_id rfl]
  rfl

theorem accepted_probe (text : String) (d : Database) :
    Query.refusal? ⟨probeSelect text, []⟩ d.relation = none := by
  obtain ⟨c, hc, hchain, _⟩ := (reads_probe text).condition
  have hclean : Token.Clean (Query.tokens .sqlite ⟨probeSelect text, []⟩) := by
    have := Query.clean_star hchain (some 1) none
    rw [← hc] at this
    exact this
  apply Query.refusal?_of_reads (reads_probe text) hclean.firstFault?
  · exact Nat.le_of_ble_eq_true rfl
  · intro c hc
    obtain rfl : _ = c := Option.some.inj hc
    exact Nat.le_of_ble_eq_true rfl
  · exact Nat.le_of_ble_eq_true rfl
  · exact Nat.le_of_ble_eq_true rfl

theorem isTrue_id_stranger :
    Expr.isTrue Grain.building.schema (.single strangerRow)
      (.binary .eq (.column idColumn) (.integer 5)) = true := by
  have hid : strangerRow.get? idColumn = some (.integer 5) := by
    rfl
  rw [Expr.isTrue, Table.eval_integer_column .eq (by decide) Table.affinity?_id, hid,
    Option.getD_some, compare_integer_self]
  rfl

theorem failureOfTerms?_stranger {text : String}
    (h : Pattern.sizeLimit < ("%" ++ text ++ "%").utf8ByteSize) :
    Select.failureOfTerms? Grain.building.schema (.single strangerRow)
      ((probeSelect text).rowTerms ((withStranger {}).table .building).relation) =
        some .longPattern := by
  have hterm : Expr.IsTerm Grain.building.names
      (.like (.column areaColumn) (.text ("%" ++ text ++ "%")) false) :=
    .like Grain.building.areaColumn_mem_names
  have hfails : Expr.failure? Grain.building.schema (.single strangerRow) true
      (.like (.column areaColumn) (.text ("%" ++ text ++ "%")) false) = some .longPattern := by
    rw [hterm.failure?_eq]
    exact if_pos (decide_eq_true h)
  have hid : Expr.failure? Grain.building.schema (.single strangerRow) true
      (.binary .eq (.column idColumn) (.integer 5)) = none := by
    rfl
  rw [rowTerms_probe]
  simp only [Select.failureOfTerms?, hid, isTrue_id_stranger, hfails]
  rfl

theorem failureOfTerms?_settled (text : String) :
    Select.failureOfTerms? Grain.building.schema
      (.single ((probeSelect text).pinned Grain.building.schema))
        (probeSelect text).settledTerms = none := by
  simp only [settled_probe, Select.failureOfTerms?, isTrue_pinned_probe]
  rfl

theorem failure?_probe_stranger {text : String}
    (h : Pattern.sizeLimit < ("%" ++ text ++ "%").utf8ByteSize) :
    (probeSelect text).failure? ((withStranger {}).table .building).relation none =
      some .longPattern := by
  have hlimit : (probeSelect text).limit ≠ some 0 := by
    simp [probeSelect]
  have hrows : (probeSelect text).arranged ((withStranger {}).table .building).relation =
      [strangerRow] :=
    (reads_probe text).arranged_eq ((withStranger {}).table .building)
  have hsettled : (probeSelect text).settledTerms.all (·.isTrue Grain.building.schema
      (.single ((probeSelect text).pinned Grain.building.schema))) = true := by
    simp only [settled_probe, List.all_cons, List.all_nil, isTrue_pinned_probe, Bool.and_true]
  have hfields : ((withStranger {}).table .building).relation.fields = Grain.building.schema := rfl
  simp only [Select.failure?, hlimit, if_false, resolved_probe, hrows, Select.failureOnRows?,
    hfields, failureOfTerms?_settled, hsettled, List.findSome?_cons, Select.failureOnRow?,
    failureOfTerms?_stranger h]
  rfl

theorem failure?_probe_empty (text : String) :
    (probeSelect text).failure? ((({} : Database).table .building).relation) none = none := by
  have hlimit : (probeSelect text).limit ≠ some 0 := by
    simp [probeSelect]
  have hrows : (probeSelect text).arranged (({} : Database).table .building).relation = [] :=
    (reads_probe text).arranged_eq (({} : Database).table .building)
  have hfields : (({} : Database).table .building).relation.fields = Grain.building.schema := rfl
  simp only [Select.failure?, hlimit, if_false, resolved_probe, hrows, Select.failureOnRows?,
    hfields, failureOfTerms?_settled, List.findSome?_nil, Select.failureOfGroups?,
    (reads_probe text).isPlain]
  simp

theorem rows_probe (text : String) {d : Database} {failure : Option SqlError}
    (h : (probeSelect text).failure? (d.table .building).relation none = failure) :
    d.rows ⟨probeSelect text, []⟩ = match failure with
      | some e => .error (.sql e)
      | none => .ok (Query.answer ⟨probeSelect text, []⟩ d.relation).rows := by
  have hsource : Query.source d.relation (probeSelect text) = (d.table .building).relation :=
    d.relation_table .building
  have hfailure : Query.failure? ⟨probeSelect text, []⟩ d.relation = failure := by
    simp only [Query.failure?, Query.failureWith?, List.map_nil, (reads_probe text).regrouped_eq,
      hsource]
    exact h
  simp only [rows, Query.run, accepted_probe, hfailure]
  cases failure with
  | none => rfl
  | some e => rfl

theorem nextBatch_probe {text : String}
    (h : Pattern.sizeLimit < ("%" ++ text ++ "%").utf8ByteSize) :
    (∃ rows, (store.nextBatch (probe text) {}).1 = .ok rows) ∧
      (store.nextBatch (probe text) (withStranger {})).1 = .error longPattern := by
  obtain ⟨s, hs, hq⟩ := selection_probe text
  have hbatch : ∀ d, (store.nextBatch (probe text) d).1 =
      ((d.rows ⟨probeSelect text, []⟩).mapError EngineError.store).map id := by
    intro d
    rw [← hq]
    simp only [TabularStore.nextBatch, hs, TabularStore.fst_conclude]
    rfl
  rw [hbatch, hbatch, rows_probe text (failure?_probe_empty text),
    rows_probe text (failure?_probe_stranger h)]
  exact ⟨⟨_, rfl⟩, rfl⟩

def letters : Nat → String
  | 0 => ""
  | n + 1 => (letters n).push 'a'

theorem utf8ByteSize_letters (n : Nat) : (letters n).utf8ByteSize = n := by
  induction n with
  | zero => rfl
  | succ n ih =>
    rw [letters, String.utf8ByteSize_push, ih]
    rfl

/-- Whether a pattern that is too long is met may depend on a row of another run. -/
theorem nextBatch_ne_withStranger :
    (probe (letters 50001)).run = 1 ∧ SharesRun 1 {} (withStranger {}) ∧
      (store.nextBatch (probe (letters 50001)) {}).1 ≠
        (store.nextBatch (probe (letters 50001)) (withStranger {})).1 := by
  have hlong : Pattern.sizeLimit < ("%" ++ letters 50001 ++ "%").utf8ByteSize := by
    rw [String.utf8ByteSize_append, String.utf8ByteSize_append, utf8ByteSize_letters]
    decide
  obtain ⟨⟨rows, hok⟩, herror⟩ := nextBatch_probe hlong
  refine ⟨rfl, sharesRun_withStranger (by decide), ?_⟩
  rw [hok, herror]
  simp

end Database

end Vacancy
