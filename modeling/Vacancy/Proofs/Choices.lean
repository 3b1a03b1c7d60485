import Mathlib.Data.List.Sort
import Vacancy.Proofs.Bytes
import Vacancy.Proofs.Containment
import Vacancy.Proofs.Isolation
import Vacancy.Proofs.Schedule
import Vacancy.Proofs.Years

/-!
What streams can be restricted to. A database offers the dates and the areas that occur in a run,
each once and in the order of their bytes; the streams of all that it offers share out the rows of
the run that have a date, or an area.
-/

namespace Vacancy

open Sql

namespace Sql

/-! ### Different values -/

theorem firsts_map [DecidableEq κ] (key : β → κ) (f : α → β) (as : List α) :
    firsts key (as.map f) = (firsts (key ∘ f) as).map f := by
  induction as with
  | nil => rfl
  | cons a as ih => simp [firsts, ih, List.filter_map, Function.comp_def]

theorem mem_of_mem_firsts [DecidableEq κ] {key : α → κ} {as : List α} {a : α}
    (h : a ∈ firsts key as) : a ∈ as := by
  induction as with
  | nil => exact h
  | cons b bs ih =>
    rcases List.mem_cons.1 h with rfl | h
    · exact List.mem_cons_self
    · exact List.mem_cons_of_mem _ (ih (List.mem_filter.1 h).1)

/-- Of the rows with one value the first is kept; those that are kept come in order. -/
theorem Select.sorted_distinct {s : Select} {direction : Direction} (hdistinct : s.distinct = true)
    (horder : s.order.map (·.direction) = [direction]) {key : α → SortKey} {row : α → Row}
    (hrow : ∀ a, (row a).values.map SortKey.ofValue = [key a]) (as : List α) :
    ∃ bs : List α, (∀ b ∈ bs, b ∈ as) ∧ (∀ a ∈ as, ∃ b ∈ bs, key b = key a) ∧
      bs.Pairwise (fun a b => direction.before (key a) (key b) = true) ∧
      s.sorted (as.map fun a => ([key a], row a)) = bs.map row := by
  let le (a b : α) : Bool := inOrder [direction] [key a] [key b]
  let kept := firsts (fun a => [key a]) as
  have hperm : (kept.mergeSort le).Perm kept := List.mergeSort_perm _ _
  refine ⟨kept.mergeSort le, ?_, ?_, ?_, ?_⟩
  · intro b hb
    exact mem_of_mem_firsts (hperm.mem_iff.1 hb)
  · intro a ha
    have hmem : [key a] ∈ kept.map fun a => [key a] := mem_map_firsts.2 ⟨a, ha, rfl⟩
    obtain ⟨b, hb, heq⟩ := List.mem_map.1 hmem
    exact ⟨b, hperm.mem_iff.2 hb, (List.cons.inj heq).1⟩
  · have hsorted : (kept.mergeSort le).Pairwise fun a b => le a b = true := by
      apply List.pairwise_mergeSort
      · intro a b c
        exact inOrder_trans rfl rfl rfl
      · intro a b
        exact inOrder_total _ _ _
    have hnodup := nodup_map_firsts (fun a => [key a]) as
    rw [← (hperm.map _).nodup_iff, List.Nodup, List.pairwise_map] at hnodup
    apply (hsorted.and hnodup).imp
    rintro a b ⟨hle, hne⟩
    rcases inOrder_cons_iff.1 hle with hlt | ⟨heq, _⟩
    · exact hlt
    · exact absurd (congrArg ([·]) heq) hne
  · have hkey : (fun e : List SortKey × Row => e.2.values.map SortKey.ofValue) ∘
        (fun a => ([key a], row a)) = fun a => [key a] :=
      funext hrow
    rw [sorted, if_pos hdistinct, firsts_map, hkey, horder, ← List.map_mergeSort (r := le)]
    · rw [List.map_map]
      rfl
    · intro a _ b _
      rfl

theorem Select.orderOn_singleton {s : Select} {k : OrderKey} (h : s.order = [k])
    (rel : Relation) : s.orderOn rel = [k] := by
  rw [orderOn, h]
  split
  · simp_all
  · simp_all
  · rfl

end Sql

namespace Table

variable {g : Grain}

def ofRun (t : Table g) (run : Int64) : List Row :=
  t.rows.filter (·.run? = some run)

theorem holds_of_mem_ofRun {t : Table g} {run : Int64} {row : Row} (h : row ∈ t.ofRun run) :
    Holds g row :=
  t.holds row (List.mem_filter.1 h).1

end Table

namespace Row

def place (r : Row) (column : String) : SortKey :=
  .ofValue (r.cell column)

theorem place_eq_text_iff {r : Row} {column s : String} :
    r.place column = .text s ↔ r.cell column = .text s := by
  rw [place]
  cases r.cell column <;> simp [SortKey.ofValue]

end Row

namespace Database

variable {g : Grain} {column : String}

/-- There is room for the query for the values of a column in a run, and it fails on no row. -/
theorem accepted_distinct (hcolumn : column ∈ g.names) (run : Int64) (direction : Direction)
    (d : Database) :
    (distinctQuery g column (Scope.ofRun g run).predicate direction).refusal? d.relation = none ∧
      (distinctQuery g column (Scope.ofRun g run).predicate direction).failure? d.relation =
        none := by
  have hreads :
      (distinctQuery g column (Scope.ofRun g run).predicate direction).select.Reads g run :=
    reads_distinctQuery hcolumn direction
  have hnames : ∀ name ∈ [column], name ∈ g.names := by
    simpa using hcolumn
  constructor
  · apply Query.refusal?_of_reads hreads (hreads.clean_columns rfl hnames).firstFault?
    · exact Nat.le_of_ble_eq_true rfl
    · rintro _ ⟨⟩
      exact Nat.le_of_ble_eq_true rfl
    · rw [← List.length_map, Select.fields_columns rfl hnames]
      exact Nat.le_of_ble_eq_true rfl
    · exact Nat.le_of_ble_eq_true rfl
  · apply hreads.failure?_eq
    · intro e he
      have hrun : e = Scope.runTerm run := by
        simpa [distinctQuery, Select.terms, Scope.ofRun, Scope.predicate, Expr.conjunction,
          Expr.terms, Scope.runTerm] using he
      rw [hrun]
      rfl
    · intro i hi
      rw [List.mem_singleton.1 hi]
      rfl

theorem answer_distinct (hcolumn : column ∈ g.names) {run : Int64} (hrun : 0 < run)
    (direction : Direction) (d : Database) :
    ∃ rows : List Row, (∀ row ∈ rows, row ∈ (d.table g).ofRun run) ∧
      (∀ row ∈ (d.table g).ofRun run, ∃ row' ∈ rows, row'.place column = row.place column) ∧
      rows.Pairwise (fun a b => direction.before (a.place column) (b.place column) = true) ∧
      ((distinctQuery g column (Scope.ofRun g run).predicate direction).answer d.relation).rows =
        rows.map (Row.project [column]) := by
  let s := (distinctQuery g column (Scope.ofRun g run).predicate direction).select
  have hreads : s.Reads g run := reads_distinctQuery hcolumn direction
  have hresolved : s.resolved (d.table g).relation = s := by
    rw [hreads.resolved_eq, Select.orderOn_singleton rfl]
    rfl
  have hkept : s.kept g.schema (d.table g).rows = (d.table g).ofRun run := by
    have hcondition : s.condition = some (Scope.runTerm run) := rfl
    rw [Select.kept_eq_filter hcondition]
    apply List.filter_congr
    intro row hrow
    exact Table.admits_run ((d.table g).holds row hrow) hrun
  have hfields : (s.fields (d.table g).relation).map (·.1) = [column] :=
    Select.fields_columns rfl (by simpa using hcolumn)
  have hrowOf : ∀ row, s.rowOf g.schema [column] (.single row) = row.project [column] :=
    fun row => Select.rowOf_columns rfl g.schema row
  have hplace : ∀ row : Row,
      (row.project [column]).values.map SortKey.ofValue = [row.place column] :=
    fun _ => rfl
  obtain ⟨rows, hmem, hall, hsorted, hrows⟩ :=
    Select.sorted_distinct (s := s) rfl rfl hplace ((d.table g).ofRun run)
  refine ⟨rows, hmem, hall, hsorted, ?_⟩
  refine (d.answer_of_reads hreads).trans ?_
  rw [hreads.answer_rows, hresolved, hfields, Select.rowsOf, Select.groupsOf, if_pos hreads.isPlain,
    hkept, List.map_map]
  simp only [Function.comp_def, hrowOf]
  exact hrows

theorem exists_distinct (hcolumn : column ∈ g.names) {run : Int64} (hrun : 0 < run)
    (direction : Direction) (d : Database) :
    ∃ rows : List Row, (∀ row ∈ rows, row ∈ (d.table g).ofRun run) ∧
      (∀ row ∈ (d.table g).ofRun run, ∃ row' ∈ rows, row'.place column = row.place column) ∧
      rows.Pairwise (fun a b => direction.before (a.place column) (b.place column) = true) ∧
      store.distinct g column (Scope.ofRun g run).predicate direction d =
        (.ok (rows.map (·.cell column)), d) := by
  obtain ⟨rows, hmem, hall, hsorted, hanswer⟩ := answer_distinct hcolumn hrun direction d
  obtain ⟨hrefusal, hfailure⟩ := accepted_distinct hcolumn run direction d
  refine ⟨rows, hmem, hall, hsorted, ?_⟩
  have hanswered : d.rows (distinctQuery g column (Scope.ofRun g run).predicate direction) =
      .ok (rows.map (Row.project [column])) := by
    rw [Database.rows, Query.run, hrefusal, hfailure]
    exact congrArg Except.ok hanswer
  have hhead : (fun row : Row => row.values.head?) ∘ Row.project [column] =
      some ∘ fun row => row.cell column := rfl
  simp only [store, hanswered, Except.map, List.filterMap_map, hhead, List.filterMap_eq_map]

end Database

/-! ### Columns of texts -/

theorem Grain.affinity?_area (g : Grain) : g.schema.affinity? areaColumn = some .text := by
  cases g <;> rfl

namespace Table

variable {g : Grain} {column : String}

theorem Holds.toText?_cell_iff {row : Row} (h : Holds g row)
    (htext : g.schema.affinity? column = some .text) {s : String} :
    (row.cell column).toText? = some s ↔ row.cell column = .text s := by
  rcases h.cell_of_text htext with hcell | ⟨t, hcell⟩ <;> rw [hcell] <;> simp [Value.toText?]

def share (t : Table g) (run : Int64) (column text : String) : List Row :=
  (t.ofRun run).filter fun row => (row.cell column).toText? = some text

end Table

/-! ### Restricted streams -/

namespace Sql.Expr

variable {g : Grain} {row : Row} {column : String}

theorem admits_eq_text (h : Table.Holds g row) (htext : g.schema.affinity? column = some .text)
    (s : String) :
    (Predicate.compared column .eq (.text s)).admits g.schema row =
      decide ((row.cell column).toText? = some s) := by
  rcases h.cell_of_text htext with hcell | ⟨t, hcell⟩
  · rw [admits_compared_null hcell, hcell]
    rfl
  · rw [admits_compared_text htext hcell, hcell, Bool.eq_iff_iff]
    simp [Comparison.operator, Operator.holds, Value.toText?]

theorem evalList_texts (fs : Fields) (group : Group) (names : List String) :
    evalList fs group (names.map .text) = names.map Value.text := by
  induction names with
  | nil => rfl
  | cons s names ih =>
    rw [List.map_cons, evalList, ih]
    rfl

theorem admits_among (names : List String) :
    (Expr.among (.column column) (names.map .text)).admits g.schema row =
      names.any fun s => (Predicate.compared column .eq (.text s)).admits g.schema row := by
  rw [Bool.eq_iff_iff, List.any_eq_true]
  simp only [admits, isTrue, Predicate.compared, Comparison.operator, eval, evalList_texts,
    memberOf, List.map_map, Truth.ofValue_toValue, decide_eq_true_eq, Truth.any_eq_true,
    List.mem_map, Function.comp_apply, affinity]
  rfl

end Sql.Expr

namespace BatchRequest

/-- An iteration over the stream of a request ends, and has handed out the rows in batches. -/
def Yields (r : BatchRequest) (d : Database) (rows : List Row) : Prop :=
  ∃ batches : List (List Row), batches.flatten = rows ∧ ∃ enough, ∀ calls, enough ≤ calls →
    (BatchCursor.pulls Database.store calls (.ofRequest r) d).1.map (·.batch) =
      batches.map (some <| .ok ·) ++ [none]

variable {r : BatchRequest}

theorem yields_pending (hvalid : r.Valid)
    (hfits : ∀ cursor, ({ r with cursor } : BatchRequest).Fits) {d : Database}
    (hroom : (d.table r.grain).rows.length < 2 ^ 63 ∨ r.size.toNat < 2 ^ 63) :
    r.Yields d (r.pending (d.table r.grain).rows) := by
  refine ⟨inBatches r.size.toNat (r.pending (d.table r.grain).rows),
    flatten_inBatches hvalid.size_pos _,
    (r.pending (d.table r.grain).rows).length / r.size.toNat + 2, ?_⟩
  intro calls hcalls
  have hdelivers := BatchCursor.delivers_pending (c := .ofRequest r) (s := ⟨d, []⟩) hvalid rfl rfl
    hroom hcalls
  rw [BatchCursor.pulls_eq_pulls_recording calls (.ofRequest r) ⟨d, []⟩]
  rcases hdelivers with h | ⟨m, e, _, hunfit, _⟩
  · rw [h.items, Option.map_none, Option.toList_none, List.append_nil]
    rfl
  · exact absurd (hfits _) hunfit

/-- A request for a run restricted by one more term, which says what text a column has. -/
theorem yields_share (hvalid : r.Valid) (hstart : r.cursor = none) {e : Expr}
    (hterms : r.scope.terms = [Scope.runTerm r.run, e])
    (hsmall : e.parameters ≤ 2 ∧ e.hasLongPattern = false) {column text : String}
    (hadmits : ∀ row, Table.Holds r.grain row →
      e.admits r.grain.schema row = decide ((row.cell column).toText? = some text)) {d : Database}
    (hroom : (d.table r.grain).rows.length < 2 ^ 63 ∨ r.size.toNat < 2 ^ 63) :
    r.Yields d ((d.table r.grain).share r.run column text) := by
  have hfits : ∀ cursor, ({ r with cursor } : BatchRequest).Fits := by
    intro cursor
    have hterms' : ({ r with cursor } : BatchRequest).scope.terms = [Scope.runTerm r.run, e] :=
      hterms
    apply fits_of_few
    · rw [hterms']
      exact Nat.le_of_ble_eq_true rfl
    · rw [hterms']
      intro e' he'
      rcases List.mem_pair.1 he' with rfl | rfl
      · exact ⟨Nat.le_of_ble_eq_true rfl, rfl⟩
      · exact hsmall
  have hpending : r.pending (d.table r.grain).rows =
      (d.table r.grain).share r.run column text := by
    rw [pending, Table.share, Table.ofRun, List.filter_filter]
    apply List.filter_congr
    intro row hrow
    have hrow := (d.table r.grain).holds row hrow
    have hrun : (Scope.runTerm r.run).admits r.grain.schema row = decide (row.run? = some r.run) :=
      Table.admits_run hrow hvalid.run
    have hafter : row.isAfter r.cursor = true := by
      rw [hstart]
      rfl
    rw [hafter, Scope.admits, hterms, r.ofRun_scope.grain]
    simp [hrun, hadmits row hrow, Bool.and_comm]
  rw [← hpending]
  exact yields_pending hvalid hfits hroom

def dateRequest (g : Grain) (run : Int64) (size : UInt64) (date : String) : BatchRequest where
  run
  grain := g
  date := some date
  size

def areaRequest (g : Grain) (run : Int64) (size : UInt64) (name : String) : BatchRequest where
  run
  grain := g
  areas := [name]
  size

section Restricted

variable {g : Grain} {run : Int64} {size : UInt64} {d : Database}

theorem yields_dateRequest (hrun : 0 < run) (hsize : size ≠ 0)
    (hroom : (d.table g).rows.length < 2 ^ 63 ∨ size.toNat < 2 ^ 63) (date : String) :
    (dateRequest g run size date).Yields d ((d.table g).share run dateColumn date) := by
  apply yields_share (r := dateRequest g run size date) ⟨hrun, hsize⟩ rfl rfl _ _ hroom
  · exact ⟨Nat.le_of_ble_eq_true rfl, rfl⟩
  · intro row hrow
    exact Expr.admits_eq_text hrow g.affinity?_date date

theorem yields_areaRequest (hrun : 0 < run) (hsize : size ≠ 0)
    (hroom : (d.table g).rows.length < 2 ^ 63 ∨ size.toNat < 2 ^ 63) (name : String) :
    (areaRequest g run size name).Yields d ((d.table g).share run areaColumn name) := by
  apply yields_share (r := areaRequest g run size name) ⟨hrun, hsize⟩ rfl rfl _ _ hroom
  · exact ⟨Nat.le_of_ble_eq_true rfl, rfl⟩
  · intro row hrow
    rw [← Expr.admits_eq_text hrow g.affinity?_area]
    exact (Expr.admits_among [name]).trans (Bool.or_false _)

end Restricted

end BatchRequest

/-! ### What is offered -/

theorem Value.ne_null_iff_toText? (v : Value) : v ≠ .null ↔ ∃ s, v.toText? = some s := by
  cases v <;> simp [toText?]

theorem TabularStore.areaName?_eq_some_iff {v : Value} {s : String} :
    areaName? v = some s ↔ s ≠ "" ∧ v = .text s := by
  cases v with
  | text t =>
    simp only [areaName?, Option.ite_none_left_eq_some, Option.some.injEq, Value.text.injEq]
    constructor <;> rintro ⟨hne, rfl⟩ <;> exact ⟨hne, rfl⟩
  | _ => simp [areaName?]

namespace Database

variable {g : Grain} {column : String} {run : Int64} {d : Database}

theorem exists_offered (hcolumn : column ∈ g.names) (hrun : 0 < run) (direction : Direction)
    {f : Value → Option String} (hf : ∀ row ∈ (d.table g).ofRun run, ∀ s,
      f (row.cell column) = some s → row.cell column = .text s) :
    ∃ texts, store.distinctOf run g column direction (·.filterMap f) d = (.ok texts, d) ∧
      texts.Pairwise (fun s t => direction.before (.text s) (.text t) = true) ∧
      ∀ s, s ∈ texts ↔ ∃ row ∈ (d.table g).ofRun run, f (row.cell column) = some s := by
  obtain ⟨rows, hmem, hall, hsorted, hdistinct⟩ := exists_distinct hcolumn hrun direction d
  refine ⟨(rows.map (·.cell column)).filterMap f, ?_, ?_, ?_⟩
  · rw [TabularStore.distinctOf, if_neg (Int64.not_le.2 hrun), TabularStore.conclude_eq, hdistinct]
    rfl
  · rw [List.filterMap_map, List.pairwise_filterMap]
    apply hsorted.imp_of_mem
    intro a b ha hb hab s hs t ht
    have ha := Row.place_eq_text_iff.2 (hf a (hmem a ha) s hs)
    have hb := Row.place_eq_text_iff.2 (hf b (hmem b hb) t ht)
    rwa [ha, hb] at hab
  · intro s
    simp only [List.mem_filterMap, List.mem_map, exists_exists_and_eq_and]
    constructor
    · rintro ⟨row, hrow, hs⟩
      exact ⟨row, hmem row hrow, hs⟩
    · rintro ⟨row, hrow, hs⟩
      have hcell := hf row hrow s hs
      obtain ⟨row', hrow', hplace⟩ := hall row hrow
      have hcell' := Row.place_eq_text_iff.1 (hplace.trans (Row.place_eq_text_iff.2 hcell))
      refine ⟨row', hrow', ?_⟩
      rw [hcell', ← hcell, hs]

/--
The streams of some requests share out rows: each hands out some of them, no two the same, and all
together hand out each of them once.
-/
structure SharesOut (d : Database) (request : String → BatchRequest) (texts : List String)
    (Wanted : Row → Prop) (share : String → List Row) : Prop where
  yields : ∀ s ∈ texts, (request s).Yields d (share s)
  nonempty : ∀ s ∈ texts, share s ≠ []
  disjoint : ∀ s ∈ texts, ∀ t ∈ texts, s ≠ t → (share s).Disjoint (share t)
  once : (texts.flatMap share).Nodup
  all : ∀ row, row ∈ texts.flatMap share ↔ Wanted row

theorem mem_share_iff {t : Table g} (htext : g.schema.affinity? column = some .text) {row : Row}
    {s : String} :
    row ∈ t.share run column s ↔ row ∈ t.ofRun run ∧ row.cell column = .text s := by
  rw [Table.share, List.mem_filter, decide_eq_true_iff]
  exact and_congr_right fun hrow => (Table.holds_of_mem_ofRun hrow).toText?_cell_iff htext

theorem sharesOut_of_offered (htext : g.schema.affinity? column = some .text)
    {f : Value → Option String} (hf : ∀ row ∈ (d.table g).ofRun run, ∀ s,
      f (row.cell column) = some s → row.cell column = .text s)
    {texts : List String} (hnodup : texts.Nodup)
    (htexts : ∀ s, s ∈ texts ↔ ∃ row ∈ (d.table g).ofRun run, f (row.cell column) = some s)
    {Wanted : Value → Prop} (hwanted : ∀ v, Wanted v ↔ ∃ s, f v = some s)
    {request : String → BatchRequest}
    (hyields : ∀ s, (request s).Yields d ((d.table g).share run column s)) :
    SharesOut d request texts
      (fun row => row ∈ (d.table g).ofRun run ∧ Wanted (row.cell column))
      ((d.table g).share run column) := by
  have hdisjoint : ∀ s t, s ≠ t →
      ((d.table g).share run column s).Disjoint ((d.table g).share run column t) := by
    intro s t hne row hs ht
    have hs := ((mem_share_iff htext).1 hs).2
    have ht := ((mem_share_iff htext).1 ht).2
    rw [hs, Value.text.injEq] at ht
    exact hne ht
  constructor
  case yields => exact fun s _ => hyields s
  case nonempty =>
    intro s hs
    obtain ⟨row, hrow, hfs⟩ := (htexts s).1 hs
    exact List.ne_nil_of_mem ((mem_share_iff htext).2 ⟨hrow, hf row hrow s hfs⟩)
  case disjoint => exact fun s _ t _ hne => hdisjoint s t hne
  case once =>
    rw [List.nodup_flatMap]
    refine ⟨fun s _ => ((d.table g).nodup_rows.filter _).filter _, ?_⟩
    exact hnodup.imp fun hne => hdisjoint _ _ hne
  case all =>
    intro row
    simp only [List.mem_flatMap, mem_share_iff htext, hwanted]
    constructor
    · rintro ⟨s, hs, hrow, hcell⟩
      obtain ⟨row', hrow', hfs⟩ := (htexts s).1 hs
      rw [hf row' hrow' s hfs, ← hcell] at hfs
      exact ⟨hrow, s, hfs⟩
    · rintro ⟨hrow, s, hs⟩
      exact ⟨s, (htexts s).2 ⟨row, hrow, hs⟩, hrow, hf row hrow s hs⟩

theorem nodup_of_before {texts : List String} {direction : Direction}
    (h : texts.Pairwise fun s t => direction.before (.text s) (.text t) = true) : texts.Nodup := by
  apply h.imp
  rintro s t hst rfl
  rw [direction.before_irrefl] at hst
  contradiction

/--
The dates of the rows of a run are offered from the last to the first, the names of their areas from
the first to the last, each of them once. The streams of the dates that are offered share out the
rows of the run with a date, and those of the names the rows with a name. No batch is longer than
`2 ^ 63 - 1` rows, so where its size is larger than that there are to be fewer rows.
-/
theorem choices_of_run (hrun : 0 < run) (d : Database) (g : Grain) :
    (∃ dates, store.referenceDates run g d = (.ok dates, d) ∧
      dates.Pairwise (fun s t => Text.bytes t < Text.bytes s) ∧
      (∀ s, s ∈ dates ↔ ∃ row ∈ (d.table g).ofRun run, row.cell dateColumn = .text s) ∧
      ∀ size, size ≠ 0 → (d.table g).rows.length < 2 ^ 63 ∨ size.toNat < 2 ^ 63 →
        SharesOut d (.dateRequest g run size) dates
          (fun row => row ∈ (d.table g).ofRun run ∧ row.cell dateColumn ≠ .null)
          ((d.table g).share run dateColumn)) ∧
    ∃ names, store.areaGroups run g d = (.ok names, d) ∧
      names.Pairwise (fun s t => Text.bytes s < Text.bytes t) ∧
      (∀ s, s ∈ names ↔ s ≠ "" ∧ ∃ row ∈ (d.table g).ofRun run, row.cell areaColumn = .text s) ∧
      ∀ size, size ≠ 0 → (d.table g).rows.length < 2 ^ 63 ∨ size.toNat < 2 ^ 63 →
        SharesOut d (.areaRequest g run size) names
          (fun row => row ∈ (d.table g).ofRun run ∧ ∃ s, s ≠ "" ∧ row.cell areaColumn = .text s)
          ((d.table g).share run areaColumn) := by
  constructor
  · have htext : ∀ row ∈ (d.table g).ofRun run, ∀ s,
        (row.cell dateColumn).toText? = some s ↔ row.cell dateColumn = .text s :=
      fun row hrow s => (Table.holds_of_mem_ofRun hrow).toText?_cell_iff g.affinity?_date
    have hf := fun row hrow s => (htext row hrow s).1
    obtain ⟨dates, hdates, hsorted, hmem⟩ :=
      exists_offered g.dateColumn_mem_names hrun .descending hf
    refine ⟨dates, hdates, ?_, ?_, ?_⟩
    · exact hsorted.imp fun h => (Text.before_iff_bytes_lt _ _).1 h
    · intro s
      rw [hmem]
      exact exists_congr fun row => and_congr_right fun hrow => htext row hrow s
    · intro size hsize hroom
      exact sharesOut_of_offered g.affinity?_date hf (nodup_of_before hsorted) hmem
        Value.ne_null_iff_toText? (BatchRequest.yields_dateRequest hrun hsize hroom)
  · have hf : ∀ row ∈ (d.table g).ofRun run, ∀ s,
        TabularStore.areaName? (row.cell areaColumn) = some s → row.cell areaColumn = .text s :=
      fun row _ s hs => (TabularStore.areaName?_eq_some_iff.1 hs).2
    obtain ⟨names, hnames, hsorted, hmem⟩ :=
      exists_offered g.areaColumn_mem_names hrun .ascending hf
    refine ⟨names, hnames, ?_, ?_, ?_⟩
    · exact hsorted.imp fun h => (Text.before_iff_bytes_lt _ _).1 h
    · intro s
      rw [hmem]
      simp only [TabularStore.areaName?_eq_some_iff]
      tauto
    · intro size hsize hroom
      exact sharesOut_of_offered g.affinity?_area hf (nodup_of_before hsorted) hmem
        (fun v => exists_congr fun s => TabularStore.areaName?_eq_some_iff.symm)
        (BatchRequest.yields_areaRequest hrun hsize hroom)

end Database

def placedAt (id run : Int64) (date area : Value) : Row :=
  Table.kept .building (Table.valueFor
    ⟨[(runColumn, .integer run), (dateColumn, date), (areaColumn, area)]⟩ id)

theorem holds_placedAt (id run : Int64) (date area : Value) :
    Table.Holds .building (placedAt id run date area) :=
  Table.holds_kept rfl

theorem cell_date_placedAt (id run : Int64) (date area : Value) :
    (placedAt id run date area).cell dateColumn = Affinity.text.store date :=
  rfl

theorem cell_area_placedAt (id run : Int64) (date area : Value) :
    (placedAt id run date area).cell areaColumn = Affinity.text.store area :=
  rfl

/-- Buildings of two areas and of none, on two dates and on none; the fifth is of another run. -/
def townTable : Table .building :=
  (((((Table.empty.add _ (holds_placedAt 1 1 (.text "2020-04-01") (.text "東町"))).add _
    (holds_placedAt 2 1 (.text "2021-04-01") .null)).add _
    (holds_placedAt 3 1 .null (.text ""))).add _
    (holds_placedAt 4 1 (.text "2020-04-01") (.text "West"))).add _
    (holds_placedAt 5 2 (.text "2022-04-01") (.text "North"))).add _
    (holds_placedAt 6 1 (.text "2021-04-01") (.text "東町"))

def townDatabase : Database :=
  ({} : Database).withTable .building townTable

theorem ofRun_townDatabase : (townDatabase.table .building).ofRun 1 =
    [placedAt 1 1 (.text "2020-04-01") (.text "東町"), placedAt 2 1 (.text "2021-04-01") .null,
      placedAt 3 1 .null (.text ""), placedAt 4 1 (.text "2020-04-01") (.text "West"),
      placedAt 6 1 (.text "2021-04-01") (.text "東町")] :=
  rfl

theorem eq_of_asymm {r : α → α → Prop} (hr : ∀ {a b}, r a b → ¬r b a) {as bs : List α}
    (has : as.Pairwise r) (hbs : bs.Pairwise r) (h : ∀ a, a ∈ as ↔ a ∈ bs) : as = bs := by
  have hirrefl : Std.Irrefl r := ⟨fun _ h => hr h h⟩
  have hantisymm : Std.Antisymm r := ⟨fun _ _ h h' => absurd h' (hr h)⟩
  exact has.eq_of_mem_iff hbs h

namespace Database

theorem choices_of_townDatabase :
    (0 : Int64) < 1 ∧ (10 : UInt64) ≠ 0 ∧ (10 : UInt64).toNat < 2 ^ 63 ∧
      (store.referenceDates 1 .building townDatabase =
          (.ok ["2021-04-01", "2020-04-01"], townDatabase) ∧
        (BatchRequest.dateRequest .building 1 10 "2021-04-01").Yields townDatabase
          [placedAt 2 1 (.text "2021-04-01") .null,
            placedAt 6 1 (.text "2021-04-01") (.text "東町")] ∧
        (BatchRequest.dateRequest .building 1 10 "2020-04-01").Yields townDatabase
          [placedAt 1 1 (.text "2020-04-01") (.text "東町"),
            placedAt 4 1 (.text "2020-04-01") (.text "West")]) ∧
      store.areaGroups 1 .building townDatabase = (.ok ["West", "東町"], townDatabase) ∧
        (BatchRequest.areaRequest .building 1 10 "West").Yields townDatabase
          [placedAt 4 1 (.text "2020-04-01") (.text "West")] ∧
        (BatchRequest.areaRequest .building 1 10 "東町").Yields townDatabase
          [placedAt 1 1 (.text "2020-04-01") (.text "東町"),
            placedAt 6 1 (.text "2021-04-01") (.text "東町")] := by
  have hrun : (0 : Int64) < 1 := by decide
  have hsize : (10 : UInt64) ≠ 0 := by decide
  have hroom : (10 : UInt64).toNat < 2 ^ 63 := by decide
  obtain ⟨⟨dates, hdates, hsorted, hmem, hshares⟩, names, hnames, hsorted', hmem', hshares'⟩ :=
    choices_of_run hrun townDatabase .building
  have hshares := hshares 10 hsize (.inr hroom)
  have hshares' := hshares' 10 hsize (.inr hroom)
  obtain rfl : dates = ["2021-04-01", "2020-04-01"] := by
    apply eq_of_asymm List.lt_asymm hsorted (by decide +kernel)
    intro s
    rw [hmem, ofRun_townDatabase]
    simp only [List.mem_cons, List.not_mem_nil, or_false, exists_eq_or_imp, exists_eq_left,
      cell_date_placedAt, Affinity.store, Value.bound, Value.toText, Value.text.injEq]
    grind
  obtain rfl : names = ["West", "東町"] := by
    apply eq_of_asymm List.lt_asymm hsorted' (by decide +kernel)
    intro s
    rw [hmem', ofRun_townDatabase]
    simp only [List.mem_cons, List.not_mem_nil, or_false, exists_eq_or_imp, exists_eq_left,
      cell_area_placedAt, Affinity.store, Value.bound, Value.toText, Value.text.injEq]
    grind
  exact ⟨hrun, hsize, hroom,
    ⟨hdates, hshares.yields _ (by simp), hshares.yields _ (by simp)⟩,
    hnames, hshares'.yields _ (by simp), hshares'.yields _ (by simp)⟩

end Database

end Vacancy
