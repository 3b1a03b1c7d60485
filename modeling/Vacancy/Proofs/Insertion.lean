import Vacancy.Proofs.Numeral
import Vacancy.Proofs.TableRows

/-!
Rows that are added to the tables of detail. A call is refused for what it names, for its id or for
want of a run, and leaves everything as it is; or it adds one row with the given values under an id
that no row had, and leaves the rest. So the ids of a table are those that calls returned, each
once.
-/

namespace Vacancy

open Sql

namespace Decimal

theorem toBits_inj {x y : Float} (h : x.toBits = y.toBits) : x = y := by
  cases x with | ofModel m =>
  cases y with | ofModel n =>
  cases m
  cases n
  cases h
  rfl

theorem eq_zero_of_scaled_eq_zero {x : Float} (hx : x.isFinite = true) (h : scaled x = 0) :
    x = 0.0 ∨ x = -0.0 := by
  have hfields : exponentField x = 0 ∧ fractionField x = 0 := by
    simp only [scaled, isNaN_of_isFinite hx, hx, Bool.not_true, Bool.false_eq_true, if_false] at h
    cases hexponent : exponentField x with
    | zero =>
      simp only [hexponent] at h
      exact ⟨rfl, by split at h <;> omega⟩
    | succ e =>
      have hpos := Nat.mul_pos (Nat.add_pos_left (pow2_pos 52) (fractionField x)) (pow2_pos e)
      simp only [hexponent] at h
      split at h <;> omega
  -- only the sign is left
  have hbits : x.toBits.toNat = 0 ∨ x.toBits.toNat = 2 ^ 63 := by
    obtain ⟨hexponent, hfraction⟩ := hfields
    have hlt := x.toBits.toNat_lt
    rw [exponentField, show pow2 52 = 2 ^ 52 from rfl, show pow2 11 = 2 ^ 11 from rfl] at hexponent
    rw [fractionField, show pow2 52 = 2 ^ 52 from rfl] at hfraction
    omega
  rcases hbits with hbits | hbits
  · exact .inl (toBits_inj (UInt64.toNat_inj.1 hbits))
  · exact .inr (toBits_inj (UInt64.toNat_inj.1 hbits))

end Decimal

/-! ### What a column keeps -/

def Value.unsigned : Value → Value
  | .real x => .real (if x = -0.0 then 0.0 else x)
  | v => v

namespace Sql.Affinity

/-- The values of the type that a column is declared with, and null. -/
inductive Suits : Affinity → Value → Prop where
  | null {a} : Suits a .null
  | integer {n} : Suits .integer (.integer n)
  | real {x} (h : x.isFinite = true) : Suits .real (.real x)
  | text {s} : Suits .text (.text s)

theorem unsigned_eq {x : Float} (h : x.isFinite = true) :
    (if Decimal.scaled x = 0 then 0.0 else x) = if x = -0.0 then 0.0 else x := by
  by_cases hzero : Decimal.scaled x = 0
  · rw [if_pos hzero]
    rcases Decimal.eq_zero_of_scaled_eq_zero h hzero with rfl | rfl
    · decide
    · decide
  · have hne : x ≠ -0.0 := by
      rintro rfl
      exact hzero (by decide)
    rw [if_neg hzero, if_neg hne]

theorem store_of_suits {a : Affinity} {v : Value} (h : a.Suits v) : a.store v = v.unsigned := by
  cases h with
  | null => cases a <;> rfl
  | integer => rfl
  | text => rfl
  | real h =>
    simp only [store, Value.bound, Decimal.isNaN_of_isFinite h, Bool.false_eq_true, if_false,
      Value.toNumber, Value.widen, unsigned_eq h, Vacancy.Value.unsigned]

end Sql.Affinity

namespace Grain

variable {g : Grain} {name : String}

def Knows (g : Grain) (name : String) : Prop :=
  name ∈ structuralColumns ∨ ∃ x ∈ g.columns, x.name = name

/-- The values of the type that the column of a name is declared with, and null. -/
def Suits (g : Grain) (name : String) (v : Value) : Prop :=
  ∃ a, g.schema.affinity? name = some a ∧ a.Suits v

theorem has_iff : g.has name = true ↔ g.Knows name := by
  simp [has, Knows, column?]

theorem mem_schema_iff : name ∈ g.schema.map (·.1) ↔ g.Knows name := by
  have hstructural : [(idColumn, Affinity.integer), (runColumn, .integer), (dateColumn, .text),
    (areaColumn, .text)].map (·.1) = structuralColumns := rfl
  rw [schema, List.map_append, hstructural, List.mem_append, Knows]
  by_cases hname : name ∈ structuralColumns
  · simp [hname]
  · simp only [hname, false_or, List.map_map, List.mem_map, List.mem_filter]
    constructor
    · rintro ⟨x, ⟨hx, _⟩, rfl⟩
      exact ⟨x, hx, rfl⟩
    · rintro ⟨x, hx, rfl⟩
      exact ⟨x, ⟨hx, by simpa using hname⟩, rfl⟩

theorem Knows.exists_affinity (h : g.Knows name) : ∃ a, g.schema.affinity? name = some a := by
  obtain ⟨p, hp, hname⟩ := List.mem_map.1 (mem_schema_iff.2 h)
  rw [← Option.isSome_iff_exists, Fields.affinity?, Option.isSome_map, List.find?_isSome]
  exact ⟨p, hp, by simp [hname]⟩

end Grain

/-! ### One table -/

namespace Table

variable {g : Grain} {t : Table g} {given : Row}

/-- The row that is made of the given values under an id. -/
structure Records (g : Grain) (given : Row) (id : Int64) (row : Row) : Prop where
  columns : row.columns = g.schema.map (·.1)
  id : row.get? idColumn = some (.integer id)
  kept : ∀ name v, name ≠ idColumn → given.get? name = some v → g.Suits name v →
    row.get? name = some v.unsigned
  missing : ∀ name, name ≠ idColumn → given.get? name = none → g.Knows name →
    row.get? name = some .null
  run : ∃ v, row.get? runColumn = some v ∧ v ≠ .null

theorem Holds.exists_run {row : Row} (h : Holds g row) :
    ∃ v, row.get? runColumn = some v ∧ v ≠ .null := by
  obtain ⟨v, hv, hnull⟩ := (Option.any_eq_true _ _).1 h.run
  refine ⟨v, hv, ?_⟩
  rintro rfl
  exact absurd hnull (by decide)

theorem records_kept {id : Int64} (h : Holds g (kept g (valueFor given id))) :
    Records g given id (kept g (valueFor given id)) := by
  constructor
  case columns => simp [kept, Row.columns]
  case id => rw [get?_id_kept, valueFor, if_pos rfl, store_integer]
  case kept =>
    intro name v hname hv hsuits
    obtain ⟨a, ha, hsuits⟩ := hsuits
    rw [get?_kept ha, valueFor, if_neg hname, hv, Option.getD_some,
      Affinity.store_of_suits hsuits]
  case missing =>
    intro name hname hmissing hknown
    obtain ⟨a, ha⟩ := hknown.exists_affinity
    rw [get?_kept ha, valueFor, if_neg hname, hmissing, Option.getD_none,
      Affinity.store_of_suits .null]
    rfl
  case run => exact h.exists_run

theorem Records.key_eq {id : Int64} {row : Row} (h : Records g given id row) : key row = id := by
  rw [key, Row.id?, h.id]
  rfl

def wantedId (given : Row) : Value :=
  Affinity.integer.store (givenId given)

/-- Why a table refuses a row that names no other columns than it has. -/
inductive Bars (t : Table g) (given : Row) : SqlError → Prop where
  | empty (h : given.cells = []) : Bars t given (noColumns g)
  | mismatch (hany : wantedId given ≠ .null) (hone : ∀ i, wantedId given ≠ .integer i) :
      Bars t given .typeMismatch
  | runless (h : Affinity.integer.store ((given.get? runColumn).getD .null) = .null) :
      Bars t given (.missingValue g.table runColumn)
  | taken {id} (hone : wantedId given = .integer id) (hid : id ∈ t.ids) :
      Bars t given (.takenKey g.table idColumn)
  /-- Any id will do, but there is none above all others. -/
  | last (hany : wantedId given = .null) (hid : Int64.maxValue ∈ t.ids) :
      Bars t given (.takenKey g.table idColumn)

/--
What a table does with a row that is to be added: it does not know a column, it refuses the row, or
it has the row besides its own.
-/
inductive Takes (t : Table g) (given : Row) : Except StoreError (Int64 × Table g) → Prop where
  | unknown {front name rest} (hcolumns : given.columns = front ++ name :: rest)
      (hfront : ∀ n ∈ front, g.Knows n) (hname : ¬g.Knows name) :
      Takes t given (.error (.unknownColumn name g))
  | barred {e} (hcolumns : ∀ name ∈ given.columns, g.Knows name) (h : t.Bars given e) :
      Takes t given (.error (.sql e))
  | added {id row t'} (hcolumns : ∀ name ∈ given.columns, g.Knows name)
      (hwanted : wantedId given = .null ∨ wantedId given = .integer id) (hid : id ∉ t.ids)
      (hrow : Records g given id row) (hrows : t'.rows.Perm (row :: t.rows)) :
      Takes t given (.ok (id, t'))

theorem le_of_getLast?_ids {last : Int64} (h : t.ids.getLast? = some last) {i : Int64}
    (hi : i ∈ t.ids) : i ≤ last := by
  obtain ⟨front, hfront⟩ := List.getLast?_eq_some_iff.1 h
  have hsorted : t.ids.Pairwise (· < ·) := List.pairwise_map.2 t.ascending
  rw [hfront, List.pairwise_append] at hsorted
  rw [hfront, List.mem_append, List.mem_singleton] at hi
  rcases hi with hi | rfl
  · exact Int64.le_of_lt (hsorted.2.2 i hi last (List.mem_singleton.2 rfl))
  · exact Int64.le_refl _

theorem freshId_notMem (h : Int64.maxValue ∉ t.ids) : t.freshId ∉ t.ids := by
  intro hmem
  unfold freshId at hmem
  split at hmem
  case h_1 hnone =>
    rw [List.getLast?_eq_none_iff.1 hnone] at hmem
    exact List.not_mem_nil hmem
  case h_2 last hlast =>
    split at hmem
    case isTrue hlt =>
      -- the largest id is below the next one
      have hle := le_of_getLast?_ids hlast hmem
      exact Int64.lt_irrefl (Int64.lt_of_lt_of_le (Decimal.lt_add_one hlt) hle)
    case isFalse hlt =>
      have hmax : last = Int64.maxValue :=
        Int64.le_antisymm (Int64.le_maxValue _) (Int64.not_lt.1 hlt)
      exact h (hmax ▸ List.mem_of_getLast? hlast)

theorem perm_rows_add {r : Row} (h : Holds g r) (hid : key r ∉ t.ids) :
    (t.add r h).rows.Perm (r :: t.rows) := by
  have hrows : (t.add r h).rows =
      t.rows.filter (key · < key r) ++ r :: t.rows.filter (key r < key ·) := rfl
  have habove : t.rows.filter (key r < key ·) = t.rows.filter fun s => !decide (key s < key r) := by
    apply List.filter_congr
    intro s hs
    have hne : key s ≠ key r := fun he => hid (he ▸ List.mem_map_of_mem hs)
    rw [← decide_not, decide_eq_decide, Int64.not_lt]
    exact ⟨Int64.le_of_lt, fun hle => Int64.lt_of_le_of_ne hle hne.symm⟩
  rw [hrows, habove]
  exact List.perm_middle.trans ((List.filter_append_perm _ _).cons r)

theorem idFor_eq_error {e : SqlError} (h : t.idFor given = .error e) :
    e = .typeMismatch ∧ wantedId given ≠ .null ∧ ∀ i, wantedId given ≠ .integer i := by
  rw [idFor] at h
  split at h
  · cases h
  · cases h
  · next hany hone =>
    cases h
    exact ⟨rfl, hany, hone⟩

theorem idFor_eq_ok {id : Int64} (h : t.idFor given = .ok id) :
    wantedId given = .null ∧ id = t.freshId ∨ wantedId given = .integer id := by
  rw [idFor] at h
  split at h
  · next hany =>
    cases h
    exact .inl ⟨hany, rfl⟩
  · next hone =>
    cases h
    exact .inr hone
  · cases h

theorem bars_of_taken {id : Int64} (h : t.idFor given = .ok id) (hid : id ∈ t.ids) :
    t.Bars given (.takenKey g.table idColumn) := by
  rcases idFor_eq_ok h with ⟨hany, rfl⟩ | hone
  · refine .last hany (Classical.not_not.1 ?_)
    intro hlast
    exact freshId_notMem hlast hid
  · exact .taken hone hid

theorem takes_insert (t : Table g) (given : Row) : t.Takes given (t.insert given) := by
  unfold insert
  split
  case h_1 name hunknown =>
    obtain ⟨hname, front, rest, hcolumns, hfront⟩ := List.find?_eq_some_iff_append.1 hunknown
    refine .unknown hcolumns ?_ ?_
    · intro n hn
      simpa [← Grain.has_iff] using hfront n hn
    · simpa [← Grain.has_iff] using hname
  case h_2 hunknown =>
    have hcolumns : ∀ name ∈ given.columns, g.Knows name := by
      intro name hname
      simpa [← Grain.has_iff] using List.find?_eq_none.1 hunknown name hname
    split
    case isTrue hempty => exact .barred hcolumns (.empty (List.isEmpty_iff.1 hempty))
    case isFalse =>
      split
      case h_1 e he =>
        obtain ⟨rfl, hany, hone⟩ := idFor_eq_error he
        exact .barred hcolumns (.mismatch hany hone)
      case h_2 id hid =>
        split
        case isFalse hrun =>
          refine .barred hcolumns (.runless ?_)
          rwa [get?_run_kept, Option.any_some, Bool.not_eq_true', Bool.not_eq_false,
            Value.isNull_iff] at hrun
        case isTrue hrun =>
          have hholds := holds_kept hrun
          split
          case isTrue htaken =>
            exact .barred hcolumns (bars_of_taken hid (List.contains_iff_mem.1 htaken))
          case isFalse hfree =>
            have hrecords := records_kept hholds
            have hnew : id ∉ t.ids := fun hmem => hfree (List.contains_iff_mem.2 hmem)
            refine .added hcolumns ((idFor_eq_ok hid).imp_left (·.1)) hnew hrecords ?_
            apply perm_rows_add hholds
            rwa [hrecords.key_eq]

theorem Takes.mem_rows {id : Int64} {t' : Table g} (h : t.Takes given (.ok (id, t'))) {s : Row}
    (hs : s ∈ t.rows) : s ∈ t'.rows := by
  cases h with
  | added _ _ _ _ hrows => exact hrows.mem_iff.2 (List.mem_cons_of_mem _ hs)

theorem Takes.perm_ids {id : Int64} {t' : Table g} (h : t.Takes given (.ok (id, t'))) :
    t'.ids.Perm (id :: t.ids) := by
  cases h with
  | added _ _ _ hrow hrows =>
    rw [← hrow.key_eq]
    exact hrows.map key

end Table

/-! ### Calls -/

namespace Database

def add (d : Database) (g : Grain) (given : Row) : Except StoreError Int64 × Database :=
  match d.insert g given with
  | .ok (id, d') => (.ok id, d')
  | .error e => (.error e, d)

def addAll (d : Database) : List (Grain × Row) → List (Except StoreError Int64) × Database
  | [] => ([], d)
  | (g, given) :: calls =>
    let (answer, d') := d.add g given
    let (answers, last) := d'.addAll calls
    (answer :: answers, last)

/-- What a call does to a database: nothing if it fails, and else to one table only. -/
inductive Adds (d : Database) (g : Grain) (given : Row) :
    Except StoreError Int64 → Database → Prop where
  | refused {e} (h : (d.table g).Takes given (.error e)) : Adds d g given (.error e) d
  | added {id d'} (h : (d.table g).Takes given (.ok (id, d'.table g)))
      (hothers : ∀ h, h ≠ g → d'.table h = d.table h) (hviews : d'.views = d.views) :
      Adds d g given (.ok id) d'

inductive AddsAll : Database → List (Grain × Row) → List (Except StoreError Int64) →
    Database → Prop where
  | nil {d} : AddsAll d [] [] d
  | cons {d d' last g given calls answer answers} (h : Adds d g given answer d')
      (hs : AddsAll d' calls answers last) :
      AddsAll d ((g, given) :: calls) (answer :: answers) last

def returned (g : Grain) (calls : List (Grain × Row)) (answers : List (Except StoreError Int64)) :
    List Int64 :=
  (calls.zip answers).flatMap fun (c, answer) => if c.1 = g then answer.toOption.toList else []

theorem views_withTable (d : Database) (g : Grain) (t : Table g) :
    (d.withTable g t).views = d.views := by
  cases g <;> rfl

theorem adds_add (d : Database) (g : Grain) (given : Row) :
    d.Adds g given (d.add g given).1 (d.add g given).2 := by
  have htakes := (d.table g).takes_insert given
  unfold add insert
  cases hinsert : (d.table g).insert given with
  | error e =>
    rw [hinsert] at htakes
    exact .refused htakes
  | ok p =>
    obtain ⟨id, t⟩ := p
    rw [hinsert] at htakes
    refine .added ?_ (fun h hne => d.table_withTable_of_ne t hne) (d.views_withTable g t)
    rwa [table_withTable]

theorem addsAll_addAll (d : Database) (calls : List (Grain × Row)) :
    d.AddsAll calls (d.addAll calls).1 (d.addAll calls).2 := by
  induction calls generalizing d with
  | nil => exact .nil
  | cons c calls ih => exact .cons (d.adds_add c.1 c.2) (ih _)

section

variable {d d' : Database} {g : Grain} {given : Row} {calls : List (Grain × Row)}
  {answer : Except StoreError Int64} {answers : List (Except StoreError Int64)}

theorem Adds.perm_ids (h : d.Adds g given answer d') (h' : Grain) :
    (d'.table h').ids.Perm
      ((if g = h' then answer.toOption.toList else []) ++ (d.table h').ids) := by
  cases h with
  | refused _ => simp [Except.toOption]
  | added htakes hothers _ =>
    by_cases heq : g = h'
    · subst heq
      simpa [Except.toOption] using htakes.perm_ids
    · rw [if_neg heq, hothers h' (Ne.symm heq), List.nil_append]

theorem AddsAll.perm_ids (h : d.AddsAll calls answers d') (g : Grain) :
    (d'.table g).ids.Perm (returned g calls answers ++ (d.table g).ids) := by
  induction h with
  | nil => exact .refl _
  | @cons d d' last h given calls answer answers hadds _ ih =>
    have hreturned : returned g ((h, given) :: calls) (answer :: answers) =
        (if h = g then answer.toOption.toList else []) ++ returned g calls answers := rfl
    have hstep := (hadds.perm_ids g).append_left (returned g calls answers)
    rw [hreturned, List.append_assoc]
    exact (ih.trans hstep).trans (List.perm_append_comm_assoc _ _ _)

theorem Adds.mem_rows (h : d.Adds g given answer d') (h' : Grain) {s : Row}
    (hs : s ∈ (d.table h').rows) : s ∈ (d'.table h').rows := by
  cases h with
  | refused _ => exact hs
  | added htakes hothers _ =>
    by_cases heq : h' = g
    · subst heq
      exact htakes.mem_rows hs
    · rw [hothers h' heq]
      exact hs

end

/--
Whatever rows are added to a database without rows, every call is refused or adds its row and
nothing else. The ids in a table are the ones that were returned for it, each once, and every row
belongs to a run.
-/
theorem addsAll_of_empty (calls : List (Grain × Row)) :
    let answers := (({} : Database).addAll calls).1
    let d := (({} : Database).addAll calls).2
    AddsAll {} calls answers d ∧ ∀ g,
      (d.table g).ids.Nodup ∧ (d.table g).ids.Perm (returned g calls answers) ∧
        ∀ row ∈ (d.table g).rows, ∃ v, row.get? runColumn = some v ∧ v ≠ .null := by
  intro answers d
  have h : AddsAll {} calls answers d := addsAll_addAll {} calls
  refine ⟨h, fun g => ⟨(d.table g).nodup_ids, ?_, fun row hrow => ?_⟩⟩
  · have hids := h.perm_ids g
    have hempty : (({} : Database).table g).ids = [] := by cases g <;> rfl
    rwa [hempty, List.append_nil] at hids
  · exact ((d.table g).holds row hrow).exists_run

example :
    (({} : Database).addAll [
      (.area, ⟨[(runColumn, .integer 1), (idColumn, .integer 5)]⟩),
      (.area, ⟨[(runColumn, .integer 1), ("rank", .null)]⟩),
      (.area, ⟨[(runColumn, .integer 2), (idColumn, .integer 5)]⟩),
      (.area, ⟨[(runColumn, .integer 2), (areaColumn, .text "north")]⟩),
      (.building, ⟨[("rank", .integer 3)]⟩),
      (.building, ⟨[(runColumn, .integer 2), ("rank", .integer 3)]⟩)]).1 =
    [.ok 5, .error (.unknownColumn "rank" .area), .error (.sql (.takenKey Grain.area.table idColumn)),
      .ok 6, .error (.sql (.missingValue Grain.building.table runColumn)), .ok 1] := by
  rfl

def negativeZero : Row :=
  ⟨[(runColumn, .integer 1), ("predicted_probability", .real (-0.0))]⟩

/-- Not every value that suits its column is kept as it was given. -/
theorem not_forall_kept_as_given :
    ¬∀ (g : Grain) (given : Row) (id : Int64) (d : Database),
      given.columns.Nodup → (∀ c ∈ given.cells, g.Suits c.1 c.2) →
        ({} : Database).add g given = (.ok id, d) →
          ∀ name v, (name, v) ∈ given.cells → name ≠ idColumn →
            ∃ row ∈ (d.table g).rows, row.get? name = some v := by
  intro h
  have hsuits : ∀ c ∈ negativeZero.cells, Grain.area.Suits c.1 c.2 := by
    simp only [negativeZero, List.forall_mem_cons]
    exact ⟨⟨.integer, rfl, .integer⟩, ⟨.real, rfl, .real (by decide)⟩, nofun⟩
  obtain ⟨row, hrow, hcell⟩ := h .area negativeZero 1 _ (by decide) hsuits rfl
    "predicted_probability" (.real (-0.0)) (by simp [negativeZero]) (by decide)
  rw [List.mem_singleton.1 hrow] at hcell
  have hkept : (Value.real 0.0) = .real (-0.0) := Option.some.inj hcell
  rw [Value.real.injEq] at hkept
  exact absurd hkept (by decide)

/-! ### Rows one after the other -/

theorem mem_rows_insertRows (d : Database) (g h : Grain) (given : List Row) {s : Row}
    (hs : s ∈ (d.table h).rows) : s ∈ ((d.insertRows g given).2.table h).rows := by
  induction given generalizing d with
  | nil => exact hs
  | cons r given ih =>
    have hadds := d.adds_add g r
    simp only [insertRows]
    cases hr : d.insert g r with
    -- the rows before the one that is refused stay
    | error e => exact hs
    | ok p =>
      simp only [add, hr] at hadds
      exact ih _ (hadds.mem_rows h hs)

end Database

end Vacancy
