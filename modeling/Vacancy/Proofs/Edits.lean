import Mathlib.Data.List.Nodup
import Vacancy.Proofs.Kind

/-!
Edits of views. The parameters of a view that was only ever edited are a map from keys: each key
stands once, with what was written last under it, and the keys are in the order in which they came
in. So what is read by kind is what stands under the key of the kind.
-/

namespace Vacancy

inductive Edit where
  | insert (p : Parameter)
  | erase (key : String)

namespace Edit

/-- What was written last under the key and not erased since; the latest edit comes first. -/
def written? (key : String) : List Edit → Option Parameter
  | [] => none
  | .insert p :: past => if p.key = key then some p else written? key past
  | .erase k :: past => if k = key then none else written? key past

/-- The place, among all edits, of the first that wrote the key since it was last erased. -/
def since? (key : String) : List Edit → Option Nat
  | [] => none
  | .insert p :: past =>
    if p.key = key then some ((since? key past).getD past.length) else since? key past
  | .erase k :: past => if k = key then none else since? key past

def Earlier (past : List Edit) (k l : String) : Prop :=
  ∃ i j, since? k past = some i ∧ since? l past = some j ∧ i < j

/-- The parameters are the map that the edits make, in the order in which its keys came in. -/
structure Makes (past : List Edit) (ps : List Parameter) : Prop where
  distinct : (ps.map Parameter.key).Nodup
  written : ∀ key, ps.find? (·.key = key) = written? key past
  ordered : (ps.map Parameter.key).Pairwise (Earlier past)

theorem isSome_since? (key : String) (past : List Edit) :
    (since? key past).isSome = (written? key past).isSome := by
  induction past with
  | nil => rfl
  | cons e past ih =>
    cases e with
    | insert p =>
      rw [since?, written?]
      split
      · rfl
      · exact ih
    | erase k =>
      rw [since?, written?]
      split
      · rfl
      · exact ih

theorem since?_lt {key : String} {past : List Edit} {i : Nat} (h : since? key past = some i) :
    i < past.length := by
  induction past generalizing i with
  | nil => cases h
  | cons e past ih =>
    rw [List.length_cons]
    cases e with
    | insert p =>
      rw [since?] at h
      split at h
      · cases hkey : since? key past with
        | none =>
          rw [hkey, Option.getD_none, Option.some.injEq] at h
          omega
        | some j =>
          rw [hkey, Option.getD_some, Option.some.injEq] at h
          have := ih hkey
          omega
      · have := ih h
        omega
    | erase k =>
      rw [since?] at h
      split at h
      · cases h
      · have := ih h
        omega

theorem Makes.isSome_since?_of_mem {past : List Edit} {ps : List Parameter} (h : Makes past ps)
    {key : String} (hkey : key ∈ ps.map Parameter.key) : (since? key past).isSome = true := by
  obtain ⟨p, hp, rfl⟩ := List.mem_map.1 hkey
  rw [isSome_since?, ← h.written, List.find?_isSome]
  exact ⟨p, hp, by simp⟩

theorem Makes.since?_eq_none {past : List Edit} {ps : List Parameter} (h : Makes past ps)
    {key : String} (hkey : key ∉ ps.map Parameter.key) : since? key past = none := by
  rw [← Option.isNone_iff_eq_none, ← Option.not_isSome, isSome_since?, ← h.written]
  simp only [Bool.not_eq_true, Option.not_isSome, Option.isNone_iff_eq_none, List.find?_eq_none]
  intro p hp
  rw [decide_eq_false_iff_not]
  exact fun heq => hkey (List.mem_map.2 ⟨p, hp, heq⟩)

/-! ### Setting a parameter -/

theorem keys_insertInto (p : Parameter) (ps : List Parameter) :
    (View.insertInto p ps).map Parameter.key =
      if p.key ∈ ps.map Parameter.key then ps.map Parameter.key
      else ps.map Parameter.key ++ [p.key] := by
  induction ps with
  | nil => rfl
  | cons q qs ih =>
    rw [View.insertInto]
    split
    · next h => simp [h]
    · next h =>
      have hne : p.key ≠ q.key := fun heq => h heq.symm
      simp only [List.map_cons, List.mem_cons, hne, false_or, ih]
      split <;> rfl

theorem find?_insertInto (p : Parameter) (ps : List Parameter) (key : String) :
    (View.insertInto p ps).find? (·.key = key) =
      if p.key = key then some p else ps.find? (·.key = key) := by
  induction ps with
  | nil =>
    rw [View.insertInto, List.find?_cons]
    split <;> simp_all
  | cons q qs ih =>
    rw [View.insertInto]
    split
    · next h =>
      rw [List.find?_cons, List.find?_cons, h]
      split <;> simp_all
    · next h =>
      rw [List.find?_cons, List.find?_cons, ih]
      split
      · next hq =>
        simp only [decide_eq_true_eq] at hq
        rw [if_neg (by rw [← hq]; exact fun heq => h heq.symm)]
      · rfl

theorem Earlier.insert {past : List Edit} {k l : String} (h : Earlier past k l) (p : Parameter) :
    Earlier (.insert p :: past) k l := by
  obtain ⟨i, j, hi, hj, hij⟩ := h
  have hkeeps : ∀ {key : String} {n : Nat}, since? key past = some n →
      since? key (.insert p :: past) = some n := by
    intro key n hn
    rw [since?, hn, Option.getD_some, ite_self]
  exact ⟨i, j, hkeeps hi, hkeeps hj, hij⟩

theorem Makes.insert {past : List Edit} {ps : List Parameter} (h : Makes past ps)
    (p : Parameter) : Makes (.insert p :: past) (View.insertInto p ps) := by
  have hordered := h.ordered.imp fun hkl => Earlier.insert hkl p
  constructor
  case distinct =>
    rw [keys_insertInto]
    split
    · exact h.distinct
    · next hnew => exact List.nodup_append.2 ⟨h.distinct, by simp, by simpa using hnew⟩
  case written =>
    intro key
    rw [find?_insertInto, written?, h.written]
  case ordered =>
    rw [keys_insertInto]
    split
    · exact hordered
    · next hnew =>
      refine List.pairwise_append.2 ⟨hordered, by simp, ?_⟩
      intro k hk l hl
      rw [List.mem_singleton.1 hl]
      obtain ⟨i, hi⟩ := Option.isSome_iff_exists.1 (h.isSome_since?_of_mem hk)
      have hlast : since? p.key (.insert p :: past) = some past.length := by
        rw [since?, if_pos rfl, h.since?_eq_none hnew, Option.getD_none]
      have hfirst : since? k (.insert p :: past) = some i := by
        rw [since?, hi, Option.getD_some, ite_self]
      exact ⟨i, past.length, hfirst, hlast, since?_lt hi⟩

/-! ### Removing a key -/

theorem find?_erase (key : String) (ps : List Parameter) (k : String) :
    (ps.filter (·.key ≠ key)).find? (·.key = k) =
      if key = k then none else ps.find? (·.key = k) := by
  rw [List.find?_filter]
  split
  · next h =>
    subst h
    simp
  · next h =>
    congr 1
    funext p
    by_cases hp : p.key = k
    · simp [hp, Ne.symm h]
    · simp [hp]

theorem Earlier.erase {past : List Edit} {k l key : String} (h : Earlier past k l)
    (hk : k ≠ key) (hl : l ≠ key) : Earlier (.erase key :: past) k l := by
  obtain ⟨i, j, hi, hj, hij⟩ := h
  refine ⟨i, j, ?_, ?_, hij⟩
  · rw [since?, if_neg hk.symm, hi]
  · rw [since?, if_neg hl.symm, hj]

theorem Makes.erase {past : List Edit} {ps : List Parameter} (h : Makes past ps)
    (key : String) : Makes (.erase key :: past) (ps.filter (·.key ≠ key)) := by
  constructor
  case distinct => exact h.distinct.sublist (List.filter_sublist.map _)
  case written =>
    intro k
    rw [find?_erase, written?, h.written]
  case ordered =>
    have hpairs := h.ordered.sublist (List.filter_sublist (p := (·.key ≠ key)).map _)
    refine hpairs.imp_of_mem fun {k l} hk hl hkl => ?_
    obtain ⟨p, hp, rfl⟩ := List.mem_map.1 hk
    obtain ⟨q, hq, rfl⟩ := List.mem_map.1 hl
    have hpkey : p.key ≠ key := by simpa using (List.mem_filter.1 hp).2
    have hqkey : q.key ≠ key := by simpa using (List.mem_filter.1 hq).2
    exact hkl.erase hpkey hqkey

end Edit

namespace View

def edit (v : View) : Edit → View
  | .insert p => v.insert p
  | .erase key => v.erase key

/-- The view after the edits, of which the latest comes first. -/
def edited (v : View) : List Edit → View
  | [] => v
  | e :: past => (v.edited past).edit e

theorem makes_edited {v : View} (hv : v.parameters = []) (past : List Edit) :
    Edit.Makes past (v.edited past).parameters := by
  induction past with
  | nil =>
    rw [edited, hv]
    exact ⟨by simp, fun _ => rfl, by simp⟩
  | cons e past ih =>
    cases e with
    | insert p => exact ih.insert p
    | erase key => exact ih.erase key

/-! ### Readings -/

def get? (v : View) (key : String) : Option Parameter :=
  v.parameters.find? (·.key = key)

/-- What is read of each kind is what stands under its key, if that is of the kind. -/
structure ReadsByKey (v : View) : Prop where
  column : ∀ slot, v.column? slot = match v.get? slot.key with
    | some (.column _ name) => some name
    | _ => none
  table : v.tableColumns? = match v.get? Parameter.tableKey with
    | some (.table names) => some names
    | _ => none
  aggregation : v.aggregation = match v.get? Parameter.aggregationKey with
    | some (.aggregation a) => a
    | _ => .average
  year : v.year? = match v.get? Parameter.yearKey with
    | some (.year range) => some range
    | _ => none
  areas : v.areas = match v.get? Parameter.areasKey with
    | some (.areas names) => names
    | _ => []

theorem key_of_get? {v : View} {key : String} {p : Parameter} (h : v.get? key = some p) :
    p.key = key := by
  simpa using List.find?_some h

theorem first?_eq_get? {v : View} (hv : (v.parameters.map Parameter.key).Nodup)
    {k : Parameter.Kind} {key : String} (hk : k.key? = some key) :
    v.first? k = (v.get? key).filter (·.kind = k) := by
  rw [first?, get?]
  generalize v.parameters = ps at hv
  induction ps with
  | nil => rfl
  | cons p ps ih =>
    rw [List.map_cons, List.nodup_cons] at hv
    rw [List.find?_cons, List.find?_cons]
    by_cases hkey : p.key = key
    · -- No other parameter has the key, so none of the others is of the kind.
      have hothers : ps.find? (·.kind = k) = none := by
        rw [List.find?_eq_none]
        intro q hq hkind
        have hqkey : q.key = key := Parameter.key_of_kind hk (by simpa using hkind)
        exact hv.1 (List.mem_map.2 ⟨q, hq, hqkey.trans hkey.symm⟩)
      rw [decide_eq_true hkey, Option.filter_some, hothers]
      split <;> simp_all
    · have hkind : p.kind ≠ k := fun heq => hkey (Parameter.key_of_kind hk heq)
      rw [decide_eq_false hkey, decide_eq_false hkind]
      exact ih hv.2

theorem readsByKey {v : View} (hv : (v.parameters.map Parameter.key).Nodup) : v.ReadsByKey := by
  constructor
  case column =>
    intro slot
    rw [column?_eq_first?, first?_eq_get? hv rfl]
    cases h : v.get? slot.key with
    | none => rfl
    | some p =>
      cases p with
      | column s name =>
        have hs : s = slot := Slot.key_injective (key_of_get? h)
        rw [hs, Option.filter_some, if_pos (by simp [Parameter.kind])]
      | _ => rfl
  case table =>
    rw [tableColumns?_eq_first?, first?_eq_get? hv rfl]
    cases v.get? Parameter.tableKey with
    | none => rfl
    | some p => cases p <;> rfl
  case aggregation =>
    rw [aggregation_eq_first?, first?_eq_get? hv rfl]
    cases v.get? Parameter.aggregationKey with
    | none => rfl
    | some p => cases p <;> rfl
  case year =>
    rw [year?_eq_first?, first?_eq_get? hv rfl]
    cases v.get? Parameter.yearKey with
    | none => rfl
    | some p => cases p <;> rfl
  case areas =>
    rw [areas_eq_first?, first?_eq_get? hv rfl]
    cases v.get? Parameter.areasKey with
    | none => rfl
    | some p => cases p <;> rfl

/-- What is read of the kind of `p` is what `p` holds. -/
def InForce (v : View) : Parameter → Prop
  | .column slot name => v.column? slot = some name
  | .table names => v.tableColumns? = some names
  | .aggregation a => v.aggregation = a
  | .year range => v.year? = some range
  | .areas names => v.areas = names
  | .filter _ _ | .group _ _ _ | .unknown _ => True

theorem first?_insert (v : View) {p : Parameter} {k : Parameter.Kind} {key : String}
    (hk : k.key? = some key) (hp : p.kind = k) : (v.insert p).first? k = some p := by
  rw [first?, insert]
  dsimp only
  induction v.parameters with
  | nil => simp [insertInto, hp]
  | cons q qs ih =>
    rw [insertInto]
    split
    · simp [hp]
    · next hne =>
      have hkind : q.kind ≠ k := by
        intro heq
        exact hne ((Parameter.key_of_kind hk heq).trans (Parameter.key_of_kind hk hp).symm)
      rw [List.find?_cons, decide_eq_false hkind]
      exact ih

theorem inForce_insert (v : View) (p : Parameter) : (v.insert p).InForce p := by
  cases p with
  | column slot name =>
    rw [InForce, column?_eq_first?, v.first?_insert (k := .column slot) rfl rfl]
  | table names => rw [InForce, tableColumns?_eq_first?, v.first?_insert (k := .table) rfl rfl]
  | aggregation a =>
    rw [InForce, aggregation_eq_first?, v.first?_insert (k := .aggregation) rfl rfl]
  | year range => rw [InForce, year?_eq_first?, v.first?_insert (k := .year) rfl rfl]
  | areas names => rw [InForce, areas_eq_first?, v.first?_insert (k := .areas) rfl rfl]
  | _ => exact True.intro

theorem erase_insert (v : View) (p : Parameter) : (v.insert p).erase p.key = v.erase p.key := by
  have hparameters : (insertInto p v.parameters).filter (·.key ≠ p.key) =
      v.parameters.filter (·.key ≠ p.key) := by
    induction v.parameters with
    | nil => simp [insertInto]
    | cons q qs ih =>
      rw [insertInto]
      split
      · next h => simp [h]
      · rw [List.filter_cons, List.filter_cons, ih]
  rw [erase, erase, insert, hparameters]

/--
A view that was empty once is the map from keys that its edits make, and is read by key. Setting a
parameter puts it in force, and is undone by removing its key, in any view.
-/
theorem edited_makes_map (run : Int64) (style : Style) (grain : Grain) (past : List Edit) :
    Edit.Makes past (edited { run, style, grain } past).parameters ∧
      (edited { run, style, grain } past).ReadsByKey ∧
      ∀ (v : View) (p : Parameter),
        (v.insert p).erase p.key = v.erase p.key ∧ (v.insert p).InForce p := by
  have hmakes := makes_edited (v := { run, style, grain }) rfl past
  exact ⟨hmakes, readsByKey hmakes.distinct, fun v p => ⟨erase_insert v p, inForce_insert v p⟩⟩

/-- Setting a key again keeps its place; removing it first does not. -/
example :
    let x := Parameter.column .xAxis "area_group"
    let y := Parameter.column .yAxis "household_size"
    let bar : View := { run := 1, style := .bar, grain := .area }
    (bar.edited [.insert x, .insert y, .insert x]).parameters.map Parameter.key =
        ["xAxis", "yAxis"] ∧
      (bar.edited [.insert x, .erase "xAxis", .insert y, .insert x]).parameters.map Parameter.key =
        ["yAxis", "xAxis"] := by
  decide

end View

end Vacancy
