import Mathlib
import Vacancy.Database
import Vacancy.Proofs.Saved

/-!
Saved views as a finite map. Whatever calls are made on the saved views of a database, they answer
as a map from ids to views does that is given a new id with each view that is saved. The tables of
detail are not touched.
-/

namespace Vacancy

/-! ### One view -/

namespace View

def parametersJson (v : View) : Json :=
  .array (v.parameters.map Parameter.toJson)

/-- A view that is read again as it was, if the text of its parameters is. -/
structure IsRestored (v : View) : Prop where
  tree : ofJson? v.toJson = some v
  text : Json.readPart? (.items Parameter.wanted) v.parametersJson.compact = some v.parametersJson

def withId (v : View) (id : Int64) : View :=
  { v with id := some id }

theorem list?_parametersJson {v : View} (h : ofJson? v.toJson = some v) :
    v.parametersJson.list? Parameter.ofJson? = some v.parameters := by
  simp only [ofJson?, record?_toJson, Json.defaulted, Option.bind_eq_bind,
    Option.bind_eq_some_iff, Option.pure_def, Option.some.injEq] at h
  obtain ⟨_, _, _, _, _, _, _, _, _, _, ps, hps, rfl⟩ := h
  exact hps

end View

namespace SavedView

@[simp] theorem id_ofView (id : Int64) (v : View) : (ofView id v).id = id :=
  rfl

theorem toView?_ofView {v : View} (h : v.IsRestored) (id : Int64) :
    (ofView id v).toView? = some (v.withId id) := by
  have hparameters : readParameters? v.parametersJson.compact = some v.parameters := by
    rw [readParameters?, h.text, Option.bind_some, View.list?_parametersJson h.tree]
  have hread : readParameters? (ofView id v).parameters = some v.parameters := hparameters
  simp only [toView?, hread]
  simp [ofView, View.withId]

end SavedView

/-! ### The entries -/

namespace SavedViews

theorem find?_eq_none {s : SavedViews} {id : Int64} (h : s.last < id) : s.find? id = none := by
  rw [find?, List.find?_eq_none]
  intro e he heq
  rw [beq_iff_eq] at heq
  have hle := s.id_le e he
  rw [heq] at hle
  exact absurd hle (Int64.not_le.2 h)

theorem insert_cases (s : SavedViews) (v : View) :
    s.last = Int64.maxValue ∧ s.insert v = .error (.sql .full) ∨
    ∃ id s', s.insert v = .ok (id, s') ∧ s.last < id ∧ s'.last = id ∧
      s'.entries = s.entries ++ [.ofView id v] := by
  unfold insert
  split
  · next h => exact .inr ⟨_, _, rfl, Decimal.lt_add_one h, rfl, rfl⟩
  · next h => exact .inl ⟨Int64.le_antisymm (Int64.le_maxValue _) (Int64.not_lt.1 h), rfl⟩

theorem find?_append {s s' : SavedViews} {e : SavedView} (h : s'.entries = s.entries ++ [e])
    (hnew : s.last < e.id) (id : Int64) :
    s'.find? id = if id = e.id then some e else s.find? id := by
  have hrest : s'.find? id = (s.find? id).or ([e].find? (·.id == id)) := by
    rw [find?, h, List.find?_append]
    rfl
  rw [hrest]
  split
  · next heq =>
    rw [heq, find?_eq_none hnew]
    simp
  · next hne =>
    have : (e.id == id) = false := beq_false_of_ne (Ne.symm hne)
    simp [this]

theorem find?_update (s : SavedViews) (id : Int64) (v : View) (i : Int64) :
    (s.update id v).find? i =
      if i = id then (s.find? id).map fun _ => .ofView id v else s.find? i := by
  have hids : ((fun e : SavedView => e.id == i) ∘
      fun e => if e.id = id then { SavedView.ofView e.id v with id := e.id } else e) =
        (·.id == i) := by
    funext e
    dsimp only [Function.comp]
    split <;> rfl
  simp only [update, modify, find?]
  rw [List.find?_map, hids]
  split
  · next heq =>
    subst heq
    apply Option.map_congr
    intro e he
    have hid : e.id = i := by simpa using List.find?_some he
    rw [if_pos hid, hid]
    rfl
  · next hne =>
    refine (Option.map_congr ?_).trans Option.map_id'
    intro e he
    have hid : e.id = i := by simpa using List.find?_some he
    rw [if_neg (by rw [hid]; exact hne)]

theorem find?_erase (s : SavedViews) (id i : Int64) :
    (s.erase id).find? i = if i = id then none else s.find? i := by
  simp only [erase, find?]
  rw [List.find?_filter]
  split
  · next heq =>
    subst heq
    rw [List.find?_eq_none]
    intro e _
    simp
  · next hne =>
    congr 1
    funext e
    by_cases he : e.id = i
    · simp [he, hne]
    · simp [he]

theorem update_eq_self {s : SavedViews} {id : Int64} (h : s.find? id = none) (v : View) :
    s.update id v = s := by
  have hentries : (s.update id v).entries = s.entries := by
    refine (List.map_congr_left fun e he => ?_).trans (List.map_id _)
    rw [find?, List.find?_eq_none] at h
    exact if_neg (by simpa using h e he)
  cases s
  simp_all [update, modify]

theorem erase_eq_self {s : SavedViews} {id : Int64} (h : s.find? id = none) : s.erase id = s := by
  have hentries : (s.erase id).entries = s.entries := by
    rw [find?, List.find?_eq_none] at h
    exact List.filter_eq_self.2 fun e he => by simpa using h e he
  cases s
  simp_all [erase]

end SavedViews

/-! ### Calls -/

inductive ViewCall where
  | insert (v : View)
  | get (id : Int64)
  | update (id : Int64) (v : View)
  | erase (id : Int64)

def ViewCall.view? : ViewCall → Option View
  | .insert v | .update _ v => some v
  | .get _ | .erase _ => none

inductive ViewAnswer where
  | given (answer : Except StoreError Int64)
  | view (answer : Except StoreError (Option View))
  /-- Whether there was a view under the id. -/
  | found (b : Bool)

namespace Database

def call (d : Database) : ViewCall → ViewAnswer × Database
  | .insert v =>
    match d.insertView v with
    | .ok (id, d') => (.given (.ok id), d')
    | .error e => (.given (.error e), d)
  | .get id => (.view (d.views.get id), d)
  | .update id v => (.found (d.views.contains id), { d with views := d.views.update id v })
  | .erase id => (.found (d.views.contains id), { d with views := d.views.erase id })

def calls (d : Database) : List ViewCall → List ViewAnswer × Database
  | [] => ([], d)
  | c :: cs =>
    let (answer, d') := d.call c
    let (answers, last) := d'.calls cs
    (answer :: answers, last)

end Database

/-- A finite map from ids to views, and all ids that were ever given. -/
structure Shelf where
  views : Finmap fun _ : Int64 => View
  given : List Int64

namespace Shelf

def empty : Shelf :=
  ⟨∅, []⟩

/-- A new view gets an id above all that were given, and fails only if the largest id was. -/
inductive Does : Shelf → ViewCall → ViewAnswer → Shelf → Prop where
  | insert {s v id} (habove : ∀ i ∈ s.given, i < id) (hnew : id ∉ s.views) :
      Does s (.insert v) (.given (.ok id)) ⟨s.views.insert id v, id :: s.given⟩
  | full {s v} (h : Int64.maxValue ∈ s.given) :
      Does s (.insert v) (.given (.error (.sql .full))) s
  | get {s id} : Does s (.get id) (.view (.ok ((s.views.lookup id).map (·.withId id)))) s
  | update {s id v} (h : id ∈ s.views) :
      Does s (.update id v) (.found true) { s with views := s.views.insert id v }
  | updateNone {s id v} (h : id ∉ s.views) : Does s (.update id v) (.found false) s
  | erase {s id} (h : id ∈ s.views) :
      Does s (.erase id) (.found true) { s with views := s.views.erase id }
  | eraseNone {s id} (h : id ∉ s.views) : Does s (.erase id) (.found false) s

inductive Runs : Shelf → List ViewCall → List ViewAnswer → Shelf → Prop where
  | nil {s} : Runs s [] [] s
  | cons {s s' last c cs answer answers} (h : Does s c answer s')
      (hs : Runs s' cs answers last) : Runs s (c :: cs) (answer :: answers) last

end Shelf

/-- The saved views are those of the shelf, each under its id, and the ids are counted alike. -/
structure SavedViews.Fills (views : SavedViews) (s : Shelf) : Prop where
  entry : ∀ id, views.find? id = (s.views.lookup id).map (.ofView id)
  restored : ∀ id v, s.views.lookup id = some v → v.IsRestored
  given : ∀ i ∈ s.given, i ≤ views.last
  last : views.last = 0 ∨ views.last ∈ s.given

namespace SavedViews.Fills

variable {views : SavedViews} {s : Shelf}

theorem empty : SavedViews.empty.Fills .empty :=
  ⟨fun _ => rfl, fun _ _ h => (by cases h), nofun, .inl rfl⟩

theorem contains_eq (h : views.Fills s) (id : Int64) :
    views.contains id = decide (id ∈ s.views) := by
  rw [contains, h.entry, Option.isSome_map, Bool.eq_iff_iff, decide_eq_true_iff,
    Finmap.lookup_isSome]

theorem get_eq (h : views.Fills s) (id : Int64) :
    views.get id = .ok ((s.views.lookup id).map (·.withId id)) := by
  rw [SavedViews.get, h.entry]
  cases hlookup : s.views.lookup id with
  | none => rfl
  | some v =>
    simp only [Option.map_some]
    rw [SavedView.toView?_ofView (h.restored id v hlookup)]

theorem put (h : views.Fills s) {v : View} (hv : v.IsRestored) {id : Int64} {views' : SavedViews}
    {given' : List Int64}
    (hentry : ∀ i, views'.find? i = if i = id then some (.ofView id v) else views.find? i)
    (hgiven : ∀ i ∈ given', i ≤ views'.last) (hlast : views'.last = 0 ∨ views'.last ∈ given') :
    views'.Fills ⟨s.views.insert id v, given'⟩ := by
  constructor
  case entry =>
    intro i
    rw [hentry]
    split
    · next heq => rw [heq, Finmap.lookup_insert, Option.map_some]
    · next hne => rw [Finmap.lookup_insert_of_ne _ hne, h.entry]
  case restored =>
    intro i w hw
    by_cases heq : i = id
    · rw [heq, Finmap.lookup_insert, Option.some.injEq] at hw
      rwa [← hw]
    · rw [Finmap.lookup_insert_of_ne _ heq] at hw
      exact h.restored i w hw
  case given => exact hgiven
  case last => exact hlast

theorem find?_eq_none (h : views.Fills s) {id : Int64} (hid : id ∉ s.views) :
    views.find? id = none := by
  rw [h.entry, Finmap.lookup_eq_none.2 hid, Option.map_none]

theorem insert (h : views.Fills s) {v : View} (hv : v.IsRestored) {id : Int64}
    {views' : SavedViews} (hlt : views.last < id) (hlast : views'.last = id)
    (hentries : views'.entries = views.entries ++ [.ofView id v]) :
    views'.Fills ⟨s.views.insert id v, id :: s.given⟩ := by
  apply h.put hv (find?_append hentries hlt)
  · rw [hlast, List.forall_mem_cons]
    exact ⟨Int64.le_refl _, fun i hi => Int64.le_trans (h.given i hi) (Int64.le_of_lt hlt)⟩
  · exact .inr (by simp [hlast])

theorem update (h : views.Fills s) {v : View} (hv : v.IsRestored) {id : Int64}
    (hid : id ∈ s.views) :
    (views.update id v).Fills { s with views := s.views.insert id v } := by
  refine h.put hv (fun i => ?_) h.given h.last
  obtain ⟨w, hw⟩ := Option.isSome_iff_exists.1 (Finmap.lookup_isSome.2 hid)
  rw [find?_update, h.entry id, hw]
  rfl

theorem erase (h : views.Fills s) (id : Int64) :
    (views.erase id).Fills { s with views := s.views.erase id } := by
  constructor
  case entry =>
    intro i
    rw [find?_erase]
    split
    · next heq => rw [heq, Finmap.lookup_erase, Option.map_none]
    · next hne => rw [Finmap.lookup_erase_ne hne, h.entry]
  case restored =>
    intro i w hw
    by_cases heq : i = id
    · rw [heq, Finmap.lookup_erase] at hw
      cases hw
    · rw [Finmap.lookup_erase_ne heq] at hw
      exact h.restored i w hw
  case given => exact h.given
  case last => exact h.last

end SavedViews.Fills

namespace Database

theorem does_call {d : Database} {s : Shelf} (h : d.views.Fills s) {c : ViewCall}
    (hc : ∀ v ∈ c.view?, v.IsRestored) :
    ∃ s', s.Does c (d.call c).1 s' ∧ (d.call c).2.views.Fills s' ∧
      (d.call c).2.buildings = d.buildings ∧ (d.call c).2.areas = d.areas := by
  cases c with
  | insert v =>
    rcases d.views.insert_cases v with ⟨hlast, hfull⟩ | ⟨id, views', hid, hlt, hlast, hentries⟩
    · have hcall : d.call (.insert v) = (.given (.error (.sql .full)), d) := by
        simp only [call, insertView, hfull]
      rw [hcall]
      refine ⟨s, .full ?_, h, rfl, rfl⟩
      rcases h.last with hzero | hgiven
      · rw [hlast] at hzero
        exact absurd hzero (by decide)
      · rwa [hlast] at hgiven
    · have hcall : d.call (.insert v) = (.given (.ok id), { d with views := views' }) := by
        simp only [call, insertView, hid]
      have habove : ∀ i ∈ s.given, i < id := fun i hi => Int64.lt_of_le_of_lt (h.given i hi) hlt
      have hnew : id ∉ s.views := by
        rw [← Finmap.lookup_eq_none, ← Option.map_eq_none_iff, ← h.entry]
        exact SavedViews.find?_eq_none hlt
      rw [hcall]
      exact ⟨_, .insert habove hnew, h.insert (hc v rfl) hlt hlast hentries, rfl, rfl⟩
  | get id =>
    refine ⟨s, ?_, h, rfl, rfl⟩
    rw [call, h.get_eq]
    exact .get
  | update id v =>
    rw [call, h.contains_eq]
    by_cases hid : id ∈ s.views
    · rw [decide_eq_true hid]
      exact ⟨_, .update hid, h.update (hc v rfl) hid, rfl, rfl⟩
    · rw [decide_eq_false hid, SavedViews.update_eq_self (h.find?_eq_none hid)]
      exact ⟨s, .updateNone hid, h, rfl, rfl⟩
  | erase id =>
    rw [call, h.contains_eq]
    by_cases hid : id ∈ s.views
    · rw [decide_eq_true hid]
      exact ⟨_, .erase hid, h.erase id, rfl, rfl⟩
    · rw [decide_eq_false hid, SavedViews.erase_eq_self (h.find?_eq_none hid)]
      exact ⟨s, .eraseNone hid, h, rfl, rfl⟩

theorem runs_calls {d : Database} {s : Shelf} (h : d.views.Fills s) {cs : List ViewCall}
    (hcs : ∀ c ∈ cs, ∀ v ∈ c.view?, v.IsRestored) :
    ∃ s', s.Runs cs (d.calls cs).1 s' ∧ (d.calls cs).2.views.Fills s' ∧
      (d.calls cs).2.buildings = d.buildings ∧ (d.calls cs).2.areas = d.areas := by
  induction cs generalizing d s with
  | nil => exact ⟨s, .nil, h, rfl, rfl⟩
  | cons c cs ih =>
    rw [List.forall_mem_cons] at hcs
    obtain ⟨mid, hdoes, hmid, hbuildings, hareas⟩ := does_call h hcs.1
    obtain ⟨last, hruns, hlast, hbuildings', hareas'⟩ := ih hmid hcs.2
    exact ⟨last, .cons hdoes hruns, hlast, hbuildings'.trans hbuildings, hareas'.trans hareas⟩

/--
The saved views of a database that had none answer all calls as a finite map from ids does, and hold
what it holds. Views that were read once are read again as they were.
-/
theorem calls_run_shelf :
    (∀ (d : Database) (cs : List ViewCall), d.views = .empty →
      (∀ c ∈ cs, ∀ v ∈ c.view?, v.IsRestored) →
      ∃ s, Shelf.empty.Runs cs (d.calls cs).1 s ∧ (d.calls cs).2.views.Fills s ∧
        (d.calls cs).2.buildings = d.buildings ∧ (d.calls cs).2.areas = d.areas) ∧
    ∀ (j : Json) (v : View), j.InRange → View.ofJson? j = some v →
      View.ofJson? v.toJson = some v := by
  constructor
  · intro d cs hd hcs
    apply runs_calls _ hcs
    rw [hd]
    exact .empty
  · intro j v hj hv
    exact View.ofJson?_toJson (View.isStable_of_ofJson? hj hv)

def northTable : View where
  run := 1
  style := .table
  grain := .area
  parameters := [.areas ["north"]]

theorem compact_northTable : northTable.parametersJson.compact =
    "[\x7b\"key\":\"area\",\"type\":\"filter\",\"value\":[\"north\"]\x7d]" := by
  cbv

theorem isRestored_northTable : northTable.IsRestored := by
  constructor
  case tree =>
    apply View.ofJson?_toJson
    intro p hp
    rw [List.mem_singleton.1 hp]
    exact (Parameter.IsMade.areas ["north"]).isStable
  case text =>
    rw [compact_northTable]
    cbv

def northCalls : List ViewCall :=
  [.insert northTable, .update 1 northTable, .get 1, .erase 1, .get 1, .insert northTable]

theorem calls_northTable :
    ∃ s, Shelf.empty.Runs northCalls (({} : Database).calls northCalls).1 s ∧
      (({} : Database).calls northCalls).2.views.Fills s ∧
      (({} : Database).calls northCalls).2.buildings = .empty ∧
      (({} : Database).calls northCalls).2.areas = .empty := by
  refine calls_run_shelf.1 {} northCalls rfl fun c hc v hv => ?_
  have hnorth : v = northTable := by
    simp only [northCalls, List.mem_cons, List.not_mem_nil, or_false] at hc
    rcases hc with rfl | rfl | rfl | rfl | rfl | rfl
    all_goals first | exact (Option.mem_some_iff.1 hv).symm | cases hv
  rw [hnorth]
  exact isRestored_northTable

end Database

end Vacancy
