import Vacancy.Proofs.Kind
import Vacancy.Proofs.Saved

/-!
What edits leave alone. An edit goes by key, so it touches parameters of another kind only where
these share its key. Parameters that were read or made by a constructor share one across kinds in
two cases: an unknown parameter may have any key, and the key of the aggregation is one that a group
can have too.
-/

namespace Vacancy

namespace Parameter

/-- A parameter that a constructor made, of a name and a value of any kind, or that was read. -/
inductive IsBuilt : Parameter → Prop where
  | column (slot : Slot) (name : String) : IsBuilt (.column slot name)
  | table (names : List String) : IsBuilt (.table names)
  | filter (name : String) (condition : Condition) : IsBuilt (filterNamed name condition)
  | group (name label : String) (condition : Condition) : IsBuilt (groupNamed name label condition)
  | aggregation (a : Aggregation) : IsBuilt (.aggregation a)
  | year (range : YearRange) : IsBuilt (.year range)
  | areas (names : List String) : IsBuilt (.areas names)
  | read {j : Json} {p : Parameter} (h : ofJson? j = some p) : IsBuilt p

def IsKeyed : Parameter → Prop
  | .filter key _ => startsWith filterStem key = true
  | .group key _ _ => startsWith groupStem key = true
  | _ => True

theorem Decodes.isKeyed {raw : RawParameter} {p : Parameter} (h : Decodes raw p) :
    p.IsKeyed := by
  cases h with
  | filter _ hkey _ | group _ hkey _ _ _ => exact hkey
  | _ => exact True.intro

theorem IsBuilt.isKeyed {p : Parameter} (h : p.IsBuilt) : p.IsKeyed := by
  cases h with
  | filter name condition => exact startsWith_append filterStem name
  | group name label condition => exact startsWith_append groupStem name
  | read h =>
    obtain ⟨raw, _, rfl⟩ := Option.map_eq_some_iff.1 h
    unfold ofRaw
    cases hdecode : decode? raw with
    | none => exact True.intro
    | some p => exact (decodes_of_decode? hdecode).isKeyed
  | _ => exact True.intro

theorem not_startsWith_filterStem {key : String} (h : startsWith groupStem key = true) :
    startsWith filterStem key = false := by
  rw [Bool.eq_false_iff]
  intro hfilter
  rw [startsWith, List.isPrefixOf_iff_prefix] at h hfilter
  have hstems := List.prefix_of_prefix_length_le h hfilter (by decide)
  exact absurd hstems (by decide)

/-- The kind that a key is meant for. That of the aggregation could be a group's. -/
def Kind.ofKey (key : String) : Kind :=
  if startsWith filterStem key then .filter
  else if key = aggregationKey then .aggregation
  else if startsWith groupStem key then .group
  else if key = tableKey then .table
  else if key = yearKey then .year
  else if key = areasKey then .areas
  else (Slot.ofKey? key).elim .unknown .column

theorem ofKey_of_key? {k : Kind} {key : String} (h : k.key? = some key) : Kind.ofKey key = k := by
  cases k with
  | column slot => cases slot <;> cases h <;> decide
  | table | aggregation | year | areas =>
    cases h
    decide
  | filter | group | unknown => cases h

theorem kind_eq_ofKey {p : Parameter} (h : p.IsKeyed) (hknown : p.kind ≠ .unknown) :
    p.kind = Kind.ofKey p.key ∨ p.kind = .group ∧ p.key = aggregationKey := by
  cases p with
  | filter key c => exact .inl (if_pos h).symm
  | group key label c =>
    have hgroup : startsWith groupStem key = true := h
    have hfilter := not_startsWith_filterStem hgroup
    by_cases hkey : key = aggregationKey
    · exact .inr ⟨rfl, hkey⟩
    · left
      change Kind.group = Kind.ofKey key
      rw [Kind.ofKey, hfilter, if_neg Bool.false_ne_true, if_neg hkey, if_pos hgroup]
  | unknown raw => exact absurd rfl hknown
  | _ => exact .inl (ofKey_of_key? rfl).symm

/-- Two known parameters of one key are of one kind, unless the key is that of the aggregation. -/
theorem kind_eq_of_key {p q : Parameter} (hp : p.IsKeyed) (hq : q.IsKeyed)
    (hp' : p.kind ≠ .unknown) (hq' : q.kind ≠ .unknown) (hkey : q.key = p.key)
    (hne : p.key ≠ aggregationKey) : q.kind = p.kind := by
  rcases kind_eq_ofKey hp hp' with hp | ⟨_, hp⟩
  · rcases kind_eq_ofKey hq hq' with hq | ⟨_, hq⟩
    · rw [hp, hq, hkey]
    · exact absurd (hkey.symm.trans hq) hne
  · exact absurd hp hne

end Parameter

namespace View

open Parameter (Kind)

/-- What the two views say of the kind is the same. Unknown parameters are not read. -/
def SameReading (v w : View) : Kind → Prop
  | .column slot => v.column? slot = w.column? slot
  | .table => v.tableColumns? = w.tableColumns?
  | .filter => v.filters = w.filters
  | .group => v.groups = w.groups
  | .aggregation => v.aggregation = w.aggregation
  | .year => v.year? = w.year?
  | .areas => v.areas = w.areas
  | .unknown => True

def ofKind (v : View) (k : Kind) : List Parameter :=
  v.parameters.filter (·.kind = k)

theorem first?_eq_head? (v : View) (k : Kind) : v.first? k = (v.ofKind k).head? := by
  rw [ofKind, List.head?_filter, first?]

theorem filterMap_ofKind {f : Parameter → Option β} {k : Kind}
    (hf : ∀ p, p.kind ≠ k → f p = none) (v : View) :
    (v.ofKind k).filterMap f = v.parameters.filterMap f := by
  rw [ofKind, List.filterMap_filter]
  congr 1
  funext p
  by_cases hp : p.kind = k
  · simp [hp]
  · simp [hp, hf p hp]

theorem sameReading_of_ofKind {v w : View} {k : Kind} (h : v.ofKind k = w.ofKind k) :
    v.SameReading w k := by
  have hfirst : v.first? k = w.first? k := by rw [first?_eq_head?, first?_eq_head?, h]
  cases k with
  | column slot => rw [SameReading, column?_eq_first?, column?_eq_first?, hfirst]
  | table => rw [SameReading, tableColumns?_eq_first?, tableColumns?_eq_first?, hfirst]
  | filter =>
    rw [SameReading, filters, filters, ← filterMap_ofKind (k := .filter), h,
      filterMap_ofKind (k := .filter)]
    all_goals
      intro p hp
      cases p <;> first | rfl | exact absurd rfl hp
  | group =>
    rw [SameReading, groups, groups, ← filterMap_ofKind (k := .group), h,
      filterMap_ofKind (k := .group)]
    all_goals
      intro p hp
      cases p <;> first | rfl | exact absurd rfl hp
  | aggregation => rw [SameReading, aggregation_eq_first?, aggregation_eq_first?, hfirst]
  | year => rw [SameReading, year?_eq_first?, year?_eq_first?, hfirst]
  | areas => rw [SameReading, areas_eq_first?, areas_eq_first?, hfirst]
  | unknown => exact True.intro

theorem ofKind_insert {v : View} {p : Parameter} {k : Kind} (hp : p.kind ≠ k)
    (h : ∀ q ∈ v.parameters, q.kind = k → q.key ≠ p.key) : (v.insert p).ofKind k = v.ofKind k := by
  rw [ofKind, ofKind, insert]
  dsimp only
  generalize v.parameters = ps at h
  induction ps with
  | nil => simp [insertInto, hp]
  | cons q qs ih =>
    rw [List.forall_mem_cons] at h
    rw [insertInto]
    split
    · next hkey =>
      have hq : q.kind ≠ k := fun hq => h.1 hq hkey
      simp [hp, hq]
    · rw [List.filter_cons, List.filter_cons, ih h.2]

theorem ofKind_erase {v : View} {key : String} {k : Kind}
    (h : ∀ q ∈ v.parameters, q.kind = k → q.key ≠ key) : (v.erase key).ofKind k = v.ofKind k := by
  rw [ofKind, ofKind, erase, List.filter_filter]
  apply List.filter_congr
  intro q hq
  by_cases hk : q.kind = k
  · simp [hk, h q hq hk]
  · simp [hk]

/--
Edits of one kind leave what is read of the others. Of an unknown parameter, and of one under the
key of the aggregation, this is said only where no parameter of the other kind has its key.
-/
theorem sameReading_edits {v : View} {p : Parameter} {k : Kind}
    (hv : ∀ q ∈ v.parameters, q.IsBuilt) (hp : p.IsBuilt) (hk : k ≠ p.kind)
    (hfree : p.kind = .unknown ∨ p.key = Parameter.aggregationKey →
      ∀ q ∈ v.parameters, q.kind = k → q.key ≠ p.key) :
    v.SameReading (v.insert p) k ∧ v.SameReading (v.erase p.key) k := by
  by_cases hunknown : k = .unknown
  · subst hunknown
    exact ⟨True.intro, True.intro⟩
  have hapart : ∀ q ∈ v.parameters, q.kind = k → q.key ≠ p.key := by
    by_cases hcase : p.kind = .unknown ∨ p.key = Parameter.aggregationKey
    · exact hfree hcase
    · rw [not_or] at hcase
      intro q hq hqk hkey
      have hq' : q.kind ≠ .unknown := by rwa [hqk]
      have hkinds := Parameter.kind_eq_of_key hp.isKeyed (hv q hq).isKeyed hcase.1 hq' hkey hcase.2
      exact hk (hqk.symm.trans hkinds)
  constructor
  · exact sameReading_of_ofKind (ofKind_insert hk.symm hapart).symm
  · exact sameReading_of_ofKind (ofKind_erase hapart).symm

def summed : View where
  run := 1
  style := .bar
  grain := .area
  parameters := [.aggregation .sum]

def lowRule (name : String) : Parameter :=
  .groupNamed name "low" (Condition.compare .integer .lt (.integer 3))

theorem isBuilt_of_mem_summed : ∀ q ∈ summed.parameters, q.IsBuilt := by
  intro q hq
  rw [List.mem_singleton.1 hq]
  exact .aggregation .sum

theorem sameReading_lowRule :
    summed.SameReading (summed.insert (lowRule "a")) .aggregation ∧
      summed.SameReading (summed.erase (lowRule "a").key) .aggregation := by
  apply sameReading_edits isBuilt_of_mem_summed (.group "a" "low" _) (by decide)
  intro hcase
  exact absurd hcase (by decide)

/-- A rule that is named so that it has the key of the aggregation takes its place, or gives way. -/
theorem not_sameReading_lowRule :
    ¬ summed.SameReading (summed.insert (lowRule "aggregation")) .aggregation ∧
      ¬ ({ summed with parameters := [lowRule "aggregation"] } : View).SameReading
        (({ summed with parameters := [lowRule "aggregation"] } : View).insert (.aggregation .sum))
        .group := by
  constructor
  · rw [SameReading]
    decide
  · intro h
    have hlength := congrArg List.length h
    revert hlength
    decide

end View

end Vacancy
