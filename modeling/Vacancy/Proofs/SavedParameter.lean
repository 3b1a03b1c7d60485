import Vacancy.Proofs.NameList
import Vacancy.Proofs.SavedCondition

/-!
Parameters saved and read again. Each kind is written under a key and a type by which it is known,
and what is of no kind is kept; so a parameter that was read once is always read the same.
-/

namespace Vacancy

namespace YearRange

def keys : List String :=
  ["start", "end"]

def toMembers (r : YearRange) : List (String × Json) :=
  Json.member? "start" .text r.start ++ Json.member? "end" .text r.last

theorem keys_toMembers_sublist (r : YearRange) : (r.toMembers.map (·.1)).Sublist keys := by
  simp only [toMembers, List.map_append]
  exact (Json.keys_member?_sublist "start" _ _).append (Json.keys_member?_sublist "end" _ _)

theorem separate_toMembers (r : YearRange) : Json.Separate r.toMembers := by
  refine ⟨r.keys_toMembers_sublist.nodup (by decide), ?_⟩
  intro m hm
  rcases List.mem_append.1 hm with hm | hm
  · obtain ⟨s, _, rfl⟩ := Json.exists_of_mem_member? hm
    rfl
  · obtain ⟨s, _, rfl⟩ := Json.exists_of_mem_member? hm
    rfl

theorem ofJson?_canonical_toJson (r : YearRange) : ofJson? r.toJson.canonical = some r := by
  have hside : ∀ side : Option String, Json.optional Json.text? (side.map .text) = some side :=
    fun side => Json.optional_map fun s _ => ⟨rfl, by simp⟩
  have hfields : Json.record? [["start"], ["end"]] r.toJson.canonical =
      some [r.start.map .text, r.last.map .text] := by
    refine (Json.record?_perm r.separate_toMembers.perm _).trans ?_
    simp [Json.record?, toMembers]
  simp [ofJson?, hfields, hside]

end YearRange

theorem RawParameter.ofJson?_toJson (r : RawParameter) :
    ofJson? r.toJson = some { r with value := r.value.canonical } := by
  simp [ofJson?, toJson, Json.record?, fields, Json.required, Json.text?]

namespace Parameter

/-- A parameter whose kind is known by its key, and whose value saving does not change. -/
def IsKnown : Parameter → Prop
  | .table names => ∀ name ∈ names, IsListed name
  | .filter key condition => startsWith filterStem key = true ∧ condition.IsSaved
  | .group key _ condition => startsWith groupStem key = true ∧ condition.IsSaved
  | .unknown _ => False
  | _ => True

theorem ne_of_startsWith {stem key other : String} (h : startsWith stem key = true)
    (hother : startsWith stem other = false) : key ≠ other := by
  rintro rfl
  rw [h] at hother
  contradiction

theorem decode?_filter {key : String} {c : Condition} (hkey : startsWith filterStem key = true)
    (hc : c.IsSaved) : decode? (toRaw (.filter key c)) = some (.filter key c) := by
  have hyear : key ≠ yearKey := ne_of_startsWith hkey (by decide)
  have hareas : key ≠ areasKey := ne_of_startsWith hkey (by decide)
  simp [decode?, toRaw, hyear, hareas, hkey, Condition.ofJson?_canonical_toJson hc]

theorem separate_labelled (c : Condition) (label : String) :
    Json.Separate (c.toMembers ++ [("label", .text label)]) := by
  constructor
  case nodup =>
    have hkeys := c.keys_toMembers_sublist.append (List.Sublist.refl ["label"])
    rw [List.map_append]
    exact hkeys.nodup (by decide)
  case canonical =>
    intro m hm
    rcases List.mem_append.1 hm with hm | hm
    · exact c.separate_toMembers.canonical m hm
    · rw [List.mem_singleton.1 hm]
      rfl

theorem groupOfJson?_canonical {c : Condition} (hc : c.IsSaved) (key label : String) :
    groupOfJson? key (Json.object (c.toMembers ++ [("label", .text label)])).canonical =
      some (.group key label c) := by
  have hseparate := separate_labelled c label
  have hperm := hseparate.perm
  have hlookup : Json.lookup "label"
      (Json.canonicalMembers (c.toMembers ++ [("label", .text label)])) = some (.text label) := by
    apply Json.lookup_of_mem
    · exact (hperm.map (·.1)).nodup_iff.2 hseparate.nodup
    · exact hperm.mem_iff.2 (by simp)
  have hrest : (c.toMembers ++ [("label", Json.text label)]).filter (fun m => m.1 ≠ "label") =
      c.toMembers := by
    have hothers : ∀ m ∈ c.toMembers, m.1 ≠ "label" := by
      intro m hm heq
      have hmem := c.keys_toMembers_sublist.mem (List.mem_map_of_mem hm)
      rw [heq] at hmem
      exact absurd hmem (by decide)
    rw [List.filter_append, List.filter_eq_self.2 (by simpa using hothers)]
    simp
  have hcondition : Condition.ofJson? (.object
      ((Json.canonicalMembers (c.toMembers ++ [("label", .text label)])).filter
        fun m => m.1 ≠ "label")) = some c := by
    rw [Condition.ofJson?_perm (hperm.filter _), hrest, Condition.ofJson?_toMembers hc]
  simp only [Json.canonical, groupOfJson?, hlookup, hcondition]
  rfl

theorem decode?_group {key label : String} {c : Condition} (hkey : startsWith groupStem key = true)
    (hc : c.IsSaved) : decode? (toRaw (.group key label c)) = some (.group key label c) := by
  simp [decode?, toRaw, hkey, groupOfJson?_canonical hc]

theorem decode?_toRaw {p : Parameter} (h : p.IsKnown) : decode? p.toRaw = some p := by
  cases p with
  | column slot name =>
    have htable : slot.key ≠ tableKey := by cases slot <;> decide
    simp [decode?, toRaw, htable, Json.text?]
  | table names => simp [decode?, toRaw, Json.text?, namesOfList_intercalate h]
  | filter key c => exact decode?_filter h.1 h.2
  | group key label c => exact decode?_group h.1 h.2
  | aggregation a =>
    simp [decode?, toRaw, aggregationKey, Aggregation.ofJson?, Aggregation.toJson, Json.case?]
  | year range => simp [decode?, toRaw, range.ofJson?_canonical_toJson]
  | areas names =>
    have hnames : (Json.array (names.map .text)).list? Json.text? = some names :=
      Json.list?_map fun _ _ => rfl
    simp [decode?, toRaw, areasKey, yearKey, hnames]
  | unknown raw => exact h.elim

theorem canonical_toRaw {p : Parameter} (h : p.IsKnown) :
    p.toRaw.value.canonical = p.toRaw.value := by
  cases p with
  | unknown raw => exact h.elim
  | filter key c => exact Json.canonical_canonical _
  | group key label c => exact Json.canonical_canonical _
  | year range => exact Json.canonical_canonical _
  | areas names =>
    simp only [toRaw, Json.canonical, Json.canonicalItems_eq_map, List.map_map]
    rfl
  | _ => rfl

/-! ### Reading -/

theorem key_of_ofKey? {key : String} {slot : Slot} (h : Slot.ofKey? key = some slot) :
    slot.key = key := by
  unfold Slot.ofKey? at h
  split at h
  all_goals cases h
  all_goals rfl

/-- What a parameter is decoded to: the kind that its type and its key name, by its value. -/
inductive Decodes (raw : RawParameter) : Parameter → Prop where
  | column {slot : Slot} {name : String} (htype : raw.type = "column")
      (hslot : Slot.ofKey? raw.key = some slot) (hname : raw.value.text? = some name) :
      Decodes raw (.column slot name)
  | table {list : String} (htype : raw.type = "column") (hkey : raw.key = tableKey)
      (hlist : raw.value.text? = some list) : Decodes raw (.table (namesOfList list))
  | filter {c : Condition} (htype : raw.type = "filter")
      (hkey : startsWith filterStem raw.key = true) (hc : Condition.ofJson? raw.value = some c) :
      Decodes raw (.filter raw.key c)
  | group {ms : List (String × Json)} {label : String} {c : Condition} (htype : raw.type = "group")
      (hkey : startsWith groupStem raw.key = true) (hms : raw.value = .object ms)
      (hlabel : (Json.lookup "label" ms).bind Json.text? = some label)
      (hc : Condition.ofJson? (.object (ms.filter (·.1 ≠ "label"))) = some c) :
      Decodes raw (.group raw.key label c)
  | aggregation {a : Aggregation} (htype : raw.type = aggregationKey)
      (hkey : raw.key = aggregationKey) (ha : Aggregation.ofJson? raw.value = some a) :
      Decodes raw (.aggregation a)
  | year {range : YearRange} (htype : raw.type = "filter") (hkey : raw.key = yearKey)
      (hrange : YearRange.ofJson? raw.value = some range) : Decodes raw (.year range)
  | areas {names : List String} (htype : raw.type = "filter") (hkey : raw.key = areasKey)
      (hnames : raw.value.list? Json.text? = some names) : Decodes raw (.areas names)

theorem decodes_groupOfJson? {raw : RawParameter} (htype : raw.type = "group")
    (hkey : startsWith groupStem raw.key = true) {p : Parameter}
    (h : groupOfJson? raw.key raw.value = some p) : Decodes raw p := by
  unfold groupOfJson? at h
  split at h
  · next hms =>
    simp only [Option.bind_eq_bind, Option.bind_eq_some_iff, Option.pure_def,
      Option.some.injEq] at h
    obtain ⟨label, hlabel, c, hc, rfl⟩ := h
    exact .group htype hkey hms (Option.bind_eq_some_iff.2 hlabel) hc
  · contradiction

theorem decodes_of_decode? {raw : RawParameter} {p : Parameter} (h : decode? raw = some p) :
    Decodes raw p := by
  unfold decode? at h
  split at h
  · next htype =>
    split at h
    · next hkey =>
      obtain ⟨list, hlist, rfl⟩ := Option.map_eq_some_iff.1 h
      exact .table htype hkey hlist
    · simp only [Option.bind_eq_bind, Option.bind_eq_some_iff, Option.pure_def,
        Option.some.injEq] at h
      obtain ⟨slot, hslot, name, hname, rfl⟩ := h
      exact .column htype hslot hname
  · split at h
    · next htype =>
      split at h
      · next hkey =>
        obtain ⟨range, hrange, rfl⟩ := Option.map_eq_some_iff.1 h
        exact .year htype hkey hrange
      · split at h
        · next hkey =>
          obtain ⟨names, hnames, rfl⟩ := Option.map_eq_some_iff.1 h
          exact .areas htype hkey hnames
        · split at h
          · next hkey =>
            obtain ⟨c, hc, rfl⟩ := Option.map_eq_some_iff.1 h
            exact .filter htype hkey hc
          · contradiction
    · split at h
      · next htype =>
        split at h
        · next hkey => exact decodes_groupOfJson? htype hkey h
        · contradiction
      · split at h
        · next htype =>
          split at h
          · next hkey =>
            obtain ⟨a, ha, rfl⟩ := Option.map_eq_some_iff.1 h
            exact .aggregation htype hkey ha
          · contradiction
        · contradiction

/-- What a parameter is read as is written under the key and the type that it was read from. -/
structure IsReadOf (raw : RawParameter) (p : Parameter) : Prop where
  known : p.IsKnown
  key : p.toRaw.key = raw.key
  type : p.toRaw.type = raw.type

theorem Decodes.isReadOf {raw : RawParameter} (hraw : raw.value.InRange) {p : Parameter}
    (h : Decodes raw p) : p.IsReadOf raw := by
  cases h with
  | column htype hslot _ => exact ⟨trivial, key_of_ofKey? hslot, htype.symm⟩
  | table htype hkey _ =>
    exact ⟨fun name hname => isListed_of_mem_namesOfList hname, hkey.symm, htype.symm⟩
  | filter htype hkey hc =>
    exact ⟨⟨hkey, Condition.isSaved_of_ofJson? hraw hc⟩, rfl, htype.symm⟩
  | group htype hkey hms _ hc =>
    rw [hms] at hraw
    cases hraw with
    | object hrange =>
      have hcondition := Condition.isSaved_of_ofJson?
        (.object fun m hm => hrange m (List.mem_filter.1 hm).1) hc
      exact ⟨⟨hkey, hcondition⟩, rfl, htype.symm⟩
  | aggregation htype hkey _ | year htype hkey _ | areas htype hkey _ =>
    exact ⟨trivial, hkey.symm, htype.symm⟩

theorem decode?_cases {raw : RawParameter} (hraw : raw.value.InRange) :
    ofRaw raw = .unknown raw ∧ decode? raw = none ∨ (ofRaw raw).IsReadOf raw := by
  unfold ofRaw
  cases h : decode? raw with
  | none => exact .inl ⟨rfl, rfl⟩
  | some p => exact .inr ((decodes_of_decode? h).isReadOf hraw)

theorem key_and_type_ofRaw {raw : RawParameter} (hraw : raw.value.InRange) :
    (ofRaw raw).toRaw.key = raw.key ∧ (ofRaw raw).toRaw.type = raw.type := by
  rcases decode?_cases hraw with ⟨hunknown, _⟩ | h
  · rw [hunknown]
    exact ⟨rfl, rfl⟩
  · exact ⟨h.key, h.type⟩

/-- A parameter that is what it was when it is saved and read again. -/
structure IsStable (p : Parameter) : Prop where
  read : ofRaw p.toRaw = p
  canonical : p.toRaw.value.canonical = p.toRaw.value

theorem IsKnown.isStable {p : Parameter} (h : p.IsKnown) : p.IsStable := by
  refine ⟨?_, canonical_toRaw h⟩
  rw [ofRaw, decode?_toRaw h, Option.getD_some]

theorem ofRaw_toRaw_ofRaw {raw : RawParameter} (hraw : raw.value.InRange) :
    ofRaw (ofRaw raw).toRaw = ofRaw raw := by
  rcases decode?_cases hraw with ⟨hunknown, _⟩ | h
  · rw [hunknown]
    exact hunknown
  · exact h.known.isStable.read

theorem isStable_ofRaw {raw : RawParameter} (hraw : raw.value.InRange)
    (hcanonical : raw.value.canonical = raw.value) : (ofRaw raw).IsStable := by
  refine ⟨ofRaw_toRaw_ofRaw hraw, ?_⟩
  rcases decode?_cases hraw with ⟨hunknown, _⟩ | h
  · rw [hunknown]
    exact hcanonical
  · exact canonical_toRaw h.known

theorem ofJson?_toJson {p : Parameter} (h : p.IsStable) : ofJson? p.toJson = some p := by
  rw [ofJson?, toJson, RawParameter.ofJson?_toJson, h.canonical, Option.map_some, h.read]

theorem isStable_of_ofJson? {j : Json} (hj : j.InRange) {p : Parameter} (h : ofJson? j = some p) :
    p.IsStable := by
  obtain ⟨raw, hraw, rfl⟩ := Option.map_eq_some_iff.1 h
  unfold RawParameter.ofJson? at hraw
  split at hraw
  · next key type value hfields =>
    have hrange := hj.of_record? hfields
    simp only [Option.bind_eq_bind, Option.bind_eq_some_iff, Option.pure_def,
      Option.some.injEq] at hraw
    obtain ⟨_, _, _, _, rfl⟩ := hraw
    apply isStable_ofRaw
    · apply Json.InRange.canonical
      cases value with
      | none => exact .null
      | some j => exact hrange (some j) (by simp) j rfl
    · exact Json.canonical_canonical _
  · simp at hraw

end Parameter

end Vacancy
