import Vacancy.Proofs.SavedParameter

/-!
What is not understood, saved. A parameter of no known kind keeps its key, its type and its value;
a condition keeps which type and which operation it names, as far as they have names here. So an
object comes back as it was if and only if it holds nothing else.
-/

namespace Vacancy

/-! ### Members by key -/

namespace Json

variable {ms ms' : List (String × Json)}

theorem perm_filter_keys (ks : List String) (hks : ks.Nodup) (ms : List (String × Json)) :
    ms.Perm ((ks.flatMap fun k => ms.filter (·.1 = k)) ++ ms.filter (·.1 ∉ ks)) := by
  induction ks generalizing ms with
  | nil => simp
  | cons k ks ih =>
    obtain ⟨hk, hks⟩ := List.nodup_cons.1 hks
    have hkeys : (ks.flatMap fun k' => (ms.filter (·.1 ≠ k)).filter (·.1 = k')) =
        ks.flatMap fun k' => ms.filter (·.1 = k') := by
      apply List.flatMap_congr
      intro k' hk'
      rw [List.filter_filter]
      apply List.filter_congr
      rintro m -
      have hne : m.1 = k' → m.1 ≠ k := by
        rintro rfl rfl
        exact hk hk'
      simpa using hne
    have hothers : (ms.filter (·.1 ≠ k)).filter (·.1 ∉ ks) = ms.filter (·.1 ∉ k :: ks) := by
      rw [List.filter_filter]
      apply List.filter_congr
      rintro m -
      simp [Bool.and_comm]
    have hsplit : ms.Perm (ms.filter (·.1 = k) ++ ms.filter (·.1 ≠ k)) := by
      simpa using (List.filter_append_perm (fun m : String × Json => decide (m.1 = k)) ms).symm
    have hrest := ih hks (ms.filter (·.1 ≠ k))
    rw [hkeys, hothers] at hrest
    rw [List.flatMap_cons, List.append_assoc]
    exact hsplit.trans (hrest.append_left _)

theorem filter_of_field? {k : String} {f : Option Json} (h : field? [k] ms = some f) :
    ms.filter (·.1 = k) = member? k id f := by
  have hsame : (fun m : String × Json => decide (m.1 = k)) = fun m => [k].contains m.1 := by
    funext m
    simp [eq_comm]
  rw [hsame]
  have hkey : ∀ m ∈ ms.filter (fun m => [k].contains m.1), m.1 = k := by
    intro m hm
    simpa using (List.mem_filter.1 hm).2
  unfold field? at h
  split at h
  · next hnil =>
    cases h
    exact hnil
  · next m hm =>
    cases h
    rw [hm] at hkey ⊢
    obtain rfl := hkey m (List.mem_singleton_self m)
    rfl
  · contradiction

theorem canonicalMembers_eq_of_perm (hnodup : (ms.map (·.1)).Nodup) (h : ms.Perm ms') :
    canonicalMembers ms = canonicalMembers ms' := by
  have hnodup' : (ms'.map (·.1)).Nodup := (h.map (·.1)).nodup_iff.1 hnodup
  have hperm : (canonicalMembers ms).Perm (canonicalMembers ms') :=
    (canonicalMembers_perm hnodup).trans ((h.map _).trans (canonicalMembers_perm hnodup').symm)
  apply hperm.eq_of_pairwise _ (ascending_canonicalMembers ms) (ascending_canonicalMembers ms')
  intro m m' _ _ hbefore hafter
  rw [Text.before_asymm hbefore] at hafter
  contradiction

theorem eq_of_required_text? {f : Option Json} {s : String} (h : required text? f = some s) :
    f = some (.text s) := by
  obtain ⟨j, rfl, hj⟩ := Option.bind_eq_some_iff.1 h
  unfold text? at hj
  split at hj
  · cases hj
    rfl
  · contradiction

end Json

namespace RawParameter

def keys : List String :=
  ["key", "type", "value"]

variable {ms : List (String × Json)} {raw : RawParameter}

theorem members_perm (h : ofJson? (.object ms) = some raw) :
    ∃ value : Option Json, raw.value = (value.getD .null).canonical ∧
      ms.Perm ([("key", .text raw.key), ("type", .text raw.type)] ++
        Json.member? "value" id value ++ ms.filter (·.1 ∉ keys)) := by
  have hperm := Json.perm_filter_keys keys (by decide) ms
  unfold ofJson? at h
  split at h
  · next key type value hfields =>
    simp only [Option.bind_eq_bind, Option.bind_eq_some_iff, Option.pure_def,
      Option.some.injEq] at h
    obtain ⟨k, hk, t, ht, rfl⟩ := h
    simp only [Json.record?, fields, List.mapM_cons, List.mapM_nil, Option.bind_eq_bind,
      Option.bind_eq_some_iff, Option.pure_def, Option.some.injEq, List.cons.injEq] at hfields
    obtain ⟨_, hkey, _, ⟨_, htype, _, ⟨_, hvalue, _, rfl, rfl⟩, rfl⟩, rfl, rfl, rfl, -⟩ := hfields
    refine ⟨_, rfl, ?_⟩
    simp only [keys, List.flatMap_cons, List.flatMap_nil, Json.filter_of_field? hkey,
      Json.filter_of_field? htype, Json.filter_of_field? hvalue, Json.eq_of_required_text? hk,
      Json.eq_of_required_text? ht] at hperm
    simpa [Json.member?, keys] using hperm
  · contradiction

theorem nodup_keys_of_perm {value : Json} {ms : List (String × Json)}
    (h : ms.Perm [("key", .text raw.key), ("type", .text raw.type), ("value", value)]) :
    (ms.map (·.1)).Nodup := by
  have hperm : (ms.map (·.1)).Perm keys := h.map (·.1)
  exact hperm.nodup_iff.2 (by decide)

/-- What is written is what was read, if that was an object of three members. -/
theorem canonical_toJson_eq_iff (h : ofJson? (.object ms) = some raw) :
    raw.toJson.canonical = (Json.object ms).canonical ↔
      (∀ m ∈ ms, m.1 ∈ keys) ∧ "value" ∈ ms.map (·.1) := by
  obtain ⟨value, hvalue, hperm⟩ := members_perm h
  simp only [toJson, Json.canonical, Json.object.injEq]
  constructor
  · intro heq
    have hkeys : ∀ k, k ∈ ms.map (·.1) ↔ k ∈ keys := by
      intro k
      rw [← Json.mem_keys_canonicalMembers, ← heq, Json.mem_keys_canonicalMembers]
      rfl
    refine ⟨?_, (hkeys "value").2 (by decide)⟩
    intro m hm
    exact (hkeys m.1).1 (List.mem_map_of_mem hm)
  · rintro ⟨hkeys, hmem⟩
    have hothers : ms.filter (·.1 ∉ keys) = [] := by
      rw [List.filter_eq_nil_iff]
      intro m hm
      simpa using hkeys m hm
    rw [hothers, List.append_nil] at hperm
    cases value with
    | none => simp [(hperm.map (·.1)).mem_iff, Json.member?] at hmem
    | some j =>
      have hms : ms.Perm [("key", .text raw.key), ("type", .text raw.type), ("value", j)] := hperm
      rw [Json.canonicalMembers_eq_of_perm (nodup_keys_of_perm hms) hms]
      simp only [Json.canonicalMembers, Json.canonical, hvalue, Option.getD_some,
        Json.canonical_canonical]

end RawParameter

namespace Condition

variable {c : Condition}

def names? (j : Json) : Option (String × String) :=
  match j.record? fields with
  | some (_ :: type :: operation :: _) => do
    let type ← Json.required Json.case? type
    let operation ← Json.required Json.case? operation
    return (type, operation)
  | _ => none

theorem exists_names? {j : Json} (h : ofJson? j = some c) :
    ∃ type operation, names? j = some (type, operation) ∧ OperandType.ofName type = c.type ∧
      Operation.ofName operation = c.operation := by
  unfold ofJson? at h
  split at h
  · next type operation _ _ _ _ _ hfields =>
    simp only [Option.bind_eq_bind, Option.bind_eq_some_iff, Option.pure_def,
      Option.some.injEq] at h
    obtain ⟨_, _, t, ht, o, ho, _, _, _, _, _, _, _, _, _, _, rfl⟩ := h
    obtain ⟨jt, rfl, ht⟩ := Option.bind_eq_some_iff.1 ht
    obtain ⟨jo, rfl, ho⟩ := Option.bind_eq_some_iff.1 ho
    obtain ⟨s, hs, rfl⟩ := Option.map_eq_some_iff.1 ht
    obtain ⟨s', hs', rfl⟩ := Option.map_eq_some_iff.1 ho
    refine ⟨s, s', ?_, rfl, rfl⟩
    simp [names?, hfields, Json.required, hs, hs']
  · contradiction

theorem names?_perm {ms ms' : List (String × Json)} (h : ms.Perm ms') :
    names? (.object ms) = names? (.object ms') := by
  unfold names?
  rw [Json.record?_perm h]

theorem names?_toMembers (c : Condition) :
    names? (.object c.toMembers) = some (c.type.name, c.operation.name) := by
  simp [names?, record?_toMembers, Json.required, OperandType.toJson, Operation.toJson, Json.case?]

theorem names?_filter_label (ms : List (String × Json)) :
    names? (.object (ms.filter (·.1 ≠ "label"))) = names? (.object ms) := by
  have hfield : ∀ k, k ≠ "label" →
      Json.field? [k] (ms.filter (·.1 ≠ "label")) = Json.field? [k] ms := by
    intro k hk
    have hfilter : (ms.filter (·.1 ≠ "label")).filter (fun m => [k].contains m.1) =
        ms.filter fun m => [k].contains m.1 := by
      rw [List.filter_filter]
      apply List.filter_congr
      rintro m -
      by_cases hm : m.1 = k
      · simp [hm, hk]
      · simp [hm]
    rw [Json.field?, hfilter, Json.field?]
  simp (disch := decide) only [names?, Json.record?, fields, List.mapM_cons, List.mapM_nil, hfield]

theorem names?_labelled (c : Condition) (label : String) :
    names? (Json.object (c.toMembers ++ [("label", .text label)])).canonical =
      some (c.type.name, c.operation.name) := by
  rw [Json.canonical, names?_perm (Parameter.separate_labelled c label).perm, ← names?_filter_label,
    List.filter_append]
  have hlabel : [("label", Json.text label)].filter (·.1 ≠ "label") = [] := rfl
  rw [hlabel, List.append_nil, names?_filter_label, names?_toMembers]

end Condition

namespace Parameter

variable {raw : RawParameter} {p : Parameter} {c : Condition}

def condition? : Parameter → Option Condition
  | .filter _ c | .group _ _ c => some c
  | _ => none

/-- What is decoded is of a known kind; a condition in it has the names that were read. -/
structure IsDecoded (raw : RawParameter) (p : Parameter) : Prop where
  known : ∀ kept, p ≠ .unknown kept
  names : ∀ c, p.condition? = some c →
    ∃ type operation, Condition.names? raw.value = some (type, operation) ∧
      OperandType.ofName type = c.type ∧ Operation.ofName operation = c.operation

theorem Decodes.isDecoded (h : Decodes raw p) : p.IsDecoded raw := by
  constructor
  case known => cases h <;> nofun
  case names =>
    intro c hc
    cases h with
    | filter _ _ hj =>
      cases hc
      exact Condition.exists_names? hj
    | group _ _ hms _ hj =>
      cases hc
      have hnames := Condition.exists_names? hj
      rwa [Condition.names?_filter_label, ← hms] at hnames
    | _ => contradiction

theorem eq_of_ofRaw_eq_unknown {kept : RawParameter} (h : ofRaw raw = .unknown kept) :
    kept = raw := by
  unfold ofRaw at h
  cases hdecode : decode? raw with
  | none =>
    rw [hdecode] at h
    cases h
    rfl
  | some p =>
    rw [hdecode] at h
    exact absurd h ((decodes_of_decode? hdecode).isDecoded.known kept)

theorem decode?_of_condition? (h : (ofRaw raw).condition? = some c) :
    decode? raw = some (ofRaw raw) := by
  unfold ofRaw at h ⊢
  cases hdecode : decode? raw with
  | none =>
    rw [hdecode] at h
    contradiction
  | some p => rfl

def conditionNames? (j : Json) : Option (String × String) :=
  (RawParameter.ofJson? j).bind fun raw => Condition.names? raw.value

theorem conditionNames?_toJson (h : p.condition? = some c) :
    conditionNames? p.toJson = some (c.type.name, c.operation.name) := by
  rw [conditionNames?, toJson, RawParameter.ofJson?_toJson, Option.bind_some]
  cases p with
  | filter key condition =>
    cases h
    rw [toRaw, Json.canonical_canonical, Condition.toJson, Json.canonical,
      Condition.names?_perm c.separate_toMembers.perm, Condition.names?_toMembers]
  | group key label condition =>
    cases h
    rw [toRaw, Json.canonical_canonical, Condition.names?_labelled]
  | _ => contradiction

/--
An object that is of no known kind survives a save if and only if it has a value, be it null, and no
members beside it, its key and its type. The type and the operation of a condition survive if and
only if they are named here; those that are not share one name each.
-/
theorem survives_save {ms : List (String × Json)} (h : ofJson? (.object ms) = some p) :
    (∀ kept, p = .unknown kept →
      (p.toJson.canonical = (Json.object ms).canonical ↔
        (∀ m ∈ ms, m.1 ∈ RawParameter.keys) ∧ "value" ∈ ms.map (·.1))) ∧
    ∀ c, p.condition? = some c →
      ∃ type operation, conditionNames? (.object ms) = some (type, operation) ∧
        conditionNames? p.toJson =
          some ((OperandType.ofName type).name, (Operation.ofName operation).name) ∧
        (conditionNames? p.toJson = some (type, operation) ↔
          (∃ t : OperandType, t.name = type) ∧ ∃ o : Operation, o.name = operation) := by
  obtain ⟨raw, hraw, rfl⟩ := Option.map_eq_some_iff.1 h
  constructor
  · intro kept hkept
    obtain rfl := eq_of_ofRaw_eq_unknown hkept
    rw [hkept]
    exact RawParameter.canonical_toJson_eq_iff hraw
  · intro c hc
    obtain ⟨type, operation, hnames, ht, ho⟩ :=
      (decodes_of_decode? (decode?_of_condition? hc)).isDecoded.names c hc
    have hsaved := conditionNames?_toJson hc
    rw [← ht, ← ho] at hsaved
    refine ⟨type, operation, ?_, hsaved, ?_⟩
    · rw [conditionNames?, hraw, Option.bind_some, hnames]
    · rw [hsaved, Option.some.injEq, Prod.mk.injEq]
      apply and_congr
      · constructor
        · exact fun h => ⟨_, h⟩
        · rintro ⟨t, rfl⟩
          rw [OperandType.ofName_name]
      · constructor
        · exact fun h => ⟨_, h⟩
        · rintro ⟨o, rfl⟩
          rw [Operation.ofName_name]

def legend : List (String × Json) :=
  [("key", .text "legend"), ("type", .text "style"), ("value", .bool true)]

def placed (type operation : String) : List (String × Json) :=
  [("key", .text "filter_place"), ("type", .text "filter"), ("value", .object
    [("referenceColumn", .text "area_group"), ("referenceColumnType", .text type),
      ("operation", .text operation), ("value", .text "north")])]

theorem survives_save_legend :
    (∃ p : Parameter, ofJson? (.object legend) = some p ∧
      p.toJson.canonical = (Json.object legend).canonical) ∧
    ∃ p : Parameter, ofJson? (.object (placed "text" "eq")) = some p ∧
      conditionNames? p.toJson = some ("text", "eq") := by
  have hlegend : ofJson? (.object legend) = some (.unknown ⟨"legend", "style", .bool true⟩) := rfl
  have hplaced : ofJson? (.object (placed "text" "eq")) = some (.filter "filter_place"
      { column := some "area_group", type := .text, operation := .eq,
        value := some (.text "north") }) := rfl
  obtain ⟨hunknown, _⟩ := survives_save hlegend
  obtain ⟨_, hcondition⟩ := survives_save hplaced
  constructor
  · exact ⟨_, hlegend, (hunknown _ rfl).2 (by decide)⟩
  · obtain ⟨type, operation, hnames, _, hsaved⟩ := hcondition _ rfl
    cases hnames
    exact ⟨_, hplaced, hsaved.2 ⟨⟨.text, rfl⟩, .eq, rfl⟩⟩

/-- A member beside the three is lost; a type and an operation without a name here are renamed. -/
theorem not_survives_save :
    (∃ kept : RawParameter,
      ofJson? (.object (legend ++ [("note", .text "kept")])) = some (.unknown kept) ∧
        (Parameter.unknown kept).toJson.canonical ≠
          (Json.object (legend ++ [("note", .text "kept")])).canonical) ∧
    ∃ (p : Parameter) (c : Condition), ofJson? (.object (placed "geometry" "within")) = some p ∧
      p.condition? = some c ∧
      conditionNames? (.object (placed "geometry" "within")) = some ("geometry", "within") ∧
      conditionNames? p.toJson = some ("unrecognized", "Unrecognized") := by
  constructor
  · have hraw : RawParameter.ofJson? (.object (legend ++ [("note", .text "kept")])) =
        some ⟨"legend", "style", .bool true⟩ := rfl
    refine ⟨_, congrArg (Option.map ofRaw) hraw, ?_⟩
    intro heq
    obtain ⟨hkeys, _⟩ := (RawParameter.canonical_toJson_eq_iff hraw).1 heq
    exact absurd (hkeys ("note", .text "kept") (by simp)) (by decide)
  · exact ⟨_, _, rfl, rfl, rfl, rfl⟩

end Parameter

end Vacancy
