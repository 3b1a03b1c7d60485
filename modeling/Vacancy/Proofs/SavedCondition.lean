import Vacancy.Condition
import Vacancy.Proofs.Canonical
import Vacancy.Proofs.Finite

/-!
Conditions saved and read again. A condition whose operands are numbers or texts comes back as it
was, wherever its members stand in their object; and it is such conditions that are read.
-/

namespace Vacancy

namespace Json

variable {α : Type}

theorem field?_eq_none_iff {spellings : List String} {ms : List (String × Json)} :
    field? spellings ms = some none ↔ ms.filter (fun m => spellings.contains m.1) = [] := by
  unfold field?
  constructor
  · intro h
    split at h
    · next hnil => exact hnil
    · simp at h
    · simp at h
  · intro h
    rw [h]

@[simp] theorem field?_nil (spellings : List String) : field? spellings [] = some none := by
  simp [field?]

@[simp] theorem field?_cons {spellings : List String} {k : String} (hk : spellings.contains k = true)
    {ms : List (String × Json)} (h : field? spellings ms = some none) (j : Json) :
    field? spellings ((k, j) :: ms) = some (some j) := by
  rw [field?_eq_none_iff] at h
  simp only [field?, List.filter_cons, hk, h, if_true]

@[simp] theorem field?_cons_of_not {spellings : List String} {k : String}
    (hk : spellings.contains k = false) (j : Json) (ms : List (String × Json)) :
    field? spellings ((k, j) :: ms) = field? spellings ms := by
  simp only [field?, List.filter_cons, hk, Bool.false_eq_true, if_false]

@[simp] theorem field?_member? {spellings : List String} {k : String} (hk : spellings.contains k = true)
    {ms : List (String × Json)} (h : field? spellings ms = some none) (write : α → Json)
    (value : Option α) :
    field? spellings (member? k write value ++ ms) = some (value.map write) := by
  cases value with
  | none => exact h
  | some a => exact field?_cons hk h (write a)

@[simp] theorem field?_member?_of_not {spellings : List String} {k : String}
    (hk : spellings.contains k = false) (write : α → Json) (value : Option α)
    (ms : List (String × Json)) :
    field? spellings (member? k write value ++ ms) = field? spellings ms := by
  cases value with
  | none => rfl
  | some a => exact field?_cons_of_not hk (write a) ms

@[simp] theorem field?_last {spellings : List String} {k : String} (hk : spellings.contains k = true)
    (write : α → Json) (value : Option α) :
    field? spellings (member? k write value) = some (value.map write) := by
  rw [← List.append_nil (member? k write value)]
  exact field?_member? hk (field?_nil spellings) write value

@[simp] theorem field?_last_of_not {spellings : List String} {k : String}
    (hk : spellings.contains k = false) (write : α → Json) (value : Option α) :
    field? spellings (member? k write value) = some none := by
  rw [← List.append_nil (member? k write value)]
  exact field?_member?_of_not hk write value []

theorem keys_member?_sublist (k : String) (write : α → Json) (value : Option α) :
    ((member? k write value).map (·.1)).Sublist [k] := by
  cases value <;> simp [member?]

theorem exists_of_mem_member? {k : String} {write : α → Json} {value : Option α}
    {m : String × Json} (h : m ∈ member? k write value) : ∃ a ∈ value, m = (k, write a) := by
  cases value with
  | none => simp [member?] at h
  | some a => exact ⟨a, rfl, List.mem_singleton.1 h⟩

theorem optional_map {read? : Json → Option α} {write : α → Json} {value : Option α}
    (h : ∀ a ∈ value, read? (write a) = some a ∧ write a ≠ .null) :
    optional read? (value.map write) = some value := by
  cases value with
  | none => rfl
  | some a =>
    obtain ⟨hread, hnull⟩ := h a rfl
    unfold optional
    split
    · next hnone => simp at hnone
    · next heq =>
      simp only [Option.map_some, Option.some.injEq] at heq
      exact absurd heq hnull
    · next j _ heq =>
      simp only [Option.map_some, Option.some.injEq] at heq
      rw [← heq, hread]
      rfl

theorem eq_some_of_optional {read? : Json → Option α} {f : Option Json} {value : Option α}
    (h : optional read? f = some value) {a : α} (ha : a ∈ value) :
    ∃ j, f = some j ∧ j ≠ .null ∧ read? j = some a := by
  unfold optional at h
  split at h
  · cases h
    simp at ha
  · cases h
    simp at ha
  · next j hnull =>
    obtain ⟨b, hb, rfl⟩ := Option.map_eq_some_iff.1 h
    cases ha
    exact ⟨j, rfl, hnull, hb⟩

theorem list?_map {read? : Json → Option α} {write : α → Json} {as : List α}
    (h : ∀ a ∈ as, read? (write a) = some a) : list? read? (.array (as.map write)) = some as := by
  change (as.map write).mapM read? = some as
  induction as with
  | nil => rfl
  | cons a as ih =>
    rw [List.map_cons, List.mapM_cons, h a List.mem_cons_self,
      ih fun b hb => h b (List.mem_cons_of_mem a hb)]
    rfl

theorem exists_of_mem_list? {read? : Json → Option α} {j : Json} {as : List α}
    (h : list? read? j = some as) (hj : j.InRange) {a : α} (ha : a ∈ as) :
    ∃ j' : Json, j'.InRange ∧ read? j' = some a := by
  cases hj with
  | @array items hitems =>
    simp only [list?] at h
    induction items generalizing as with
    | nil =>
      cases h
      simp at ha
    | cons j js ih =>
      simp only [List.mapM_cons, Option.bind_eq_bind, Option.bind_eq_some_iff, Option.pure_def,
        Option.some.injEq] at h
      obtain ⟨b, hb, bs, hbs, rfl⟩ := h
      rcases List.mem_cons.1 ha with rfl | ha
      · exact ⟨j, hitems j List.mem_cons_self, hb⟩
      · exact ih ha (fun j' hj' => hitems j' (List.mem_cons_of_mem j hj')) hbs
  | _ => simp [list?] at h

theorem exists_of_mem_defaulted {read? : Json → Option α} {f : Option Json} {as : List α}
    (h : defaulted [] (list? read?) f = some as) (hf : ∀ j ∈ f, j.InRange) {a : α} (ha : a ∈ as) :
    ∃ j : Json, j.InRange ∧ read? j = some a := by
  cases f with
  | none =>
    cases h
    simp at ha
  | some j => exact exists_of_mem_list? h (hf j rfl) ha

end Json

namespace Value

/-- An operand that is written as what it is: a number or a text. -/
def IsSaved : Value → Prop
  | .null => False
  | .real x => x.isFinite = true
  | _ => True

theorem ofJson?_toJson {v : Value} (h : v.IsSaved) : ofJson? v.toJson = some v := by
  cases v with
  | null => exact h.elim
  | integer n => simp [toJson, ofJson?]
  | real x =>
    have hx : x.isFinite = true := h
    simp [toJson, hx, ofJson?]
  | text s => rfl

theorem toJson_ne_null {v : Value} (h : v.IsSaved) : v.toJson ≠ .null := by
  cases v with
  | null => exact h.elim
  | real x =>
    have hx : x.isFinite = true := h
    simp [toJson, hx]
  | _ => simp [toJson]

theorem isSaved_of_ofJson? {j : Json} {v : Value} (hj : j.InRange) (hnull : j ≠ .null)
    (h : ofJson? j = some v) : v.IsSaved := by
  cases hj with
  | null => exact absurd rfl hnull
  | @int n hlow hhigh =>
    simp only [ofJson?] at h
    cases hn : Decimal.int64? n with
    | none =>
      -- an integer beyond 64 bits with a sign
      simp only [hn, Option.some.injEq] at h
      rw [← h]
      exact Decimal.isFinite_ofInt (Int64.toInt_minValue ▸ hlow) hhigh
    | some i =>
      simp only [hn, Option.some.injEq] at h
      rw [← h]
      trivial
  | real hx =>
    cases h
    exact hx
  | text s =>
    cases h
    trivial
  | _ => cases h

end Value

namespace Condition

/-- A condition without operands that saving would lose. -/
structure IsSaved (c : Condition) : Prop where
  value : ∀ v ∈ c.value, v.IsSaved
  start : ∀ v ∈ c.start, v.IsSaved
  last : ∀ v ∈ c.last, v.IsSaved

theorem record?_toMembers (c : Condition) :
    Json.record? fields (.object c.toMembers) =
      some [c.column.map .text, some c.type.toJson, some c.operation.toJson,
        c.value.map Value.toJson, c.start.map Value.toJson, c.last.map Value.toJson,
        c.includesStart.map .bool, c.includesLast.map .bool] := by
  simp [Json.record?, fields, toMembers]

theorem ofJson?_perm {ms ms' : List (String × Json)} (h : ms.Perm ms') :
    ofJson? (.object ms) = ofJson? (.object ms') := by
  unfold ofJson?
  rw [Json.record?_perm h]

theorem ofJson?_toMembers {c : Condition} (h : c.IsSaved) :
    ofJson? (.object c.toMembers) = some c := by
  have hcolumn : Json.optional Json.text? (c.column.map .text) = some c.column :=
    Json.optional_map fun s _ => ⟨rfl, by simp⟩
  have hflag : ∀ flag : Option Bool, Json.optional Json.bool? (flag.map .bool) = some flag :=
    fun flag => Json.optional_map fun b _ => ⟨rfl, by simp⟩
  have hoperand : ∀ operand : Option Value, (∀ v ∈ operand, v.IsSaved) →
      Json.optional Value.ofJson? (operand.map Value.toJson) = some operand :=
    fun operand hv => Json.optional_map fun v hmem =>
      ⟨Value.ofJson?_toJson (hv v hmem), Value.toJson_ne_null (hv v hmem)⟩
  have htype : Json.required OperandType.ofJson? (some c.type.toJson) = some c.type := by
    simp [Json.required, OperandType.ofJson?, OperandType.toJson, Json.case?]
  have hoperation : Json.required Operation.ofJson? (some c.operation.toJson) = some c.operation := by
    simp [Json.required, Operation.ofJson?, Operation.toJson, Json.case?]
  simp [ofJson?, record?_toMembers, hcolumn, hflag, hoperand _ h.value, hoperand _ h.start,
    hoperand _ h.last, htype, hoperation]

def keys : List String :=
  ["referenceColumn", "referenceColumnType", "operation", "value", "startValue", "lastValue",
    "includesStart", "includesLast"]

theorem keys_toMembers_sublist (c : Condition) : (c.toMembers.map (·.1)).Sublist keys := by
  simp only [toMembers, List.map_append, List.map_cons, List.map_nil]
  exact (((((((Json.keys_member?_sublist "referenceColumn" _ _).append
    (.refl ["referenceColumnType", "operation"])).append (Json.keys_member?_sublist "value" _ _)).append
    (Json.keys_member?_sublist "startValue" _ _)).append (Json.keys_member?_sublist "lastValue" _ _)).append
    (Json.keys_member?_sublist "includesStart" _ _)).append (Json.keys_member?_sublist "includesLast" _ _))

theorem separate_toMembers (c : Condition) : Json.Separate c.toMembers := by
  refine ⟨c.keys_toMembers_sublist.nodup (by decide), ?_⟩
  have hvalue : ∀ v : Value, v.toJson.canonical = v.toJson := by
    intro v
    cases v with
    | real x =>
      simp only [Value.toJson]
      split <;> rfl
    | _ => rfl
  intro m hm
  simp only [toMembers, List.mem_append] at hm
  rcases hm with ((((((hm | hm) | hm) | hm) | hm) | hm) | hm)
  · obtain ⟨s, _, rfl⟩ := Json.exists_of_mem_member? hm
    rfl
  · simp only [List.mem_cons, List.not_mem_nil, or_false] at hm
    rcases hm with rfl | rfl <;> rfl
  · obtain ⟨v, _, rfl⟩ := Json.exists_of_mem_member? hm
    exact hvalue v
  · obtain ⟨v, _, rfl⟩ := Json.exists_of_mem_member? hm
    exact hvalue v
  · obtain ⟨v, _, rfl⟩ := Json.exists_of_mem_member? hm
    exact hvalue v
  · obtain ⟨b, _, rfl⟩ := Json.exists_of_mem_member? hm
    rfl
  · obtain ⟨b, _, rfl⟩ := Json.exists_of_mem_member? hm
    rfl

theorem ofJson?_canonical_toJson {c : Condition} (h : c.IsSaved) :
    ofJson? c.toJson.canonical = some c := by
  rw [toJson, Json.canonical, ofJson?_perm c.separate_toMembers.perm, ofJson?_toMembers h]

theorem isSaved_of_ofJson? {j : Json} (hj : j.InRange) {c : Condition} (h : ofJson? j = some c) :
    c.IsSaved := by
  have hoperand : ∀ {f : Option Json} {operand : Option Value}, (∀ j ∈ f, j.InRange) →
      Json.optional Value.ofJson? f = some operand → ∀ v ∈ operand, v.IsSaved := by
    intro f operand hf hread v hv
    obtain ⟨j, rfl, hnull, hvalue⟩ := Json.eq_some_of_optional hread hv
    exact Value.isSaved_of_ofJson? (hf j rfl) hnull hvalue
  unfold ofJson? at h
  split at h
  · next column type operation value start last includesStart includesLast hfields =>
    have hrange := hj.of_record? hfields
    simp only [List.forall_mem_cons] at hrange
    obtain ⟨_, _, _, hvalue, hstart, hlast, _⟩ := hrange
    simp only [Option.bind_eq_bind, Option.bind_eq_some_iff, Option.pure_def, Option.some.injEq] at h
    obtain ⟨_, _, _, _, _, _, v, hv, s, hs, l, hl, _, _, _, _, rfl⟩ := h
    exact ⟨hoperand hvalue hv, hoperand hstart hs, hoperand hlast hl⟩
  · simp at h

end Condition

end Vacancy
