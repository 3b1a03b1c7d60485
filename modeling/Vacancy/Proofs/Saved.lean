import Vacancy.Batch
import Vacancy.Proofs.Reading
import Vacancy.Proofs.SavedParameter
import Vacancy.View

/-!
Views and batch requests saved and read again. Whatever was read once is read again as it was, and
so is what is made of parameters whose numbers are finite, whose lists hold plain names and whose
operands are not null.
-/

namespace Vacancy

namespace Parameter

/-- A parameter as a view comes by it: one that a constructor made, or one that was read. -/
inductive IsMade : Parameter → Prop where
  | column (slot : Slot) (name : String) : IsMade (.column slot name)
  | table {names : List String} (h : ∀ name ∈ names, IsListed name) : IsMade (.table names)
  | filter (name : String) {condition : Condition} (h : condition.IsSaved) :
      IsMade (filterNamed name condition)
  | group (name label : String) {condition : Condition} (h : condition.IsSaved) :
      IsMade (groupNamed name label condition)
  | aggregation (a : Aggregation) : IsMade (.aggregation a)
  | year (range : YearRange) : IsMade (.year range)
  | areas (names : List String) : IsMade (.areas names)
  | read {j : Json} {p : Parameter} (hj : j.InRange) (h : ofJson? j = some p) : IsMade p

theorem startsWith_append (stem name : String) : startsWith stem (stem ++ name) = true := by
  simp [startsWith, String.toList_append]

theorem IsMade.isStable {p : Parameter} (h : p.IsMade) : p.IsStable := by
  cases h with
  | column slot name => exact IsKnown.isStable trivial
  | table h => exact IsKnown.isStable h
  | filter name h => exact IsKnown.isStable ⟨startsWith_append filterStem name, h⟩
  | group name label h => exact IsKnown.isStable ⟨startsWith_append groupStem name, h⟩
  | aggregation a => exact IsKnown.isStable trivial
  | year range => exact IsKnown.isStable trivial
  | areas names => exact IsKnown.isStable trivial
  | read hj h => exact isStable_of_ofJson? hj h

end Parameter

theorem Json.optional_int64? (i : Option Int64) :
    Json.optional Json.int64? (i.map fun i => .int i.toInt) = some i :=
  Json.optional_map fun i _ => ⟨by simp [Json.int64?], by simp⟩

theorem Json.int64?_int (n : Int) : Json.int64? (.int n) = Decimal.int64? n :=
  rfl

theorem Json.uint64?_int (n : Int) : Json.uint64? (.int n) = Decimal.uint64? n :=
  rfl

theorem Grain.ofJson?_toJson (g : Grain) : ofJson? g.toJson = some g := by
  simp [ofJson?, toJson, Json.case?]

theorem Style.ofJson?_toJson (s : Style) : ofJson? s.toJson = some s := by
  simp [ofJson?, toJson, Json.case?]

namespace View

theorem record?_toJson (v : View) :
    Json.record? fields v.toJson =
      some [v.id.map fun i => .int i.toInt, some (.int v.run.toInt), some v.style.toJson,
        some v.grain.toJson, some (.text v.title),
        some (.array (v.parameters.map Parameter.toJson))] := by
  simp [Json.record?, fields, toJson]

theorem ofJson?_toJson {v : View} (h : ∀ p ∈ v.parameters, p.IsStable) :
    ofJson? v.toJson = some v := by
  have hparameters : (Json.array (v.parameters.map Parameter.toJson)).list? Parameter.ofJson? =
      some v.parameters :=
    Json.list?_map fun p hp => Parameter.ofJson?_toJson (h p hp)
  simp [ofJson?, record?_toJson, Json.optional_int64?, Json.required, Json.defaulted, Json.int64?,
    Json.text?, Style.ofJson?_toJson, Grain.ofJson?_toJson, hparameters]

theorem isStable_of_ofJson? {j : Json} (hj : j.InRange) {v : View} (h : ofJson? j = some v) :
    ∀ p ∈ v.parameters, p.IsStable := by
  unfold ofJson? at h
  split at h
  · next id run style grain title parameters hfields =>
    have hrange := hj.of_record? hfields
    simp only [Option.bind_eq_bind, Option.bind_eq_some_iff, Option.pure_def,
      Option.some.injEq] at h
    obtain ⟨_, _, _, _, _, _, _, _, _, _, ps, hps, rfl⟩ := h
    intro p hp
    obtain ⟨j', hj', hread⟩ := Json.exists_of_mem_defaulted hps (hrange parameters (by simp)) hp
    exact Parameter.isStable_of_ofJson? hj' hread
  · simp at h

theorem ofJson?_toJson_of_text {s : String} {v : View} (h : read? s = some v) :
    ofJson? v.toJson = some v := by
  obtain ⟨j, hj, hread⟩ := Option.bind_eq_some_iff.1 h
  exact ofJson?_toJson (isStable_of_ofJson? (Json.inRange_of_readPart? hj) hread)

end View

namespace BatchRequest

theorem record?_toJson (r : BatchRequest) :
    Json.record? fields r.toJson =
      some [some (.int r.run.toInt), some r.grain.toJson, r.date.map .text,
        some (.array (r.areas.map .text)), some (.array (r.filters.map Condition.toJson)),
        r.cursor.map fun i => .int i.toInt, some (.int r.size.toNat)] := by
  simp [Json.record?, fields, toJson]

theorem ofJson?_toJson {r : BatchRequest} (h : ∀ c ∈ r.filters, c.IsSaved) :
    ofJson? r.toJson = some r := by
  have hdate : Json.optional Json.text? (r.date.map .text) = some r.date :=
    Json.optional_map fun s _ => ⟨rfl, by simp⟩
  have hareas : (Json.array (r.areas.map .text)).list? Json.text? = some r.areas :=
    Json.list?_map fun _ _ => rfl
  have hfilters : (Json.array (r.filters.map Condition.toJson)).list? Condition.ofJson? =
      some r.filters :=
    Json.list?_map fun c hc => Condition.ofJson?_toMembers (h c hc)
  have hrun : Json.required Json.int64? (some (.int r.run.toInt)) = some r.run := by
    rw [Json.required, Option.bind_some, Json.int64?_int, Decimal.int64?_toInt]
  have hsize : Json.required Json.uint64? (some (.int r.size.toNat)) = some r.size := by
    rw [Json.required, Option.bind_some, Json.uint64?_int, Decimal.uint64?_toNat]
  have hgrain : Json.required Grain.ofJson? (some r.grain.toJson) = some r.grain :=
    r.grain.ofJson?_toJson
  simp [ofJson?, record?_toJson, Json.optional_int64?, Json.defaulted, hrun, hsize, hgrain, hdate,
    hareas, hfilters]

theorem isSaved_of_ofJson? {j : Json} (hj : j.InRange) {r : BatchRequest}
    (h : ofJson? j = some r) : ∀ c ∈ r.filters, c.IsSaved := by
  unfold ofJson? at h
  split at h
  · next run grain date areas filters cursor size hfields =>
    have hrange := hj.of_record? hfields
    simp only [Option.bind_eq_bind, Option.bind_eq_some_iff, Option.pure_def,
      Option.some.injEq] at h
    obtain ⟨_, _, _, _, _, _, _, _, cs, hcs, _, _, _, _, rfl⟩ := h
    intro c hc
    obtain ⟨j', hj', hread⟩ := Json.exists_of_mem_defaulted hcs (hrange filters (by simp)) hc
    exact Condition.isSaved_of_ofJson? hj' hread
  · simp at h

theorem ofJson?_toJson_of_text {s : String} {r : BatchRequest} (h : read? s = some r) :
    ofJson? r.toJson = some r := by
  obtain ⟨j, hj, hread⟩ := Option.bind_eq_some_iff.1 h
  exact ofJson?_toJson (isSaved_of_ofJson? (Json.inRange_of_readPart? hj) hread)

end BatchRequest

/--
Saving loses nothing of what was ever read. A parameter is written under the key and the type that
it was read from, and is read again as it was; and so are views and batch requests.
-/
theorem ofJson?_toJson_of_read :
    (∀ raw : RawParameter, raw.value.InRange →
      (Parameter.ofRaw raw).toRaw.key = raw.key ∧ (Parameter.ofRaw raw).toRaw.type = raw.type ∧
        Parameter.ofRaw (Parameter.ofRaw raw).toRaw = Parameter.ofRaw raw) ∧
    (∀ (j : Json) (v : View), j.InRange → View.ofJson? j = some v →
      View.ofJson? v.toJson = some v) ∧
    (∀ (j : Json) (r : BatchRequest), j.InRange → BatchRequest.ofJson? j = some r →
      BatchRequest.ofJson? r.toJson = some r) ∧
    (∀ (s : String) (v : View), View.read? s = some v → View.ofJson? v.toJson = some v) ∧
    (∀ (s : String) (r : BatchRequest), BatchRequest.read? s = some r →
      BatchRequest.ofJson? r.toJson = some r) ∧
    (∀ v : View, (∀ p ∈ v.parameters, p.IsMade) → View.ofJson? v.toJson = some v) ∧
    ∀ r : BatchRequest, (∀ c ∈ r.filters, c.IsSaved) → BatchRequest.ofJson? r.toJson = some r := by
  refine ⟨?_, ?_, ?_, ?_, ?_, ?_, ?_⟩
  · intro raw hraw
    obtain ⟨hkey, htype⟩ := Parameter.key_and_type_ofRaw hraw
    exact ⟨hkey, htype, Parameter.ofRaw_toRaw_ofRaw hraw⟩
  · intro j v hj hv
    exact View.ofJson?_toJson (View.isStable_of_ofJson? hj hv)
  · intro j r hj hr
    exact BatchRequest.ofJson?_toJson (BatchRequest.isSaved_of_ofJson? hj hr)
  · exact fun _ _ => View.ofJson?_toJson_of_text
  · exact fun _ _ => BatchRequest.ofJson?_toJson_of_text
  · intro v hv
    exact View.ofJson?_toJson fun p hp => (hv p hp).isStable
  · intro r hr
    exact BatchRequest.ofJson?_toJson hr

def lowRanks : RawParameter where
  key := "group_1"
  type := "group"
  value := .object [("label", .text "low"), ("operation", .text "lt"),
    ("referenceColumnType", .text "integer"), ("value", .int 5)]

def lowRanksView : Json :=
  .object [("dataSetResultId", .int 1), ("style", .text "line"), ("unit", .text "building"),
    ("parameters", .array [lowRanks.toJson])]

def northRequest : Json :=
  .object [("dataSetResultId", .int 1), ("unit", .text "area"), ("areas", .array [.text "north"]),
    ("batchSize", .int 20)]

def highRanks : View where
  run := 1
  style := .table
  grain := .building
  parameters := [.table ["name", "rank"],
    .filterNamed "1" ((Condition.compare .integer .gt (.integer 3)).on "rank")]

theorem inRange_lowRanks : lowRanks.value.InRange := by
  apply Json.InRange.object
  simp only [List.forall_mem_cons]
  exact ⟨.text _, .text _, .text _, .int (by decide) (by decide), by simp⟩

theorem inRange_lowRanksView : lowRanksView.InRange := by
  have hraw : lowRanks.toJson.InRange := by
    apply Json.InRange.object
    simp only [List.forall_mem_cons]
    exact ⟨.text _, .text _, inRange_lowRanks, by simp⟩
  apply Json.InRange.object
  simp only [List.forall_mem_cons]
  refine ⟨.int (by decide) (by decide), .text _, .text _, .array ?_, by simp⟩
  simpa using hraw

theorem inRange_northRequest : northRequest.InRange := by
  apply Json.InRange.object
  simp only [List.forall_mem_cons]
  refine ⟨.int (by decide) (by decide), .text _, .array ?_, .int (by decide) (by decide), by simp⟩
  simpa using Json.InRange.text "north"

theorem isMade_of_mem_highRanks : ∀ p ∈ highRanks.parameters, p.IsMade := by
  have hcondition : ((Condition.compare .integer .gt (.integer 3)).on "rank").IsSaved :=
    ⟨by simp [Condition.on, Condition.compare, Value.IsSaved],
      by simp [Condition.on, Condition.compare], by simp [Condition.on, Condition.compare]⟩
  simp only [highRanks, List.forall_mem_cons]
  refine ⟨.table ?_, .filter "1" hcondition, by simp⟩
  simp only [List.forall_mem_cons]
  exact ⟨⟨by decide, by decide, by decide⟩, ⟨by decide, by decide, by decide⟩, by simp⟩

theorem ofJson?_toJson_ranks :
    ((Parameter.ofRaw lowRanks).toRaw.type = "group" ∧
      Parameter.ofRaw (Parameter.ofRaw lowRanks).toRaw = Parameter.ofRaw lowRanks) ∧
    (∃ v, View.ofJson? lowRanksView = some v ∧ View.ofJson? v.toJson = some v) ∧
    (∃ r, BatchRequest.ofJson? northRequest = some r ∧ BatchRequest.ofJson? r.toJson = some r) ∧
    View.ofJson? highRanks.toJson = some highRanks ∧
    BatchRequest.ofJson? (BatchRequest.mk 1 .area none [] [] none 20).toJson =
      some (BatchRequest.mk 1 .area none [] [] none 20) := by
  obtain ⟨hraw, hview, hrequest, _, _, hmade, hsaved⟩ := ofJson?_toJson_of_read
  refine ⟨?_, ?_, ?_, ?_, ?_⟩
  · exact (hraw lowRanks inRange_lowRanks).2
  · have hread : (View.ofJson? lowRanksView).isSome = true := by decide +kernel
    obtain ⟨v, hv⟩ := Option.isSome_iff_exists.1 hread
    exact ⟨v, hv, hview lowRanksView v inRange_lowRanksView hv⟩
  · have hread : (BatchRequest.ofJson? northRequest).isSome = true := by decide +kernel
    obtain ⟨r, hr⟩ := Option.isSome_iff_exists.1 hread
    exact ⟨r, hr, hrequest northRequest r inRange_northRequest hr⟩
  · exact hmade highRanks isMade_of_mem_highRanks
  · exact hsaved _ (by simp)

end Vacancy
