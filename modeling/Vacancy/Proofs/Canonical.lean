import Mathlib.Data.List.Perm.Basic
import Vacancy.Json.Fields

/-!
Canonical trees. Members of a canonical tree stand in the order of their keys, a canonical tree is
its own canonical form, and a record is read off it as off the members in any other order.
-/

namespace Vacancy.Json

/-! ### Members -/

theorem mem_keys_insertAbsent {k k' : String} {v : Json} {ms : List (String × Json)} :
    k' ∈ (insertAbsent k v ms).map (·.1) ↔ k' = k ∨ k' ∈ ms.map (·.1) := by
  induction ms with
  | nil => simp [insertAbsent]
  | cons m ms ih =>
    unfold insertAbsent
    split
    · simp
    · split
      · next h =>
        subst h
        simp
      · rw [List.map_cons, List.mem_cons, ih, List.map_cons, List.mem_cons]
        tauto

theorem insertAbsent_perm {k : String} {v : Json} {ms : List (String × Json)}
    (h : k ∉ ms.map (·.1)) : (insertAbsent k v ms).Perm ((k, v) :: ms) := by
  induction ms with
  | nil => exact .refl _
  | cons m ms ih =>
    simp only [List.map_cons, List.mem_cons, not_or] at h
    unfold insertAbsent
    rw [if_neg h.1]
    split
    · exact .refl _
    · exact ((ih h.2).cons m).trans (.swap (k, v) m ms)

def Ascending (ms : List (String × Json)) : Prop :=
  ms.Pairwise fun a b => Text.before a.1.toList b.1.toList = true

theorem ascending_insertAbsent {k : String} {v : Json} {ms : List (String × Json)}
    (h : Ascending ms) : Ascending (insertAbsent k v ms) := by
  induction ms with
  | nil => simp [insertAbsent, Ascending]
  | cons m ms ih =>
    have htail : Ascending ms := h.tail
    unfold insertAbsent
    split
    · next hk =>
      refine List.pairwise_cons.2 ⟨?_, h⟩
      intro m' hm'
      rcases List.mem_cons.1 hm' with rfl | hm'
      · exact hk
      · exact Text.before_trans hk ((List.pairwise_cons.1 h).1 m' hm')
    · next hk =>
      split
      · exact h
      · next hne =>
        refine List.pairwise_cons.2 ⟨?_, ih htail⟩
        intro m' hm'
        rcases mem_of_mem_insertAbsent hm' with rfl | hm'
        · rcases Text.before_or_eq_or_before k.toList m.1.toList with hb | he | hb
          · exact absurd hb hk
          · exact absurd (String.toList_inj.1 he) hne
          · exact hb
        · exact (List.pairwise_cons.1 h).1 m' hm'

theorem insertAbsent_eq_cons {k : String} {v : Json} {ms : List (String × Json)}
    (h : Ascending ((k, v) :: ms)) : insertAbsent k v ms = (k, v) :: ms := by
  cases ms with
  | nil => rfl
  | cons m ms =>
    unfold insertAbsent
    rw [if_pos ((List.pairwise_cons.1 h).1 m List.mem_cons_self)]

theorem ascending_canonicalMembers (ms : List (String × Json)) :
    Ascending (canonicalMembers ms) := by
  induction ms with
  | nil => simp [canonicalMembers, Ascending]
  | cons m ms ih => exact ascending_insertAbsent ih

theorem mem_keys_canonicalMembers {k : String} {ms : List (String × Json)} :
    k ∈ (canonicalMembers ms).map (·.1) ↔ k ∈ ms.map (·.1) := by
  induction ms with
  | nil => simp [canonicalMembers]
  | cons m ms ih =>
    rw [canonicalMembers, mem_keys_insertAbsent, ih, List.map_cons, List.mem_cons]

theorem canonicalMembers_perm {ms : List (String × Json)} (h : (ms.map (·.1)).Nodup) :
    (canonicalMembers ms).Perm (ms.map fun m => (m.1, m.2.canonical)) := by
  induction ms with
  | nil => exact .refl _
  | cons m ms ih =>
    rw [List.map_cons, List.nodup_cons] at h
    have hm : m.1 ∉ (canonicalMembers ms).map (·.1) := by
      rw [mem_keys_canonicalMembers]
      exact h.1
    exact (insertAbsent_perm hm).trans ((ih h.2).cons _)

structure Separate (ms : List (String × Json)) : Prop where
  nodup : (ms.map (·.1)).Nodup
  canonical : ∀ m ∈ ms, m.2.canonical = m.2

theorem Separate.perm {ms : List (String × Json)} (h : Separate ms) :
    (canonicalMembers ms).Perm ms := by
  have hself : ms.map (fun m => (m.1, m.2.canonical)) = ms := by
    refine (List.map_congr_left ?_).trans (List.map_id ms)
    intro m hm
    simp [h.canonical m hm]
  exact (canonicalMembers_perm h.nodup).trans (.of_eq hself)

theorem canonicalMembers_eq_self {ms : List (String × Json)} (h : Ascending ms)
    (hms : ∀ m ∈ ms, m.2.canonical = m.2) : canonicalMembers ms = ms := by
  induction ms with
  | nil => rfl
  | cons m ms ih =>
    have hm := hms m List.mem_cons_self
    rw [canonicalMembers, hm, ih h.tail fun m' hm' => hms m' (List.mem_cons_of_mem m hm')]
    exact insertAbsent_eq_cons h

/-! ### Trees -/

mutual

theorem canonical_canonical : ∀ j : Json, j.canonical.canonical = j.canonical
  | .null => rfl
  | .bool _ => rfl
  | .int _ => rfl
  | .real _ => rfl
  | .text _ => rfl
  | .array items => by
    simp only [canonical, canonicalItems_canonicalItems items]
  | .object ms => by
    simp only [canonical]
    rw [canonicalMembers_eq_self (ascending_canonicalMembers ms) (canonical_of_mem ms)]

theorem canonicalItems_canonicalItems :
    ∀ js : List Json, canonicalItems (canonicalItems js) = canonicalItems js
  | [] => rfl
  | j :: js => by
    simp only [canonicalItems, canonical_canonical j, canonicalItems_canonicalItems js]

theorem canonical_of_mem :
    ∀ (ms : List (String × Json)), ∀ m ∈ canonicalMembers ms, m.2.canonical = m.2
  | [] => by simp [canonicalMembers]
  | (k, v) :: ms => by
    intro m hm
    rcases mem_of_mem_insertAbsent hm with rfl | hm
    · exact canonical_canonical v
    · exact canonical_of_mem ms m hm

end

/-! ### Records -/

theorem field?_perm {ms ms' : List (String × Json)} (h : ms.Perm ms') (spellings : List String) :
    field? spellings ms = field? spellings ms' := by
  have hfilter := h.filter fun m => spellings.contains m.1
  unfold field?
  generalize ms.filter (fun m => spellings.contains m.1) = found at hfilter
  generalize ms'.filter (fun m => spellings.contains m.1) = found' at hfilter
  match found, found', hfilter with
  | [], found', hfilter => rw [hfilter.nil_eq]
  | [m], found', hfilter => rw [List.singleton_perm.1 hfilter]
  | _ :: _ :: _, [], hfilter => simp at hfilter
  | _ :: _ :: _, [_], hfilter => simp at hfilter
  | _ :: _ :: _, _ :: _ :: _, _ => rfl

theorem record?_perm {ms ms' : List (String × Json)} (h : ms.Perm ms')
    (fields : List (List String)) : record? fields (.object ms) = record? fields (.object ms') := by
  simp only [record?, field?_perm h]

theorem lookup_of_mem {k : String} {v : Json} {ms : List (String × Json)}
    (hnodup : (ms.map (·.1)).Nodup) (h : (k, v) ∈ ms) : lookup k ms = some v := by
  induction ms with
  | nil => simp at h
  | cons m ms ih =>
    rw [List.map_cons, List.nodup_cons] at hnodup
    unfold lookup
    rw [List.find?_cons]
    rcases List.mem_cons.1 h with rfl | h
    · simp
    · have hne : m.1 ≠ k := by
        rintro rfl
        exact hnodup.1 (List.mem_map.2 ⟨_, h, rfl⟩)
      have hbeq : (m.1 == k) = false := by simpa using hne
      rw [hbeq]
      exact ih hnodup.2 h

/-! ### Numbers -/

/-- Trees whose numbers are such as a text can hold. -/
inductive InRange : Json → Prop where
  | null : InRange .null
  | bool (b : Bool) : InRange (.bool b)
  | int {n : Int} (hlow : Int64.minValue.toInt ≤ n) (hhigh : n < UInt64.size) : InRange (.int n)
  | real {x : Float} (h : x.isFinite = true) : InRange (.real x)
  | text (s : String) : InRange (.text s)
  | array {items : List Json} (h : ∀ j ∈ items, InRange j) : InRange (.array items)
  | object {ms : List (String × Json)} (h : ∀ m ∈ ms, InRange m.2) : InRange (.object ms)

theorem inRange_of_mem_canonicalMembers {ms : List (String × Json)}
    (h : ∀ m ∈ ms, m.2.canonical.InRange) : ∀ m ∈ canonicalMembers ms, m.2.InRange := by
  induction ms with
  | nil => simp [canonicalMembers]
  | cons m ms ih =>
    intro m' hm'
    rcases mem_of_mem_insertAbsent hm' with rfl | hm'
    · exact h m List.mem_cons_self
    · exact ih (fun m hm => h m (List.mem_cons_of_mem _ hm)) m' hm'

theorem InRange.canonical {j : Json} (h : j.InRange) : j.canonical.InRange := by
  induction h with
  | array _ ih =>
    apply InRange.array
    intro j hj
    rw [canonicalItems_eq_map, List.mem_map] at hj
    obtain ⟨j', hj', rfl⟩ := hj
    exact ih j' hj'
  | object _ ih => exact .object (inRange_of_mem_canonicalMembers ih)
  | null => exact .null
  | bool b => exact .bool b
  | int hlow hhigh => exact .int hlow hhigh
  | real h => exact .real h
  | text s => exact .text s

theorem inRange_of_field? {spellings : List String} {ms : List (String × Json)} {f : Option Json}
    (h : ∀ m ∈ ms, m.2.InRange) (hf : field? spellings ms = some f) : ∀ j ∈ f, j.InRange := by
  unfold field? at hf
  split at hf
  · cases hf
    simp
  · next m hm =>
    cases hf
    have hmem : m ∈ ms.filter fun m => spellings.contains m.1 := by
      rw [hm]
      exact List.mem_singleton_self m
    simpa using h m (List.mem_filter.1 hmem).1
  · cases hf

theorem inRange_of_mapM_field? {fields : List (List String)} {ms : List (String × Json)}
    {fs : List (Option Json)} (h : ∀ m ∈ ms, m.2.InRange)
    (hfs : fields.mapM (fun spellings => field? spellings ms) = some fs) :
    ∀ f ∈ fs, ∀ j ∈ f, j.InRange := by
  induction fields generalizing fs with
  | nil =>
    cases hfs
    simp
  | cons spellings fields ih =>
    simp only [List.mapM_cons, Option.bind_eq_bind, Option.bind_eq_some_iff, Option.pure_def,
      Option.some.injEq] at hfs
    obtain ⟨f, hf, fs', hfs', rfl⟩ := hfs
    exact List.forall_mem_cons.2 ⟨inRange_of_field? h hf, ih hfs'⟩

theorem InRange.of_record? {j : Json} (h : j.InRange) {fields : List (List String)}
    {fs : List (Option Json)} (hfs : record? fields j = some fs) :
    ∀ f ∈ fs, ∀ j ∈ f, j.InRange := by
  cases h with
  | object h => exact inRange_of_mapM_field? h hfs
  | array h =>
    simp only [record?, Option.ite_none_right_eq_some, Option.some.injEq] at hfs
    obtain ⟨_, rfl⟩ := hfs
    intro f hf j hj
    rcases List.mem_append.1 hf with hf | hf
    · obtain ⟨j', hj', rfl⟩ := List.mem_map.1 hf
      rw [Option.mem_some_iff] at hj
      exact hj ▸ h j' hj'
    · rw [(List.mem_replicate.1 hf).2] at hj
      simp at hj
  | _ => simp [record?] at hfs

end Vacancy.Json
