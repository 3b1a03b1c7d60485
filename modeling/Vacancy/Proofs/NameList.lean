import Mathlib.Data.List.DropRight
import Vacancy.Parameter

/-!
Lists of names as one text. Names that are not empty, have no blanks at their ends and no commas are
read back from the text that joins them, and it is such names that are ever read.
-/

namespace Vacancy

namespace Text

theorem trimStart_trimStart (cs : List Char) : trimStart (trimStart cs) = trimStart cs :=
  List.dropWhile_idempotent isBlank cs

theorem trimEnd_trimEnd (cs : List Char) : trimEnd (trimEnd cs) = trimEnd cs :=
  List.rdropWhile_idempotent isBlank cs

theorem trimEnd_prefix_self (cs : List Char) : (trimEnd cs).IsPrefix cs :=
  List.rdropWhile_prefix isBlank cs

theorem trimStart_trimEnd_trimStart (cs : List Char) :
    trimStart (trimEnd (trimStart cs)) = trimEnd (trimStart cs) := by
  have hprefix := trimEnd_prefix_self (trimStart cs)
  have hstart := trimStart_trimStart cs
  generalize trimStart cs = ds at *
  cases htrimmed : trimEnd ds with
  | nil => rfl
  | cons c es =>
    rw [htrimmed] at hprefix
    obtain ⟨fs, rfl⟩ := hprefix
    apply trimStart_of_head
    -- a blank at the front would have been dropped
    by_contra hblank
    rw [Bool.not_eq_false] at hblank
    have hdropped : trimStart (c :: es ++ fs) = trimStart (es ++ fs) := by
      simp [trimStart, hblank]
    have hshort := (List.dropWhile_sublist isBlank (l := es ++ fs)).length_le
    have hlength := congrArg List.length (hdropped.symm.trans hstart)
    simp only [trimStart, List.length_append, List.length_cons] at hshort hlength
    omega

theorem trim_trim (s : String) : trim (trim s) = trim s := by
  simp only [trim, String.toList_ofList, trimStart_trimEnd_trimStart, trimEnd_trimEnd]

theorem mem_of_mem_trim {c : Char} {s : String} (h : c ∈ (trim s).toList) : c ∈ s.toList := by
  simp only [trim, String.toList_ofList] at h
  exact (List.dropWhile_sublist isBlank).mem ((trimEnd_prefix_self _).sublist.mem h)

end Text

namespace Parameter

/-- A name that may stand in a list. -/
structure IsListed (name : String) : Prop where
  ne : name ≠ ""
  trimmed : Text.trim name = name
  commas : ',' ∉ name.toList

theorem splitCommas_ne_nil (cs : List Char) : splitCommas cs ≠ [] := by
  fun_induction splitCommas cs <;> simp

theorem splitCommas_of_not_mem {cs : List Char} (h : ',' ∉ cs) : splitCommas cs = [cs] := by
  induction cs with
  | nil => rfl
  | cons c cs ih =>
    rw [List.mem_cons, not_or] at h
    rw [splitCommas, if_neg (Ne.symm h.1), ih h.2]

theorem splitCommas_append {cs ds : List Char} (h : ',' ∉ cs) :
    splitCommas (cs ++ ',' :: ds) = cs :: splitCommas ds := by
  induction cs with
  | nil => simp [splitCommas]
  | cons c cs ih =>
    rw [List.mem_cons, not_or] at h
    rw [List.cons_append, splitCommas, if_neg (Ne.symm h.1), ih h.2]

theorem commas_of_mem_splitCommas {cs w : List Char} (h : w ∈ splitCommas cs) : ',' ∉ w := by
  induction cs generalizing w with
  | nil =>
    rw [splitCommas, List.mem_singleton] at h
    simp [h]
  | cons c cs ih =>
    unfold splitCommas at h
    split at h
    · rcases List.mem_cons.1 h with rfl | h
      · simp
      · exact ih h
    · next hc =>
      split at h
      · next hnil => exact absurd hnil (splitCommas_ne_nil cs)
      · next w' ws hws =>
        rcases List.mem_cons.1 h with rfl | h
        · have hw' : ',' ∉ w' := ih (hws ▸ List.mem_cons_self)
          simp [Ne.symm hc, hw']
        · exact ih (hws ▸ List.mem_cons_of_mem _ h)

theorem isListed_of_mem_namesOfList {list name : String} (h : name ∈ namesOfList list) :
    IsListed name := by
  simp only [namesOfList, List.mem_filter, List.mem_map, decide_eq_true_eq] at h
  obtain ⟨⟨w, hw, rfl⟩, hne⟩ := h
  constructor
  case ne => exact hne
  case trimmed => exact Text.trim_trim _
  case commas =>
    intro hmem
    have := Text.mem_of_mem_trim hmem
    rw [String.toList_ofList] at this
    exact commas_of_mem_splitCommas hw this

theorem splitCommas_intercalate {names : List String} (h : ∀ name ∈ names, IsListed name)
    (hne : names ≠ []) :
    splitCommas (",".intercalate names).toList = names.map String.toList := by
  induction names with
  | nil => exact absurd rfl hne
  | cons name names ih =>
    have hname := (h name List.mem_cons_self).commas
    cases names with
    | nil => simpa using splitCommas_of_not_mem hname
    | cons name' names =>
      have htail := ih (fun n hn => h n (List.mem_cons_of_mem _ hn)) (by simp)
      have hcomma : ",".toList = [','] := rfl
      rw [String.intercalate_cons_cons, String.toList_append, String.toList_append, hcomma,
        List.append_assoc, List.singleton_append, splitCommas_append hname, htail]
      rfl

theorem namesOfList_intercalate {names : List String} (h : ∀ name ∈ names, IsListed name) :
    namesOfList (",".intercalate names) = names := by
  cases names with
  | nil => rfl
  | cons name names =>
    unfold namesOfList
    rw [splitCommas_intercalate h (by simp), List.map_map]
    have htrimmed : ∀ n ∈ name :: names,
        ((fun w => Text.trim (String.ofList w)) ∘ String.toList) n = n := by
      intro n hn
      simpa using (h n hn).trimmed
    rw [List.map_congr_left htrimmed, List.map_id']
    rw [List.filter_eq_self]
    intro n hn
    simpa using (h n hn).ne

end Parameter

end Vacancy
