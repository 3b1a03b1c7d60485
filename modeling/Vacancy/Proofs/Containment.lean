import Vacancy.Proofs.Admission
import Vacancy.Proofs.RuleAsFilter

/-!
Filters that look for a text within the texts of a column. A text between two percent signs is a
single stretch with any text around it, so that a row is admitted if the stretch is found, letters
in either case. What follows a zero byte is not seen: neither in the cell nor in the pattern, whose
second percent sign is lost then, so that the rest has to stand at the end. The two code points that
are no characters are seen as the replacement character, here and there.
-/

namespace Vacancy

open Sql

namespace Sql

def folded (s : List Char) : List Char :=
  s.map Char.toLower

/-- A text is within another one, up to the case of ASCII letters, as far as they are seen. -/
def IsWithin (v s : String) : Prop :=
  if '\x00' ∈ v.toList then folded (seen v) <:+ folded (seen s)
  else folded (seen v) <:+: folded (seen s)

instance (v s : String) : Decidable (IsWithin v s) :=
  inferInstanceAs (Decidable (if '\x00' ∈ v.toList then
    folded (seen v) <:+ folded (seen s) else folded (seen v) <:+: folded (seen s)))

@[simp] theorem folded_nil : folded [] = [] :=
  rfl

@[simp] theorem folded_cons (c : Char) (cs : List Char) :
    folded (c :: cs) = c.toLower :: folded cs :=
  rfl

@[simp] theorem length_folded (s : List Char) : (folded s).length = s.length :=
  List.length_map ..

theorem folded_drop (n : Nat) (s : List Char) : folded (s.drop n) = (folded s).drop n :=
  List.map_drop ..

/-! ### Stretches -/

namespace Stretch

def letters (v : List Char) : Stretch :=
  v.map Pattern.sameLetter

@[simp] theorem length_letters (v : List Char) : (letters v).length = v.length :=
  List.length_map ..

theorem after?_letters_cons (c d : Char) (cs ds : List Char) :
    (letters (c :: cs)).after? (d :: ds) =
      if c.toLower = d.toLower then (letters cs).after? ds else none := by
  simp [letters, after?, Pattern.sameLetter]

theorem isSome_after?_letters (v s : List Char) :
    ((letters v).after? s).isSome = true ↔ folded v <+: folded s := by
  induction v generalizing s with
  | nil => simp [letters, after?]
  | cons c cs ih =>
    cases s with
    | nil => simp [letters, after?]
    | cons d ds =>
      rw [after?_letters_cons, folded_cons, folded_cons, List.cons_prefix_cons]
      split
      · next h => simp [h, ih]
      · next h => simp [h]

theorem isAll_letters (v s : List Char) : (letters v).isAll s = true ↔ folded v = folded s := by
  induction v generalizing s with
  | nil => cases s <;> simp [letters, isAll, after?]
  | cons c cs ih =>
    cases s with
    | nil => simp [letters, isAll, after?]
    | cons d ds =>
      rw [isAll, after?_letters_cons, folded_cons, folded_cons, List.cons_eq_cons, ← ih]
      by_cases h : c.toLower = d.toLower
      · simp [h, isAll]
      · simp [h]

theorem isSome_find?_letters (v s : List Char) :
    ((letters v).find? s).isSome = true ↔ folded v <:+: folded s := by
  induction s with
  | nil => rw [find?, isSome_after?_letters, folded_nil, List.prefix_nil, List.infix_nil]
  | cons c cs ih =>
    have hprefix := isSome_after?_letters v (c :: cs)
    rw [folded_cons] at hprefix ⊢
    rw [List.infix_cons_iff, ← hprefix, ← ih, find?]
    cases (letters v).after? (c :: cs) <;> simp

theorem isEnd_letters (v s : List Char) :
    (letters v).isEnd s = true ↔ folded v <:+ folded s := by
  rw [isEnd, Bool.and_eq_true, decide_eq_true_iff, isAll_letters, folded_drop, length_letters,
    List.suffix_iff_eq_drop, length_folded, length_folded]
  constructor
  · exact fun h => h.2
  · intro h
    have hlength := congrArg List.length h
    rw [List.length_drop, length_folded, length_folded] at hlength
    exact ⟨by omega, h⟩

end Stretch

/-! ### Patterns -/

namespace Pattern

theorem ofLike_nil (escape : Option Char) : ofLike escape [] = ⟨[], []⟩ :=
  rfl

theorem ofLike_none_cons (c : Char) (cs : List Char) :
    ofLike none (c :: cs) =
      if c = '%' then (ofLike none cs).gap
      else if c = '_' then (ofLike none cs).test fun _ => true
      else (ofLike none cs).test (sameLetter c) := by
  cases cs <;> rfl

/-- A text without wildcards in front of a pattern. -/
theorem ofLike_append {v : List Char} (hpercent : '%' ∉ v) (hunderscore : '_' ∉ v)
    (rest : List Char) :
    ofLike none (v ++ rest) =
      ⟨Stretch.letters v ++ (ofLike none rest).first, (ofLike none rest).others⟩ := by
  induction v with
  | nil => rfl
  | cons c cs ih =>
    rw [List.mem_cons, not_or] at hpercent hunderscore
    rw [List.cons_append, ofLike_none_cons, if_neg (Ne.symm hpercent.1),
      if_neg (Ne.symm hunderscore.1), ih hpercent.2 hunderscore.2]
    rfl

variable {v : List Char} (hpercent : '%' ∉ v) (hunderscore : '_' ∉ v)
include hpercent hunderscore

theorem holds_ofLike_between (s : List Char) :
    (ofLike none ('%' :: (v ++ ['%']))).holds s = true ↔ folded v <:+: folded s := by
  have hpattern : ofLike none ('%' :: (v ++ ['%'])) = ⟨[], [Stretch.letters v, []]⟩ := by
    rw [ofLike_none_cons, if_pos rfl, ofLike_append hpercent hunderscore, ofLike_none_cons,
      if_pos rfl]
    simp [ofLike_nil, gap]
  rw [hpattern, ← Stretch.isSome_find?_letters]
  simp only [holds, Stretch.after?, anywhere]
  cases (Stretch.letters v).find? s with
  | none => simp
  | some rest => simp [Stretch.isEnd, Stretch.isAll, Stretch.after?]

theorem holds_ofLike_after (s : List Char) :
    (ofLike none ('%' :: v)).holds s = true ↔ folded v <:+ folded s := by
  have hpattern : ofLike none ('%' :: v) = ⟨[], [Stretch.letters v]⟩ := by
    have hall := ofLike_append hpercent hunderscore []
    rw [List.append_nil] at hall
    rw [ofLike_none_cons, if_pos rfl, hall]
    simp [ofLike_nil, gap]
  rw [hpattern, ← Stretch.isEnd_letters]
  simp [holds, Stretch.after?, anywhere]

end Pattern

/-! ### What is seen of a text -/

theorem eq_of_seenAs {c d : Char} (h : seenAs c = d) (hd : d ≠ '\ufffd') : c = d := by
  unfold seenAs at h
  split at h
  · exact absurd h.symm hd
  · exact h

theorem notMem_seen {v : String} {c : Char} (hc : c ≠ '\ufffd') (h : c ∉ v.toList) :
    c ∉ seen v := by
  intro hmem
  obtain ⟨d, hd, hseen⟩ := List.mem_map.1 hmem
  rw [eq_of_seenAs hseen hc] at hd
  exact h ((List.takeWhile_sublist _).subset hd)

theorem zero_notMem_untilZero (v : String) : '\x00' ∉ untilZero v := by
  intro h
  simpa using List.mem_takeWhile_imp h

theorem untilZero_of_notMem {v : String} (h : '\x00' ∉ v.toList) : untilZero v = v.toList := by
  rw [untilZero, List.takeWhile_eq_self_iff]
  intro c hc
  have hne : c ≠ '\x00' := fun hzero => h (hzero ▸ hc)
  simpa using hne

theorem untilZero_between (v : String) :
    untilZero ("%" ++ v ++ "%") =
      '%' :: if '\x00' ∈ v.toList then untilZero v else untilZero v ++ ['%'] := by
  have htoList : ("%" ++ v ++ "%").toList = '%' :: (v.toList ++ ['%']) := by simp
  rw [untilZero, htoList, List.takeWhile_cons_of_pos (by decide), List.takeWhile_append,
    ← untilZero]
  split
  · next hlength =>
    have hall : untilZero v = v.toList := (List.takeWhile_prefix _).eq_of_length hlength
    rw [if_neg (hall ▸ zero_notMem_untilZero v), hall]
    rfl
  · next hlength =>
    rw [if_pos]
    by_contra hnone
    exact hlength (congrArg List.length (untilZero_of_notMem hnone))

theorem seen_between (v : String) :
    seen ("%" ++ v ++ "%") = '%' :: if '\x00' ∈ v.toList then seen v else seen v ++ ['%'] := by
  have hpercent : seenAs '%' = '%' := rfl
  rw [seen, untilZero_between, List.map_cons, hpercent]
  split
  · rfl
  · rw [List.map_append, List.map_singleton, hpercent, ← seen]

theorem like_between {v : String} (hpercent : '%' ∉ v.toList) (hunderscore : '_' ∉ v.toList)
    (s : String) :
    Sql.like (.text s) (.text ("%" ++ v ++ "%")) = some (decide (IsWithin v s)) := by
  have hlike : Sql.like (.text s) (.text ("%" ++ v ++ "%")) =
      some ((Pattern.ofLike none (seen ("%" ++ v ++ "%"))).holds (seen s)) := rfl
  have hpercent' := notMem_seen (by decide) hpercent
  have hunderscore' := notMem_seen (by decide) hunderscore
  rw [hlike, Option.some_inj, Bool.eq_iff_iff, decide_eq_true_iff, seen_between, IsWithin]
  split
  · exact Pattern.holds_ofLike_after hpercent' hunderscore' _
  · exact Pattern.holds_ofLike_between hpercent' hunderscore' _

theorem isWithin_empty (s : String) : IsWithin "" s :=
  List.nil_infix

/-- A text of characters alone is seen as it is. -/
def IsLegible (s : String) : Prop :=
  ∀ c ∈ ['\x00', '\ufffe', '\uffff'], c ∉ s.toList

instance (s : String) : Decidable (IsLegible s) :=
  List.decidableBAll (· ∉ s.toList) _

theorem IsLegible.seen_eq {s : String} (h : IsLegible s) : seen s = s.toList := by
  simp only [IsLegible, List.forall_mem_cons] at h
  obtain ⟨hzero, hfffe, hffff, _⟩ := h
  rw [seen, untilZero_of_notMem hzero, List.map_congr_left (g := id), List.map_id]
  intro c hc
  have hother : ¬(c = '\ufffe' ∨ c = '\uffff') := by
    rintro (rfl | rfl)
    · exact hfffe hc
    · exact hffff hc
  exact if_neg hother

theorem IsLegible.isWithin_iff {v s : String} (hv : IsLegible v) (hs : IsLegible s) :
    IsWithin v s ↔ folded v.toList <:+: folded s.toList := by
  rw [IsWithin, if_neg (hv _ List.mem_cons_self), hv.seen_eq, hs.seen_eq]

end Sql

/-! ### Columns of texts -/

theorem Grain.affinity?_of_text {g : Grain} {x : Column} (hx : x ∈ g.columns)
    (htype : x.type = .text) : g.schema.affinity? x.name = some .text := by
  have hall : ∀ x ∈ g.columns, x.type = .text → g.schema.affinity? x.name = some .text := by
    cases g <;> decide +kernel
  exact hall x hx htype

/-! ### Filters -/

namespace Condition

variable {c : Condition} {g : Grain} {r : Row} {name v : String}

theorem admits_iff_like (negated : Bool) (hname : g.has name = true)
    (hcolumn : c.column = some name) (ht : c.type = .text) (hvalue : c.value = some (.text v))
    (ho : c.operation = if negated then .notContains else .contains)
    (hsize : v.utf8ByteSize + 2 ≤ Pattern.sizeLimit) :
    c.Admits g r ↔ Sql.like (r.cell name) (.text ("%" ++ v ++ "%")) = some (!negated) := by
  have hcompile : c.compile name = .ok (.like name ("%" ++ v ++ "%") negated) := by
    rw [← compileContains_of_toText? hvalue rfl]
    cases negated with
    | false => exact compile_of_contains ht ho
    | true => exact compile_of_notContains ht ho
  have hpredicate : c.filterPredicate g = .ok (.like name ("%" ++ v ++ "%") negated) := by
    rw [filterPredicate_of_has hcolumn hname, rescaled_of_not_isFloat (by rw [ht]; rfl), hcompile]
  rw [admits_iff_isMet hpredicate, Predicate.toExpr, Expr.isMet_like, Pattern.utf8ByteSize_between]
  simp [hsize]

/--
A filter looks for a text without wildcards within the texts of a column: one that asks for the text
admits the rows whose text has it within, up to the case of ASCII letters, and one that asks for
its absence those whose text does not. Both go by what is seen of the two texts, which is all of
them if they are legible, and neither admits a row without a text.
-/
theorem contains_iff_isWithin {g : Grain} {x : Column} (hx : x ∈ g.columns) (htype : x.type = .text)
    {v : String} (hpercent : '%' ∉ v.toList) (hunderscore : '_' ∉ v.toList)
    (hsize : v.utf8ByteSize + 2 ≤ Pattern.sizeLimit) {c : Condition}
    (hcolumn : c.column = some x.name) (ht : c.type = .text) (hvalue : c.value = some (.text v))
    (t : Table g) {r : Row} (hr : r ∈ t.rows) :
    (c.operation = .contains →
      (c.Admits g r ↔ ∃ s, r.cell x.name = .text s ∧ IsWithin v s) ∧
        (v = "" → (c.Admits g r ↔ r.cell x.name ≠ .null))) ∧
    (c.operation = .notContains →
      (c.Admits g r ↔ r.cell x.name ≠ .null ∧ ∀ s, r.cell x.name = .text s → ¬IsWithin v s)) ∧
    ∀ s, IsLegible v → IsLegible s → (IsWithin v s ↔ folded v.toList <:+: folded s.toList) := by
  have hname : g.has x.name = true := by simp [Grain.has, Grain.column?_name hx]
  have hlike := like_between hpercent hunderscore
  refine ⟨?_, ?_, ?_⟩
  · intro ho
    rw [admits_iff_like false hname hcolumn ht hvalue ho hsize]
    rcases (t.holds r hr).cell_of_text (Grain.affinity?_of_text hx htype) with hcell | ⟨s, hcell⟩
    · simp [hcell, like_null]
    · rw [hcell, hlike]
      constructor
      · simp
      · rintro rfl
        simp [isWithin_empty]
  · intro ho
    rw [admits_iff_like true hname hcolumn ht hvalue ho hsize]
    rcases (t.holds r hr).cell_of_text (Grain.affinity?_of_text hx htype) with hcell | ⟨s, hcell⟩
    · simp [hcell, like_null]
    · rw [hcell, hlike]
      simp
  · intro s hv hs
    exact hv.isWithin_iff hs

end Condition

def namedRow (name : String) : Row :=
  Table.kept .area (Table.valueFor ⟨[(runColumn, .integer 1), (areaColumn, .text name)]⟩ 1)

theorem holds_namedRow (name : String) : Table.Holds .area (namedRow name) :=
  Table.holds_kept rfl

def namedTable (name : String) : Table .area :=
  Table.empty.add (namedRow name) (holds_namedRow name)

theorem mem_rows_namedTable (name : String) : namedRow name ∈ (namedTable name).rows := by
  simp [namedTable, Table.add]

namespace Condition

def named (v : String) : Condition :=
  (compare .text .contains (.text v)).on areaColumn

theorem contains_iff_isWithin_north :
    let x : Column := ⟨"area_group", "地域名称", .text, ""⟩
    x ∈ Grain.area.columns ∧ x.type = .text ∧ '%' ∉ "oRt".toList ∧ '_' ∉ "oRt".toList ∧
      "oRt".utf8ByteSize + 2 ≤ Pattern.sizeLimit ∧ (named "oRt").column = some x.name ∧
      namedRow "North" ∈ (namedTable "North").rows ∧ IsLegible "oRt" ∧ IsLegible "North" ∧
      (named "oRt").Admits .area (namedRow "North") := by
  intro x
  have hx : x ∈ Grain.area.columns := by simp [x, Grain.columns, areaColumns]
  obtain ⟨hcontains, _, hlegible⟩ := contains_iff_isWithin (v := "oRt") (c := named "oRt") hx rfl
    (by decide) (by decide) (by decide) rfl rfl rfl (namedTable "North")
    (mem_rows_namedTable "North")
  obtain ⟨hiff, _⟩ := hcontains rfl
  have hv : IsLegible "oRt" := by decide +kernel
  have hs : IsLegible "North" := by decide +kernel
  have hwithin : IsWithin "oRt" "North" := (hlegible "North" hv hs).2 (by decide)
  exact ⟨hx, rfl, by decide, by decide, by decide, rfl, mem_rows_namedTable "North", hv, hs,
    hiff.2 ⟨_, rfl, hwithin⟩⟩

theorem admits_named {v name : String} (hsize : v.utf8ByteSize + 2 ≤ Pattern.sizeLimit) :
    (named v).Admits .area (namedRow name) ↔
      Sql.like (.text name) (.text ("%" ++ v ++ "%")) = some true := by
  have hname : Grain.area.has areaColumn = true := rfl
  exact admits_iff_like false hname rfl rfl rfl rfl hsize

/-- A text beyond a zero byte is not found, and one that is no character is found in another. -/
theorem not_admits_zeroByte_admits_noncharacter :
    (∃ x ∈ Grain.area.columns, x.name = areaColumn ∧ x.type = .text) ∧
      (∀ v ∈ ["b", "\ufffe"], '%' ∉ v.toList ∧ '_' ∉ v.toList) ∧
      (∀ name ∈ ["a\x00b", "\ufffd"], namedRow name ∈ (namedTable name).rows ∧
        (namedRow name).cell areaColumn = .text name) ∧
      (folded "b".toList <:+: folded "a\x00b".toList ∧
        ¬(named "b").Admits .area (namedRow "a\x00b")) ∧
      ¬folded "\ufffe".toList <:+: folded "\ufffd".toList ∧
        (named "\ufffe").Admits .area (namedRow "\ufffd") := by
  refine ⟨?_, by decide, ?_, ⟨by decide, ?_⟩, by decide, ?_⟩
  · exact ⟨⟨"area_group", "地域名称", .text, ""⟩, by simp [Grain.columns, areaColumns], rfl, rfl⟩
  · intro name _
    exact ⟨mem_rows_namedTable name, rfl⟩
  · rw [admits_named (by decide)]
    decide +kernel
  · rw [admits_named (by decide)]
    decide +kernel

end Condition

end Vacancy
