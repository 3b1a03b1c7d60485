import Mathlib.Data.List.Nodup
import Mathlib.Data.Set.List
import Vacancy.Proofs.Aggregates

/-!
Groups of rows. There is one group for each combination of values that occurs, it has just the rows
with these values, and the row that its columns are read from is one of them.
-/

namespace Vacancy.Sql

section

variable [DecidableEq κ] {key : α → κ}

theorem mem_map_firsts {as : List α} {k : κ} :
    k ∈ (firsts key as).map key ↔ ∃ a ∈ as, key a = k := by
  induction as with
  | nil => simp [firsts]
  | cons a as ih =>
    simp only [List.mem_map] at ih
    simp only [firsts, List.map_cons, List.mem_cons, List.mem_map, List.mem_filter,
      decide_eq_true_eq, exists_eq_or_imp]
    constructor
    · rintro (rfl | ⟨b, ⟨hb, _⟩, hk⟩)
      · left
        rfl
      · right
        rw [← ih]
        exact ⟨b, hb, hk⟩
    · rintro (hk | hk)
      · left
        exact hk.symm
      · by_cases ha : k = key a
        · left
          exact ha
        · right
          obtain ⟨b, hb, hk⟩ := ih.2 hk
          refine ⟨b, ⟨hb, ?_⟩, hk⟩
          rw [hk]
          exact ha

theorem nodup_map_firsts (key : α → κ) (as : List α) : ((firsts key as).map key).Nodup := by
  induction as with
  | nil => exact List.nodup_nil
  | cons a as ih =>
    simp only [firsts, List.map_cons, List.nodup_cons]
    constructor
    · simp
    · apply List.Nodup.sublist _ ih
      apply List.Sublist.map
      apply List.filter_sublist

end

def Direction.before : Direction → SortKey → SortKey → Bool
  | .ascending, a, b => a.lt b
  | .descending, a, b => b.lt a

theorem Direction.before_or_eq_or_before (d : Direction) (a b : SortKey) :
    d.before a b = true ∨ a = b ∨ d.before b a = true := by
  cases d with
  | ascending => exact SortKey.lt_or_eq_or_lt a b
  | descending =>
    rcases SortKey.lt_or_eq_or_lt b a with h | h | h
    · exact .inl h
    · exact .inr (.inl h.symm)
    · exact .inr (.inr h)

theorem Direction.before_trans {d : Direction} {a b c : SortKey} (hab : d.before a b = true)
    (hbc : d.before b c = true) : d.before a c = true := by
  cases d with
  | ascending => exact SortKey.lt_trans hab hbc
  | descending => exact SortKey.lt_trans hbc hab

theorem Direction.before_irrefl (d : Direction) (a : SortKey) : d.before a a = false := by
  cases d <;> exact SortKey.lt_irrefl a

theorem inOrder_cons_iff {d : Direction} {ds : List Direction} {a b : SortKey}
    {as bs : List SortKey} :
    inOrder (d :: ds) (a :: as) (b :: bs) = true ↔
      d.before a b = true ∨ a = b ∧ inOrder ds as bs = true := by
  have heq : inOrder (d :: ds) (a :: as) (b :: bs) =
      if d.before a b then true else if d.before b a then false else inOrder ds as bs := by
    cases d <;> rfl
  rw [heq]
  rcases d.before_or_eq_or_before a b with h | rfl | h
  · simp [h]
  · simp [d.before_irrefl]
  · have hne : a ≠ b := by
      rintro rfl
      simp [d.before_irrefl] at h
    have hab : d.before a b = false := by
      rw [← Bool.not_eq_true]
      intro hab
      have := Direction.before_trans hab h
      simp [d.before_irrefl] at this
    simp [h, hab, hne]

theorem inOrder_trans {ds : List Direction} {as bs cs : List SortKey}
    (has : as.length = ds.length) (hbs : bs.length = ds.length) (hcs : cs.length = ds.length)
    (hab : inOrder ds as bs = true) (hbc : inOrder ds bs cs = true) :
    inOrder ds as cs = true := by
  induction ds generalizing as bs cs with
  | nil => simp [inOrder]
  | cons d ds ih =>
    obtain ⟨a, as, rfl⟩ := List.exists_cons_of_length_eq_add_one has
    obtain ⟨b, bs, rfl⟩ := List.exists_cons_of_length_eq_add_one hbs
    obtain ⟨c, cs, rfl⟩ := List.exists_cons_of_length_eq_add_one hcs
    rw [inOrder_cons_iff] at hab hbc ⊢
    rcases hab with hab | ⟨rfl, hab⟩
    · rcases hbc with hbc | ⟨rfl, _⟩
      · exact .inl (Direction.before_trans hab hbc)
      · exact .inl hab
    · rcases hbc with hbc | ⟨rfl, hbc⟩
      · exact .inl hbc
      · refine .inr ⟨rfl, ih ?_ ?_ ?_ hab hbc⟩
        · simpa using has
        · simpa using hbs
        · simpa using hcs

theorem inOrder_total (ds : List Direction) (as bs : List SortKey) :
    (inOrder ds as bs || inOrder ds bs as) = true := by
  induction ds generalizing as bs with
  | nil => simp [inOrder]
  | cons d ds ih =>
    cases as with
    | nil => simp [inOrder]
    | cons a as =>
      cases bs with
      | nil => simp [inOrder]
      | cons b bs =>
        have := ih as bs
        rw [Bool.or_eq_true] at this ⊢
        rw [inOrder_cons_iff, inOrder_cons_iff]
        rcases d.before_or_eq_or_before a b with h | rfl | h
        · exact .inl (.inl h)
        · exact this.imp (fun h => .inr ⟨rfl, h⟩) (fun h => .inr ⟨rfl, h⟩)
        · exact .inr (.inl h)

namespace Select

theorem groupsBy_eq (fs : Fields) (es : List Expr) (rows : List Row) :
    ∃ keys : List (List SortKey), keys.Nodup ∧
      (∀ k, k ∈ keys ↔ ∃ r ∈ rows, keysOf fs es r = k) ∧
      groupsBy fs es rows = keys.map fun k => rows.filter (keysOf fs es · = k) := by
  refine ⟨_, ?_, ?_, rfl⟩
  · rw [(List.mergeSort_perm _ _).nodup_iff]
    apply nodup_map_firsts
  · intro k
    rw [(List.mergeSort_perm _ _).mem_iff]
    apply mem_map_firsts

/-- Groups by one expression that is a text on all rows: one for each text. -/
theorem groupsBy_label {fs : Fields} {e : Expr} {f : α → Row} {label : α → String} {as : List α}
    (h : ∀ a ∈ as, e.eval fs (.single (f a)) = .text (label a)) :
    ∃ labels : List String, labels.Nodup ∧ (∀ l, l ∈ labels ↔ ∃ a ∈ as, label a = l) ∧
      groupsBy fs [e] (as.map f) = labels.map fun l => (as.filter (label · = l)).map f := by
  have hkey : ∀ a ∈ as, keysOf fs [e] (f a) = [.text (label a)] := by
    intro a ha
    simp [keysOf, h a ha, SortKey.ofValue]
  obtain ⟨keys, hnodup, hmem, heq⟩ := groupsBy_eq fs [e] (as.map f)
  -- each key is that of a text
  have hkeys : keys ∈ Set.range (List.map fun l : String => [SortKey.text l]) := by
    rw [Set.range_list_map]
    intro k hk
    obtain ⟨r, hr, rfl⟩ := (hmem k).1 hk
    obtain ⟨a, ha, rfl⟩ := List.mem_map.1 hr
    exact ⟨label a, (hkey a ha).symm⟩
  obtain ⟨labels, rfl⟩ := hkeys
  refine ⟨labels, List.Nodup.of_map _ hnodup, ?_, ?_⟩
  · intro l
    have hl := hmem [.text l]
    simp only [List.mem_map, List.cons.injEq, SortKey.text.injEq, and_true, exists_eq_right,
      exists_exists_and_eq_and] at hl
    rw [hl]
    apply exists_congr
    intro a
    apply and_congr_right
    intro ha
    simp [hkey a ha]
  · rw [heq, List.map_map]
    apply List.map_congr_left
    intro l _
    rw [Function.comp_apply, List.filter_map]
    congr 1
    apply List.filter_congr
    intro a ha
    simp [hkey a ha]

theorem foldl_mem {step : Value × Row → Row → Value × Row}
    (h : ∀ best r, step best r = best ∨ (step best r).2 = r) (best : Value × Row)
    (rows : List Row) : rows.foldl step best = best ∨ (rows.foldl step best).2 ∈ rows := by
  -- the row of the best value so far is one of those seen, or the one of the start
  induction rows generalizing best with
  | nil =>
    left
    rfl
  | cons r rows ih =>
    rw [List.foldl_cons]
    rcases ih (step best r) with hrest | hrest
    · rw [hrest]
      rcases h best r with hstep | hstep
      · left
        exact hstep
      · right
        rw [hstep]
        apply List.mem_cons_self
    · right
      apply List.mem_cons_of_mem
      exact hrest

theorem foldl_mem_of_first {step : Value × Row → Row → Value × Row} {best : Value × Row}
    (h : ∀ best r, step best r = best ∨ (step best r).2 = r) (hfirst : ∀ r, (step best r).2 = r)
    {rows : List Row} (hne : rows ≠ []) : (rows.foldl step best).2 ∈ rows := by
  obtain ⟨r, rows, rfl⟩ := List.exists_cons_of_ne_nil hne
  rw [List.foldl_cons]
  rcases foldl_mem h (step best r) rows with hrest | hrest
  · rw [hrest, hfirst]
    apply List.mem_cons_self
  · apply List.mem_cons_of_mem
    exact hrest

theorem chosen_mem (s : Select) (fs : Fields) {rows : List Row} (h : rows ≠ []) :
    s.chosen fs rows ∈ rows := by
  unfold chosen
  dsimp only
  split
  · obtain ⟨r, rows, rfl⟩ := List.exists_cons_of_ne_nil h
    apply List.mem_cons_self
  · apply foldl_mem_of_first _ _ h
    · intro best r
      split
      · right
        rfl
      · left
        rfl
    · intro r
      rfl

/-! ### Rows and their order -/

theorem rowOf_eq {s : Select} (h : ∀ i ∈ s.items, i.expr ≠ .star) (fs : Fields)
    (names : List String) (g : Group) :
    s.rowOf fs names g = ⟨names.zip (s.items.map fun i => i.expr.eval fs g)⟩ := by
  unfold rowOf
  rw [Row.mk.injEq, List.map_eq_flatMap]
  congr 1
  apply List.flatMap_congr
  intro i hi
  have := h i hi
  split
  · contradiction
  · rfl

theorem sorted_keys {s : Select} (hdistinct : s.distinct = false) {key : α → List SortKey}
    (hkey : ∀ a, (key a).length = s.order.length) (row : α → Row) (as : List α) :
    ∃ bs : List α, bs.Perm as ∧
      bs.Pairwise (fun a b => inOrder (s.order.map (·.direction)) (key a) (key b) = true) ∧
      s.sorted (as.map fun a => (key a, row a)) = bs.map row := by
  have hlength : ∀ a, (key a).length = (s.order.map (·.direction)).length := by
    intro a
    rw [hkey, List.length_map]
  refine ⟨as.mergeSort fun a b => inOrder (s.order.map (·.direction)) (key a) (key b), ?_, ?_, ?_⟩
  · apply List.mergeSort_perm
  · apply List.pairwise_mergeSort
    · intro a b c
      exact inOrder_trans (hlength a) (hlength b) (hlength c)
    · intro a b
      exact inOrder_total _ _ _
  · simp only [sorted, hdistinct, Bool.false_eq_true, if_false]
    rw [← List.map_mergeSort (r := fun a b => inOrder (s.order.map (·.direction)) (key a) (key b))]
    · rw [List.map_map]
      rfl
    · intro a _ b _
      rfl

theorem sorted_map {s : Select} (hdistinct : s.distinct = false)
    (horder : s.order.map (·.direction) = [.ascending]) (key : α → SortKey) (row : α → Row)
    (as : List α) :
    ∃ bs : List α, bs.Perm as ∧ bs.Pairwise (fun a b => (key b).lt (key a) = false) ∧
      s.sorted (as.map fun a => ([key a], row a)) = bs.map row := by
  have hlength : (s.order.map (·.direction)).length = 1 := by
    rw [horder, List.length_singleton]
  have hkey : ∀ a, [key a].length = s.order.length := by
    intro a
    rw [List.length_singleton, ← hlength, List.length_map]
  obtain ⟨bs, hperm, hpairwise, hsorted⟩ := sorted_keys hdistinct hkey row as
  refine ⟨bs, hperm, ?_, hsorted⟩
  apply hpairwise.imp
  intro a b hab
  rw [horder, inOrder_cons_iff] at hab
  rcases hab with hlt | ⟨heq, _⟩
  · exact SortKey.lt_asymm hlt
  · rw [heq]
    exact SortKey.lt_irrefl _

end Select

end Vacancy.Sql
