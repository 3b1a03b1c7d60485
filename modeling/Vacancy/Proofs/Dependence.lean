import Vacancy.Proofs.Kind
import Vacancy.Proofs.Limits
import Vacancy.Proofs.Shape

/-!
What the result of a view depends on: of each kind of parameter the first, of groups the labels and
conditions in their order, and of filters the conditions in any order. Keys, titles, parameters that
come too late and unknown ones are never looked at.
-/

namespace Vacancy

open Sql

namespace View

/-- Two views with the same parameters, as far as these are read. -/
structure ReadsAlike (v w : View) : Prop where
  run : v.run = w.run
  style : v.style = w.style
  grain : v.grain = w.grain
  first : ∀ k : Parameter.Kind, k.isSingle = true →
    v.parameters.find? (·.kind = k) = w.parameters.find? (·.kind = k)
  groups : v.groups = w.groups
  filters : v.filters.Perm w.filters

namespace ReadsAlike

variable {v w : View}

theorem first?_eq (h : v.ReadsAlike w) {k : Parameter.Kind} (hk : k.isSingle = true) :
    v.first? k = w.first? k :=
  h.first k hk

theorem year?_eq (h : v.ReadsAlike w) : v.year? = w.year? := by
  rw [year?_eq_first?, year?_eq_first?, h.first?_eq rfl]

theorem areas_eq (h : v.ReadsAlike w) : v.areas = w.areas := by
  rw [areas_eq_first?, areas_eq_first?, h.first?_eq rfl]

theorem sameShape (h : v.ReadsAlike w) : v.SameShape w := by
  constructor
  case run => exact h.run
  case style => exact h.style
  case grain => exact h.grain
  case columns =>
    intro slot
    rw [column?_eq_first?, column?_eq_first?, h.first?_eq rfl]
  case table => rw [tableColumns?_eq_first?, tableColumns?_eq_first?, h.first?_eq rfl]
  case aggregation => rw [aggregation_eq_first?, aggregation_eq_first?, h.first?_eq rfl]

theorem perm_terms (h : v.ReadsAlike w) : v.scope.terms.Perm w.scope.terms := by
  have hground : v.ground = w.ground := by
    rw [ground, ground, h.grain, h.run, h.year?_eq, h.areas_eq]
  rw [terms_scope, terms_scope, hground, h.grain]
  exact (h.filters.filterMap _).append_left _

theorem base_eq (h : v.ReadsAlike w) (d : Database) : v.base d = w.base d := by
  have hgrain : v.scope.grain = w.scope.grain := h.grain
  rw [base, base, h.grain]
  apply List.filter_congr
  intro r _
  rw [Scope.admits, Scope.admits, hgrain]
  exact h.perm_terms.all_eq

end ReadsAlike

/-- Views that are read alike have the same result, unless the plan of one is too large. -/
theorem execute_of_readsAlike {v w : View} (h : v.ReadsAlike w) (page : Page) (d : Database) :
    (∀ e, v.plan page = .error e ↔ w.plan page = .error e) ∧
      (Database.store.execute v page d = Database.store.execute w page d ∨
        v.Overruns page d ∨ w.Overruns page d) := by
  refine ⟨fun e => ⟨h.sameShape.plan_eq_error, h.sameShape.symm.plan_eq_error⟩, ?_⟩
  cases hp : v.plan page with
  | error e =>
    left
    rw [TabularStore.execute, TabularStore.execute, hp, h.sameShape.plan_eq_error hp]
  | ok p =>
    obtain ⟨q, hq⟩ := h.sameShape.plan_eq_ok hp
    rcases execute_shows hp d with ⟨X, hX, hv⟩ | hv
    · rcases execute_shows hq d with ⟨Y, hY, hw⟩ | hw
      · left
        rw [hv, hw, (h.sameShape.shows h.groups (h.base_eq d) hX).unique hY]
      · exact .inr (.inr hw)
    · exact .inr (.inl hv)

def shuffledTable : View where
  id := some 7
  run := 1
  style := .table
  grain := .building
  title := "small households"
  parameters := [.filterNamed "size" isSmall, .unknown ⟨"color", "text", .null⟩,
    .table householdColumns, .table [], .filterNamed "run" isOfRun]

theorem readsAlike_shuffledTable :
    (householdTable [isOfRun, isSmall]).ReadsAlike shuffledTable := by
  constructor
  case first =>
    intro k hk
    cases k <;> first | rfl | contradiction
  case filters => exact .swap _ _ _
  all_goals rfl

theorem withinLimits_shuffledTable {p : Plan} (h : shuffledTable.plan {} = .ok p) :
    p.WithinLimits := by
  cases h
  decide +kernel

theorem execute_shuffledTable :
    (householdTable [isOfRun, isSmall]).ReadsAlike shuffledTable ∧
      Database.store.execute (householdTable [isOfRun, isSmall]) {} sizeDatabase =
        Database.store.execute shuffledTable {} sizeDatabase := by
  refine ⟨readsAlike_shuffledTable, ?_⟩
  obtain ⟨_, h | ⟨p, _, hplan, hlimits, _⟩ | ⟨p, _, hplan, hlimits, _⟩⟩ :=
    execute_of_readsAlike readsAlike_shuffledTable {} sizeDatabase
  · exact h
  · have hterms := isHarmless_of_mem [isOfRun, isSmall] (by simp)
    exact absurd (withinLimits_householdTable hterms rfl (by decide) hplan) hlimits
  · exact absurd (withinLimits_shuffledTable hplan) hlimits

/-! ### The order of filters -/

theorem readsAlike_householdTable {conditions conditions' : List Condition}
    (h : conditions.Perm conditions') :
    (householdTable conditions).ReadsAlike (householdTable conditions') := by
  constructor
  case first =>
    intro k hk
    have hnone : ∀ cs : List Condition,
        (cs.map (Parameter.filterNamed "rows")).find? (·.kind = k) = none := by
      intro cs
      rw [List.find?_eq_none]
      intro p hp
      obtain ⟨c, _, rfl⟩ := List.mem_map.1 hp
      cases k <;> first | contradiction | simp [Parameter.filterNamed, Parameter.kind]
    simp only [householdTable, List.find?_cons, hnone]
  case groups => rw [groups_householdTable, groups_householdTable]
  case filters =>
    rw [filters_householdTable, filters_householdTable]
    exact h
  all_goals rfl

theorem height_small_last {n : Nat} {c : Expr}
    (hc : (householdTable (.replicate (n + 1) isOfRun ++ [isSmall])).scope.predicate = some c) :
    c.height = n + 4 := by
  obtain ⟨e, he, hchain, _⟩ :=
    (householdTable (.replicate (n + 1) isOfRun)).ofRun_scope.predicate_eq
  have hjoined : c = e.and smallTerm := by
    have hterms : (householdTable (.replicate (n + 1) isOfRun ++ [isSmall])).scope.terms =
        (householdTable (.replicate (n + 1) isOfRun)).scope.terms ++ [smallTerm] := by
      simp [terms_householdTable, filterTerm?_isSmall]
    unfold Scope.predicate at hc he
    rw [hterms, Expr.conjunction_append_singleton, he] at hc
    exact (Option.some.inj hc).symm
  have hsmall : smallTerm.isNever = false ∧ smallTerm.height = 3 := by decide
  rw [hjoined, Expr.height_and hchain.isNever_eq hsmall.1, hsmall.2, height_replicate he]
  omega

theorem height_small_first {n : Nat} {c : Expr}
    (hc : (householdTable (isSmall :: .replicate n isOfRun)).scope.predicate = some c) :
    c.height = n + 4 := by
  have hrun : (Scope.runTerm 1).isNever = false ∧ (Scope.runTerm 1).height = 2 := by decide
  have hboth : ((Scope.runTerm 1).and smallTerm).isNever = false ∧
      ((Scope.runTerm 1).and smallTerm).height = 4 := by decide
  rw [Scope.predicate, terms_householdTable, List.filterMap_cons, filterTerm?_isSmall,
    List.filterMap_replicate, filterTerm?_isOfRun, Expr.conjunction, List.foldl_cons,
    Option.some.injEq] at hc
  rw [← hc, Expr.height_foldl_and_of_le hboth.1, hboth.2, List.length_replicate, Nat.add_comm]
  intro e he
  rw [List.eq_of_mem_replicate he, hrun.2, hboth.2]
  exact ⟨hrun.1, by decide⟩

/-- A range makes a condition higher where it comes first than where it comes last. -/
theorem execute_ne_of_order :
    let v := householdTable (.replicate 997 isOfRun ++ [isSmall])
    let w := householdTable (isSmall :: .replicate 997 isOfRun)
    v.ReadsAlike w ∧ (∃ P, Database.store.execute v {} sizeDatabase = (.ok P, sizeDatabase)) ∧
      ∃ e, Database.store.execute w {} sizeDatabase = (.error e, sizeDatabase) := by
  refine ⟨readsAlike_householdTable (List.perm_append_singleton _ _), ?_, ?_⟩
  · obtain ⟨c, hc, _⟩ :=
      (householdTable (.replicate 997 isOfRun ++ [isSmall])).ofRun_scope.predicate_eq
    have hheight : c.height ≤ heightLimit := by
      rw [height_small_last hc]
      decide
    have hterms := isHarmless_of_mem (.replicate 997 isOfRun ++ [isSmall]) (by
      intro c hc
      rcases List.mem_append.1 hc with hc | hc
      · exact .inl (List.eq_of_mem_replicate hc)
      · exact .inr (List.mem_singleton.1 hc))
    obtain ⟨columns, h⟩ := execute_householdTable hterms hc hheight
    exact ⟨_, h⟩
  · obtain ⟨c, hc, _⟩ :=
      (householdTable (isSmall :: .replicate 997 isOfRun)).ofRun_scope.predicate_eq
    have hhigh : heightLimit < c.height := by
      rw [height_small_first hc]
      decide
    obtain ⟨_, e, _, _, h⟩ := overruns_householdTable hc hhigh sizeDatabase
    exact ⟨_, h⟩

end View

end Vacancy
