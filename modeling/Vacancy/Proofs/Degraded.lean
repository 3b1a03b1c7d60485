import Vacancy.Proofs.Limits
import Vacancy.Proofs.Rescaled
import Vacancy.Proofs.Shape

/-!
Conditions that degrade change nothing, wherever they stand among the parameters of a view. One
that does not, added as a filter, leaves rows out and lets none in.
-/

namespace Vacancy

open Sql

/-! ### Conditions that degrade -/

namespace Condition

theorem isOk_compile (c : Condition) (column column' : String) :
    (c.compile column).isOk = (c.compile column').isOk := by
  rw [Bool.eq_iff_iff, ← not_iff_not, Bool.not_eq_true, Bool.not_eq_true, isOk_compile_eq_false_iff,
    isOk_compile_eq_false_iff]

/-- A percentage can be used if and only if the fraction that it stands for can. -/
theorem isOk_compile_rescaled (c : Condition) (x : Option Column) (column : String) :
    ((c.rescaled x).compile column).isOk = (c.compile column).isOk := by
  unfold rescaled
  split
  · next h =>
    have ht := OperandType.isNumeric_of_isFloat (Bool.and_eq_true_iff.1 h).2
    exact (c.keepsFate_mapNumbers (· / 100.0) column ht).isOk_eq
  · rfl

theorem toExpr?_eq_none_iff {c : Condition} {column : String} :
    c.toExpr? column = none ↔ (c.compile column).isOk = false := by
  unfold toExpr?
  cases c.compile column <;> simp [Except.toOption, Except.isOk, Except.toBool]

/-- Conditions that no filter of the grain can use. -/
def IsIdle (c : Condition) (g : Grain) : Prop :=
  ∀ name, c.column = some name → g.has name = true → (c.compile name).isOk = false

theorem IsIdle.filterTerm?_eq {c : Condition} {g : Grain} (h : c.IsIdle g) :
    c.filterTerm? g = none := by
  unfold filterTerm? filterPredicate filterColumn
  cases hcolumn : c.column with
  | none => rfl
  | some name =>
    dsimp only
    split
    · next hname =>
      have hnone := h name hcolumn hname
      rw [← c.isOk_compile_rescaled (g.column? name)] at hnone
      exact toExpr?_eq_none_iff.2 hnone
    · rfl

end Condition

theorem findSome?_insert {f : Parameter → Option β} {p : Parameter} (h : f p = none)
    (before after : List Parameter) :
    (before ++ p :: after).findSome? f = (before ++ after).findSome? f := by
  rw [List.findSome?_append, List.findSome?_append, List.findSome?_cons, h]

namespace Buckets

variable {rules : List (Expr × String)} {fs : Fields} {rows : List Row}

theorem series_count (column : String) (labels : List String) :
    series rules fs rows .count column labels = .ok (labels.map fun l =>
      ⟨.text l, .integer (Int64.ofNat (labelled rules fs rows l).length)⟩) := by
  apply mapM_eq_ok
  intro l _
  simp [value, Aggregation.valueOf, Except.map]

theorem length_labelled_filter_le (p : Row → Bool) (l : String) :
    (labelled rules fs (rows.filter p) l).length ≤ (labelled rules fs rows l).length :=
  (List.filter_sublist.filter _).length_le

end Buckets

theorem int64_ofNat_le {m n : Nat} (hmn : m ≤ n) (hn : n < 2 ^ 63) :
    Int64.ofNat m ≤ Int64.ofNat n := by
  rw [Int64.le_iff_toInt_le, Int64.toInt_ofNat_of_lt (by omega), Int64.toInt_ofNat_of_lt hn]
  exact Int.ofNat_le.2 hmn

/-- Each label of a chart is one of another, which counts no fewer rows for it. -/
def Payload.CountsWithin (Q P : Payload) : Prop :=
  ∃ x y qs ps, Q = .chart qs x y .count false ∧ P = .chart ps x y .count false ∧
    ∀ q ∈ qs, ∃ p ∈ ps, p.x = q.x ∧
      ∃ m n : Int64, q.y = .integer m ∧ p.y = .integer n ∧ m ≤ n

def Parameter.isRule : Parameter → Bool
  | .filter _ _ | .group _ _ _ => true
  | _ => false

namespace View

variable {v : View} {before after : List Parameter} {key label : String} {c : Condition}

/-! ### Insertion -/

theorem year?_insert (hv : v.parameters = before ++ after) {p : Parameter} (hp : p.isRule = true) :
    year? { v with parameters := before ++ p :: after } = v.year? := by
  rw [year?, year?, hv, findSome?_insert]
  cases p <;> first | rfl | contradiction

theorem areas_insert (hv : v.parameters = before ++ after) {p : Parameter} (hp : p.isRule = true) :
    areas { v with parameters := before ++ p :: after } = v.areas := by
  rw [areas, areas, hv, findSome?_insert]
  cases p <;> first | rfl | contradiction

theorem sameShape_insert (hv : v.parameters = before ++ after) {p : Parameter}
    (hp : p.isRule = true) : SameShape { v with parameters := before ++ p :: after } v := by
  constructor
  case columns =>
    intro slot
    rw [column?, column?, hv, findSome?_insert]
    cases p <;> first | rfl | contradiction
  case table =>
    rw [tableColumns?, tableColumns?, hv, findSome?_insert]
    cases p <;> first | rfl | contradiction
  case aggregation =>
    rw [aggregation, aggregation, hv, findSome?_insert]
    cases p <;> first | rfl | contradiction
  all_goals rfl

theorem ground_insert (hv : v.parameters = before ++ after) {p : Parameter}
    (hp : p.isRule = true) : ground { v with parameters := before ++ p :: after } = v.ground := by
  rw [ground, ground, year?_insert hv hp, areas_insert hv hp]

theorem groups_insert_filter (hv : v.parameters = before ++ after) (key : String) (c : Condition) :
    groups { v with parameters := before ++ .filter key c :: after } = v.groups := by
  simp [groups, hv]

theorem filters_insert_group (hv : v.parameters = before ++ after) (key label : String)
    (c : Condition) :
    filters { v with parameters := before ++ .group key label c :: after } = v.filters := by
  simp [filters, hv]

theorem filters_insert_filter (hv : v.parameters = before ++ after) (key : String)
    (c : Condition) : ∃ fs fs', v.filters = fs ++ fs' ∧
      filters { v with parameters := before ++ .filter key c :: after } = fs ++ c :: fs' := by
  refine ⟨filters { v with parameters := before }, filters { v with parameters := after }, ?_, ?_⟩
  · simp only [filters, hv, List.filterMap_append]
  · simp only [filters, List.filterMap_append, List.filterMap_cons]

theorem groups_insert_group (hv : v.parameters = before ++ after) (key label : String)
    (c : Condition) : ∃ gs gs', v.groups = gs ++ gs' ∧
      groups { v with parameters := before ++ .group key label c :: after } =
        gs ++ (label, c) :: gs' := by
  refine ⟨groups { v with parameters := before }, groups { v with parameters := after }, ?_, ?_⟩
  · simp only [groups, hv, List.filterMap_append]
  · simp only [groups, List.filterMap_append, List.filterMap_cons]

theorem plan_insert_filter (hv : v.parameters = before ++ after) (key : String)
    (hc : c.IsIdle v.grain) (page : Page) :
    plan { v with parameters := before ++ .filter key c :: after } page = v.plan page := by
  have hground := ground_insert hv (p := .filter key c) rfl
  have hgroups := groups_insert_filter hv key c
  obtain ⟨fs, fs', hfilters, hfilters'⟩ := filters_insert_filter hv key c
  apply (sameShape_insert hv (p := .filter key c) rfl).plan_eq
  case hscope =>
    apply congrArg Expr.conjunction
    rw [terms_scope, terms_scope, hground, hfilters', hfilters, List.filterMap_append,
      List.filterMap_append, List.filterMap_cons, hc.filterTerm?_eq]
  case hempty => rw [hgroups]
  case hbuckets =>
    intro x
    rw [buckets, buckets, hgroups]

theorem plan_insert_group (hv : v.parameters = before ++ after) (key label : String)
    {column : String} (hc : (c.compile column).isOk = false) (hgroups : v.groups ≠ [])
    (page : Page) :
    plan { v with parameters := before ++ .group key label c :: after } page = v.plan page := by
  have hground := ground_insert hv (p := .group key label c) rfl
  have hfilters := filters_insert_group hv key label c
  obtain ⟨gs, gs', hgs, hgs'⟩ := groups_insert_group hv key label c
  apply (sameShape_insert hv (p := .group key label c) rfl).plan_eq
  case hscope =>
    apply congrArg Expr.conjunction
    rw [terms_scope, terms_scope, hground, hfilters]
  case hempty =>
    rw [hgs', Bool.eq_iff_iff, List.isEmpty_iff, List.isEmpty_iff]
    simp [hgroups]
  case hbuckets =>
    intro x
    have hnone : (c.rescaled (some x)).toExpr? x.name = none := by
      rw [Condition.toExpr?_eq_none_iff, c.isOk_compile_rescaled, c.isOk_compile x.name column, hc]
    unfold buckets Buckets.build Buckets.rules
    rw [hgs', hgs]
    simp [List.filterMap_append, hnone]

/-! ### One more filter -/

def filtered (v : View) (key : String) (c : Condition) : View :=
  { v with parameters := v.parameters ++ [.filter key c] }

theorem sameShape_filtered (v : View) (key : String) (c : Condition) :
    (v.filtered key c).SameShape v :=
  sameShape_insert (v.parameters.append_nil).symm (p := .filter key c) rfl

theorem groups_filtered (v : View) (key : String) (c : Condition) :
    (v.filtered key c).groups = v.groups :=
  groups_insert_filter (v.parameters.append_nil).symm key c

theorem terms_filtered (v : View) (key : String) (c : Condition) :
    (v.filtered key c).scope.terms = v.scope.terms ++ (c.filterTerm? v.grain).toList := by
  have hground : (v.filtered key c).ground = v.ground :=
    ground_insert (v.parameters.append_nil).symm (p := .filter key c) rfl
  have hfilters : (v.filtered key c).filters = v.filters ++ [c] := by
    simp [filters, filtered]
  rw [terms_scope, terms_scope, hground, hfilters, List.filterMap_append, List.append_assoc]
  cases hterm : c.filterTerm? v.grain <;> simp [filtered, hterm]

theorem base_filtered (v : View) (key : String) (c : Condition) (d : Database) :
    (v.filtered key c).base d =
      (v.base d).filter fun r => (c.filterTerm? v.grain).all (·.admits v.grain.schema r) := by
  have hrows : (d.table (v.filtered key c).grain).rows = (d.table v.grain).rows := rfl
  rw [base, base, List.filter_filter, hrows]
  apply List.filter_congr
  intro r _
  have hgrain : (v.filtered key c).scope.grain = v.grain := rfl
  have hgrain' : v.scope.grain = v.grain := rfl
  rw [Scope.admits, Scope.admits, terms_filtered, List.all_append, hgrain, hgrain', Bool.and_comm]
  cases c.filterTerm? v.grain <;> simp

theorem within_filtered {key : String} {c : Condition} {e e' : Expr}
    (he : v.scope.predicate = some e) (he' : (v.filtered key c).scope.predicate = some e') :
    e.Within e' := by
  have hterms := (v.filtered key c).ofRun_scope.terms
  unfold Scope.predicate at he he'
  rw [terms_filtered] at hterms he'
  exact Expr.within_of_conjunction hterms he he'

theorem fits_selection_of_filtered {key : String} {c : Condition} {names : List String}
    {page : Page} (h : ((v.filtered key c).selection names page).Fits v.grain) :
    (v.selection names page).Fits v.grain := by
  obtain ⟨e, he, _⟩ := v.ofRun_scope.predicate_eq
  obtain ⟨e', he', _⟩ := (v.filtered key c).ofRun_scope.predicate_eq
  unfold selection at h ⊢
  rw [(v.sameShape_filtered key c).chartOrder_eq, he'] at h
  rw [he]
  exact h.within (s := ⟨names, none, v.chartOrder, page⟩) (within_filtered he he')

theorem fits_bucketing_of_filtered {key : String} {c : Condition} {x y : Column}
    (h : ((v.filtered key c).bucketing x y).Fits v.grain) : (v.bucketing x y).Fits v.grain := by
  obtain ⟨e, he, _⟩ := v.ofRun_scope.predicate_eq
  obtain ⟨e', he', _⟩ := (v.filtered key c).ofRun_scope.predicate_eq
  unfold bucketing buckets at h ⊢
  rw [(v.sameShape_filtered key c).aggregation, groups_filtered, he'] at h
  rw [he]
  exact h.within (b := ⟨none, _, _, _, _⟩) (within_filtered he he')

theorem withinLimits_of_filtered {key : String} {c : Condition} {page : Page} {p q : Plan}
    (hp : v.plan page = .ok p) (hq : (v.filtered key c).plan page = .ok q)
    (hlimits : q.WithinLimits) : p.WithinLimits := by
  have h := (v.sameShape_filtered key c).symm
  have hgroups := v.groups_filtered key c
  obtain ⟨hrun, hplanned⟩ := plan_eq_ok_iff.1 hp
  have hrun : 0 < (v.filtered key c).run := hrun
  cases hplanned with
  | table hlayout hnames hne hcolumns =>
    rw [h.layout?_eq] at hlayout
    rw [h.table] at hnames
    rw [h.catalogColumn_eq] at hcolumns
    have hplanned : (v.filtered key c).Planned page _ := .table hlayout hnames hne hcolumns
    obtain rfl := Except.ok.inj ((plan_eq_ok_iff.2 ⟨hrun, hplanned⟩).symm.trans hq)
    exact fits_selection_of_filtered hlimits
  | points hlayout hx hy hnone =>
    rw [h.layout?_eq] at hlayout
    rw [h.axis_eq] at hx hy
    rw [← hgroups] at hnone
    have hplanned : (v.filtered key c).Planned page _ := .points hlayout hx hy hnone
    obtain rfl := Except.ok.inj ((plan_eq_ok_iff.2 ⟨hrun, hplanned⟩).symm.trans hq)
    exact fits_selection_of_filtered hlimits
  | buckets hlayout hx hy hne =>
    rw [h.layout?_eq] at hlayout
    rw [h.axis_eq] at hx hy
    rw [← hgroups] at hne
    have hplanned : (v.filtered key c).Planned page _ := .buckets hlayout hx hy hne
    obtain rfl := Except.ok.inj ((plan_eq_ok_iff.2 ⟨hrun, hplanned⟩).symm.trans hq)
    exact fits_bucketing_of_filtered hlimits

theorem entries_filtered {key : String} {c : Condition} {d : Database} {P Q : Payload}
    (hP : v.Shows {} d (.ok P)) (hQ : (v.filtered key c).Shows {} d (.ok Q)) (hrows : v.ByRow) :
    Q.entries.Sublist P.entries := by
  have h := v.sameShape_filtered key c
  have hrows' : (v.filtered key c).ByRow := hrows.imp_right (v.groups_filtered key c).trans
  obtain ⟨rows, hperm, hsorted, hpayload⟩ := hP.exists_rows hrows
  obtain ⟨rows', hperm', hsorted', hpayload'⟩ := hQ.exists_rows hrows'
  rw [base_filtered] at hperm'
  have hsub : (rows.filter fun r =>
      (c.filterTerm? v.grain).all (·.admits v.grain.schema r)).Sublist rows :=
    List.filter_sublist
  -- rows of one table can be put in order in one way only
  obtain rfl := eq_of_before (hsorted'.imp h.before) (hsorted.sublist hsub)
    (hperm'.trans (hperm.filter _).symm)
  obtain ⟨f, hf, hf'⟩ := hpayload.entries_map (h.presents (v.groups_filtered key c) hpayload')
  rw [hf, hf']
  exact hsub.map f

theorem counts_filtered {key : String} {c : Condition} {d : Database} {page : Page} {P Q : Payload}
    (hP : v.Shows page d (.ok P)) (hQ : (v.filtered key c).Shows page d (.ok Q))
    (hrows : ¬v.ByRow) (hcount : v.aggregation = .count)
    (hfew : (d.table v.grain).rows.length < 2 ^ 63) : Q.CountsWithin P := by
  have h := v.sameShape_filtered key c
  have hgroups := v.groups_filtered key c
  have hrows' : ¬(v.filtered key c).ByRow := fun h => hrows (h.imp_right hgroups.symm.trans)
  obtain ⟨_, _, x, y, labels, ps, hlayout, hx, hy, hlists, hseries, rfl⟩ := hP.exists_series hrows
  obtain ⟨_, _, x', y', labels', qs, hlayout', hx', hy', hlists', hseries', rfl⟩ :=
    hQ.exists_series hrows'
  rw [h.layout?_eq, hlayout, Option.some.injEq, Layout.chart.injEq] at hlayout'
  obtain ⟨rfl, rfl⟩ := hlayout'
  rw [h.axis_eq, hx, Except.ok.injEq] at hx'
  rw [h.axis_eq, hy, Except.ok.injEq] at hy'
  subst hx' hy'
  rw [h.aggregation, hcount, h.grain, SameShape.rules_eq hgroups, base_filtered] at hseries'
  rw [h.grain, SameShape.rules_eq hgroups, base_filtered] at hlists'
  rw [hcount, Buckets.series_count, Except.ok.injEq] at hseries
  rw [Buckets.series_count, Except.ok.injEq] at hseries'
  rw [h.aggregation, hcount]
  refine ⟨x, y, qs, ps, rfl, rfl, ?_⟩
  rw [← hseries, ← hseries']
  intro q hq
  obtain ⟨l, hl, rfl⟩ := List.mem_map.1 hq
  obtain ⟨hne, r, hr, hlabel⟩ := (hlists'.mem_iff l).1 hl
  refine ⟨_, List.mem_map.2 ⟨l, ?_, rfl⟩, rfl, _, _, rfl, rfl, ?_⟩
  · exact (hlists.mem_iff l).2 ⟨hne, r, (List.mem_filter.1 hr).1, hlabel⟩
  · apply int64_ofNat_le (Buckets.length_labelled_filter_le _ l)
    calc
      _ ≤ (v.base d).length := List.length_filter_le _ _
      _ ≤ (d.table v.grain).rows.length := List.length_filter_le _ _
      _ < 2 ^ 63 := hfew

theorem Shows.exists_ok {page : Page} {d : Database} {X : Except EngineError Payload}
    (h : v.Shows page d X) (hv : v.ByRow ∨ v.aggregation = .count) : ∃ P, X = .ok P := by
  cases h with
  | rows _ _ _ => exact ⟨_, rfl⟩
  | series hlayout _ _ hne _ =>
    rcases hv with (htable | hnone) | hcount
    · simp [hlayout] at htable
    · contradiction
    · rw [hcount, Buckets.series_count]
      exact ⟨_, rfl⟩

theorem answers_or_overruns {page : Page} {p : Plan} (hplan : v.plan page = .ok p)
    (hv : v.ByRow ∨ v.aggregation = .count) (d : Database) :
    (∃ P, Database.store.execute v page d = (.ok P, d)) ∨ v.Overruns page d := by
  apply (execute_shows hplan d).imp_left
  rintro ⟨result, hshows, hresult⟩
  obtain ⟨P, rfl⟩ := hshows.exists_ok hv
  exact ⟨P, hresult⟩

theorem shows_of_execute {page : Page} {p : Plan} (hplan : v.plan page = .ok p) {d : Database}
    {P : Payload} (h : Database.store.execute v page d = (.ok P, d)) : v.Shows page d (.ok P) := by
  rcases execute_shows hplan d with ⟨result, hshows, hresult⟩ | hoverruns
  · rw [hresult, Prod.mk.injEq] at h
    exact h.1 ▸ hshows
  · exact absurd (congrArg Prod.fst h) (hoverruns.error P)

/--
A condition that degrades is as good as absent, be it a filter anywhere or a group beside others.
Any filter leaves what is shown, or counted, as it is or makes it less.
-/
theorem conditions_restrict (v : View) (d : Database) :
    (∀ before after key c page, v.parameters = before ++ after → c.IsIdle v.grain →
      plan { v with parameters := before ++ .filter key c :: after } page = v.plan page) ∧
    (∀ before after key label c column page, v.parameters = before ++ after →
      (c.compile column).isOk = false → v.groups ≠ [] →
      plan { v with parameters := before ++ .group key label c :: after } page = v.plan page) ∧
    ∀ key c page p, v.plan page = .ok p →
      (∃ q, (v.filtered key c).plan page = .ok q ∧ (q.WithinLimits → p.WithinLimits)) ∧
      (v.ByRow ∨ v.aggregation = .count →
        ((∃ P, Database.store.execute v page d = (.ok P, d)) ∨ v.Overruns page d) ∧
          ((∃ Q, Database.store.execute (v.filtered key c) page d = (.ok Q, d)) ∨
            (v.filtered key c).Overruns page d)) ∧
      ∀ P Q, Database.store.execute v page d = (.ok P, d) →
        Database.store.execute (v.filtered key c) page d = (.ok Q, d) →
        (v.ByRow → page = {} → Q.entries.Sublist P.entries) ∧
          (¬v.ByRow → v.aggregation = .count → (d.table v.grain).rows.length < 2 ^ 63 →
            Q.CountsWithin P) := by
  refine ⟨?_, ?_, ?_⟩
  · intro before after key c page hv hc
    exact plan_insert_filter hv key hc page
  · intro before after key label c column page hv hc hgroups
    exact plan_insert_group hv key label hc hgroups page
  · intro key c page p hplan
    have h := v.sameShape_filtered key c
    obtain ⟨q, hplan'⟩ := h.symm.plan_eq_ok hplan
    refine ⟨⟨q, hplan', withinLimits_of_filtered hplan hplan'⟩, ?_, ?_⟩
    · intro hv
      have hv' : (v.filtered key c).ByRow ∨ (v.filtered key c).aggregation = .count := by
        apply hv.imp
        · exact fun hrows => hrows.imp_right (v.groups_filtered key c).trans
        · exact h.aggregation.trans
      exact ⟨answers_or_overruns hplan hv d, answers_or_overruns hplan' hv' d⟩
    · intro P Q hP hQ
      have hP := shows_of_execute hplan hP
      have hQ := shows_of_execute hplan' hQ
      constructor
      · rintro hrows rfl
        exact entries_filtered hP hQ hrows
      · exact counts_filtered hP hQ

theorem filtered_householdTable (conditions : List Condition) (c : Condition) :
    (householdTable conditions).filtered "filter_rows" c = householdTable (conditions ++ [c]) := by
  have hkey : Parameter.filterNamed "rows" c = .filter "filter_rows" c := rfl
  simp only [filtered, householdTable, List.map_append, List.map_cons, List.map_nil, hkey,
    List.cons_append]

theorem conditions_restrict_householdTable :
    (∃ c : Condition, c.IsIdle .building ∧
      ((householdTable []).filtered "filter_rows" c).plan {} = (householdTable []).plan {}) ∧
    (∃ c : Condition, (c.compile "household_size").isOk = false ∧ sizeView.groups ≠ [] ∧
      plan { sizeView with parameters := .group "group_2" "none" c :: sizeView.parameters } {} =
        sizeView.plan {}) ∧
    ∃ P Q, Database.store.execute (householdTable []) {} sizeDatabase = (.ok P, sizeDatabase) ∧
      Database.store.execute ((householdTable []).filtered "filter_rows" isSmall) {} sizeDatabase =
        (.ok Q, sizeDatabase) ∧ P.entries ≠ [] ∧ Q.entries.Sublist P.entries := by
  obtain ⟨hidle, _, hfilter⟩ := conditions_restrict (householdTable []) sizeDatabase
  obtain ⟨_, hgroup, _⟩ := conditions_restrict sizeView sizeDatabase
  refine ⟨⟨{ isSmall with column := none }, ?_, ?_⟩,
    ⟨{ isSmall with start := none }, rfl, ?_, ?_⟩, ?_⟩
  · intro name hname
    contradiction
  · apply hidle _ [] "filter_rows" _ {} (List.append_nil _).symm
    intro name hname
    contradiction
  · simp [sizeView, groups, Parameter.groupNamed]
  · apply hgroup [] _ "group_2" "none" _ "household_size" {} rfl rfl
    simp [sizeView, groups, Parameter.groupNamed]
  · obtain ⟨columns, hP⟩ := execute_householdTable (isHarmless_of_mem [] (by simp)) rfl (by decide)
    obtain ⟨columns', hQ⟩ :=
      execute_householdTable (isHarmless_of_mem [isSmall] (by simp)) rfl (by decide)
    rw [← List.nil_append [isSmall], ← filtered_householdTable] at hQ
    obtain ⟨_, hplan⟩ := plan_householdTable [] {}
    obtain ⟨_, _, hrestrict⟩ := hfilter "filter_rows" isSmall {} _ hplan
    refine ⟨_, _, hP, hQ, by simp [Payload.entries], ?_⟩
    exact (hrestrict _ _ hP hQ).1 (.inl rfl) rfl

/-- Next to a thousand terms there is no room for one more, although it is true of the row. -/
theorem execute_filtered_householdTable :
    let v := householdTable (.replicate 998 isOfRun)
    v.ByRow ∧ (∃ p, v.plan {} = .ok p) ∧ ¬isOfRun.IsIdle v.grain ∧
      (∃ columns, Database.store.execute v {} sizeDatabase =
        (.ok (.table columns [sizeRow.project householdColumns]), sizeDatabase)) ∧
      ∃ e, Database.store.execute (v.filtered "filter_rows" isOfRun) {} sizeDatabase =
        (.error e, sizeDatabase) := by
  intro v
  obtain ⟨_, hplan⟩ := plan_householdTable (.replicate 998 isOfRun) {}
  obtain ⟨c, hc, _⟩ := v.ofRun_scope.predicate_eq
  have hheight : c.height ≤ heightLimit := by
    rw [height_replicate hc]
    decide
  refine ⟨.inl rfl, ⟨_, hplan⟩, ?_, ?_, ?_⟩
  · intro hidle
    have := hidle runColumn rfl rfl
    contradiction
  · exact execute_householdTable (isHarmless_replicate 998) hc hheight
  · rw [filtered_householdTable, ← List.replicate_succ']
    obtain ⟨c, hc, _⟩ := (householdTable (.replicate 999 isOfRun)).ofRun_scope.predicate_eq
    have hhigh : heightLimit < c.height := by
      rw [height_replicate hc]
      decide
    obtain ⟨_, e, _, _, h⟩ := overruns_householdTable hc hhigh sizeDatabase
    exact ⟨_, h⟩

end View

end Vacancy
