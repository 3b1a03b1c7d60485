import Vacancy.Proofs.Degraded
import Vacancy.Proofs.Paging
import Vacancy.Proofs.Usable

/-!
Rules and filters with one condition. A rule on the x column reads its condition as a filter on that
column does, so that the only bucket of a chart counts the points that the filter leaves of it.
-/

namespace Vacancy

open Sql

/-! ### Terms -/

namespace Grain

theorem column?_name {g : Grain} {x : Column} (hx : x ∈ g.columns) : g.column? x.name = some x := by
  have hnodup : (g.columns.map (·.name)).Nodup := by
    cases g <;> decide +kernel
  unfold column?
  generalize g.columns = columns at hx hnodup
  induction columns with
  | nil => contradiction
  | cons c columns ih =>
    rw [List.map_cons, List.nodup_cons] at hnodup
    rcases List.mem_cons.1 hx with rfl | hx
    · simp
    · have hne : (c.name == x.name) = false := by
        rw [beq_eq_false_iff_ne]
        exact fun h => hnodup.1 (h ▸ List.mem_map_of_mem hx)
      rw [List.find?_cons, hne]
      exact ih hx hnodup.2

end Grain

namespace Condition

theorem rescaled_on (c : Condition) (name : String) (x : Option Column) :
    (c.on name).rescaled x = (c.rescaled x).on name := by
  have htype : (c.on name).type = c.type := rfl
  unfold rescaled
  rw [htype]
  split <;> rfl

theorem compile_on (c : Condition) (name column : String) :
    (c.on name).compile column = c.compile column := by
  apply SameUse.compile_eq
  exact ⟨rfl, rfl, fun _ _ => rfl, fun _ => rfl, fun _ => rfl, fun _ => rfl, fun _ => rfl⟩

theorem filterTerm?_on {g : Grain} {x : Column} (hx : x ∈ g.columns) (c : Condition) :
    (c.on x.name).filterTerm? g = (c.rescaled (some x)).toExpr? x.name := by
  have hcolumn := Grain.column?_name hx
  have hhas : g.has x.name = true := by simp [Grain.has, hcolumn]
  have hname : (c.on x.name).filterColumn g = .ok x.name := by
    simp [filterColumn, on, hhas]
  unfold filterTerm? filterPredicate
  rw [hname]
  simp only [bind, Except.bind]
  rw [hcolumn, rescaled_on, compile_on]
  rfl

end Condition

/-! ### The bucket of a single rule -/

namespace Buckets

variable {e : Expr} {label : String} {fs : Fields} {rows : List Row}

theorem label?_singleton (e : Expr) (label : String) (fs : Fields) (r : Row) :
    label? [(e, label)] fs r = if e.admits fs r then some label else none := by
  cases h : e.admits fs r <;> simp [label?, h]

theorem labelled_singleton (e : Expr) (label : String) (fs : Fields) (rows : List Row) :
    labelled [(e, label)] fs rows label = rows.filter (e.admits fs ·) := by
  apply List.filter_congr
  intro r _
  rw [label?_singleton]
  cases e.admits fs r <;> simp

theorem label?_singleton_eq_some {r : Row} {l : String} :
    label? [(e, label)] fs r = some l ↔ e.admits fs r = true ∧ label = l := by
  rw [label?_singleton]
  cases e.admits fs r <;> simp

theorem lists_singleRule (e : Expr) (hne : label ≠ "") (fs : Fields) (rows : List Row) :
    Lists [(e, label)] fs rows (if (rows.filter (e.admits fs ·)).isEmpty then [] else [label]) := by
  constructor
  case nodup => split <;> simp
  case mem_iff =>
    intro l
    simp only [label?_singleton_eq_some]
    split
    · next hnil =>
      rw [List.isEmpty_iff, List.filter_eq_nil_iff] at hnil
      constructor
      · simp
      · rintro ⟨_, r, hr, hadmits, _⟩
        exact absurd hadmits (hnil r hr)
    · next hsome =>
      rw [List.isEmpty_iff] at hsome
      obtain ⟨r, hr⟩ := List.exists_mem_of_ne_nil _ hsome
      obtain ⟨hr, hadmits⟩ := List.mem_filter.1 hr
      rw [List.mem_singleton]
      constructor
      · rintro rfl
        exact ⟨hne, r, hr, hadmits, rfl⟩
      · rintro ⟨_, _, _, _, rfl⟩
        rfl
  case ordered => split <;> simp

def counted (label : String) (n : Nat) : List Point :=
  if n = 0 then [] else [⟨.text label, .integer (Int64.ofNat n)⟩]

theorem series_singleRule {labels : List String} (hne : label ≠ "")
    (h : Lists [(e, label)] fs rows labels) (column : String) :
    series [(e, label)] fs rows .count column labels =
      .ok (counted label (rows.filter (e.admits fs ·)).length) := by
  rw [h.eq (lists_singleRule e hne fs rows), series_count]
  unfold counted
  cases hrows : rows.filter (e.admits fs ·) with
  | nil => rfl
  | cons r rs => simp [labelled_singleton, hrows]

end Buckets

namespace View

variable {v : View} {before after : List Parameter} {key label : String} {c : Condition}

/-! ### A view with one rule -/

theorem rules_eq_filterTerms (v : View) {x : Column} (hx : x ∈ v.grain.columns) :
    v.rules x = v.groups.filterMap fun (label, c) =>
      ((c.on x.name).filterTerm? v.grain).map (·, label) := by
  unfold rules Buckets.rules
  rw [List.filterMap_map]
  apply List.filterMap_congr
  rintro ⟨label, c⟩ _
  simp only [Function.comp_apply, Condition.filterTerm?_on hx]

theorem mem_columns_of_axis {slot : Slot} {x : Column} (h : v.axis slot = .ok x) :
    x ∈ v.grain.columns := by
  unfold axis catalogColumn at h
  split at h
  · split at h
    · next hcolumn =>
      obtain rfl := Except.ok.inj h
      exact List.mem_of_find?_eq_some hcolumn
    · contradiction
  · contradiction

def ruled (v : View) (before after : List Parameter) (key label : String) (c : Condition) : View :=
  { v with parameters := before ++ .group key label c :: after }

theorem sameShape_ruled (hv : v.parameters = before ++ after) (key label : String) (c : Condition) :
    (v.ruled before after key label c).SameShape v :=
  sameShape_insert hv (p := .group key label c) rfl

theorem groups_ruled (hv : v.parameters = before ++ after) (hgroups : v.groups = [])
    (key label : String) (c : Condition) :
    (v.ruled before after key label c).groups = [(label, c)] := by
  obtain ⟨gs, gs', hgs, hgs'⟩ := groups_insert_group hv key label c
  rw [hgroups, eq_comm, List.append_eq_nil_iff] at hgs
  rw [ruled, hgs', hgs.1, hgs.2]
  rfl

theorem scope_ruled (hv : v.parameters = before ++ after) :
    (v.ruled before after key label c).scope = v.scope := by
  rw [ruled, scope, scope, year?_insert hv rfl, areas_insert hv rfl, filters_insert_group hv]

theorem base_ruled (hv : v.parameters = before ++ after) (d : Database) :
    (v.ruled before after key label c).base d = v.base d := by
  unfold base
  rw [scope_ruled hv]
  rfl

theorem rules_ruled (hv : v.parameters = before ++ after) (hgroups : v.groups = []) {slot : Slot}
    {x : Column} {e : Expr} (hx : v.axis slot = .ok x)
    (hterm : (c.on x.name).filterTerm? v.grain = some e) (key label : String) :
    (v.ruled before after key label c).rules x = [(e, label)] := by
  have hshape := sameShape_ruled hv key label c
  have hmem : x ∈ v.grain.columns := mem_columns_of_axis hx
  rw [← hshape.grain] at hmem
  rw [rules_eq_filterTerms _ hmem, groups_ruled hv hgroups key label c, hshape.grain]
  simp [hterm]

theorem not_byRow_ruled (hv : v.parameters = before ++ after) (hgroups : v.groups = [])
    {xSlot ySlot : Slot} (hlayout : v.layout? = some (.chart xSlot ySlot)) :
    ¬(v.ruled before after key label c).ByRow := by
  rintro (htable | hnone)
  · simp [(sameShape_ruled hv key label c).layout?_eq, hlayout] at htable
  · simp [groups_ruled hv hgroups key label c] at hnone

/-- A chart of so many points of rows, and the chart of the only bucket that they make. -/
inductive CountsPoints (label : String) : Payload → Payload → Prop where
  | intro (ps : List Point) (x y : Column) :
      CountsPoints label (.chart ps x y .count true)
        (.chart (Buckets.counted label ps.length) x y .count false)

variable {xSlot ySlot : Slot} {x : Column} {e : Expr} {d : Database}

theorem shows_ruled (hv : v.parameters = before ++ after) (hgroups : v.groups = [])
    (hlayout : v.layout? = some (.chart xSlot ySlot)) (hx : v.axis xSlot = .ok x)
    (hcount : v.aggregation = .count) (hlabel : label ≠ "")
    (hterm : (c.on x.name).filterTerm? v.grain = some e) {page : Page} {P : Payload}
    (hP : (v.ruled before after key label c).Shows page d (.ok P)) :
    ∃ y, v.axis ySlot = .ok y ∧
      P = .chart (Buckets.counted label ((v.base d).filter (e.admits v.grain.schema ·)).length)
        x y .count false := by
  have hshape := sameShape_ruled hv key label c
  have hgroups' := groups_ruled hv hgroups key label c
  obtain ⟨xSlot', ySlot', x', y, labels, points, hlayout', hx', hy, hlists, hseries, rfl⟩ :=
    hP.exists_series (not_byRow_ruled hv hgroups hlayout)
  rw [hshape.layout?_eq, hlayout, Option.some.injEq, Layout.chart.injEq] at hlayout'
  obtain ⟨rfl, rfl⟩ := hlayout'
  rw [hshape.axis_eq, hx, Except.ok.injEq] at hx'
  subst hx'
  rw [hshape.axis_eq] at hy
  rw [rules_ruled hv hgroups hx hterm key label, base_ruled hv, hshape.grain] at hlists hseries
  rw [hshape.aggregation, hcount] at hseries ⊢
  rw [Buckets.series_singleRule hlabel hlists, Except.ok.injEq] at hseries
  exact ⟨y, hy, by rw [← hseries]⟩

theorem shows_filtered (hgroups : v.groups = []) (hlayout : v.layout? = some (.chart xSlot ySlot))
    (hx : v.axis xSlot = .ok x) (hcount : v.aggregation = .count)
    (hterm : c.filterTerm? v.grain = some e) {Q : Payload}
    (hQ : (v.filtered key c).Shows {} d (.ok Q)) :
    ∃ y ps, v.axis ySlot = .ok y ∧ Q = .chart ps x y .count true ∧
      ps.length = ((v.base d).filter (e.admits v.grain.schema ·)).length := by
  have hshape := v.sameShape_filtered key c
  have hgroups' : (v.filtered key c).groups = [] := (v.groups_filtered key c).trans hgroups
  obtain ⟨rows, hperm, _, hpayload⟩ := hQ.exists_rows (.inr hgroups')
  rw [base_filtered, hterm] at hperm
  cases hpayload with
  | table htable =>
    simp [hshape.layout?_eq, hlayout] at htable
  | @points xSlot' ySlot' x' y hlayout' hx' hy =>
    rw [hshape.layout?_eq, hlayout, Option.some.injEq, Layout.chart.injEq] at hlayout'
    obtain ⟨rfl, rfl⟩ := hlayout'
    rw [hshape.axis_eq, hx, Except.ok.injEq] at hx'
    subst hx'
    rw [hshape.axis_eq] at hy
    refine ⟨y, _, hy, by rw [hshape.aggregation, hcount], ?_⟩
    rw [List.length_map]
    exact hperm.length_eq

end View

/-! ### Limits -/

theorem Buckets.parameters_singleRule (e : Expr) (label : String) :
    (ofRules [(e, label)]).label.parameters = e.parameters + 1 ∧
      (ofRules [(e, label)]).rank.parameters = e.parameters + 1 := by
  constructor
  · rw [Expr.parameters, Bucketing.countP_label_ofRules, List.flatMap_singleton]
    rfl
  · rw [Expr.parameters, Bucketing.countP_rank_ofRules, List.flatMap_singleton]
    rfl

namespace View

variable {v : View} {before after : List Parameter} {key label : String} {c : Condition}

theorem countP_selection (v : View) (x y : String) {c : Expr} (hc : v.scope.predicate = some c) :
    (((v.selection [x, y] {}).toQuery v.grain).tokens .sqlite).countP (·.parameter?.isSome) =
      c.parameters := by
  have hrest : (((Selection.toQuery ⟨[x, y], none, v.chartOrder, {}⟩ v.grain).tokens .sqlite).countP
      (·.parameter?.isSome)) = 0 := by
    unfold chartOrder
    split <;> rfl
  have htokens := Selection.countP_tokens v.grain ⟨[x, y], none, v.chartOrder, {}⟩ c
  rw [hrest, Nat.zero_add] at htokens
  rw [selection, hc]
  exact htokens

theorem fits_selection_of_rule {x : Column} {y : String} {e : Expr}
    (hterm : (c.on x.name).filterTerm? v.grain = some e) {b : Bucketing}
    (hcondition : b.condition = v.scope.predicate)
    (hlabel : b.label = (Buckets.ofRules [(e, label)]).label)
    (hrank : b.rank = (Buckets.ofRules [(e, label)]).rank) (hfits : b.Fits v.grain) :
    ((v.filtered key (c.on x.name)).selection [x.name, y] {}).Fits v.grain := by
  obtain ⟨C, hC, hchain, _⟩ := v.ofRun_scope.predicate_eq
  have he : e.IsTerm v.grain.names := Condition.isTerm_of_filterTerm? hterm
  have hpredicate : (v.filtered key (c.on x.name)).scope.predicate = some (C.and e) := by
    unfold Scope.predicate at hC ⊢
    rw [terms_filtered, hterm, Option.toList_some, Expr.conjunction_append_singleton, hC]
  rw [hC] at hcondition
  constructor
  case parameters =>
    have hparameters := hfits.parameters
    obtain ⟨hlabel', hrank'⟩ := Buckets.parameters_singleRule e label
    rw [b.countP_toQuery v.grain hcondition, hlabel, hrank, hlabel', hrank'] at hparameters
    have hcount := (v.filtered key (c.on x.name)).countP_selection x.name y hpredicate
    rw [Expr.parameters_and] at hcount
    have hgrain : (v.filtered key (c.on x.name)).grain = v.grain := rfl
    rw [hgrain] at hcount
    omega
  case height =>
    intro c' hc'
    have hlow := hfits.height C hcondition
    have hand := Expr.height_and hchain.isNever_eq he.isNever_eq
    have hbounds := he.height_bounds
    obtain rfl := Option.some.inj (hpredicate.symm.trans hc')
    unfold heightLimit at hlow ⊢
    omega
  case columns => exact Nat.le_of_ble_eq_true rfl
  case terms =>
    intro c' hc' e' he'
    obtain rfl := Option.some.inj (hpredicate.symm.trans hc')
    have hterms : (C.and e).terms = C.terms ++ e.terms := by simp [Expr.and, Expr.terms]
    rw [hterms, List.mem_append] at he'
    rcases he' with he' | he'
    · exact hfits.terms C hcondition e' he'
    · have hrule : e.hasLongPattern = false := by
        apply hfits.rules
        rw [hlabel]
        exact List.mem_singleton_self e
      rw [← Bool.not_eq_true] at hrule ⊢
      exact fun hlong => hrule (he.hasLongPattern_of_mem_terms he' hlong)

theorem withinLimits_of_ruled (hv : v.parameters = before ++ after) (hgroups : v.groups = [])
    {xSlot ySlot : Slot} {x : Column} {e : Expr} (hlayout : v.layout? = some (.chart xSlot ySlot))
    (hx : v.axis xSlot = .ok x) (hterm : (c.on x.name).filterTerm? v.grain = some e) {page : Page}
    {key' : String} {p q : Plan} (hp : (v.ruled before after key label c).plan page = .ok p)
    (hq : (v.filtered key' (c.on x.name)).plan {} = .ok q) (hlimits : p.WithinLimits) :
    q.WithinLimits := by
  have hshape := sameShape_ruled hv key label c
  have hshape' := v.sameShape_filtered key' (c.on x.name)
  have hgroups' := groups_ruled hv hgroups key label c
  rw [← hshape.layout?_eq] at hlayout
  rw [← hshape.axis_eq] at hx
  have hne : (v.ruled before after key label c).groups ≠ [] := by simp [hgroups']
  obtain ⟨x', y, hx', hy, rfl⟩ := plan_of_groups hp hlayout hne
  obtain rfl := Except.ok.inj (hx.symm.trans hx')
  rw [hshape.axis_eq] at hx hy
  rw [hshape.layout?_eq, ← hshape'.layout?_eq] at hlayout
  obtain ⟨hrun, _⟩ := plan_eq_ok_iff.1 hq
  have hplanned : (v.filtered key' (c.on x.name)).Planned {} _ :=
    .points hlayout ((hshape'.axis_eq _).trans hx) ((hshape'.axis_eq _).trans hy)
      ((v.groups_filtered key' _).trans hgroups)
  obtain rfl := Except.ok.inj ((plan_eq_ok_iff.2 ⟨hrun, hplanned⟩).symm.trans hq)
  have hrules := rules_ruled hv hgroups hx hterm key label
  have hbuckets : (v.ruled before after key label c).buckets x = Buckets.ofRules [(e, label)] :=
    congrArg Buckets.ofRules hrules
  have hcondition : ((v.ruled before after key label c).bucketing x y).condition =
      v.scope.predicate := congrArg Scope.predicate (scope_ruled hv)
  have hfits : ((v.ruled before after key label c).bucketing x y).Fits v.grain := hlimits
  change ((v.filtered key' (c.on x.name)).selection [x.name, y.name] {}).Fits v.grain
  exact fits_selection_of_rule hterm hcondition (congrArg Buckets.label hbuckets)
    (congrArg Buckets.rank hbuckets) hfits

end View

/-! ### Many areas -/

namespace Sql

theorem Token.countP_separated (p : Token → Bool) (hcomma : p (.symbol .comma) = false)
    (hspace : p .space = false) (tss : List (List Token)) :
    (separated tss).countP p = tss.flatten.countP p := by
  fun_induction separated tss with
  | case1 => rfl
  | case2 ts => simp
  | case3 ts rest _ ih => simp [List.countP_append, hcomma, hspace, ih]

theorem Expr.parameters_among (e : Expr) {ls : List Literal} (h : ls ≠ []) :
    (Expr.among e (ls.map .literal)).parameters = e.parameters + ls.countP Literal.isParameter := by
  have hvalues : (Token.separated (tokensOfList (ls.map .literal))).countP (·.parameter?.isSome) =
      ls.countP Literal.isParameter := by
    rw [Token.countP_separated _ rfl rfl, tokensOfList_literals, ← List.flatMap_def,
      ← List.map_eq_flatMap, List.countP_map]
    apply List.countP_congr
    intro l _
    cases h : l.isParameter <;> simp [Token.parameter?, h]
  obtain ⟨l, ls, rfl⟩ := List.exists_cons_of_ne_nil h
  have hopen : [Token.space, .keyword .among, .space, .symbol .leftParen].countP
      (·.parameter?.isSome) = 0 := rfl
  have hclose : [Token.symbol .rightParen].countP (·.parameter?.isSome) = 0 := rfl
  rw [← hvalues]
  simp only [parameters, List.map_cons, tokens, tokensOfList, List.countP_append, hopen, hclose]
  omega

theorem Expr.parameters_areas {names : List String} (h : names ≠ []) :
    (Expr.among (.column areaColumn) (names.map .text)).parameters = names.length := by
  have harea : (Expr.column areaColumn).parameters = 0 := rfl
  have hne : names.map Literal.text ≠ [] := by simpa using h
  have hnames : names.map Expr.text = (names.map Literal.text).map .literal := by
    rw [List.map_map]
    rfl
  have hcount : (names.map Literal.text).countP Literal.isParameter = names.length := by
    rw [List.countP_map, List.countP_eq_length]
    exact fun _ _ => rfl
  rw [hnames, parameters_among _ hne, harea, hcount, Nat.zero_add]

end Sql

namespace View

/-- The parameters of a rule are bound twice, one time for the label and one for its rank. -/
theorem overruns_of_areas {v : View} {xSlot ySlot : Slot} {x : Column} {page : Page} {p : Plan}
    (hplan : v.plan page = .ok p) (hlayout : v.layout? = some (.chart xSlot ySlot))
    (hx : v.axis xSlot = .ok x) (hgroups : v.groups ≠ []) {e : Expr} {label : String}
    (hbuckets : v.buckets x = .ofRules [(e, label)]) (he : e.parameters = 1) {names : List String}
    (hne : names ≠ []) (hpredicate : v.scope.predicate = some
      ((Scope.runTerm 1).and (.among (.column areaColumn) (names.map .text))))
    (hlarge : parameterLimit < names.length + 6) (d : Database) : v.Overruns page d := by
  apply overruns_of_many hplan hlayout hgroups hx hpredicate
  have hrun : (Scope.runTerm 1).parameters = 1 := rfl
  obtain ⟨hlabel, hrank⟩ := Buckets.parameters_singleRule e label
  rw [hbuckets, hlabel, hrank, he, Expr.parameters_and, hrun, Expr.parameters_areas hne]
  omega

def regional (n : Nat) : View where
  run := 1
  style := .line
  grain := .building
  parameters := [.column .xAxis "household_size", .column .yAxis "duration", .aggregation .count,
    .areas (.replicate n "n")]

def isThree : Condition :=
  .compare .integer .eq (.integer 3)

def threeTerm : Expr :=
  .binary .eq (.column "household_size") (.integer 3)

def regionalTerm (n : Nat) : Expr :=
  .among (.column areaColumn) ((List.replicate n "n").map .text)

variable {n : Nat}

theorem parameters_regional (hn : n ≠ 0) :
    ((Scope.runTerm 1).and (regionalTerm n)).parameters = n + 1 := by
  have hrun : (Scope.runTerm 1).parameters = 1 := rfl
  have hne : List.replicate n "n" ≠ [] := by simpa using hn
  rw [Expr.parameters_and, regionalTerm, Expr.parameters_areas hne, hrun, List.length_replicate]
  omega

def withThree (n : Nat) : View :=
  (regional n).filtered "filter_size" (isThree.on "household_size")

def markedThree (n : Nat) : View :=
  (regional n).ruled (regional n).parameters [] "group_size" "three" isThree

theorem plan_withThree (n : Nat) :
    ∃ x y, (withThree n).axis .xAxis = .ok x ∧ (withThree n).axis .yAxis = .ok y ∧
      (withThree n).plan {} = .ok ⟨.building, .points x y .count
        ((withThree n).selection [x.name, y.name] {})⟩ :=
  ⟨_, _, rfl, rfl, rfl⟩

theorem plan_markedThree (n : Nat) :
    ∃ x y, (markedThree n).axis .xAxis = .ok x ∧ (markedThree n).axis .yAxis = .ok y ∧
      (markedThree n).plan {} = .ok ⟨.building, .buckets x y ((markedThree n).bucketing x y)⟩ :=
  ⟨_, _, rfl, rfl, rfl⟩

theorem terms_withThree (hn : n ≠ 0) :
    (withThree n).scope.terms = [Scope.runTerm 1, regionalTerm n, threeTerm] := by
  cases n with
  | zero => contradiction
  | succ n => rfl

theorem predicate_withThree (hn : n ≠ 0) :
    (withThree n).scope.predicate =
      some (((Scope.runTerm 1).and (regionalTerm n)).and threeTerm) := by
  rw [Scope.predicate, terms_withThree hn]
  rfl

theorem withinLimits_withThree (hn : n ≠ 0) (hroom : n + 2 ≤ parameterLimit) {p : Plan}
    (hplan : (withThree n).plan {} = .ok p) : p.WithinLimits := by
  obtain ⟨x, y, _, _, hplan'⟩ := plan_withThree n
  obtain rfl := Except.ok.inj (hplan'.symm.trans hplan)
  have hpredicate := predicate_withThree hn
  constructor
  case parameters =>
    have hcount := (withThree n).countP_selection x.name y.name hpredicate
    have hthree : threeTerm.parameters = 1 := rfl
    rw [Expr.parameters_and, parameters_regional hn, hthree] at hcount
    exact Nat.le_trans (Nat.le_of_eq hcount) hroom
  case height =>
    intro c hc
    have hbounds := Expr.height_of_conjunction (withThree n).ofRun_scope.terms hc
    rw [terms_withThree hn] at hbounds
    simp only [List.length_cons, List.length_nil] at hbounds
    unfold heightLimit
    omega
  case columns => exact Nat.le_of_ble_eq_true rfl
  case terms =>
    intro c hc
    apply (withThree n).ofRun_scope.hasLongPattern_eq_false hc
    rw [terms_withThree hn]
    simp only [List.forall_mem_cons, List.not_mem_nil, IsEmpty.forall_iff, implies_true, and_true]
    exact ⟨rfl, rfl, rfl⟩

theorem execute_withThree (hn : n ≠ 0) (hroom : n + 2 ≤ parameterLimit) :
    ∃ x y, Database.store.execute (withThree n) {} {} = (.ok (.chart [] x y .count true), {}) := by
  obtain ⟨x, y, hx, hy, hplan⟩ := plan_withThree n
  have hlimits := withinLimits_withThree hn hroom hplan
  obtain ⟨result, hshows, hresult⟩ := shows_of_withinLimits hplan hlimits {}
  have hempty : (withThree n).base {} = [] := rfl
  have hlayout : (withThree n).layout? = some (.chart .xAxis .yAxis) := rfl
  have hnone : (withThree n).Shows {} {} (.ok (.chart [] x y .count true)) :=
    .rows (List.Perm.of_eq hempty.symm) .nil (.points hlayout hx hy rfl)
  exact ⟨x, y, by rw [hresult, hshows.unique hnone]⟩

theorem predicate_markedThree (hn : n ≠ 0) :
    (markedThree n).scope.predicate = some ((Scope.runTerm 1).and (regionalTerm n)) := by
  cases n with
  | zero => contradiction
  | succ n => rfl

theorem buckets_markedThree {x : Column} (hx : (markedThree n).axis .xAxis = .ok x) :
    (markedThree n).buckets x = .ofRules [(threeTerm, "three")] := by
  cases hx
  rfl

theorem overruns_markedThree (hn : n ≠ 0) (hlarge : parameterLimit < n + 6) (d : Database) :
    (markedThree n).Overruns {} d := by
  obtain ⟨x, _, hx, _, hplan⟩ := plan_markedThree n
  have hne : List.replicate n "n" ≠ [] := by simpa using hn
  apply overruns_of_areas hplan rfl hx (List.cons_ne_nil _ _) (buckets_markedThree hx) rfl hne
    (predicate_markedThree hn)
  rwa [List.length_replicate]

theorem base_withThree_zero : (withThree 0).base sizeDatabase = [sizeRow] := by
  have hadmits : (withThree 0).scope.admits sizeRow = true := by
    decide +kernel
  exact base_singleton rfl hadmits

theorem withinLimits_markedThree_zero {p : Plan} (hplan : (markedThree 0).plan {} = .ok p) :
    p.WithinLimits := by
  cases hplan
  decide +kernel

/--
A rule reads its condition as a filter on the x column does. If it does not degrade, the only bucket
of a chart that counts has the number of the points that are left with the filter.
-/
theorem rule_reads_as_filter (v : View) (d : Database) :
    (∀ x ∈ v.grain.columns, ∀ (key : String) (c : Condition),
      (c.rescaled (some x)).toExpr? x.name = (c.on x.name).filterTerm? v.grain ∧
        (v.filtered key (c.on x.name)).scope.terms =
          v.scope.terms ++ ((c.on x.name).filterTerm? v.grain).toList) ∧
    (∀ x ∈ v.grain.columns, v.buckets x = Buckets.ofRules (v.groups.filterMap fun (label, c) =>
      ((c.on x.name).filterTerm? v.grain).map (·, label))) ∧
    ∀ xSlot ySlot x before after key key' label (c : Condition) page,
      v.parameters = before ++ after → v.groups = [] →
      v.layout? = some (.chart xSlot ySlot) → v.axis xSlot = .ok x →
      v.aggregation = .count → label ≠ "" → (c.compile x.name).isOk = true →
      (∀ e, (v.ruled before after key label c).plan page = .error e ↔
        (v.filtered key' (c.on x.name)).plan {} = .error e) ∧
      ∀ p q, (v.ruled before after key label c).plan page = .ok p →
        (v.filtered key' (c.on x.name)).plan {} = .ok q → (p.WithinLimits → q.WithinLimits) ∧
        ((∃ P Q, Database.store.execute (v.ruled before after key label c) page d = (.ok P, d) ∧
            Database.store.execute (v.filtered key' (c.on x.name)) {} d = (.ok Q, d) ∧
            CountsPoints label Q P) ∨
          (v.ruled before after key label c).Overruns page d ∨
            (v.filtered key' (c.on x.name)).Overruns {} d) := by
  refine ⟨?_, ?_, ?_⟩
  · intro x hx key c
    exact ⟨(Condition.filterTerm?_on hx c).symm, terms_filtered v key _⟩
  · intro x hx
    exact congrArg Buckets.ofRules (v.rules_eq_filterTerms hx)
  · intro xSlot ySlot x before after key key' label c page hv hgroups hlayout hx hcount hlabel hc
    have hshape := sameShape_ruled hv key label c
    have hshape' := v.sameShape_filtered key' (c.on x.name)
    constructor
    · intro e
      rw [plan_page_of_groups (not_byRow_ruled hv hgroups hlayout) page {}]
      constructor
      · exact fun h => hshape'.symm.plan_eq_error (hshape.plan_eq_error h)
      · exact fun h => hshape.symm.plan_eq_error (hshape'.plan_eq_error h)
    · intro p q hp hq
      obtain ⟨e, hterm⟩ : ∃ e, (c.on x.name).filterTerm? v.grain = some e := by
        apply Option.ne_none_iff_exists'.1
        rw [Condition.filterTerm?_on (mem_columns_of_axis hx), ne_eq,
          Condition.toExpr?_eq_none_iff, Condition.isOk_compile_rescaled, hc]
        exact Bool.noConfusion
      refine ⟨withinLimits_of_ruled hv hgroups hlayout hx hterm hp hq, ?_⟩
      rcases answers_or_overruns hp (.inr (hshape.aggregation.trans hcount)) d with
        ⟨P, hP⟩ | hoverruns
      · rcases answers_or_overruns hq (.inr (hshape'.aggregation.trans hcount)) d with
          ⟨Q, hQ⟩ | hoverruns
        · left
          refine ⟨P, Q, hP, hQ, ?_⟩
          obtain ⟨y, hy, rfl⟩ := shows_ruled hv hgroups hlayout hx hcount hlabel hterm
            (shows_of_execute hp hP)
          obtain ⟨y', ps, hy', rfl, hlength⟩ := shows_filtered hgroups hlayout hx hcount hterm
            (shows_of_execute hq hQ)
          obtain rfl := Except.ok.inj (hy.symm.trans hy')
          rw [← hlength]
          exact .intro ps x y
        · exact .inr (.inr hoverruns)
      · exact .inr (.inl hoverruns)

theorem rule_reads_as_filter_three :
    ∃ x y, (isThree.rescaled (some x)).toExpr? x.name = some threeTerm ∧
      Database.store.execute (withThree 0) {} sizeDatabase =
        (.ok (.chart [⟨.integer 3, .integer 5⟩] x y .count true), sizeDatabase) ∧
      Database.store.execute (markedThree 0) {} sizeDatabase =
        (.ok (.chart [⟨.text "three", .integer 1⟩] x y .count false), sizeDatabase) := by
  obtain ⟨x, y, hx, hy, hq⟩ := plan_withThree 0
  obtain ⟨_, _, _, _, hp⟩ := plan_markedThree 0
  have hname : x.name = "household_size" := by
    cases hx
    rfl
  have hx' : (regional 0).axis .xAxis = .ok x := hx
  obtain ⟨hterms, _, hcharts⟩ := rule_reads_as_filter (regional 0) sizeDatabase
  obtain ⟨hterm, _⟩ := hterms x (mem_columns_of_axis hx') "filter_size" isThree
  obtain ⟨_, hresults⟩ := hcharts .xAxis .yAxis x (regional 0).parameters [] "group_size"
    "filter_size" "three" isThree {} (List.append_nil _).symm rfl rfl hx' rfl (by decide) rfl
  rw [hname] at hresults
  obtain ⟨hwithin, hresults⟩ := hresults _ _ hp hq
  have hruled := withinLimits_markedThree_zero hp
  refine ⟨x, y, ?_, ?_⟩
  · rw [hterm, hname]
    rfl
  rcases hresults with ⟨P, Q, hP, hQ, hpoints⟩ | ⟨p, _, hplan, hover, _⟩ | ⟨q, _, hplan, hover, _⟩
  · obtain ⟨rows, hperm, _, hpayload⟩ := (shows_of_execute hq hQ).exists_rows (.inr rfl)
    rw [base_withThree_zero, List.perm_singleton] at hperm
    subst hperm
    have hlayout : (withThree 0).layout? = some (.chart .xAxis .yAxis) := rfl
    have hone : (withThree 0).Presents [sizeRow] _ := .points hlayout hx hy rfl
    obtain rfl := hpayload.unique hone
    cases hpoints
    cases hx
    cases hy
    exact ⟨hQ, hP⟩
  · exact absurd (Except.ok.inj (hp.symm.trans hplan) ▸ hruled) hover
  · exact absurd (Except.ok.inj (hq.symm.trans hplan) ▸ hwithin hruled) hover

/-- The chart with the filter has room for as many areas, and the one with the rule has not. -/
theorem execute_regional :
    let v := regional 32764
    v.groups = [] ∧ v.layout? = some (.chart .xAxis .yAxis) ∧ v.aggregation = .count ∧
      (∃ x, v.axis .xAxis = .ok x ∧ x.name = "household_size") ∧
      (isThree.compile "household_size").isOk = true ∧
      (∃ x y, Database.store.execute
        (v.filtered "filter_size" (isThree.on "household_size")) {} {} =
          (.ok (.chart [] x y .count true), {})) ∧
      ∃ e, Database.store.execute (v.ruled v.parameters [] "group_size" "three" isThree) {} {} =
        (.error e, {}) := by
  have hn : 32764 ≠ 0 := by decide
  refine ⟨rfl, rfl, rfl, ⟨_, rfl, rfl⟩, rfl, ?_, ?_⟩
  · exact execute_withThree hn (by decide)
  · obtain ⟨_, e, _, _, h⟩ := overruns_markedThree hn (by decide) {}
    exact ⟨_, h⟩

end View

end Vacancy
