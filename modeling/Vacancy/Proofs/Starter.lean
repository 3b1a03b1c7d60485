import Vacancy.Proofs.Choices
import Vacancy.Proofs.KeptKinds
import Vacancy.Proofs.Numeral
import Vacancy.Proofs.RuleAsFilter
import Vacancy.View.Starter

/-!
The rules that a new chart starts with. They have keys of their own, so that they are added one
after the other to a view that has no such keys. On a chart of dates, each row that no rule labels
yet has the year of its date as its label, if the date is one of those that the rules were made of.
-/

namespace Vacancy

open Sql

namespace Parameter

/-! ### Keys -/

theorem toList_toString (i : Nat) : (toString i).toList = Nat.toDigits 10 i := by
  rw [Nat.toString_eq_repr, Nat.repr_eq_ofList_toDigits, String.toList_ofList]

theorem toString_inj {i j : Nat} (h : toString i = toString j) : i = j := by
  have hdigits := congrArg String.toList h
  rw [toList_toString, toList_toString] at hdigits
  have hnumbers := congrArg (Nat.ofDigitChars 10 · 0) hdigits
  simpa [Nat.ofDigitChars_toDigits] using hnumbers

theorem toString_ne (i : Nat) : toString i ≠ "aggregation" := by
  intro h
  have hdigits := Decimal.IsDigits.toDigits i
  rw [← toList_toString, h] at hdigits
  exact absurd (hdigits 'a' (by decide)) (by decide)

theorem aggregationKey_eq : aggregationKey = groupStem ++ "aggregation" := by
  decide

theorem nodup_numbered (n : Nat) :
    ((List.range n).map (fun i => groupStem ++ toString i) ++ [aggregationKey]).Nodup := by
  rw [← List.concat_eq_append, List.nodup_concat]
  constructor
  · intro h
    obtain ⟨i, _, hi⟩ := List.mem_map.1 h
    rw [aggregationKey_eq, String.append_right_inj] at hi
    exact toString_ne i hi
  · apply List.Nodup.map _ List.nodup_range
    intro i j h
    exact toString_inj ((String.append_right_inj _).1 h)

end Parameter

namespace View

/-! ### Years -/

theorem utf8ByteSize_ofList_cons (c : Char) (cs : List Char) :
    (String.ofList (c :: cs)).utf8ByteSize = c.utf8Size + (String.ofList cs).utf8ByteSize := by
  simp only [String.ofList_cons, String.utf8ByteSize_append, String.utf8ByteSize_singleton]

theorem takeBytes?_eq_some {n : Nat} {cs as : List Char} :
    takeBytes? n cs = some as ↔ ∃ bs, cs = as ++ bs ∧ (String.ofList as).utf8ByteSize = n := by
  fun_induction takeBytes? n cs generalizing as with
  | case1 cs =>
    constructor
    · rintro ⟨⟩
      exact ⟨cs, rfl, rfl⟩
    · rintro ⟨bs, rfl, has⟩
      cases as with
      | nil => rfl
      | cons c as =>
        have hc := c.utf8Size_pos
        rw [utf8ByteSize_ofList_cons] at has
        omega
  | case2 n =>
    constructor
    · nofun
    · rintro ⟨bs, hnil, has⟩
      obtain ⟨rfl, _⟩ := List.append_eq_nil_iff.1 hnil.symm
      contradiction
  | case3 n c cs h ih =>
    rw [Option.map_eq_some_iff]
    constructor
    · rintro ⟨as, has, rfl⟩
      obtain ⟨bs, rfl, hsize⟩ := ih.1 has
      refine ⟨bs, rfl, ?_⟩
      rw [utf8ByteSize_ofList_cons, hsize]
      omega
    · rintro ⟨bs, hcs, hsize⟩
      cases as with
      | nil => contradiction
      | cons c' as =>
        obtain ⟨rfl, rfl⟩ := List.cons.inj hcs
        rw [utf8ByteSize_ofList_cons] at hsize
        exact ⟨as, ih.2 ⟨bs, rfl, by omega⟩, rfl⟩
  | case4 n c cs h =>
    constructor
    · nofun
    · rintro ⟨bs, hcs, hsize⟩
      cases as with
      | nil => contradiction
      | cons c' as =>
        obtain ⟨rfl, _⟩ := List.cons.inj hcs
        rw [utf8ByteSize_ofList_cons] at hsize
        omega

theorem yearOf?_eq_some {date year : String} :
    yearOf? date = some year ↔ ∃ rest, date = year ++ rest ∧ year.utf8ByteSize = 4 := by
  rw [yearOf?, Option.map_eq_some_iff]
  constructor
  · rintro ⟨as, has, rfl⟩
    obtain ⟨bs, hdate, hsize⟩ := takeBytes?_eq_some.1 has
    refine ⟨String.ofList bs, ?_, hsize⟩
    rw [← String.ofList_append, ← hdate, String.ofList_toList]
  · rintro ⟨rest, rfl, hsize⟩
    refine ⟨year.toList, takeBytes?_eq_some.2 ⟨rest.toList, String.toList_append, ?_⟩, ?_⟩
    · rw [String.ofList_toList, hsize]
    · exact String.ofList_toList

/-! ### Adding rules -/

theorem insertInto_of_fresh {p : Parameter} {ps : List Parameter}
    (h : p.key ∉ ps.map Parameter.key) : insertInto p ps = ps ++ [p] := by
  induction ps with
  | nil => rfl
  | cons q qs ih =>
    rw [List.map_cons, List.mem_cons, not_or] at h
    rw [insertInto, if_neg (Ne.symm h.1), ih h.2, List.cons_append]

theorem foldl_insert_of_fresh {ps : List Parameter} (v : View)
    (hnodup : (ps.map Parameter.key).Nodup)
    (hfresh : ∀ p ∈ ps, p.key ∉ v.parameters.map Parameter.key) :
    ps.foldl insert v = { v with parameters := v.parameters ++ ps } := by
  induction ps generalizing v with
  | nil => rw [List.foldl_nil, List.append_nil]
  | cons p ps ih =>
    rw [List.map_cons, List.nodup_cons] at hnodup
    rw [List.forall_mem_cons] at hfresh
    have hinsert : v.insert p = { v with parameters := v.parameters ++ [p] } := by
      rw [insert, insertInto_of_fresh hfresh.1]
    rw [List.foldl_cons, hinsert, ih _ hnodup.2, List.append_assoc, List.singleton_append]
    intro q hq
    rw [List.map_append, List.mem_append, not_or]
    refine ⟨hfresh.2 q hq, ?_⟩
    rw [List.map_singleton, List.mem_singleton]
    intro hkey
    exact hnodup.1 (hkey ▸ List.mem_map_of_mem hq)

def numbered (rules : List (String × Condition)) (a : Aggregation) : List Parameter :=
  (rules.zipIdx.map fun (rule, i) => Parameter.groupNamed (toString i) rule.1 rule.2) ++
    [.aggregation a]

variable {v : View} {rules : List (String × Condition)} {a : Aggregation}

theorem keys_numbered (rules : List (String × Condition)) (a : Aggregation) :
    (numbered rules a).map Parameter.key =
      (List.range rules.length).map (fun i => Parameter.groupStem ++ toString i) ++
        [Parameter.aggregationKey] := by
  have hindices : rules.zipIdx.map Prod.snd = List.range rules.length := by
    rw [List.zipIdx_map_snd, List.range_eq_range']
  rw [numbered, List.map_append, List.map_map, ← hindices, List.map_map]
  rfl

theorem startsWith_of_mem_numbered {p : Parameter} (hp : p ∈ numbered rules a) :
    Parameter.startsWith Parameter.groupStem p.key = true := by
  rw [numbered, List.mem_append, List.mem_singleton] at hp
  rcases hp with hp | rfl
  · obtain ⟨⟨rule, i⟩, _, rfl⟩ := List.mem_map.1 hp
    exact Parameter.startsWith_append _ _
  · rw [Parameter.key, Parameter.aggregationKey_eq]
    exact Parameter.startsWith_append _ _

/-- No parameter has a key like those of rules. -/
def HasNoRuleKeys (v : View) : Prop :=
  ∀ p ∈ v.parameters, Parameter.startsWith Parameter.groupStem p.key = false

theorem foldl_numbered (hv : v.HasNoRuleKeys) (rules : List (String × Condition))
    (a : Aggregation) : (numbered rules a).foldl insert v =
      { v with parameters := v.parameters ++ numbered rules a } := by
  apply foldl_insert_of_fresh
  · rw [keys_numbered]
    exact Parameter.nodup_numbered _
  · intro p hp hkey
    obtain ⟨q, hq, hkey⟩ := List.mem_map.1 hkey
    have hstem := hv q hq
    rw [hkey, startsWith_of_mem_numbered hp] at hstem
    contradiction

theorem groups_append_numbered (v : View) (rules : List (String × Condition)) (a : Aggregation) :
    ({ v with parameters := v.parameters ++ numbered rules a } : View).groups =
      v.groups ++ rules := by
  have hrules : rules.zipIdx.filterMap (some ∘ Prod.fst) = rules := by
    rw [List.filterMap_eq_map, List.zipIdx_map_fst]
  rw [groups, groups, List.filterMap_append, numbered, List.filterMap_append, List.filterMap_map]
  exact congrArg (v.groups ++ ·) ((List.append_nil _).trans hrules)

theorem aggregation_append_numbered (hv : v.HasNoRuleKeys) (rules : List (String × Condition))
    (a : Aggregation) :
    ({ v with parameters := v.parameters ++ numbered rules a } : View).aggregation = a := by
  have hnone : v.parameters.find? (·.kind = .aggregation) = none := by
    rw [List.find?_eq_none]
    intro p hp
    rw [decide_eq_true_eq]
    intro hkind
    have hkey := Parameter.key_of_kind rfl hkind
    exact absurd (hkey ▸ hv p hp) (by decide)
  have hrules : (rules.zipIdx.map fun (rule, i) =>
      Parameter.groupNamed (toString i) rule.1 rule.2).find? (·.kind = .aggregation) = none := by
    rw [List.find?_eq_none]
    intro p hp
    obtain ⟨_, _, rfl⟩ := List.mem_map.1 hp
    exact Bool.false_ne_true
  rw [aggregation_eq_first?, first?, List.find?_append, hnone, numbered, List.find?_append, hrules]
  rfl

theorem kind_of_mem_numbered {p : Parameter} (hp : p ∈ numbered rules a) :
    p.kind = .group ∨ p.kind = .aggregation := by
  rw [numbered, List.mem_append, List.mem_singleton] at hp
  rcases hp with hp | rfl
  · obtain ⟨_, _, rfl⟩ := List.mem_map.1 hp
    exact .inl rfl
  · exact .inr rfl

theorem ofKind_append_numbered (v : View) (rules : List (String × Condition)) (a : Aggregation)
    {k : Parameter.Kind} (hgroup : k ≠ .group) (haggregation : k ≠ .aggregation) :
    ({ v with parameters := v.parameters ++ numbered rules a } : View).ofKind k = v.ofKind k := by
  have hnone : (numbered rules a).filter (·.kind = k) = [] := by
    rw [List.filter_eq_nil_iff]
    intro p hp
    rw [decide_eq_true_eq]
    rintro rfl
    exact (kind_of_mem_numbered hp).elim hgroup haggregation
  rw [ofKind, ofKind, List.filter_append, hnone, List.append_nil]

theorem scope_append_numbered (v : View) (rules : List (String × Condition)) (a : Aggregation) :
    ({ v with parameters := v.parameters ++ numbered rules a } : View).scope = v.scope := by
  have hyear := sameReading_of_ofKind (ofKind_append_numbered v rules a (k := .year) nofun nofun)
  have hareas := sameReading_of_ofKind (ofKind_append_numbered v rules a (k := .areas) nofun nofun)
  have hfilters :=
    sameReading_of_ofKind (ofKind_append_numbered v rules a (k := .filter) nofun nofun)
  rw [scope, scope, hyear, hareas, hfilters]

theorem base_append_numbered (v : View) (rules : List (String × Condition)) (a : Aggregation)
    (d : Database) :
    ({ v with parameters := v.parameters ++ numbered rules a } : View).base d = v.base d := by
  unfold base
  rw [scope_append_numbered]

/-- A view of which every parameter was read or made has rules under such keys only. -/
theorem groups_of_isBuilt (hv : v.HasNoRuleKeys) (hbuilt : ∀ p ∈ v.parameters, p.IsBuilt) :
    v.groups = [] := by
  rw [groups, List.filterMap_eq_nil_iff]
  intro p hp
  cases p with
  | group key label c =>
    have hkey : Parameter.startsWith Parameter.groupStem key = true := (hbuilt _ hp).isKeyed
    exact absurd (hkey.symm.trans (hv _ hp)) (by decide)
  | _ => rfl

/-! ### The rules of dates -/

def years (dates : List String) : List (String × String) :=
  dates.filterMap fun date => (yearOf? date).map (date, ·)

def dateRule (p : String × String) : String × Condition :=
  (p.2 ++ "年", .compare .date .eq (.text p.1))

theorem lineStarter_eq (dates : List String) :
    lineStarter dates = numbered ((years dates).map dateRule) .average := by
  rw [numbered, List.zipIdx_map, List.map_map]
  rfl

/-! ### Charts of dates -/

variable {dates : List String} {x : Column} {g : Grain} {r : Row} {l : String} {d : Database}

theorem holds_of_mem_base (hr : r ∈ v.base d) : Table.Holds v.grain r :=
  (d.table v.grain).holds r (List.mem_filter.1 hr).1

theorem buckets_eq_ofRules (v : View) (x : Column) : v.buckets x = .ofRules (v.rules x) :=
  rfl

theorem yearOf?_of_mem_years {p : String × String} (hp : p ∈ years dates) :
    yearOf? p.1 = some p.2 := by
  obtain ⟨date, _, hdate⟩ := List.mem_filterMap.1 hp
  obtain ⟨year, hyear, rfl⟩ := Option.map_eq_some_iff.1 hdate
  exact hyear

theorem dates_years (dates : List String) :
    (years dates).map Prod.fst = dates.filter fun date => (yearOf? date).isSome := by
  rw [years, List.map_filterMap, ← List.filterMap_eq_filter]
  congr 1
  funext date
  cases h : yearOf? date <;> simp [h, Option.guard]

theorem year_unique {p q : String × String} (hp : p ∈ years dates) (hq : q ∈ years dates)
    (h : p.1 = q.1) : p = q := by
  have hyear := yearOf?_of_mem_years hp
  rw [h, yearOf?_of_mem_years hq, Option.some.injEq] at hyear
  exact Prod.ext h hyear.symm

def dateTerms (dates : List String) : List (Expr × String) :=
  (years dates).map fun p => (Predicate.compared dateColumn .eq (.text p.1), p.2 ++ "年")

theorem rules_append_dates {w : View} (hgroups : w.groups = v.groups ++ (years dates).map dateRule)
    (hx : x.name = dateColumn) : w.rules x = v.rules x ++ dateTerms dates := by
  rw [rules, rules, Buckets.rules, Buckets.rules, hgroups, List.map_append, List.filterMap_append,
    List.append_cancel_left_eq, List.map_map, List.filterMap_map, dateTerms,
    ← List.filterMap_eq_map]
  congr 1
  funext p
  have hscaled : (dateRule p).2.rescaled (some x) = (dateRule p).2 := by
    rw [Condition.rescaled, dateRule]
    simp [Condition.compare, OperandType.isFloat]
  simp only [Function.comp_apply, hscaled, hx]
  rfl

theorem label?_dateTerms (h : Table.Holds g r) :
    Buckets.label? (dateTerms dates) g.schema r =
      ((years dates).find? fun p => r.date? = some p.1).map (·.2 ++ "年") := by
  have hadmits : ∀ date, (Predicate.compared dateColumn .eq (.text date)).admits g.schema r =
      decide (r.date? = some date) := Expr.admits_eq_text h g.affinity?_date
  rw [Buckets.label?, dateTerms, List.find?_map, Option.map_map]
  simp only [Function.comp_def, hadmits]

theorem find?_eq_some_iff_of_unique {α : Type} {p : α → Bool} {as : List α} {a : α}
    (hunique : ∀ b ∈ as, ∀ c ∈ as, p b = true → p c = true → b = c) :
    as.find? p = some a ↔ a ∈ as ∧ p a = true := by
  constructor
  · intro h
    exact ⟨List.mem_of_find?_eq_some h, List.find?_some h⟩
  · rintro ⟨ha, hp⟩
    cases h : as.find? p with
    | none => exact absurd hp (List.find?_eq_none.1 h a ha)
    | some b => rw [hunique b (List.mem_of_find?_eq_some h) a ha (List.find?_some h) hp]

theorem label?_dateTerms_eq_some (h : Table.Holds g r) :
    Buckets.label? (dateTerms dates) g.schema r = some l ↔
      ∃ p ∈ years dates, r.date? = some p.1 ∧ p.2 ++ "年" = l := by
  have hunique : ∀ p ∈ years dates, ∀ q ∈ years dates,
      decide (r.date? = some p.1) = true → decide (r.date? = some q.1) = true → p = q := by
    intro p hp q hq hdate hdate'
    rw [decide_eq_true_eq] at hdate hdate'
    exact year_unique hp hq (Option.some.inj (hdate.symm.trans hdate'))
  rw [label?_dateTerms h, Option.map_eq_some_iff]
  simp only [find?_eq_some_iff_of_unique hunique, decide_eq_true_eq, and_assoc]

theorem label?_dateTerms_eq_none (h : Table.Holds g r) :
    Buckets.label? (dateTerms dates) g.schema r = none ↔
      ∀ p ∈ years dates, r.date? ≠ some p.1 := by
  rw [label?_dateTerms h, Option.map_eq_none_iff, List.find?_eq_none]
  simp only [decide_eq_true_eq, ne_eq]

theorem eval_label_eq_text {rules : List (Expr × String)} {fs : Fields} :
    (Buckets.ofRules rules).label.eval fs (.single r) = .text l ↔
      Buckets.label? rules fs r = some l := by
  rw [Buckets.eval_label]
  cases Buckets.label? rules fs r <;> simp

theorem eval_label_eq_null {rules : List (Expr × String)} {fs : Fields} :
    (Buckets.ofRules rules).label.eval fs (.single r) = .null ↔
      Buckets.label? rules fs r = none := by
  rw [Buckets.eval_label]
  cases Buckets.label? rules fs r <;> simp

theorem series_average (rules : List (Expr × String)) (fs : Fields) (rows : List Row)
    (column : String) (labels : List String) :
    Buckets.series rules fs rows .average column labels = .ok (labels.map fun l =>
      ⟨.text l, averageOf ((Buckets.labelled rules fs rows l).map (·.cell column))⟩) := by
  apply mapM_eq_ok
  intro l _
  rw [Buckets.value, Aggregation.valueOf, Aggregation.averageOf_known]
  rfl

theorem execute_series {page : Page} {p : Plan} {xSlot ySlot : Slot}
    (hplan : v.plan page = .ok p) (hlayout : v.layout? = some (.chart xSlot ySlot))
    (hx : v.axis xSlot = .ok x) (hgroups : v.groups ≠ []) (d : Database) :
    (∃ y labels, v.axis ySlot = .ok y ∧ Buckets.Lists (v.rules x) v.grain.schema (v.base d) labels ∧
      Database.store.execute v page d =
        (((Buckets.series (v.rules x) v.grain.schema (v.base d) v.aggregation y.name labels).map
          fun points => .chart points x y v.aggregation false).mapError fun e => .store (.sql e),
          d)) ∨ v.Overruns page d := by
  refine (execute_shows hplan d).imp_left ?_
  rintro ⟨result, hshows, hresult⟩
  cases hshows with
  | rows _ _ hpayload => exact absurd (hpayload.not_series hlayout) hgroups
  | series hlayout' hx' hy _ hlists =>
    rw [hlayout, Option.some.injEq, Layout.chart.injEq] at hlayout'
    obtain ⟨rfl, rfl⟩ := hlayout'
    obtain rfl := Except.ok.inj (hx.symm.trans hx')
    exact ⟨_, _, hy, hlists, hresult⟩

theorem execute_average {page : Page} {p : Plan} {xSlot ySlot : Slot}
    (hplan : v.plan page = .ok p) (hlayout : v.layout? = some (.chart xSlot ySlot))
    (hx : v.axis xSlot = .ok x) (hgroups : v.groups ≠ []) (ha : v.aggregation = .average)
    (d : Database) :
    (∃ y labels, v.axis ySlot = .ok y ∧ Buckets.Lists (v.rules x) v.grain.schema (v.base d) labels ∧
      Database.store.execute v page d = (.ok (.chart (labels.map fun l => ⟨.text l, averageOf
        ((Buckets.labelled (v.rules x) v.grain.schema (v.base d) l).map (·.cell y.name))⟩)
          x y .average false), d)) ∨ v.Overruns page d := by
  refine (execute_series hplan hlayout hx hgroups d).imp_left ?_
  rintro ⟨y, labels, hy, hlists, hresult⟩
  rw [ha, series_average] at hresult
  exact ⟨y, labels, hy, hlists, hresult⟩

/--
The last rules of a chart sort rows by date. All of these can be used; a row that no rule before
them labels has the label of its date, or none. A chart of averages shows the labels.
-/
structure SortsDates (v : View) (x : Column) (before : List (Expr × String))
    (ds : List (String × String)) : Prop where
  usable : ∀ p ∈ ds, (((dateRule p).2.rescaled (some x)).compile x.name).isOk = true
  earlier : ∀ d, ∀ r ∈ v.base d, ∀ l, Buckets.label? before v.grain.schema r = some l →
    (v.buckets x).label.eval v.grain.schema (.single r) = .text l
  listed : ∀ d, ∀ r ∈ v.base d, Buckets.label? before v.grain.schema r = none →
    ∀ p ∈ ds, r.date? = some p.1 →
      (v.buckets x).label.eval v.grain.schema (.single r) = .text (p.2 ++ "年")
  unlisted : ∀ d, ∀ r ∈ v.base d, Buckets.label? before v.grain.schema r = none →
    (∀ p ∈ ds, r.date? ≠ some p.1) →
      (v.buckets x).label.eval v.grain.schema (.single r) = .null
  chart : ∀ xSlot ySlot page p d, v.plan page = .ok p → v.layout? = some (.chart xSlot ySlot) →
    v.axis xSlot = .ok x → v.groups ≠ [] →
    (∃ (y : Column) (labels : List String), labels.Nodup ∧
      (∀ l, l ∈ labels ↔ l ≠ "" ∧ ∃ r ∈ v.base d,
        (v.buckets x).label.eval v.grain.schema (.single r) = .text l) ∧
      Database.store.execute v page d = (.ok (.chart (labels.map fun l => ⟨.text l, averageOf
        ((Buckets.labelled (v.rules x) v.grain.schema (v.base d) l).map (·.cell y.name))⟩)
          x y .average false), d)) ∨ v.Overruns page d

theorem sortsDates {w : View} (hgroups : w.groups = v.groups ++ (years dates).map dateRule)
    (hx : x.name = dateColumn) (ha : w.aggregation = .average) :
    w.SortsDates x (v.rules x) (years dates) := by
  have hlabel : ∀ r, Buckets.label? (w.rules x) w.grain.schema r =
      (Buckets.label? (v.rules x) w.grain.schema r).or
        (Buckets.label? (dateTerms dates) w.grain.schema r) := by
    intro r
    rw [rules_append_dates hgroups hx, Buckets.label?_append]
  constructor
  case usable =>
    intro p _
    rw [Condition.isOk_compile_rescaled]
    rfl
  case earlier =>
    intro d r _ l hl
    rw [buckets_eq_ofRules, eval_label_eq_text, hlabel, hl, Option.some_or]
  case listed =>
    intro d r hr hnone p hp hdate
    rw [buckets_eq_ofRules, eval_label_eq_text, hlabel, hnone, Option.none_or]
    exact (label?_dateTerms_eq_some (holds_of_mem_base hr)).2 ⟨p, hp, hdate, rfl⟩
  case unlisted =>
    intro d r hr hnone hdates
    rw [buckets_eq_ofRules, eval_label_eq_null, hlabel, hnone, Option.none_or]
    exact (label?_dateTerms_eq_none (holds_of_mem_base hr)).2 hdates
  case chart =>
    intro xSlot ySlot page p d hplan hlayout haxis hne
    refine (execute_average hplan hlayout haxis hne ha d).imp_left ?_
    rintro ⟨y, labels, _, hlists, hresult⟩
    refine ⟨y, labels, hlists.nodup, fun l => ?_, hresult⟩
    simp only [buckets_eq_ofRules, eval_label_eq_text]
    exact hlists.mem_iff l

/--
The starter of a chart of dates has a rule with a key of its own for each date that has a year, and
the average. Added to a view without such keys, it comes last and restricts nothing. A view that was
made or read then has no other rules, and its rows have the year of their date for a label, or no
label; other rules of a view go first.
-/
theorem foldl_lineStarter {v : View} (hv : v.HasNoRuleKeys) (dates : List String) :
    (∀ date year, yearOf? date = some year ↔
      ∃ rest, date = year ++ rest ∧ year.utf8ByteSize = 4) ∧
    (years dates).map Prod.fst = dates.filter (fun date => (yearOf? date).isSome) ∧
    (∀ p ∈ years dates, yearOf? p.1 = some p.2) ∧
    (lineStarter dates).map Parameter.key =
      (List.range (years dates).length).map (fun i => "group_" ++ toString i) ++
        ["group_aggregation"] ∧
    ((lineStarter dates).map Parameter.key).Nodup ∧
    let w := (lineStarter dates).foldl insert v
    w = { v with parameters := v.parameters ++ lineStarter dates } ∧
      w.groups = v.groups ++ (years dates).map dateRule ∧ w.aggregation = .average ∧
      (∀ d, w.base d = v.base d) ∧
      ((∀ p ∈ v.parameters, p.IsBuilt) →
        w.groups = (years dates).map dateRule ∧ ∀ x, v.rules x = []) ∧
      ∀ x : Column, x.name = dateColumn → w.SortsDates x (v.rules x) (years dates) := by
  have hkeys := keys_numbered ((years dates).map dateRule) .average
  have hfold := foldl_numbered hv ((years dates).map dateRule) .average
  have hgroups := groups_append_numbered v ((years dates).map dateRule) .average
  have haggregation := aggregation_append_numbered hv ((years dates).map dateRule) .average
  have hbase := base_append_numbered v ((years dates).map dateRule) .average
  rw [← lineStarter_eq] at hkeys hfold hgroups haggregation
  rw [List.length_map] at hkeys
  refine ⟨fun _ _ => yearOf?_eq_some, dates_years dates, fun _ => yearOf?_of_mem_years, hkeys, ?_,
    ?_⟩
  · rw [hkeys]
    exact Parameter.nodup_numbered _
  · dsimp only
    rw [hfold]
    refine ⟨rfl, hgroups, haggregation, ?_, ?_, fun x hx => sortsDates hgroups hx haggregation⟩
    · rw [lineStarter_eq]
      exact hbase
    · intro hbuilt
      have hnone := groups_of_isBuilt hv hbuilt
      rw [hgroups, hnone]
      refine ⟨rfl, fun x => ?_⟩
      rw [rules, Buckets.rules, hnone]
      rfl

def placedRow : Row :=
  placedAt 1 1 (.text "2020-04-01") (.text "東町")

theorem holds_placedRow : Table.Holds .building placedRow :=
  holds_placedAt 1 1 (.text "2020-04-01") (.text "東町")

def placedDatabase : Database :=
  ({} : Database).withTable .building (Table.empty.add placedRow holds_placedRow)

def dated : View where
  run := 1
  style := .line
  grain := .building
  parameters := [.column .xAxis dateColumn, .column .yAxis "household_size"]

theorem hasNoRuleKeys_dated : dated.HasNoRuleKeys := by
  unfold HasNoRuleKeys
  decide

theorem foldl_lineStarter_dated :
    let dates := ["2020-04-01", "昭和", "令6"]
    let w := (lineStarter dates).foldl insert dated
    dated.HasNoRuleKeys ∧ years dates = [("2020-04-01", "2020"), ("令6", "令6")] ∧
      ∃ x, w.axis .xAxis = .ok x ∧ placedRow ∈ w.base placedDatabase ∧
        (w.buckets x).label.eval w.grain.schema (.single placedRow) = .text "2020年" := by
  intro dates w
  have hyears : years dates = [("2020-04-01", "2020"), ("令6", "令6")] := by
    decide +kernel
  obtain ⟨_, _, _, _, _, _, _, _, _, _, hsorts⟩ := foldl_lineStarter hasNoRuleKeys_dated dates
  obtain ⟨x, hx⟩ : ∃ x, w.axis .xAxis = .ok x := ⟨_, rfl⟩
  have hname : x.name = dateColumn := by
    cases hx
    rfl
  have hbase : placedRow ∈ w.base placedDatabase := by
    have hadmits : w.scope.admits placedRow = true := by
      decide +kernel
    rw [base_singleton rfl hadmits]
    exact List.mem_singleton_self _
  have hmem : ("2020-04-01", "2020") ∈ years dates := by
    rw [hyears]
    exact List.mem_cons_self
  have hdate : placedRow.date? = some "2020-04-01" := rfl
  exact ⟨hasNoRuleKeys_dated, hyears, x, hx, hbase,
    (hsorts x hname).listed _ _ hbase rfl _ hmem hdate⟩

/-! ### Other rules, and many areas -/

/-- The line with a rule under another key. -/
def marked : View :=
  { dated with parameters := dated.parameters ++
      [.group "other" "x" (.compare .date .eq (.text "2020-04-01"))] }

/-- The line in so many areas. -/
def crowded (n : Nat) : View :=
  { dated with parameters := dated.parameters ++ [.areas (.replicate n "東町")] }

theorem years_singleton : years ["2020-04-01"] = [("2020-04-01", "2020")] := by
  decide +kernel

def dayRules : List (String × Condition) :=
  [dateRule ("2020-04-01", "2020")]

theorem lineStarter_singleton : lineStarter ["2020-04-01"] = numbered dayRules .average := by
  rw [lineStarter_eq, years_singleton, List.map_singleton, dayRules]

theorem hasNoRuleKeys_marked : marked.HasNoRuleKeys := by
  unfold HasNoRuleKeys
  decide

theorem hasNoRuleKeys_crowded (n : Nat) : (crowded n).HasNoRuleKeys := by
  unfold HasNoRuleKeys
  rw [crowded, List.forall_mem_append]
  refine ⟨hasNoRuleKeys_dated, ?_⟩
  rw [List.forall_mem_singleton, Parameter.key]
  decide

variable {n : Nat}

theorem terms_crowded (hn : n ≠ 0) : (crowded n).scope.terms =
    [Scope.runTerm 1, .among (.column areaColumn) ((List.replicate n "東町").map .text)] := by
  cases n with
  | zero => contradiction
  | succ n => rfl

theorem base_crowded (hn : n ≠ 0) : (crowded n).base placedDatabase = [placedRow] := by
  have hrun : (Scope.runTerm 1).admits Grain.building.schema placedRow = true := by
    decide +kernel
  have hplace : (Predicate.compared areaColumn .eq (.text "東町")).admits Grain.building.schema
      placedRow = true := by
    decide +kernel
  have harea : (Expr.among (.column areaColumn) ((List.replicate n "東町").map .text)).admits
      Grain.building.schema placedRow = true := by
    rw [Expr.admits_among, List.any_eq_true]
    exact ⟨"東町", List.mem_replicate.2 ⟨hn, rfl⟩, hplace⟩
  have hadmits : (crowded n).scope.admits placedRow = true := by
    rw [Scope.admits, terms_crowded hn, List.all_eq_true]
    simp only [List.forall_mem_cons, List.not_mem_nil, IsEmpty.forall_iff, implies_true, and_true]
    exact ⟨hrun, harea⟩
  exact base_singleton rfl hadmits

def crowdedStarted (n : Nat) : View :=
  { crowded n with parameters := (crowded n).parameters ++ numbered dayRules .average }

theorem plan_crowdedStarted (n : Nat) :
    ∃ x y, (crowdedStarted n).axis .xAxis = .ok x ∧ (crowdedStarted n).plan {} =
      .ok ⟨.building, .buckets x y ((crowdedStarted n).bucketing x y)⟩ ∧
      (crowdedStarted n).buckets x =
        .ofRules [(Predicate.compared dateColumn .eq (.text "2020-04-01"), "2020年")] :=
  ⟨_, _, rfl, rfl, rfl⟩

theorem overruns_crowdedStarted (hn : n ≠ 0) (hlarge : parameterLimit < n + 6) (d : Database) :
    (crowdedStarted n).Overruns {} d := by
  have hpredicate : (crowdedStarted n).scope.predicate = some ((Scope.runTerm 1).and
      (.among (.column areaColumn) ((List.replicate n "東町").map .text))) := by
    rw [crowdedStarted, scope_append_numbered, Scope.predicate, terms_crowded hn]
    rfl
  have hne : List.replicate n "東町" ≠ [] := by simpa using hn
  obtain ⟨x, y, hx, hplan, hbuckets⟩ := plan_crowdedStarted n
  apply overruns_of_areas hplan rfl hx (List.cons_ne_nil _ _) hbuckets rfl hne hpredicate
  rwa [List.length_replicate]

/-- A rule under another key goes first, and so many areas leave no room for the rules. -/
theorem label_marked_execute_crowded :
    let dates := ["2020-04-01"]
    let w := (lineStarter dates).foldl insert marked
    let u := (lineStarter dates).foldl insert (crowded 32764)
    years dates = [("2020-04-01", "2020")] ∧ placedRow.date? = some "2020-04-01" ∧
      (marked.HasNoRuleKeys ∧ w.groups ≠ (years dates).map dateRule ∧
        ∃ x, w.axis .xAxis = .ok x ∧ placedRow ∈ w.base placedDatabase ∧
          (w.buckets x).label.eval w.grain.schema (.single placedRow) = .text "x") ∧
      (crowded 32764).HasNoRuleKeys ∧ placedRow ∈ u.base placedDatabase ∧
        ∃ e, Database.store.execute u {} placedDatabase =
          (.error (.store (.sql e)), placedDatabase) := by
  intro dates w u
  have hu : u = crowdedStarted 32764 := by
    rw [crowdedStarted, ← foldl_numbered (hasNoRuleKeys_crowded _), ← lineStarter_singleton]
  have hn : 32764 ≠ 0 := by decide
  have hlarge : parameterLimit < 32764 + 6 := by decide
  have hbase : u.base placedDatabase = [placedRow] := by
    rw [hu, crowdedStarted, base_append_numbered, base_crowded hn]
  obtain ⟨_, e, _, _, hexecute⟩ := overruns_crowdedStarted hn hlarge placedDatabase
  have hw : w = { marked with parameters := marked.parameters ++ numbered dayRules .average } := by
    rw [← foldl_numbered hasNoRuleKeys_marked, ← lineStarter_singleton]
  refine ⟨years_singleton, rfl, ⟨hasNoRuleKeys_marked, ?_, ?_⟩, hasNoRuleKeys_crowded _, ?_, e, ?_⟩
  · rw [hw, groups_append_numbered, years_singleton]
    exact fun h => absurd (congrArg List.length h) (by decide)
  · have hadmits : marked.scope.admits placedRow = true := by
      decide +kernel
    rw [hw, base_append_numbered, base_singleton rfl hadmits]
    refine ⟨_, rfl, List.mem_singleton_self _, ?_⟩
    rw [buckets_eq_ofRules, eval_label_eq_text]
    decide +kernel
  · rw [hbase]
    exact List.mem_singleton_self _
  · rw [hu]
    exact hexecute

end View

end Vacancy
