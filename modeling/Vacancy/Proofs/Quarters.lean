import Mathlib.Algebra.GroupWithZero.Nat
import Vacancy.Proofs.Starter

/-!
The pie that a new chart starts as. It counts the rows whose estimated probability lies within a
quarter, both bounds included. The quarters are whole percentages, and between the last one of a
quarter and the first one of the next there are fractions that lie in none.
-/

namespace Vacancy

open Sql Decimal

/-! ### Columns of doubles -/

theorem Table.Holds.cell_of_real {g : Grain} {row : Row} {column : String} (h : Holds g row)
    (hreal : g.schema.affinity? column = some .real) :
    row.cell column = .null ∨ (∃ f, row.cell column = .real f) ∨
      ∃ s, row.cell column = .text s ∧ wholeNumber? s = none := by
  obtain ⟨v, hv⟩ := h.exists_cell hreal
  rw [hv, Affinity.store]
  cases Value.bound v with
  | null => exact .inl rfl
  | integer n => exact .inr (.inl ⟨_, rfl⟩)
  | real x => exact .inr (.inl ⟨_, rfl⟩)
  | text s =>
    right
    rw [Value.toNumber]
    cases hs : wholeNumber? s with
    | none => exact .inr ⟨s, rfl, hs⟩
    | some v =>
      left
      unfold wholeNumber? at hs
      split at hs
      · split at hs
        · rw [← Option.some.inj hs, Option.getD_some, numberOf]
          split <;> exact ⟨_, rfl⟩
        · contradiction
      · contradiction

namespace Sql.Expr

variable {fs : Fields} {r : Row} {name : String} {f y : Float} {s : String}

theorem conversion_of_real (h : fs.affinity? name = some .real) : conversion fs name = .number := by
  rw [conversion, affinity, h]
  rfl

theorem admits_compared_real (hreal : fs.affinity? name = some .real)
    (hcell : r.cell name = .real f) (k : Comparison) (hy : y.isFinite = true) :
    (Predicate.compared name k (.real y)).admits fs r =
      k.operator.holds (.number (scaled f)) (.number (scaled y)) := by
  rw [Bool.eq_iff_iff, admits_compared_iff, conversion_of_real hreal, hcell]
  simp [Operator.compare, Conversion.apply, Value.toNumber, Literal.toValue, hy, Value.isNull,
    SortKey.ofValue]

/-- A text that spells no number is beyond all numbers. -/
theorem admits_lte_text (hreal : fs.affinity? name = some .real) (hcell : r.cell name = .text s)
    (hs : wholeNumber? s = none) (hy : y.isFinite = true) :
    (Predicate.compared name .lte (.real y)).admits fs r = false := by
  rw [Bool.eq_false_iff, ne_eq, admits_compared_iff, conversion_of_real hreal, hcell]
  simp [Operator.compare, Conversion.apply, Value.toNumber, hs, Literal.toValue, hy, Value.isNull,
    SortKey.ofValue, Comparison.operator, Operator.holds, SortKey.lt]

def between (name : String) (x y : Float) : Expr :=
  (Predicate.range name ⟨.real x, true⟩ ⟨.real y, true⟩).toExpr

theorem admits_between {g : Grain} {x : Float} (h : Table.Holds g r)
    (hreal : g.schema.affinity? name = some .real) (hx : x.isFinite = true)
    (hy : y.isFinite = true) : (between name x y).admits g.schema r = true ↔
      ∃ f, r.cell name = .real f ∧ scaled x ≤ scaled f ∧ scaled f ≤ scaled y := by
  have hadmits : (between name x y).admits g.schema r =
      ((Predicate.compared name .gte (.real x)).admits g.schema r &&
        (Predicate.compared name .lte (.real y)).admits g.schema r) := by
    rw [← admits_and]
    rfl
  rw [hadmits, Bool.and_eq_true]
  rcases h.cell_of_real hreal with hcell | ⟨f, hcell⟩ | ⟨s, hcell, hs⟩
  · simp [admits_compared_null hcell, hcell]
  · rw [admits_compared_real hreal hcell _ hx, admits_compared_real hreal hcell _ hy, hcell]
    simp [Comparison.operator, Operator.holds, SortKey.lt]
  · rw [admits_lte_text hreal hcell hs hy, hcell]
    simp

end Sql.Expr

/-! ### Counts -/

namespace Buckets

variable {rules : List (Expr × String)} {fs : Fields} {rows : List Row}

theorem label?_iff_first? (hnodup : (rules.map Prod.snd).Nodup) {i : Nat} (hi : i < rules.length)
    {r : Row} : label? rules fs r = some rules[i].2 ↔ first? rules fs r = some i := by
  rw [label?_eq, Option.bind_eq_some_iff]
  constructor
  · rintro ⟨j, hj, hlabel⟩
    have hlt := first?_lt rules fs r hj
    rw [List.getElem?_eq_getElem hlt, Option.map_some, Option.some.injEq] at hlabel
    have hsame : (rules.map Prod.snd).get ⟨j, by simpa using hlt⟩ =
        (rules.map Prod.snd).get ⟨i, by simpa using hi⟩ := by
      simpa using hlabel
    obtain rfl := hnodup.getElem_inj_iff.1 hsame
    exact hj
  · intro h
    exact ⟨i, h, by rw [List.getElem?_eq_getElem hi, Option.map_some]⟩

theorem leads_of_nodup (hnodup : (rules.map Prod.snd).Nodup) {i : Nat} (hi : i < rules.length)
    (hl : labelled rules fs rows rules[i].2 ≠ []) : Leads rules fs rows rules[i].2 i := by
  have hfirst : ∀ r ∈ labelled rules fs rows rules[i].2, first? rules fs r = some i :=
    fun r hr => (label?_iff_first? hnodup hi).1 (mem_labelled.1 hr).2
  obtain ⟨r, hr⟩ := List.exists_mem_of_ne_nil _ hl
  refine ⟨⟨r, hr, hfirst r hr⟩, fun q hq j hj => ?_⟩
  rw [hfirst q hq, Option.some.injEq] at hj
  exact Nat.le_of_eq hj

theorem lists_of_nodup (hnodup : (rules.map Prod.snd).Nodup) (hne : ∀ rule ∈ rules, rule.2 ≠ "") :
    Lists rules fs rows
      ((rules.map Prod.snd).filter fun l => !(labelled rules fs rows l).isEmpty) := by
  constructor
  case nodup => exact hnodup.filter _
  case mem_iff =>
    intro l
    have hlabelled : (!(labelled rules fs rows l).isEmpty) = true ↔
        ∃ r ∈ rows, label? rules fs r = some l := by
      simp [labelled, List.filter_eq_nil_iff]
    rw [List.mem_filter, hlabelled]
    constructor
    · rintro ⟨hl, hrow⟩
      obtain ⟨rule, hrule, rfl⟩ := List.mem_map.1 hl
      exact ⟨hne rule hrule, hrow⟩
    · rintro ⟨_, r, hr, hlabel⟩
      refine ⟨?_, r, hr, hlabel⟩
      obtain ⟨rule, hrule, rfl⟩ := Option.map_eq_some_iff.1 hlabel
      exact List.mem_map_of_mem (List.mem_of_find?_eq_some hrule)
  case ordered =>
    rw [List.pairwise_filter, List.pairwise_iff_getElem]
    intro i j hi hj hij hsome hsome'
    rw [List.length_map] at hi hj
    rw [List.getElem_map] at hsome ⊢
    rw [List.getElem_map] at hsome' ⊢
    exact ⟨i, j, leads_of_nodup hnodup hi (by simpa using hsome),
      leads_of_nodup hnodup hj (by simpa using hsome'), hij⟩

theorem series_count_of_nodup (hnodup : (rules.map Prod.snd).Nodup)
    (hne : ∀ rule ∈ rules, rule.2 ≠ "") {labels : List String}
    (h : Lists rules fs rows labels) (column : String) :
    series rules fs rows .count column labels = .ok ((rules.map Prod.snd).flatMap fun l =>
      counted l (labelled rules fs rows l).length) := by
  rw [h.eq (lists_of_nodup hnodup hne), series_count]
  congr 1
  induction rules.map Prod.snd with
  | nil => rfl
  | cons l ls ih =>
    rw [List.flatMap_cons, ← ih, List.filter_cons]
    cases hl : labelled rules fs rows l with
    | nil => rfl
    | cons r rs => simp [counted, hl]

end Buckets

namespace View

/-! ### Quarters -/

def probability : String := "predicted_probability"

def fraction (n : Int64) : Float :=
  Float.ofInt n.toInt / 100.0

def quarterLabel (q : Int64 × Int64) : String :=
  "空き家推定確率" ++ toString q.1.toInt ++ "~" ++ toString q.2.toInt ++ "%"

def quarterRule (q : Int64 × Int64) : String × Condition :=
  (quarterLabel q, .range .floatRange (.integer q.1) true (.integer q.2) true)

theorem pieStarter_eq : pieStarter = numbered (pieQuarters.map quarterRule) .count :=
  rfl

def probability? (r : Row) : Option Int :=
  match r.cell probability with
  | .real f => some (scaled f)
  | _ => none

/-- Whether the probability of a row is from the one bound to the other. -/
def within (x y : Float) (r : Row) : Bool :=
  (probability? r).any fun k => decide (scaled x ≤ k ∧ k ≤ scaled y)

def strictlyWithin (x y : Float) (r : Row) : Bool :=
  (probability? r).any fun k => decide (scaled x < k ∧ k < scaled y)

def inQuarter (q : Int64 × Int64) : Row → Bool :=
  within (fraction q.1) (fraction q.2)

/-- The last percentage of each quarter but one, and the first of the next. -/
def gaps : List (Int64 × Int64) :=
  [(25, 26), (50, 51), (75, 76)]

def inGap (q : Int64 × Int64) : Row → Bool :=
  strictlyWithin (fraction q.1) (fraction q.2)

theorem isFinite_fraction (n : Int64) : (fraction n).isFinite = true := by
  have hlow := n.le_toInt
  have hhigh := n.toInt_lt
  apply isFinite_div_hundred
  apply isFinite_ofInt <;> omega

theorem fractions_ordered :
    scaled (fraction 0) = scaled 0 ∧ scaled 0 < scaled (fraction 25) ∧
      scaled (fraction 25) < scaled (fraction 26) ∧ scaled (fraction 26) < scaled (fraction 50) ∧
      scaled (fraction 50) < scaled (fraction 51) ∧ scaled (fraction 51) < scaled (fraction 75) ∧
      scaled (fraction 75) < scaled (fraction 76) ∧ scaled (fraction 76) < scaled 1 ∧
      scaled (fraction 100) = scaled 1 := by
  decide +kernel

theorem within_join {x y z w : Float} (hxy : scaled x ≤ scaled y) (hyz : scaled y < scaled z)
    (hzw : scaled z ≤ scaled w) (r : Row) :
    (if within x y r then 1 else 0) + (if strictlyWithin y z r then 1 else 0) +
      (if within z w r then 1 else 0) = if within x w r then 1 else 0 := by
  unfold within strictlyWithin
  cases probability? r with
  | none => rfl
  | some k =>
    simp only [Option.any_some, decide_eq_true_eq]
    split_ifs <;> omega

theorem countP_quarters (r : Row) :
    pieQuarters.countP (inQuarter · r) + gaps.countP (inGap · r) =
      if within 0 1 r then 1 else 0 := by
  obtain ⟨h0, h25, h26, h50, h51, h75, h76, h100, h1⟩ := fractions_ordered
  have hfirst := within_join (x := fraction 0) (w := fraction 100) (by omega) h26 (by omega) r
  have hsecond := within_join (w := fraction 100) (Int.le_of_lt h50) h51 (by omega) r
  have hthird := within_join (w := fraction 100) (Int.le_of_lt h75) h76 (by omega) r
  have hall : within 0 1 r = within (fraction 0) (fraction 100) r := by
    rw [within, within, h0, h1]
  rw [hall, ← hfirst, ← hsecond, ← hthird]
  simp only [pieQuarters, gaps, List.countP_cons, List.countP_nil, inQuarter, inGap]
  omega

theorem eq_of_inQuarter {q q' : Int64 × Int64} {r : Row} (hq : q ∈ pieQuarters)
    (hq' : q' ∈ pieQuarters) (h : inQuarter q r = true) (h' : inQuarter q' r = true) : q = q' := by
  have hcount := countP_quarters r
  have hle : (pieQuarters.filter (inQuarter · r)).length ≤ 1 := by
    rw [← List.countP_eq_length_filter]
    split at hcount <;> omega
  have hmem : q ∈ pieQuarters.filter (inQuarter · r) := List.mem_filter.2 ⟨hq, h⟩
  have hmem' : q' ∈ pieQuarters.filter (inQuarter · r) := List.mem_filter.2 ⟨hq', h'⟩
  generalize pieQuarters.filter (inQuarter · r) = qs at hle hmem hmem'
  match qs with
  | [] => contradiction
  | [p] => rw [List.mem_singleton.1 hmem, List.mem_singleton.1 hmem']
  | _ :: _ :: _ => simp at hle

theorem sum_countP_quarters (rows : List Row) :
    (pieQuarters.map fun q => rows.countP (inQuarter q)).sum +
      (gaps.map fun q => rows.countP (inGap q)).sum = rows.countP (within 0 1) := by
  induction rows with
  | nil => rfl
  | cons r rows ih =>
    have hr := countP_quarters r
    simp only [pieQuarters, gaps, List.map_cons, List.map_nil, List.sum_cons, List.sum_nil,
      List.countP_cons, List.countP_nil] at ih hr ⊢
    omega

/-! ### The pie -/

variable {v : View} {x : Column} {g : Grain} {r : Row} {rows : List Row}

def quarterTerms : List (Expr × String) :=
  pieQuarters.map fun q =>
    (Expr.between probability (fraction q.1) (fraction q.2), quarterLabel q)

theorem rules_of_quarters (hgroups : v.groups = pieQuarters.map quarterRule)
    (hx : x.name = probability) (hpercent : x.isPercent = true) : v.rules x = quarterTerms := by
  rw [rules, Buckets.rules, hgroups, List.map_map, List.filterMap_map, quarterTerms,
    ← List.filterMap_eq_map]
  congr 1
  funext q
  have hscaled : (quarterRule q).2.rescaled (some x) =
      (quarterRule q).2.mapNumbers (· / 100.0) := by
    rw [Condition.rescaled, Option.any_some, hpercent]
    rfl
  simp only [Function.comp_apply, hscaled, hx]
  rfl

theorem affinity?_probability (g : Grain) : g.schema.affinity? probability = some .real := by
  cases g <;> rfl

theorem admits_quarter (h : Table.Holds g r) (q : Int64 × Int64) :
    (Expr.between probability (fraction q.1) (fraction q.2)).admits g.schema r = inQuarter q r := by
  rw [Bool.eq_iff_iff, Expr.admits_between h (affinity?_probability g) (isFinite_fraction _)
    (isFinite_fraction _), inQuarter, within, probability?]
  cases r.cell probability <;> simp

theorem nodup_quarterLabels : (pieQuarters.map quarterLabel).Nodup := by
  decide +kernel

theorem label?_quarterTerms (h : Table.Holds g r) {q : Int64 × Int64} (hq : q ∈ pieQuarters) :
    Buckets.label? quarterTerms g.schema r = some (quarterLabel q) ↔ inQuarter q r = true := by
  have hlabel : Buckets.label? quarterTerms g.schema r =
      (pieQuarters.find? (inQuarter · r)).map quarterLabel := by
    rw [Buckets.label?, quarterTerms, List.find?_map, Option.map_map]
    simp only [Function.comp_def, admits_quarter h]
  rw [hlabel, Option.map_eq_some_iff]
  simp only [find?_eq_some_iff_of_unique fun _ hp _ hq => eq_of_inQuarter hp hq]
  constructor
  · rintro ⟨p, ⟨hp, hin⟩, hsame⟩
    rwa [List.inj_on_of_nodup_map nodup_quarterLabels hp hq hsame] at hin
  · intro hin
    exact ⟨q, ⟨hq, hin⟩, rfl⟩

theorem length_labelled_quarter (h : ∀ r ∈ rows, Table.Holds g r) {q : Int64 × Int64}
    (hq : q ∈ pieQuarters) :
    (Buckets.labelled quarterTerms g.schema rows (quarterLabel q)).length =
      rows.countP (inQuarter q) := by
  rw [List.countP_eq_length_filter, Buckets.labelled]
  congr 1
  apply List.filter_congr
  intro r hr
  rw [Bool.eq_iff_iff, decide_eq_true_eq]
  exact label?_quarterTerms (h r hr) hq

theorem series_quarters (h : ∀ r ∈ rows, Table.Holds g r) {labels : List String}
    (hlists : Buckets.Lists quarterTerms g.schema rows labels) (column : String) :
    Buckets.series quarterTerms g.schema rows .count column labels =
      .ok (pieQuarters.flatMap fun q =>
        Buckets.counted (quarterLabel q) (rows.countP (inQuarter q))) := by
  have hlabels : quarterTerms.map Prod.snd = pieQuarters.map quarterLabel := by
    rw [quarterTerms, List.map_map]
    rfl
  have hnodup : (quarterTerms.map Prod.snd).Nodup := hlabels ▸ nodup_quarterLabels
  have hne : ∀ rule ∈ quarterTerms, rule.2 ≠ "" := by
    intro rule hrule
    have hall : ∀ l ∈ pieQuarters.map quarterLabel, l ≠ "" := by
      decide +kernel
    exact hall _ (hlabels ▸ List.mem_map_of_mem hrule)
  rw [Buckets.series_count_of_nodup hnodup hne hlists, hlabels, List.flatMap_map]
  congr 1
  apply List.flatMap_congr
  intro q hq
  rw [length_labelled_quarter h hq]

theorem grain_of_pie {page : Page} {p : Plan} (hplan : v.plan page = .ok p)
    (hstyle : v.style = .pie) : v.grain = .building := by
  cases hgrain : v.grain with
  | building => rfl
  | area =>
    have hnone : v.layout? = none := by
      rw [layout?, hstyle, hgrain]
      rfl
    obtain ⟨_, hplanned⟩ := plan_eq_ok_iff.1 hplan
    cases hplanned with
    | table hlayout | points hlayout | buckets hlayout =>
      rw [hnone] at hlayout
      contradiction

theorem exists_axis_probability (hgrain : v.grain = .building)
    (hlabel : v.column? .label = some probability) :
    ∃ x, v.axis .label = .ok x ∧ x.name = probability ∧ x.isPercent = true := by
  obtain ⟨x, hx, hname, hpercent⟩ : ∃ x, Grain.building.column? probability = some x ∧
      x.name = probability ∧ x.isPercent = true := ⟨_, rfl, rfl, rfl⟩
  refine ⟨x, ?_, hname, hpercent⟩
  rw [axis, hlabel]
  simp only [catalogColumn, hgrain, hx]

theorem groups_pieStarter (v : View) :
    ({ v with parameters := pieStarter } : View).groups = pieQuarters.map quarterRule := by
  rw [pieStarter_eq]
  exact groups_append_numbered { v with parameters := [] } (pieQuarters.map quarterRule) .count

theorem aggregation_pieStarter (v : View) :
    ({ v with parameters := pieStarter } : View).aggregation = .count := by
  have hfree : ({ v with parameters := [] } : View).HasNoRuleKeys := List.forall_mem_nil _
  rw [pieStarter_eq]
  exact aggregation_append_numbered hfree (pieQuarters.map quarterRule) .count

/--
The pie that a new chart starts as has a point for each quarter with rows, which counts the rows of
the quarter. A row with a probability is in one quarter, unless its probability is in a gap, so that
the counts add up to the number of such rows but for those in the gaps.
-/
theorem execute_quarters {page : Page} {p : Plan} (hplan : v.plan page = .ok p)
    (hstyle : v.style = .pie) (hlabel : v.column? .label = some probability)
    (hgroups : v.groups = ({ v with parameters := pieStarter } : View).groups)
    (hcount : v.aggregation = ({ v with parameters := pieStarter } : View).aggregation)
    (d : Database) :
    ((∃ x y, v.axis .label = .ok x ∧ v.axis .value = .ok y ∧
      Database.store.execute v page d = (.ok (.chart (pieQuarters.flatMap fun q =>
        Buckets.counted (quarterLabel q) ((v.base d).countP (inQuarter q))) x y .count false), d)) ∨
      v.Overruns page d) ∧
    (∀ r, pieQuarters.countP (inQuarter · r) + gaps.countP (inGap · r) =
      if within 0 1 r then 1 else 0) ∧
    (pieQuarters.map fun q => (v.base d).countP (inQuarter q)).sum +
      (gaps.map fun q => (v.base d).countP (inGap q)).sum = (v.base d).countP (within 0 1) := by
  refine ⟨?_, countP_quarters, sum_countP_quarters _⟩
  rw [groups_pieStarter] at hgroups
  rw [aggregation_pieStarter] at hcount
  have hgrain := grain_of_pie hplan hstyle
  obtain ⟨x, hx, hname, hpercent⟩ := exists_axis_probability hgrain hlabel
  have hlayout : v.layout? = some (.chart .label .value) := by
    rw [layout?, hstyle, hgrain]
    rfl
  have hsome : v.groups ≠ [] := by
    rw [hgroups]
    exact List.cons_ne_nil _ _
  refine (execute_series hplan hlayout hx hsome d).imp_left ?_
  rintro ⟨y, labels, hy, hlists, hresult⟩
  rw [rules_of_quarters hgroups hname hpercent] at hlists hresult
  rw [hcount, series_quarters (fun _ hr => holds_of_mem_base hr) hlists] at hresult
  exact ⟨x, y, hx, hy, hresult⟩

def quartered : View where
  run := 1
  style := .pie
  grain := .building
  parameters := [.column .label probability, .column .value "household_size"] ++ pieStarter

def probableRow (f : Float) : Row :=
  Table.kept .building (Table.valueFor ⟨[(runColumn, .integer 1), (probability, .real f)]⟩ 1)

theorem holds_probableRow (f : Float) : Table.Holds .building (probableRow f) :=
  Table.holds_kept rfl

def probableDatabase (f : Float) : Database :=
  ({} : Database).withTable .building (Table.empty.add (probableRow f) (holds_probableRow f))

theorem base_quartered {f : Float} (hadmits : quartered.scope.admits (probableRow f) = true) :
    quartered.base (probableDatabase f) = [probableRow f] :=
  base_singleton rfl hadmits

theorem withinLimits_quartered {p : Plan} (hplan : quartered.plan {} = .ok p) :
    p.WithinLimits := by
  cases hplan
  decide +kernel

theorem groups_quartered :
    quartered.groups = ({ quartered with parameters := pieStarter } : View).groups :=
  rfl

theorem aggregation_quartered :
    quartered.aggregation = ({ quartered with parameters := pieStarter } : View).aggregation :=
  rfl

theorem execute_quarters_thirty :
    ∃ p x y, quartered.plan {} = .ok p ∧ quartered.style = .pie ∧
      quartered.column? .label = some probability ∧
      quartered.groups = ({ quartered with parameters := pieStarter } : View).groups ∧
      quartered.aggregation = ({ quartered with parameters := pieStarter } : View).aggregation ∧
      Database.store.execute quartered {} (probableDatabase 0.3) =
        (.ok (.chart [⟨.text "空き家推定確率26~50%", .integer 1⟩] x y .count false),
          probableDatabase 0.3) := by
  obtain ⟨p, hplan⟩ : ∃ p, quartered.plan {} = .ok p := ⟨_, rfl⟩
  obtain ⟨⟨x, y, _, _, hexecute⟩ | ⟨p', _, hplan', hover, _⟩, _⟩ :=
    execute_quarters hplan rfl rfl groups_quartered aggregation_quartered (probableDatabase 0.3)
  · refine ⟨p, x, y, hplan, rfl, rfl, groups_quartered, aggregation_quartered, ?_⟩
    have hpoints : (pieQuarters.flatMap fun q => Buckets.counted (quarterLabel q)
        ([probableRow 0.3].countP (inQuarter q))) = [⟨.text "空き家推定確率26~50%", .integer 1⟩] := by
      have hall : pieQuarters.all (fun q => [probableRow 0.3].countP (inQuarter q) =
          if q = (26, 50) then 1 else 0) = true := by
        decide +kernel
      have hcount := fun q hq => of_decide_eq_true (List.all_eq_true.1 hall q hq)
      rw [List.flatMap_congr fun q hq => by rw [hcount q hq]]
      rfl
    rw [base_quartered (by decide +kernel), hpoints] at hexecute
    exact hexecute
  · exact absurd (withinLimits_quartered hplan') hover

/-- A building with a probability between the first two quarters is in none. -/
theorem not_forall_quartered :
    ¬∀ (v : View) (d : Database) (x : Column), v.style = .pie → v.axis .label = .ok x →
      v.column? .label = some probability →
      v.groups = ({ v with parameters := pieStarter } : View).groups →
      v.aggregation = ({ v with parameters := pieStarter } : View).aggregation →
      ∀ r ∈ v.base d, within 0 1 r = true →
        ∃ l ∈ pieQuarters.map quarterLabel,
          (v.buckets x).label.eval v.grain.schema (.single r) = .text l := by
  intro h
  obtain ⟨x, hx, hname, hpercent⟩ := exists_axis_probability (v := quartered) rfl rfl
  have hmem : probableRow 0.255 ∈ quartered.base (probableDatabase 0.255) := by
    rw [base_quartered (by decide +kernel)]
    exact List.mem_singleton_self _
  have hwithin : within 0 1 (probableRow 0.255) = true := by
    decide +kernel
  have hout : pieQuarters.find? (inQuarter · (probableRow 0.255)) = none := by
    decide +kernel
  obtain ⟨l, hl, heval⟩ := h quartered (probableDatabase 0.255) x rfl hx rfl groups_quartered
    aggregation_quartered _ hmem hwithin
  obtain ⟨q, hq, rfl⟩ := List.mem_map.1 hl
  have hgroups := groups_quartered.trans (groups_pieStarter quartered)
  rw [buckets_eq_ofRules, rules_of_quarters hgroups hname hpercent, Buckets.eval_label] at heval
  cases hlabel : Buckets.label? quarterTerms quartered.grain.schema (probableRow 0.255) with
  | none =>
    rw [hlabel] at heval
    cases heval
  | some l =>
    rw [hlabel, Option.elim_some, Value.text.injEq] at heval
    have hin := (label?_quarterTerms (holds_probableRow 0.255) hq).1 (heval ▸ hlabel)
    exact List.find?_eq_none.1 hout q hq hin

end View

end Vacancy
