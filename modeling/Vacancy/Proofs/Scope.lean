import Vacancy.Plan
import Vacancy.Proofs.TableQuery

/-!
The terms of a scope. Every scope that is made for a run demands that run, and demands nothing but
terms on columns of the grain.
-/

namespace Vacancy

open Sql

/-! ### Steps that may fail -/

theorem bind_eq_ok_iff {x : Except ε α} {f : α → Except ε β} {b : β} :
    x >>= f = .ok b ↔ ∃ a, x = .ok a ∧ f a = .ok b := by
  cases x with
  | error e => simp [bind, Except.bind]
  | ok a => simp [bind, Except.bind]

theorem mapM_cons_eq_ok_iff {f : α → Except ε β} {a : α} {as : List α} {bs : List β} :
    (a :: as).mapM f = .ok bs ↔ ∃ b bs', f a = .ok b ∧ as.mapM f = .ok bs' ∧ b :: bs' = bs := by
  simp only [List.mapM_cons, bind_eq_ok_iff, pure, Except.pure, Except.ok.injEq]
  constructor
  · rintro ⟨b, hb, bs', hbs, h⟩
    exact ⟨b, bs', hb, hbs, h⟩
  · rintro ⟨b, bs', hb, hbs, h⟩
    exact ⟨b, hb, bs', hbs, h⟩

/-! ### Conditions -/

namespace Predicate

def column : Predicate → String
  | .compare column _ _ | .like column _ _ | .range column _ _ => column

theorem operator_ne_and (c : Comparison) : c.operator ≠ .and := by
  cases c <;> simp [Comparison.operator]

theorem isTerm_toExpr {p : Predicate} {names : List String} (h : p.column ∈ names) :
    p.toExpr.IsTerm names := by
  cases p with
  | compare column comparison value => exact .compared (operator_ne_and comparison) h
  | like column pattern negated => exact .like h
  | range column lower upper => exact .range (operator_ne_and _) (operator_ne_and _) h

end Predicate

namespace Condition

theorem column_of_compileComparison {c : Condition} {name : String} {operand} {p : Predicate}
    (h : c.compileComparison name operand = .ok p) : p.column = name := by
  unfold compileComparison at h
  split at h
  · obtain ⟨l, _, h⟩ := bind_eq_ok_iff.1 h
    obtain rfl := Except.ok.inj h
    rfl
  · simp at h

theorem column_of_compileRange {c : Condition} {name : String} {operand} {p : Predicate}
    (h : c.compileRange name operand = .ok p) : p.column = name := by
  unfold compileRange at h
  obtain ⟨b, _, h⟩ := bind_eq_ok_iff.1 h
  obtain rfl := Except.ok.inj h
  rfl

theorem column_of_compileContains {c : Condition} {name : String} {negated : Bool} {p : Predicate}
    (h : c.compileContains name negated = .ok p) : p.column = name := by
  unfold compileContains at h
  split at h
  · simp only [Except.ok.injEq] at h
    rw [← h]
    rfl
  · simp at h

theorem column_of_compile {c : Condition} {name : String} {p : Predicate}
    (h : c.compile name = .ok p) : p.column = name := by
  unfold compile at h
  split at h
  all_goals first
    | exact column_of_compileComparison h
    | exact column_of_compileRange h
    | exact column_of_compileContains h
    | (simp only [Except.ok.injEq, reduceCtorEq] at h
       try (rw [← h]; rfl))

theorem isTerm_of_toExpr? {c : Condition} {name : String} {names : List String} {e : Expr}
    (h : c.toExpr? name = some e) (hname : name ∈ names) : e.IsTerm names := by
  unfold toExpr? at h
  cases hp : c.compile name with
  | error r => simp [hp, Except.toOption] at h
  | ok p =>
    simp only [hp, Except.toOption, Option.map_some, Option.some.injEq] at h
    rw [← h]
    exact Predicate.isTerm_toExpr (column_of_compile hp ▸ hname)

theorem isTerm_of_filterTerm? {c : Condition} {g : Grain} {e : Expr}
    (h : c.filterTerm? g = some e) : e.IsTerm g.names := by
  unfold filterTerm? filterPredicate filterColumn at h
  split at h
  · simp [Except.toOption, bind, Except.bind] at h
  · next name _ =>
    by_cases hname : g.has name = true
    · simp only [hname, if_true, bind, Except.bind] at h
      exact isTerm_of_toExpr? h (Grain.mem_names_of_has hname)
    · simp [hname, Except.toOption, bind, Except.bind] at h

end Condition

namespace Scope

def runTerm (run : Int64) : Expr :=
  .binary .eq (.column runColumn) (.integer run)

/-- A scope of rows of one run. -/
structure OfRun (g : Grain) (run : Int64) (s : Scope) : Prop where
  grain : s.grain = g
  terms : ∀ e ∈ s.terms, e.IsTerm g.names
  run : runTerm run ∈ s.terms

theorem ofRun_ofRun (g : Grain) (run : Int64) : OfRun g run (ofRun g run) := by
  refine ⟨rfl, ?_, ?_⟩
  · intro e he
    simp only [ofRun, List.mem_singleton] at he
    subst he
    exact .compared (by simp) g.runColumn_mem_names
  · simp [ofRun, runTerm]

namespace OfRun

variable {g : Grain} {run : Int64} {s : Scope}

theorem add (h : OfRun g run s) {terms : List Expr} (ht : ∀ e ∈ terms, e.IsTerm g.names) :
    OfRun g run (s.add terms) := by
  refine ⟨h.grain, ?_, ?_⟩
  · intro e he
    rcases List.mem_append.1 he with he | he
    · exact h.terms e he
    · exact ht e he
  · exact List.mem_append_left _ h.run

theorem year (h : OfRun g run s) (range : Option YearRange) : OfRun g run (s.year range) := by
  apply h.add
  intro e he
  cases range with
  | none => simp at he
  | some range =>
    simp only [Option.elim, yearTerms, List.mem_append, Option.mem_toList, Option.map_eq_some_iff]
      at he
    rcases he with ⟨date, _, rfl⟩ | ⟨date, _, rfl⟩
    · exact .compared (by simp) g.dateColumn_mem_names
    · exact .compared (by simp) g.dateColumn_mem_names

theorem referenceDate (h : OfRun g run s) (date : Option String) :
    OfRun g run (s.referenceDate date) := by
  apply h.add
  intro e he
  simp only [Option.mem_toList, Option.map_eq_some_iff] at he
  obtain ⟨date, _, rfl⟩ := he
  exact .compared (by simp) g.dateColumn_mem_names

theorem after (h : OfRun g run s) (cursor : Option Int64) : OfRun g run (s.after cursor) := by
  apply h.add
  intro e he
  simp only [Option.mem_toList, Option.map_eq_some_iff] at he
  obtain ⟨id, _, rfl⟩ := he
  exact .compared (by simp) g.idColumn_mem_names

theorem areas (h : OfRun g run s) (names : List String) : OfRun g run (s.areas names) := by
  apply h.add
  intro e he
  cases names with
  | nil => simp at he
  | cons name names =>
    simp only [List.isEmpty_cons, Bool.false_eq_true, if_false, List.mem_singleton] at he
    have : (name :: names).map Expr.text =
        .literal (.text name) :: (names.map Literal.text).map .literal := by
      simp [Expr.text, Function.comp_def]
    rw [he, this]
    exact .among g.areaColumn_mem_names

theorem filters (h : OfRun g run s) (conditions : List Condition) :
    OfRun g run (s.filters conditions) := by
  apply h.add
  intro e he
  obtain ⟨c, _, hc⟩ := List.mem_filterMap.1 he
  rw [h.grain] at hc
  exact Condition.isTerm_of_filterTerm? hc

theorem predicate_eq (h : OfRun g run s) :
    ∃ c, s.predicate = some c ∧ c.IsChain g.names ∧ runTerm run ∈ c.terms := by
  cases hc : s.predicate with
  | none =>
    -- there is a condition, as the term of the run is there
    unfold predicate at hc
    have := h.run
    cases hs : s.terms with
    | nil => simp [hs] at this
    | cons e es => simp [hs, Expr.conjunction] at hc
  | some c =>
    refine ⟨c, rfl, Expr.isChain_of_conjunction h.terms hc, ?_⟩
    rw [Expr.terms_of_conjunction hc, List.mem_flatMap]
    exact ⟨_, h.run, by simp [runTerm, Expr.terms]⟩

theorem reads_toQuery (h : OfRun g run s) {selection : Selection}
    (hcondition : selection.condition = s.predicate)
    (hcolumns : ∀ name ∈ selection.columns, name ∈ g.names)
    (horder : ∀ k ∈ selection.order, ∃ name ∈ g.names, k.expr = .column name) :
    (selection.toQuery g).select.Reads g run := by
  obtain ⟨c, hc, hchain, hterm⟩ := h.predicate_eq
  refine ⟨rfl, ?_, ⟨c, hcondition.trans hc, hchain, hterm⟩, rfl, horder⟩
  intro i hi
  simp only [Selection.toQuery] at hi
  split at hi
  · rw [List.mem_singleton.1 hi]
    exact .star
  · obtain ⟨name, hname, rfl⟩ := List.mem_map.1 hi
    exact .column (hcolumns name hname)

theorem hasLongPattern_of_mem_terms (h : OfRun g run s) {c e : Expr} (hc : s.predicate = some c)
    (he : e ∈ c.terms) (hlong : e.hasLongPattern = true) :
    ∃ e ∈ s.terms, e.hasLongPattern = true := by
  rw [Expr.terms_of_conjunction hc] at he
  obtain ⟨e', he', he⟩ := List.mem_flatMap.1 he
  exact ⟨e', he', (h.terms e' he').hasLongPattern_of_mem_terms he hlong⟩

theorem hasLongPattern_eq_false (h : OfRun g run s) {c : Expr} (hc : s.predicate = some c)
    (hterms : ∀ e ∈ s.terms, e.hasLongPattern = false) :
    ∀ e ∈ c.terms, e.hasLongPattern = false := by
  intro e he
  rw [← Bool.not_eq_true]
  intro hlong
  obtain ⟨e', he', hlong'⟩ := h.hasLongPattern_of_mem_terms hc he hlong
  rw [hterms e' he'] at hlong'
  contradiction

end OfRun

end Scope

theorem idOrder_mem_names (g : Grain) :
    ∀ k ∈ [idOrder], ∃ name ∈ g.names, k.expr = .column name := by
  intro k hk
  rw [List.mem_singleton.1 hk]
  exact ⟨idColumn, g.idColumn_mem_names, rfl⟩

theorem View.ofRun_scope (v : View) : v.scope.OfRun v.grain v.run :=
  (((Scope.ofRun_ofRun v.grain v.run).year v.year?).areas v.areas).filters v.filters

end Vacancy
