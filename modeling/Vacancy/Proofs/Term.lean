import Vacancy.Sql.Execution

/-!
The terms that scopes and rules are made of: a column compared with literals, with a pattern or with
a list. Such terms and their conjunctions are read back as they were built, name no columns but
their own, and fail only at a pattern that is too long.
-/

namespace Vacancy.Sql

namespace Expr

/-- A condition on one of the named columns. -/
inductive IsTerm (names : List String) : Expr → Prop where
  | compared {op name l} (hop : op ≠ .and) (hname : name ∈ names) :
      IsTerm names (.binary op (.column name) (.literal l))
  | like {name pattern negated} (hname : name ∈ names) :
      IsTerm names (.like (.column name) (.text pattern) negated)
  | range {op op' name l l'} (hop : op ≠ .and) (hop' : op' ≠ .and) (hname : name ∈ names) :
      IsTerm names (.group (.and (.binary op (.column name) (.literal l))
        (.binary op' (.column name) (.literal l'))))
  | among {name l} {ls : List Literal} (hname : name ∈ names) :
      IsTerm names (.among (.column name) (.literal l :: ls.map .literal))

/-- Terms joined by AND from left to right. -/
inductive IsChain (names : List String) : Expr → Prop where
  | term {e} (h : IsTerm names e) : IsChain names e
  | join {c e} (hc : IsChain names c) (h : IsTerm names e) : IsChain names (.and c e)

theorem IsChain.foldl {names : List String} {c : Expr} (hc : IsChain names c) {es : List Expr}
    (h : ∀ e ∈ es, IsTerm names e) : IsChain names (es.foldl and c) := by
  induction es generalizing c with
  | nil => exact hc
  | cons e es ih =>
    apply ih
    · exact .join hc (h e List.mem_cons_self)
    · intro e' he'
      exact h e' (List.mem_cons_of_mem _ he')

theorem isChain_of_conjunction {names : List String} {es : List Expr} {c : Expr}
    (h : ∀ e ∈ es, IsTerm names e) (hc : conjunction es = some c) : IsChain names c := by
  cases es with
  | nil => simp [conjunction] at hc
  | cons e es =>
    simp only [conjunction, Option.some.injEq] at hc
    subst hc
    apply IsChain.foldl
    · exact .term (h e List.mem_cons_self)
    · intro e' he'
      exact h e' (List.mem_cons_of_mem _ he')

/-! ### Grouping -/

def StartsWithAnd (links : List Link) : Prop :=
  links = [] ∨ ∃ right rest, links = .operator .and right :: rest

theorem group_compared (ands : Option Expr) {op : Operator} (hop : op ≠ .and) (e r : Expr)
    {links : List Link} (hl : StartsWithAnd links) :
    Spine.group ⟨ands, none⟩ e (.operator op r :: links) =
      Spine.group ⟨ands, none⟩ (.binary op e r) links := by
  -- an equality waits for an order that binds tighter, but AND closes it
  rcases hl with rfl | ⟨right, rest, rfl⟩
  all_goals cases op <;> simp_all [Spine.group, Operator.isOrder, Pending.closeAnds,
    Pending.closeEquals]

theorem group_like (ands : Option Expr) (e r : Expr) (negated : Bool) {links : List Link}
    (hl : StartsWithAnd links) :
    Spine.group ⟨ands, none⟩ e (.like negated r :: links) =
      Spine.group ⟨ands, none⟩ (.like e r negated) links := by
  rcases hl with rfl | ⟨right, rest, rfl⟩
  all_goals simp [Spine.group, Pending.closeAnds, Pending.closeEquals]

theorem group_and (p : Pending) (e r : Expr) (links : List Link) :
    Spine.group p e (.operator .and r :: links) =
      Spine.group ⟨some (p.closeAnds e), none⟩ r links := by
  simp [Spine.group]

theorem regrouped_range {op op' : Operator} (hop : op ≠ .and) (hop' : op' ≠ .and) (name : String)
    (l l' : Literal) :
    regrouped (.and (.binary op (.column name) (.literal l))
      (.binary op' (.column name) (.literal l'))) =
      .and (.binary op (.column name) (.literal l)) (.binary op' (.column name) (.literal l')) := by
  simp only [regrouped, Expr.and, spine, Spine.toExpr]
  rw [group_compared none hop _ _ (.inr ⟨_, _, rfl⟩), group_and,
    group_compared _ hop' _ _ (.inl rfl)]
  rfl

/-- In a conjunction a term is read as it was built. -/
theorem IsTerm.group_spine {names : List String} {e : Expr} (h : IsTerm names e)
    (ands : Option Expr) {links : List Link} (hl : StartsWithAnd links) :
    Spine.group ⟨ands, none⟩ (e.spine links).first (e.spine links).links =
      Spine.group ⟨ands, none⟩ e links := by
  cases h with
  | compared hop _ =>
    simp only [spine]
    exact group_compared ands hop _ _ hl
  | like _ =>
    simp only [spine, text]
    exact group_like ands _ _ _ hl
  | range hop hop' _ =>
    have := regrouped_range hop hop'
    simp only [regrouped] at this
    simp only [spine, this]
  | among _ =>
    simp [spine, Spine.toExpr, Spine.group, Pending.closeAnds, Pending.closeEquals]

theorem IsChain.group_spine {names : List String} {c : Expr} (h : IsChain names c)
    {links : List Link} (hl : StartsWithAnd links) :
    Spine.group {} (c.spine links).first (c.spine links).links = Spine.group {} c links := by
  -- the chain is read from its left end, so what follows it grows with each step
  induction h generalizing links with
  | term h => exact h.group_spine none hl
  | join hc h ih =>
    simp only [Expr.and, spine]
    rw [ih (.inr ⟨_, _, rfl⟩), group_and, h.group_spine _ hl]
    rcases hl with rfl | ⟨right, rest, rfl⟩
    all_goals simp [Spine.group, Pending.closeAnds, Pending.closeEquals]

@[simp] theorem IsChain.regrouped_eq {names : List String} {c : Expr} (h : IsChain names c) :
    c.regrouped = c := by
  simp only [regrouped, Spine.toExpr]
  rw [h.group_spine (.inl rfl)]
  rfl

/-! ### Names -/

theorem IsTerm.replaceNames_eq {names : List String} {e : Expr} (h : IsTerm names e)
    {f : String → Expr} (hf : ∀ name ∈ names, f name = .column name) : e.replaceNames f = e := by
  cases h with
  | compared _ hname => simp [replaceNames, hf _ hname]
  | like hname => simp [replaceNames, text, hf _ hname]
  | range _ _ hname => simp [replaceNames, Expr.and, hf _ hname]
  | among hname => simp [replaceNames, replaceNamesInList, hf _ hname]

theorem IsChain.replaceNames_eq {names : List String} {c : Expr} (h : IsChain names c)
    {f : String → Expr} (hf : ∀ name ∈ names, f name = .column name) : c.replaceNames f = c := by
  induction h with
  | term h => exact h.replaceNames_eq hf
  | join _ h ih =>
    simp only [Expr.and, replaceNames]
    rw [ih, h.replaceNames_eq hf]

/-! ### Terms -/

theorem admits_and (fs : Fields) (c e : Expr) (r : Row) :
    (Expr.and c e).admits fs r = (c.admits fs r && e.admits fs r) := by
  simp only [admits, isTrue, Expr.and, eval, Truth.ofValue_toValue]
  rw [Bool.eq_iff_iff]
  simp [Truth.and_eq_true]

theorem admits_foldl_and (fs : Fields) (c : Expr) (es : List Expr) (r : Row) :
    (es.foldl and c).admits fs r = (c.admits fs r && es.all (·.admits fs r)) := by
  induction es generalizing c with
  | nil => simp
  | cons e es ih => simp [ih, admits_and, Bool.and_assoc]

theorem admits_of_conjunction {es : List Expr} {c : Expr} (hc : conjunction es = some c)
    (fs : Fields) (r : Row) : c.admits fs r = es.all (·.admits fs r) := by
  cases es with
  | nil => simp [conjunction] at hc
  | cons e es =>
    simp only [conjunction, Option.some.injEq] at hc
    rw [← hc, admits_foldl_and, List.all_cons]

theorem terms_compared {op : Operator} (hop : op ≠ .and) (left right : Expr) :
    terms (.binary op left right) = [.binary op left right] := by
  cases op <;> simp_all [terms]

theorem IsTerm.mem_terms {names : List String} {e t : Expr} (h : IsTerm names e)
    (ht : t ∈ e.terms) :
    t = e ∨ ∃ op name l, op ≠ .and ∧ name ∈ names ∧ t = .binary op (.column name) (.literal l) := by
  cases h with
  | compared hop hname =>
    rw [terms_compared hop, List.mem_singleton] at ht
    exact .inl ht
  | like hname =>
    simp only [terms, List.mem_singleton] at ht
    exact .inl ht
  | range hop hop' hname =>
    -- a range is one term of a scope but two terms of the condition
    right
    simp only [terms, Expr.and, terms_compared hop, terms_compared hop', List.cons_append,
      List.nil_append, List.mem_cons, List.not_mem_nil, or_false] at ht
    rcases ht with rfl | rfl
    · exact ⟨_, _, _, hop, hname, rfl⟩
    · exact ⟨_, _, _, hop', hname, rfl⟩
  | among hname =>
    simp only [terms, List.mem_singleton] at ht
    exact .inl ht

theorem IsTerm.isTerm_of_mem_terms {names : List String} {e : Expr} (h : IsTerm names e) :
    ∀ t ∈ e.terms, IsTerm names t := by
  intro t ht
  rcases h.mem_terms ht with rfl | ⟨_, _, _, hop, hname, rfl⟩
  · exact h
  · exact .compared hop hname

theorem IsChain.isTerm_of_mem_terms {names : List String} {c : Expr} (h : IsChain names c) :
    ∀ t ∈ c.terms, IsTerm names t := by
  induction h with
  | term h => exact h.isTerm_of_mem_terms
  | join _ h ih =>
    intro t ht
    simp only [Expr.and, terms, List.mem_append] at ht
    rcases ht with ht | ht
    · exact ih t ht
    · exact h.isTerm_of_mem_terms t ht

theorem terms_foldl_and (c : Expr) (es : List Expr) :
    (es.foldl and c).terms = c.terms ++ es.flatMap terms := by
  induction es generalizing c with
  | nil => simp
  | cons e es ih => simp [ih, Expr.and, terms]

theorem terms_of_conjunction {es : List Expr} {c : Expr} (hc : conjunction es = some c) :
    c.terms = es.flatMap terms := by
  cases es with
  | nil => simp [conjunction] at hc
  | cons e es =>
    simp only [conjunction, Option.some.injEq] at hc
    rw [← hc, terms_foldl_and, List.flatMap_cons]

/-! ### Failures -/

def pattern? : Expr → Option String
  | .like _ (.literal (.text pattern)) _ => some pattern
  | _ => none

def hasLongPattern (e : Expr) : Bool :=
  e.pattern?.any (Pattern.sizeLimit < ·.utf8ByteSize)

theorem IsTerm.hasLongPattern_of_mem_terms {names : List String} {e t : Expr} (h : IsTerm names e)
    (ht : t ∈ e.terms) (hlong : t.hasLongPattern = true) : e.hasLongPattern = true := by
  rcases h.mem_terms ht with rfl | ⟨_, _, _, _, _, rfl⟩
  · exact hlong
  · simp [hasLongPattern, pattern?] at hlong

theorem failure?_compared {op : Operator} (hop : op ≠ .and) (fs : Fields) (g : Group)
    (condition : Bool) (name : String) (l : Literal) :
    failure? fs g condition (.binary op (.column name) (.literal l)) = none := by
  cases op <;> simp_all [failure?]

theorem IsTerm.failure?_eq {names : List String} {e : Expr} (h : IsTerm names e) (fs : Fields)
    (g : Group) (condition : Bool) :
    failure? fs g condition e = if e.hasLongPattern then some .longPattern else none := by
  cases h with
  | compared hop _ => simp [failure?_compared hop, hasLongPattern, pattern?]
  | like _ =>
    simp [failure?, text, hasLongPattern, pattern?, Scalar.failure?, Scalar.failure?.longPattern?,
      Scalar.failure?.unclear?, eval, Literal.toValue, Value.textOf?,
      Value.toText]
  | range hop hop' _ =>
    simp only [failure?, Expr.and, failure?_compared hop, failure?_compared hop']
    simp [hasLongPattern, pattern?]
  | among _ =>
    simp [failure?, hasLongPattern, pattern?, failureOfList?, failureUpToMember?]

/-! ### Items -/

/-- A value for each row: a column, or the result of the first term that is true. -/
inductive IsItem (names : List String) : Expr → Prop where
  | star : IsItem names .star
  | column {name} (hname : name ∈ names) : IsItem names (.column name)
  | literal {l} : IsItem names (.literal l)
  | choice {arms : List (Expr × Literal)} {l : Literal} (h : ∀ a ∈ arms, IsTerm names a.1) :
      IsItem names (.choice (arms.map fun a => (a.1, .literal a.2)) (.literal l))

theorem IsTerm.regrouped_eq {names : List String} {e : Expr} (h : IsTerm names e) :
    e.regrouped = e :=
  (IsChain.term h).regrouped_eq

theorem regroupedArms_eq {names : List String} {arms : List (Expr × Literal)}
    (h : ∀ a ∈ arms, IsTerm names a.1) :
    regroupedArms (arms.map fun a => (a.1, .literal a.2)) =
      arms.map fun a => (a.1, .literal a.2) := by
  induction arms with
  | nil => rfl
  | cons a arms ih =>
    have ha := (h a List.mem_cons_self).regrouped_eq
    simp only [regrouped] at ha
    simp only [List.map_cons, regroupedArms, ha]
    rw [ih fun b hb => h b (List.mem_cons_of_mem _ hb)]
    rfl

theorem IsItem.regrouped_eq {names : List String} {e : Expr} (h : IsItem names e) :
    e.regrouped = e := by
  cases h with
  | star => rfl
  | column _ => rfl
  | literal => rfl
  | choice h =>
    simp only [regrouped, spine, regroupedArms_eq h]
    rfl

theorem replaceNamesInArms_eq {names : List String} {arms : List (Expr × Literal)}
    (h : ∀ a ∈ arms, IsTerm names a.1) {f : String → Expr}
    (hf : ∀ name ∈ names, f name = .column name) :
    replaceNamesInArms f (arms.map fun a => (a.1, .literal a.2)) =
      arms.map fun a => (a.1, .literal a.2) := by
  induction arms with
  | nil => rfl
  | cons a arms ih =>
    simp only [List.map_cons, replaceNamesInArms, replaceNames]
    rw [(h a List.mem_cons_self).replaceNames_eq hf,
      ih fun b hb => h b (List.mem_cons_of_mem _ hb)]

theorem IsItem.replaceNames_eq {names : List String} {e : Expr} (h : IsItem names e)
    {f : String → Expr} (hf : ∀ name ∈ names, f name = .column name) : e.replaceNames f = e := by
  cases h with
  | star => rfl
  | column hname => exact hf _ hname
  | literal => rfl
  | choice h => simp [replaceNames, replaceNamesInArms_eq h hf]

theorem failureOfArms?_eq {names : List String} {arms : List (Expr × Literal)}
    (h : ∀ a ∈ arms, IsTerm names a.1) (fs : Fields) (g : Group) :
    failureOfArms? fs g (arms.map fun a => (a.1, .literal a.2)) = none ∨
      failureOfArms? fs g (arms.map fun a => (a.1, .literal a.2)) = some none ∨
      failureOfArms? fs g (arms.map fun a => (a.1, .literal a.2)) = some (some .longPattern) ∧
        ∃ a ∈ arms, a.1.hasLongPattern = true := by
  induction arms with
  | nil => simp [failureOfArms?]
  | cons a arms ih =>
    simp only [List.map_cons, failureOfArms?, (h a List.mem_cons_self).failure?_eq, failure?]
    by_cases hlong : a.1.hasLongPattern = true
    · simp [hlong]
    · -- the arms behind are tried just if this one is not true
      simp only [hlong, Bool.false_eq_true, if_false]
      by_cases htrue : isTrue fs g a.1 = true
      · simp [htrue]
      · simp only [htrue, Bool.false_eq_true, if_false]
        rcases ih fun b hb => h b (List.mem_cons_of_mem _ hb) with ih | ih | ⟨ih, b, hb, hlong⟩
        · exact .inl ih
        · exact .inr (.inl ih)
        · exact .inr (.inr ⟨ih, b, List.mem_cons_of_mem _ hb, hlong⟩)

def armsHaveLongPattern : Expr → Bool
  | .choice arms _ => arms.any (·.1.hasLongPattern)
  | _ => false

def conditions : Expr → List Expr
  | .choice arms _ => arms.map (·.1)
  | _ => []

theorem armsHaveLongPattern_eq (e : Expr) :
    e.armsHaveLongPattern = e.conditions.any hasLongPattern := by
  cases e with
  | choice arms otherwise => simp [armsHaveLongPattern, conditions, Function.comp_def]
  | _ => rfl

theorem IsItem.failure?_eq {names : List String} {e : Expr} (h : IsItem names e) (fs : Fields)
    (g : Group) (condition : Bool) :
    failure? fs g condition e = none ∨
      failure? fs g condition e = some .longPattern ∧ e.armsHaveLongPattern = true := by
  cases h with
  | star => simp [failure?]
  | column _ => simp [failure?]
  | literal => simp [failure?]
  | choice h =>
    simp only [failure?]
    rcases failureOfArms?_eq h fs g with h | h | ⟨h, a, ha, hlong⟩
    · simp [h]
    · simp [h]
    · right
      simp only [h, Option.getD_some, armsHaveLongPattern, List.any_map, List.any_eq_true, true_and]
      exact ⟨a, ha, hlong⟩

/-! ### Aggregates -/

theorem IsTerm.aggregates_eq {names : List String} {e : Expr} (h : IsTerm names e)
    {named : String → List (String × Nat)} (hnamed : ∀ name ∈ names, named name = []) (i : Nat) :
    aggregates named i e = [] := by
  cases h with
  | compared _ hname => simp [aggregates, hnamed _ hname]
  | like hname => simp [aggregates, text, hnamed _ hname]
  | range _ _ hname => simp [aggregates, Expr.and, hnamed _ hname]
  | among hname => simp [aggregates, hnamed _ hname]

theorem IsChain.aggregates_eq {names : List String} {c : Expr} (h : IsChain names c)
    {named : String → List (String × Nat)} (hnamed : ∀ name ∈ names, named name = []) (i : Nat) :
    aggregates named i c = [] := by
  induction h generalizing i with
  | term h => exact h.aggregates_eq hnamed i
  | join _ h ih => simp [Expr.and, aggregates, ih, h.aggregates_eq hnamed]

theorem aggregatesOfArms_eq {names : List String} {arms : List (Expr × Literal)}
    (h : ∀ a ∈ arms, IsTerm names a.1) {named : String → List (String × Nat)}
    (hnamed : ∀ name ∈ names, named name = []) (i : Nat) :
    aggregatesOfArms named i (arms.map fun a => (a.1, .literal a.2)) = [] := by
  induction arms generalizing i with
  | nil => rfl
  | cons a arms ih =>
    simp only [List.map_cons, aggregatesOfArms, aggregates]
    rw [(h a List.mem_cons_self).aggregates_eq hnamed,
      ih fun b hb => h b (List.mem_cons_of_mem _ hb)]
    rfl

theorem IsItem.aggregates_eq {names : List String} {e : Expr} (h : IsItem names e)
    {named : String → List (String × Nat)} (hnamed : ∀ name ∈ names, named name = []) (i : Nat) :
    aggregates named i e = [] := by
  cases h with
  | star => rfl
  | column hname => simp [aggregates, hnamed _ hname]
  | literal => rfl
  | choice h => simp [aggregates, aggregatesOfArms_eq h hnamed]

end Expr

end Vacancy.Sql
