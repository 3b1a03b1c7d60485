import Vacancy.Proofs.TableQuery

/-!
Failures on the way through the rows. What scopes and rules are made of fails at nothing but a
pattern that is too long, so a query that is made of these does, too, as long as it has no groups.
-/

namespace Vacancy.Sql

/-- No failure, or that of a pattern that is too long, which takes one. -/
def OnlyPattern (long : Prop) (o : Option SqlError) : Prop :=
  o = none ∨ long ∧ o = some .longPattern

namespace OnlyPattern

variable {long : Prop} {o p : Option SqlError}

theorem eq_none (h : OnlyPattern long o) (hlong : ¬long) : o = none :=
  h.resolve_right fun h => hlong h.1

theorem orElse (ho : OnlyPattern long o) (hp : OnlyPattern long p) :
    OnlyPattern long (o <|> p) := by
  rcases ho with rfl | ⟨hlong, rfl⟩
  · simpa using hp
  · exact .inr ⟨hlong, rfl⟩

theorem ite {c : Prop} [Decidable c] (ho : OnlyPattern long o) (hp : OnlyPattern long p) :
    OnlyPattern long (if c then o else p) := by
  split
  · exact ho
  · exact hp

theorem findSome? {f : α → Option SqlError} {as : List α}
    (h : ∀ a ∈ as, OnlyPattern long (f a)) : OnlyPattern long (as.findSome? f) := by
  induction as with
  | nil => exact .inl rfl
  | cons a as ih =>
    rw [List.findSome?_cons]
    have ha := h a List.mem_cons_self
    split
    · next e he =>
      rw [he] at ha
      exact ha
    · exact ih fun b hb => h b (List.mem_cons_of_mem _ hb)

end OnlyPattern

namespace Expr

variable {long : Prop}

/-- An expression that fails at nothing but a pattern that is too long. -/
def FailsAtPattern (long : Prop) (e : Expr) : Prop :=
  ∀ fs g condition, OnlyPattern long (e.failure? fs g condition)

theorem IsTerm.failsAtPattern {names : List String} {e : Expr} (h : e.IsTerm names)
    (hlong : e.hasLongPattern = true → long) : e.FailsAtPattern long := by
  intro fs g condition
  rw [h.failure?_eq]
  split
  · next he => exact .inr ⟨hlong he, rfl⟩
  · exact .inl rfl

theorem IsItem.failsAtPattern {names : List String} {e : Expr} (h : e.IsItem names)
    (hlong : e.armsHaveLongPattern = true → long) : e.FailsAtPattern long := by
  intro fs g condition
  exact (h.failure?_eq fs g condition).imp_right fun h => ⟨hlong h.2, h.1⟩

theorem FailsAtPattern.compared {e : Expr} (h : e.FailsAtPattern long) {op : Operator}
    (hop : op ≠ .and) (l : Literal) : (Expr.binary op e (.literal l)).FailsAtPattern long := by
  intro fs g condition
  have : Expr.failure? fs g condition (.binary op e (.literal l)) =
      (e.failure? fs g false <|> none) := by
    cases op <;> simp_all [failure?]
  rw [this]
  exact (h fs g false).orElse (.inl rfl)

end Expr

namespace Select

variable {long : Prop} {s : Select}

theorem failureOfTerms?_onlyPattern {es : List Expr} (h : ∀ e ∈ es, e.FailsAtPattern long)
    (fs : Fields) (g : Group) : OnlyPattern long (failureOfTerms? fs g es) := by
  induction es with
  | nil => exact .inl rfl
  | cons e es ih =>
    apply OnlyPattern.orElse
    · exact h e List.mem_cons_self fs g true
    · apply OnlyPattern.ite
      · exact ih fun e' he' => h e' (List.mem_cons_of_mem _ he')
      · exact .inl rfl

theorem failureOfValues?_onlyPattern {es : List Expr} (h : ∀ e ∈ es, e.FailsAtPattern long)
    (fs : Fields) (g : Group) : OnlyPattern long (failureOfValues? fs g es) :=
  OnlyPattern.findSome? fun e he => h e he fs g false

theorem mem_terms_of_mem_zipIdx {p : Expr × Nat → Bool} {e : Expr}
    (h : e ∈ (s.terms.zipIdx.filter p).map (·.1)) : e ∈ s.terms := by
  obtain ⟨a, ha, rfl⟩ := List.mem_map.1 h
  exact List.fst_mem_of_mem_zipIdx (List.mem_filter.1 ha).1

theorem mem_terms_of_mem_usedTerms {key index : String} {terms : List Expr} {e : Expr}
    (h : e ∈ s.usedTerms key index terms) : e ∈ terms := by
  unfold usedTerms at h
  simp only at h
  split at h
  all_goals
    simp only [List.mem_append, Option.mem_toList] at h
  · exact List.mem_of_find?_eq_some h
  · rcases h with (h | h) | h
    all_goals exact List.mem_of_find?_eq_some h

theorem mem_terms_of_mem_rowTerms {rel : Relation} {e : Expr} (h : e ∈ s.rowTerms rel) :
    e ∈ s.terms := by
  unfold rowTerms at h
  split at h
  · simp only [List.mem_append, List.partition_eq_filter_filter, List.mem_filter] at h
    rcases h with (h | h) | h
    · exact mem_terms_of_mem_zipIdx (mem_terms_of_mem_usedTerms h)
    · exact mem_terms_of_mem_zipIdx h.1
    · exact mem_terms_of_mem_zipIdx h.1
  · exact mem_terms_of_mem_zipIdx h

/-- A query that fails, before there are groups, at nothing but a pattern that is too long. -/
structure FailsAtPattern (long : Prop) (s : Select) : Prop where
  terms : ∀ e ∈ s.terms, e.FailsAtPattern long
  values : s.isPlain = true → ∀ e ∈ s.values, e.FailsAtPattern long
  groups : s.isPlain = false → s.groups ≠ [] ∧ ∀ e ∈ s.groups, e.FailsAtPattern long

theorem FailsAtPattern.failureOnRows? (h : s.FailsAtPattern long) (rel : Relation)
    (grouped : List Expr) (rows : List Row) :
    OnlyPattern long (s.failureOnRows? rel grouped rows) := by
  apply OnlyPattern.orElse
  · apply failureOfTerms?_onlyPattern
    intro e he
    exact h.terms e (mem_terms_of_mem_zipIdx he)
  · -- a row fails at a term, or, where it meets all of them, at a value
    apply OnlyPattern.ite _ (.inl rfl)
    apply OnlyPattern.findSome?
    intro r _
    apply OnlyPattern.orElse
    · apply failureOfTerms?_onlyPattern
      intro e he
      exact h.terms e (mem_terms_of_mem_rowTerms he)
    · apply OnlyPattern.ite _ (.inl rfl)
      apply failureOfValues?_onlyPattern
      cases hplain : s.isPlain with
      | true => exact h.values hplain
      | false =>
        obtain ⟨hne, hgroups⟩ := h.groups hplain
        simpa [hne] using hgroups

theorem Reads.failsAtPattern {g : Grain} {run : Int64} (h : s.Reads g run)
    (hterms : ∀ e ∈ s.terms, e.hasLongPattern = true → long)
    (hitems : ∀ i ∈ s.items, i.expr.armsHaveLongPattern = true → long) :
    s.FailsAtPattern long := by
  obtain ⟨c, hc, hchain, _⟩ := h.condition
  constructor
  case terms =>
    intro e he
    apply (hchain.isTerm_of_mem_terms e _).failsAtPattern (hterms e he)
    simpa [terms, hc] using he
  case values =>
    intro _ e he
    rcases List.mem_append.1 he with he | he
    · obtain ⟨i, hi, rfl⟩ := List.mem_map.1 he
      exact (h.items i hi).failsAtPattern (hitems i hi)
    · obtain ⟨k, hk, rfl⟩ := List.mem_map.1 he
      obtain ⟨name, hname, hexpr⟩ := h.order k hk
      rw [hexpr]
      apply (Expr.IsItem.column hname).failsAtPattern
      simp [Expr.armsHaveLongPattern]
  case groups =>
    intro hplain
    simp [h.isPlain] at hplain

end Select

end Vacancy.Sql
