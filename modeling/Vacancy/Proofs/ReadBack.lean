import Vacancy.Proofs.Grammar
import Vacancy.Proofs.Plan

/-!
What scopes and rules write is read back as it was built: operators need no parentheses of their
own, as no scope and no rule puts anything under an operator that the grammar would group in
another way.
-/

namespace Vacancy

open Sql

namespace Sql

namespace Token

@[simp] theorem unspaced_append (ts us : List Token) :
    unspaced (ts ++ us) = unspaced ts ++ unspaced us := by
  simp [unspaced]

@[simp] theorem unspaced_nil : unspaced [] = [] :=
  rfl

@[simp] theorem unspaced_cons (t : Token) (ts : List Token) :
    unspaced (t :: ts) = if t.isSpace then unspaced ts else t :: unspaced ts := by
  cases h : t.isSpace <;> simp [unspaced, h]

@[simp] theorem isSpace_space : Token.space.isSpace = true :=
  rfl

@[simp] theorem isSpace_keyword (k : Keyword) : (Token.keyword k).isSpace = false :=
  rfl

@[simp] theorem isSpace_symbol (s : Symbol) : (Token.symbol s).isSpace = false :=
  rfl

@[simp] theorem isSpace_identifier (name : String) : (Token.identifier name).isSpace = false :=
  rfl

@[simp] theorem isSpace_literal (l : Literal) : (Token.literal l).isSpace = false :=
  rfl

@[simp] theorem isSpace_operator (op : Operator) : op.token.isSpace = false := by
  cases op <;> rfl

theorem token_and : Operator.and.token = .keyword .and :=
  rfl

end Token

namespace Grammar

/-- The grammar derives the tokens of an expression for this one and for no other. -/
def ReadsBack (e : Expr) : Prop :=
  read? (Token.unspaced e.tokens) = some e ∧
    ∀ e', Derives (.predicate e') (Token.unspaced e.tokens) ↔ e' = e

theorem ReadsBack.of_derives {e : Expr} (h : Derives (.predicate e) (Token.unspaced e.tokens)) :
    ReadsBack e := by
  refine ⟨read?_eq_some_iff.2 h, fun e' => ⟨fun h' => h'.unique h, ?_⟩⟩
  rintro rfl
  exact h

/-- Without parentheses the right side of an AND does not read back. -/
example :
    read? (Token.unspaced (Expr.and (.column "a") (.and (.column "b") (.column "c"))).tokens) =
      some (.and (.and (.column "a") (.column "b")) (.column "c")) :=
  rfl

/-- Links may also be added at the end. -/
theorem Derives.links_append {left c e : Expr} {ts us : List Token}
    (hlinks : Derives (.links left c) ts) (he : Derives (.term e) us) :
    Derives (.links left (.and c e)) (ts ++ .keyword .and :: us) := by
  generalize hp : Phrase.links left c = p at hlinks
  induction hlinks generalizing left with
  | finish =>
    obtain ⟨rfl, rfl⟩ := Phrase.links.inj hp
    have : Derives (.links c (.and c e)) (.keyword .and :: (us ++ [])) := .link he .finish
    simpa using this
  | link hterm hlinks _ ih =>
    obtain ⟨rfl, rfl⟩ := Phrase.links.inj hp
    have := Derives.link hterm (ih rfl)
    simpa using this
  | _ => cases hp

theorem Derives.and {c e : Expr} {ts us : List Token} (hc : Derives (.predicate c) ts)
    (he : Derives (.term e) us) : Derives (.predicate (.and c e)) (ts ++ .keyword .and :: us) := by
  cases hc with
  | predicate hterm hlinks =>
    have := Derives.predicate hterm (hlinks.links_append he)
    simpa using this

theorem Derives.of_term {e : Expr} {ts : List Token} (h : Derives (.term e) ts) :
    Derives (.predicate e) ts := by
  have := Derives.predicate h .finish
  simpa using this

theorem Derives.of_operand {e : Expr} {ts : List Token} (h : Derives (.operand e) ts) :
    Derives (.predicate e) ts :=
  .of_term (.alone h)

end Grammar

namespace Expr

open Grammar

variable {names : List String}

theorem derives_column (name : String) : Derives (.operand (.column name)) [.identifier name] :=
  .column

theorem derives_literal (l : Literal) : Derives (.operand (.literal l)) [.literal l] :=
  .literal

theorem derives_compared {op : Operator} (hop : op ≠ .and) (name : String) (l : Literal) :
    Derives (.term (.binary op (.column name) (.literal l)))
      (Token.unspaced (tokens (.binary op (.column name) (.literal l)))) := by
  have := Derives.compared hop (derives_column name) (derives_literal l)
  simpa [tokens] using this

theorem derives_literals (l : Literal) (ls : List Literal) :
    Derives (.operands (.literal l :: ls.map .literal))
      (Token.unspaced (Token.separated (tokensOfList (.literal l :: ls.map .literal)))) := by
  induction ls generalizing l with
  | nil => exact .last .literal
  | cons l' ls ih =>
    have := Derives.more (derives_literal l) (ih l')
    simpa [tokensOfList, Token.separated, tokens] using this

theorem IsTerm.derives {e : Expr} (h : IsTerm names e) :
    Derives (.term e) (Token.unspaced e.tokens) := by
  cases h with
  | compared hop _ => exact derives_compared hop _ _
  | @like name pattern negated _ =>
    cases negated with
    | false =>
      have := Derives.like (derives_column name) (derives_literal (.text pattern))
      simpa [tokens, text] using this
    | true =>
      have := Derives.unlike (derives_column name) (derives_literal (.text pattern))
      simpa [tokens, text] using this
  | @range op op' name l l' hop hop' _ =>
    -- the parentheses of a range keep its two comparisons together
    have hlower := derives_compared hop name l
    have hupper := derives_compared hop' name l'
    have := Derives.alone (Derives.group (hlower.of_term.and hupper))
    simpa [tokens, Expr.and, Token.token_and] using this
  | @among name l ls _ =>
    have := Derives.among (derives_column name) (derives_literals l ls)
    simpa [tokens, tokensOfList] using this

theorem IsChain.derives {c : Expr} (h : IsChain names c) :
    Derives (.predicate c) (Token.unspaced c.tokens) := by
  induction h with
  | term h => exact h.derives.of_term
  | join _ h ih =>
    have := ih.and h.derives
    simpa [tokens, Expr.and, Token.token_and] using this

theorem derives_arms {a : Expr × Literal} {arms : List (Expr × Literal)}
    (h : ∀ b ∈ a :: arms, IsTerm names b.1) :
    Derives (.arms ((a :: arms).map fun a => (a.1, .literal a.2)))
      (Token.unspaced (tokensOfArms ((a :: arms).map fun a => (a.1, .literal a.2)))) := by
  induction arms generalizing a with
  | nil =>
    have := Derives.lastArm (h a List.mem_cons_self).derives.of_term
      (derives_literal a.2).of_operand
    simpa [tokensOfArms, tokens] using this
  | cons b arms ih =>
    have harms := ih fun b hb => h b (List.mem_cons_of_mem _ hb)
    have := Derives.arm (h a List.mem_cons_self).derives.of_term
      (derives_literal a.2).of_operand harms
    simpa [tokensOfArms, tokens] using this

end Expr

end Sql

namespace Buckets

open Grammar

theorem derives_chosen {names : List String} {arms : List (Expr × Literal)}
    (h : ∀ a ∈ arms, a.1.IsTerm names) :
    Derives (.operand (chosen (arms.map fun a => (a.1, .literal a.2))))
      (Token.unspaced (chosen (arms.map fun a => (a.1, .literal a.2))).tokens) := by
  cases arms with
  | nil => exact .literal
  | cons a arms =>
    have := Derives.choice (Expr.derives_arms h) (Expr.derives_literal .null).of_operand
    simpa [chosen, Expr.null, Expr.tokens] using this

theorem isTerm_rules (column : String) (groups : List (String × Condition)) :
    ∀ rule ∈ rules column groups, rule.1.IsTerm [column] := by
  intro rule hrule
  obtain ⟨⟨label, c⟩, _, hc⟩ := List.mem_filterMap.1 hrule
  obtain ⟨e, he, rfl⟩ := Option.map_eq_some_iff.1 hc
  exact Condition.isTerm_of_toExpr? he (by simp)

theorem readsBack_label (column : String) (groups : List (String × Condition)) :
    ReadsBack (build column groups).label := by
  have hterms : ∀ a ∈ (rules column groups).map fun r => (r.1, Literal.text r.2),
      a.1.IsTerm [column] := by
    intro a ha
    obtain ⟨rule, hrule, rfl⟩ := List.mem_map.1 ha
    exact isTerm_rules column groups rule hrule
  apply ReadsBack.of_derives
  rw [build, label_ofRules]
  exact .of_operand (derives_chosen hterms)

theorem readsBack_rank (column : String) (groups : List (String × Condition)) :
    ReadsBack (build column groups).rank := by
  have hterms : ∀ a ∈ (rules column groups).zipIdx.map fun r =>
      (r.1.1, Literal.integer (Int64.ofNat r.2)), a.1.IsTerm [column] := by
    intro a ha
    obtain ⟨rule, hrule, rfl⟩ := List.mem_map.1 ha
    exact isTerm_rules column groups rule.1 (List.fst_mem_of_mem_zipIdx hrule)
  apply ReadsBack.of_derives
  rw [build, rank_ofRules]
  exact .of_operand (derives_chosen hterms)

end Buckets

namespace Scope

open Grammar

/-- A way to restrict a scope further. -/
inductive Step where
  | year (range : Option YearRange)
  | referenceDate (date : Option String)
  | areas (names : List String)
  | filters (conditions : List Condition)
  | after (cursor : Option Int64)

def step (s : Scope) : Step → Scope
  | .year range => s.year range
  | .referenceDate date => s.referenceDate date
  | .areas names => s.areas names
  | .filters conditions => s.filters conditions
  | .after cursor => s.after cursor

variable {g : Grain} {run : Int64}

theorem OfRun.step {s : Scope} (h : OfRun g run s) (step : Step) : OfRun g run (s.step step) := by
  cases step with
  | year range => exact h.year range
  | referenceDate date => exact h.referenceDate date
  | areas names => exact h.areas names
  | filters conditions => exact h.filters conditions
  | after cursor => exact h.after cursor

theorem OfRun.steps {s : Scope} (h : OfRun g run s) (steps : List Step) :
    OfRun g run (steps.foldl Scope.step s) := by
  induction steps generalizing s with
  | nil => exact h
  | cons step steps ih => exact ih (h.step step)

theorem OfRun.readsBack {s : Scope} (h : OfRun g run s) :
    ∃ c, s.predicate = some c ∧ ReadsBack c := by
  obtain ⟨c, hc, hchain, _⟩ := h.predicate_eq
  exact ⟨c, hc, .of_derives hchain.derives⟩

/-- The condition, the labels and the ranks of a plan are read back. -/
theorem steps_and_rules_readsBack (g : Grain) (run : Int64) (steps : List Step) (column : String)
    (groups : List (String × Condition)) :
    (∃ c, (steps.foldl Scope.step (ofRun g run)).predicate = some c ∧ ReadsBack c) ∧
      ReadsBack (Buckets.build column groups).label ∧
      ReadsBack (Buckets.build column groups).rank := by
  refine ⟨((ofRun_ofRun g run).steps steps).readsBack, ?_, ?_⟩
  · exact Buckets.readsBack_label column groups
  · exact Buckets.readsBack_rank column groups

end Scope

end Vacancy
