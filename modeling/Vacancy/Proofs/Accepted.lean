import Vacancy.Proofs.Bucket
import Vacancy.Proofs.Refusal

/-!
Statements that a database takes: those that plans make, as long as they do not have too many
parameters or a condition that is too high.
-/

namespace Vacancy

open Sql

namespace Sql.Token

/-! ### Form -/

def isPlain : Token → Bool
  | .identifier name => !name.contains '\x00'
  | .symbol .star | .keyword .choice => false
  | .function name =>
    !reservedWords.contains (Text.upper name) && !valueWords.contains (Text.upper name)
  | _ => true

@[simp] theorem isPlain_space : space.isPlain = true :=
  rfl

@[simp] theorem isPlain_newline : newline.isPlain = true :=
  rfl

@[simp] theorem isPlain_indent (depth : Nat) : (indent depth).isPlain = true :=
  rfl

@[simp] theorem isPlain_literal (l : Literal) : (literal l).isPlain = true :=
  rfl

@[simp] theorem isPlain_symbol {s : Symbol} (h : s ≠ .star) : (symbol s).isPlain = true := by
  cases s with
  | star => contradiction
  | _ => rfl

@[simp] theorem isPlain_keyword {k : Keyword} (h : k ≠ .choice) : (keyword k).isPlain = true := by
  cases k with
  | choice => contradiction
  | _ => rfl

theorem isPlain_identifier {name : String} (h : '\x00' ∉ name.toList) :
    (identifier name).isPlain = true := by
  change (!name.contains '\x00') = true
  simp [h]

theorem isPlain_function {name : String} (hname : Text.upper name = name)
    (h : name ∉ reservedWords ++ valueWords := by decide) : (function name).isPlain = true := by
  rw [List.mem_append, not_or] at h
  change (!reservedWords.contains (Text.upper name) &&
    !valueWords.contains (Text.upper name)) = true
  simp [hname, h]

@[simp] theorem isPlain_operator (op : Operator) : op.token.isPlain = true := by
  cases op <;> rfl

theorem fault?_of_isPlain {t : Token} (h : t.isPlain = true) (before rest : List Token) :
    t.fault? before rest = none := by
  unfold isPlain at h
  split at h
  · simp_all [fault?]
  · simp at h
  · simp at h
  · simp_all [fault?]
  · unfold fault?
    split
    all_goals simp_all

/-- Tokens that may stand in front of any others that are in order. -/
def Clean (ts : List Token) : Prop :=
  ∀ us, (∀ n before, firstFault? n before us = none) →
    ∀ n before, firstFault? n before (ts ++ us) = none

namespace Clean

variable {ts us : List Token}

theorem firstFault? (h : Clean ts) : firstFault? 0 [] ts = none := by
  have := h [] (fun _ _ => rfl) 0 []
  rwa [List.append_nil] at this

theorem append (ht : Clean ts) (hu : Clean us) : Clean (ts ++ us) := by
  intro vs hv n before
  rw [List.append_assoc]
  exact ht _ (hu vs hv) n before

theorem of_isPlain (h : ts.all isPlain = true) : Clean ts := by
  intro us hu
  -- a plain token is in order whatever stands around it
  induction ts with
  | nil => exact hu
  | cons t ts ih =>
    rw [List.all_cons, Bool.and_eq_true] at h
    intro n before
    rw [List.cons_append, firstFault?_of_none (fault?_of_isPlain h.1 _ _)]
    exact ih h.2 _ _

theorem choice (h : Clean ts) : Clean (.keyword .choice :: .space :: .keyword .when :: ts) := by
  intro us hu n before
  have hfront : Clean [.space, .keyword .when] := of_isPlain rfl
  have hrest : Clean (.space :: .keyword .when :: ts) := hfront.append h
  rw [List.cons_append, firstFault?_of_none rfl]
  exact hrest us hu _ _

theorem starred {name : String} (hname : (Token.function name).isPlain = true) :
    Clean [.function name, .symbol .leftParen, .symbol .star, .symbol .rightParen] := by
  intro us hu n before
  simp only [List.cons_append, List.nil_append]
  rw [firstFault?_of_none (fault?_of_isPlain hname _ _), firstFault?_of_none rfl,
    firstFault?_of_none rfl, firstFault?_of_none rfl]
  exact hu _ _

theorem star (h : Clean ts) : Clean (.indent 1 :: .symbol .star :: .newline :: ts) := by
  intro us hu n before
  simp only [List.cons_append]
  rw [firstFault?_of_none rfl, firstFault?_of_none rfl, firstFault?_of_none rfl]
  exact h us hu _ _

end Clean

theorem all_separated (p : Token → Bool) (hcomma : p (.symbol .comma) = true)
    (hspace : p .space = true) (tss : List (List Token)) :
    (separated tss).all p = tss.all (·.all p) := by
  fun_induction separated tss with
  | case1 => rfl
  | case2 ts => simp
  | case3 ts rest _ ih => simp [ih, hcomma, hspace]

end Sql.Token

namespace Sql.Expr

variable {names : List String}

def Readable (names : List String) : Prop :=
  ∀ name ∈ names, (Token.identifier name).isPlain = true

theorem all_isPlain_literals (ls : List Literal) :
    (tokensOfList (ls.map .literal)).all (·.all Token.isPlain) = true := by
  rw [tokensOfList_literals, List.all_map, List.all_eq_true]
  intro l _
  simp

theorem IsTerm.all_isPlain {e : Expr} (h : e.IsTerm names) (hnames : Readable names) :
    e.tokens.all Token.isPlain = true := by
  cases h with
  | compared _ hname => simp [tokens, hnames _ hname]
  | like hname =>
    simp only [tokens, text]
    split
    all_goals simp [hnames _ hname]
  | range _ _ hname => simp [tokens, Expr.and, hnames _ hname]
  | among hname =>
    rename_i name l ls
    have hvalues := all_isPlain_literals (l :: ls)
    rw [← Token.all_separated Token.isPlain (by simp) rfl] at hvalues
    simp only [List.map_cons, tokensOfList] at hvalues
    simp only [tokens, List.all_append, List.all_cons, List.all_nil, hnames _ hname,
      Token.isPlain_space, Bool.and_self, Bool.true_and, Bool.and_true] at hvalues ⊢
    rw [hvalues]
    rfl

theorem IsChain.all_isPlain {c : Expr} (h : c.IsChain names) (hnames : Readable names) :
    c.tokens.all Token.isPlain = true := by
  induction h with
  | term h => exact h.all_isPlain hnames
  | join _ h ih => simp [Expr.and, tokens, ih, h.all_isPlain hnames]

theorem all_isPlain_arms {arms : List (Expr × Literal)} (h : ∀ a ∈ arms, a.1.IsTerm names)
    (hnames : Readable names) :
    (tokensOfArms (arms.map fun a => (a.1, .literal a.2))).all Token.isPlain = true := by
  induction arms with
  | nil => rfl
  | cons a arms ih =>
    simp [tokensOfArms, tokens, (h a List.mem_cons_self).all_isPlain hnames,
      ih fun b hb => h b (List.mem_cons_of_mem _ hb)]

theorem clean_choice {arms : List (Expr × Literal)} (hne : arms ≠ [])
    (h : ∀ a ∈ arms, a.1.IsTerm names) (hnames : Readable names) (l : Literal) :
    Token.Clean (tokens (.choice (arms.map fun a => (a.1, .literal a.2)) (.literal l))) := by
  obtain ⟨a, arms, rfl⟩ := List.exists_cons_of_ne_nil hne
  have ha := (h a List.mem_cons_self).all_isPlain hnames
  have harms := all_isPlain_arms (fun b hb => h b (List.mem_cons_of_mem _ hb)) hnames
  simp only [tokens, List.map_cons, tokensOfArms, List.cons_append, List.nil_append,
    List.append_assoc]
  apply Token.Clean.choice
  apply Token.Clean.of_isPlain
  simp [ha, harms]

end Sql.Expr

namespace Grain

theorem readable_names (g : Grain) : Expr.Readable g.names := by
  intro name hname
  apply Token.isPlain_identifier
  intro hzero
  have hchars := List.all_eq_true.1 (chars_of_mem_names hname) _ hzero
  simp at hchars

end Grain

namespace Sql.Expr

variable {names : List String}

/-! ### Size -/

theorem IsTerm.calls_eq {e : Expr} (h : e.IsTerm names) : e.calls = [] := by
  cases h <;> simp [calls, text, Expr.and]

theorem IsChain.calls_eq {c : Expr} (h : c.IsChain names) : c.calls = [] := by
  induction h with
  | term h => exact h.calls_eq
  | join _ h ih => simp [Expr.and, calls, ih, h.calls_eq]

theorem callsOfArms_eq {arms : List (Expr × Literal)} (h : ∀ a ∈ arms, a.1.IsTerm names) :
    callsOfArms (arms.map fun a => (a.1, .literal a.2)) = [] := by
  induction arms with
  | nil => rfl
  | cons a arms ih =>
    simp [callsOfArms, calls, (h a List.mem_cons_self).calls_eq,
      ih fun b hb => h b (List.mem_cons_of_mem _ hb)]

theorem IsItem.calls_eq {e : Expr} (h : e.IsItem names) : e.calls = [] := by
  cases h with
  | star => rfl
  | column _ => rfl
  | literal => rfl
  | choice h => simp [calls, callsOfArms_eq h]

theorem heightOfArms_le {arms : List (Expr × Literal)} (h : ∀ a ∈ arms, a.1.IsTerm names) :
    heightOfArms (arms.map fun a => (a.1, .literal a.2)) ≤ 3 := by
  induction arms with
  | nil => simp [heightOfArms]
  | cons a arms ih =>
    have ha := (h a List.mem_cons_self).height_bounds
    have harms := ih fun b hb => h b (List.mem_cons_of_mem _ hb)
    simp only [List.map_cons, heightOfArms, height]
    omega

theorem IsItem.height_le {e : Expr} (h : e.IsItem names) : e.height ≤ 4 := by
  cases h with
  | star => simp [height]
  | column _ => simp [height]
  | literal => simp [height]
  | choice h =>
    have := heightOfArms_le h
    simp only [height]
    omega

/-! ### Calls -/

variable {named : String → Option String}

theorem check_compared {op : Operator} (hop : op ≠ .and) {name : String} (hname : named name = none)
    (aggregates : Bool) (i : Nat) (l : Literal) :
    (Expr.binary op (.column name) (.literal l)).check named aggregates i {} = {} := by
  simp [check, Found.pass, hop, hname]

theorem IsTerm.check_eq {e : Expr} (h : e.IsTerm names) (hnamed : ∀ name ∈ names, named name = none)
    (aggregates : Bool) (i : Nat) : e.check named aggregates i {} = {} := by
  cases h with
  | compared hop hname => exact check_compared hop (hnamed _ hname) _ _ _
  | like hname => simp [check, text, Found.pass, Found.resume, hnamed _ hname]
  | range hop hop' hname =>
    simp [check, Expr.and, Found.pass, hop, hop', hnamed _ hname]
  | among hname =>
    simp [check, checkList, Found.pass, hnamed _ hname]

theorem IsChain.check_eq {c : Expr} (h : c.IsChain names)
    (hnamed : ∀ name ∈ names, named name = none) (aggregates : Bool) (i : Nat) :
    c.check named aggregates i {} = {} := by
  induction h generalizing i with
  | term h => exact h.check_eq hnamed _ _
  | join _ h ih =>
    simp [Expr.and, check, Found.pass, ih, h.check_eq hnamed]

theorem checkArms_eq {arms : List (Expr × Literal)} (h : ∀ a ∈ arms, a.1.IsTerm names)
    (hnamed : ∀ name ∈ names, named name = none) (aggregates : Bool) (i : Nat) :
    checkArms named aggregates i {} (arms.map fun a => (a.1, .literal a.2)) = {} := by
  induction arms generalizing i with
  | nil => rfl
  | cons a arms ih =>
    have ha := (h a List.mem_cons_self).check_eq hnamed
    simp only [List.map_cons, checkArms, ha, check, Found.pass]
    exact ih (fun b hb => h b (List.mem_cons_of_mem _ hb)) _

theorem IsItem.check_eq {e : Expr} (h : e.IsItem names) (hnamed : ∀ name ∈ names, named name = none)
    (aggregates : Bool) (i : Nat) : e.check named aggregates i {} = {} := by
  cases h with
  | star => simp [check, Found.pass]
  | column hname => simp [check, hnamed _ hname]
  | literal => simp [check, Found.pass]
  | choice h =>
    simp only [check, Found.pass]
    simp [checkArms_eq h hnamed]

theorem callFaultOf?_items {es : List Expr} (h : ∀ e ∈ es, e.IsItem names)
    (hnamed : ∀ name ∈ names, named name = none) (aggregates : Bool) (i : Nat) :
    callFaultOf? named aggregates i es = none := by
  induction es generalizing i with
  | nil => rfl
  | cons e es ih =>
    simp only [callFaultOf?, (h e List.mem_cons_self).check_eq hnamed]
    simpa using ih (fun e' he' => h e' (List.mem_cons_of_mem _ he')) _

end Sql.Expr

namespace Sql.Select

variable {g : Grain} {run : Int64} {s : Select}

theorem callsOfList_eq_nil {es : List Expr} (h : ∀ e ∈ es, e.calls = []) :
    Expr.callsOfList es = [] := by
  induction es with
  | nil => rfl
  | cons e es ih =>
    have hes := ih fun e' he' => h e' (List.mem_cons_of_mem _ he')
    simp [Expr.callsOfList, h e List.mem_cons_self, hes]

theorem Reads.mem_expressions (h : s.Reads g run) {e : Expr} (he : e ∈ s.expressions) :
    e.IsItem g.names ∨ s.condition = some e ∧ e.IsChain g.names := by
  obtain ⟨c, hc, hchain, _⟩ := h.condition
  simp only [expressions, hc, h.groups, Option.toList_some, List.append_nil, List.mem_append,
    List.mem_map, List.mem_singleton] at he
  rcases he with (⟨i, hi, rfl⟩ | rfl) | ⟨k, hk, rfl⟩
  · exact .inl (h.items i hi)
  · exact .inr ⟨hc, hchain⟩
  · obtain ⟨name, hname, hexpr⟩ := h.order k hk
    rw [hexpr]
    exact .inl (.column hname)

theorem Reads.callsOfList_expressions (h : s.Reads g run) :
    Expr.callsOfList s.expressions = [] := by
  apply callsOfList_eq_nil
  intro e he
  rcases h.mem_expressions he with he | ⟨_, he⟩
  · exact he.calls_eq
  · exact he.calls_eq

theorem Reads.sizeFault?_eq (h : s.Reads g run)
    (hheight : ∀ c, s.condition = some c → c.height ≤ heightLimit) (calls : Nat) :
    s.sizeFault? calls = none := by
  have hhigh : s.expressions.any (heightLimit < ·.height) = false := by
    rw [List.any_eq_false]
    intro e he
    rw [decide_eq_true_eq, Nat.not_lt]
    rcases h.mem_expressions he with he | ⟨hc, _⟩
    -- only the condition can be high
    · exact Nat.le_trans he.height_le (by decide)
    · exact hheight e hc
  simp [sizeFault?, h.callsOfList_expressions, hhigh]

theorem aggregateItem?_eq (s : Select) (t : Table g) {name : String} (h : name ∈ g.names) :
    s.aggregateItem? t.relation name = none := by
  simp [aggregateItem?, t.column?_relation h]

theorem aliasAggregates_eq (s : Select) (t : Table g) (calls : Nat) {name : String}
    (h : name ∈ g.names) : s.aliasAggregates t.relation calls name = [] := by
  simp [aliasAggregates, t.column?_relation h]

theorem orderFault?_columns {names : List String} {named : String → Option String}
    (hnamed : ∀ name ∈ names, named name = none) (columns term calls truths : Nat) {es : List Expr}
    (h : ∀ e ∈ es, ∃ name ∈ names, e = .column name) :
    orderFault? named columns term calls truths es = none := by
  induction es generalizing term calls truths with
  | nil => rfl
  | cons e es ih =>
    obtain ⟨name, hname, rfl⟩ := h e List.mem_cons_self
    have hcheck := (Expr.IsItem.column hname).check_eq hnamed true calls
    simp only [orderFault?, Expr.isNever, Bool.false_eq_true, if_false, hcheck]
    exact ih _ _ _ fun e' he' => h e' (List.mem_cons_of_mem _ he')

theorem aggregatesOfList_columns {es : List Expr} {names : List String}
    (h : ∀ e ∈ es, ∃ name ∈ names, e = .column name) (i : Nat) :
    Expr.aggregatesOfList (fun _ => []) i es = [] := by
  induction es generalizing i with
  | nil => rfl
  | cons e es ih =>
    obtain ⟨name, _, rfl⟩ := h e List.mem_cons_self
    have hes := ih fun e' he' => h e' (List.mem_cons_of_mem _ he')
    simp [Expr.aggregatesOfList, Expr.aggregates, hes]

theorem Reads.meaningFault?_eq (h : s.Reads g run) (t : Table g)
    (hfields : (s.fields t.relation).length ≤ columnLimit) (horder : s.order.length ≤ columnLimit)
    (calls truths : Nat) : s.meaningFault? t.relation calls truths = none := by
  obtain ⟨c, hc, hchain, _⟩ := h.condition
  have hnamed : ∀ name ∈ g.names, s.aggregateItem? t.relation name = none :=
    fun _ => s.aggregateItem?_eq t
  have haliases : ∀ name ∈ g.names, s.aliasAggregates t.relation calls name = [] :=
    fun _ => s.aliasAggregates_eq t calls
  have hitems : ∀ e ∈ s.items.map (·.expr), e.IsItem g.names := by
    intro e he
    obtain ⟨i, hi, rfl⟩ := List.mem_map.1 he
    exact h.items i hi
  have hkeys : ∀ e ∈ s.order.map (·.expr), ∃ name ∈ g.names, e = .column name := by
    intro e he
    obtain ⟨k, hk, rfl⟩ := List.mem_map.1 he
    exact h.order k hk
  have hcondition : ∀ aggregates i,
      Expr.callFaultOf? (s.aggregateItem? t.relation) aggregates i [c] = none := by
    intro aggregates i
    simp [Expr.callFaultOf?, hchain.check_eq hnamed]
  have hearly : ∀ n i, Expr.aggregatesOfList (fun _ => []) i ((s.order.map (·.expr)).take n) = [] :=
    fun n i => aggregatesOfList_columns (fun e he => hkeys e (List.mem_of_mem_take he)) i
  simp only [meaningFault?, hc, Option.toList_some, h.groups, List.append_nil,
    Nat.not_lt.2 hfields, if_false, Expr.callFaultOf?_items hitems (fun _ _ => rfl), hcondition,
    orderFault?_columns hnamed _ _ _ _ hkeys, hearly, List.length_map, Nat.not_lt.2 horder,
    List.flatMap_cons, List.flatMap_nil, hchain.aggregates_eq haliases]
  simp

end Sql.Select

namespace Grain

theorem isPlain_table (g : Grain) : (Token.identifier g.table).isPlain = true := by
  cases g <;> simp [Token.isPlain, table]

end Grain

namespace Sql.Query

variable {g : Grain} {run : Int64}

theorem isPlain_pageTokens (d : Dialect) (limit offset : Option UInt64) :
    (d.pageTokens limit offset).all Token.isPlain = true := by
  cases limit with
  | none =>
    cases offset with
    | none => rfl
    | some o => cases d <;> rfl
  | some l => cases offset <;> rfl

theorem clean_star {c : Expr} (hc : c.IsChain g.names) (limit offset : Option UInt64) :
    Token.Clean (tokens .sqlite ⟨{
      items := [⟨.star, none⟩]
      source := some g.table
      condition := some c
      order := [idOrder]
      limit, offset }, []⟩) := by
  have hcondition := hc.all_isPlain g.readable_names
  have hid := g.readable_names idColumn g.idColumn_mem_names
  have hpage := isPlain_pageTokens .sqlite limit offset
  -- the star stands alone in its line; all other tokens may stand anywhere
  obtain ⟨lines, hlines, htokens⟩ : ∃ lines : List Token, lines.all Token.isPlain = true ∧
      tokens .sqlite ⟨{
        items := [⟨.star, none⟩]
        source := some g.table
        condition := some c
        order := [idOrder]
        limit, offset }, []⟩ = ([.keyword .select, .newline] : List Token) ++
          (.indent 1 :: .symbol .star :: .newline ::
            (([.keyword .source, .space, .identifier g.table, .newline, .keyword .filter,
              .space] : List Token) ++ c.tokens ++ ([.newline, .keyword .orderBy, .space,
                .identifier idColumn, .space, .keyword .ascending] : List Token) ++ lines)) := by
    simp only [tokens, tokensWith, Select.tokens]
    cases hlast : Dialect.pageTokens .sqlite limit offset with
    | nil =>
      refine ⟨[], rfl, ?_⟩
      simp [Select.itemTokens, SelectItem.tokens, Expr.tokens, Select.clause, OrderKey.tokens,
        idOrder, Token.separated]
    | cons t ts =>
      refine ⟨.newline :: t :: ts, ?_, ?_⟩
      · rw [hlast] at hpage
        rw [List.all_cons, hpage]
        rfl
      · simp [Select.itemTokens, SelectItem.tokens, Expr.tokens, Select.clause, OrderKey.tokens,
          idOrder, Token.separated]
  rw [htokens]
  apply Token.Clean.append (.of_isPlain rfl)
  apply Token.Clean.star
  apply Token.Clean.of_isPlain
  rw [List.all_append, hlines]
  simp [hcondition, hid, g.isPlain_table]

theorem refusal?_of_reads {s : Select} (h : s.Reads g run)
    (hform : Token.firstFault? 0 [] (tokens .sqlite ⟨s, []⟩) = none)
    (hparameters : (tokens .sqlite ⟨s, []⟩).countP (·.parameter?.isSome) ≤ parameterLimit)
    (hheight : ∀ c, s.condition = some c → c.height ≤ heightLimit) (d : Database)
    (hfields : (s.fields (d.table g).relation).length ≤ columnLimit)
    (horder : s.order.length ≤ columnLimit) : refusal? ⟨s, []⟩ d.relation = none := by
  have hsource : s.source.elim { fields := [], rows := [] } d.relation = (d.table g).relation := by
    rw [h.source, Option.elim_some, d.relation_table]
  have hmeaning := h.meaningFault?_eq (d.table g) hfields horder 0 0
  simp only [refusal?, formFault?, hform, Nat.not_lt.2 hparameters, selects, List.map_nil,
    List.reverse_nil, List.nil_append, List.map_cons, sizeFaultOf?, h.regrouped_eq,
    h.sizeFault?_eq hheight, meaningFault?, meaningFaultWith?, meaningFaultAfter?, hsource,
    hmeaning]
  simp

end Sql.Query

end Vacancy
