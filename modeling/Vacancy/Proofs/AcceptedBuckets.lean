import Vacancy.Proofs.Accepted
import Vacancy.Proofs.Aggregates
import Vacancy.Proofs.Rules

/-!
The statement of buckets. A database takes it, as long as it does not have too many parameters or a
condition that is too high together with the comparison of the labels.
-/

namespace Vacancy

open Sql

namespace Bucketing

variable {g : Grain} {run : Int64} {rules : List (Expr × String)} {b : Bucketing}

theorem clean_chosen {names : List String} {arms : List (Expr × Literal)}
    (h : ∀ a ∈ arms, a.1.IsTerm names) (hnames : Expr.Readable names) :
    Token.Clean (Buckets.chosen (arms.map fun a => (a.1, .literal a.2))).tokens := by
  unfold Buckets.chosen
  split
  · apply Token.Clean.of_isPlain
    rfl
  · next hne =>
    apply Expr.clean_choice _ h hnames
    intro hnil
    simp [hnil] at hne

theorem ByRules.clean_label (h : b.ByRules g run rules) : Token.Clean b.label.tokens := by
  rw [h.label, Buckets.label_ofRules]
  apply clean_chosen _ g.readable_names
  intro a ha
  obtain ⟨rule, hrule, rfl⟩ := List.mem_map.1 ha
  exact h.terms rule hrule

theorem ByRules.clean_rank (h : b.ByRules g run rules) : Token.Clean b.rank.tokens := by
  rw [h.rank, Buckets.rank_ofRules]
  apply clean_chosen _ g.readable_names
  intro a ha
  obtain ⟨rule, hrule, rfl⟩ := List.mem_map.1 ha
  exact h.terms rule.1 (List.fst_mem_of_mem_zipIdx hrule)

theorem tokens_rows (b : Bucketing) (g : Grain) {c : Expr} (hc : b.condition = some c) :
    (b.rows g).tokens .sqlite =
      (([.keyword .select, .newline, .indent 1, .identifier b.valueColumn, .space, .keyword .alias,
        .space, .identifier "y", .symbol .comma, .newline, .indent 1] : List Token) ++
          b.label.tokens) ++
      ((([.space, .keyword .alias, .space, .identifier "bucket", .symbol .comma, .newline,
        .indent 1] : List Token) ++ b.rank.tokens) ++
      (([.space, .keyword .alias, .space, .identifier "bucket_rank", .newline, .keyword .source,
        .space, .identifier g.table, .newline, .keyword .filter, .space] : List Token) ++
          c.tokens)) := by
  simp [Select.tokens, rows, hc, Select.itemTokens, SelectItem.tokens, Expr.tokens, Select.clause,
    Dialect.pageTokens]

theorem ByRules.clean_rows (h : b.ByRules g run rules) :
    Token.Clean ((b.rows g).tokens .sqlite) := by
  obtain ⟨c, hc, hchain, _⟩ := h.condition
  have hvalue := g.readable_names b.valueColumn h.valueColumn
  have hcondition := hchain.all_isPlain g.readable_names
  rw [b.tokens_rows g hc]
  apply Token.Clean.append
  · apply Token.Clean.append _ h.clean_label
    apply Token.Clean.of_isPlain
    simp [hvalue, Token.isPlain_identifier]
  · apply Token.Clean.append
    · apply Token.Clean.append _ h.clean_rank
      apply Token.Clean.of_isPlain
      simp [Token.isPlain_identifier]
    · apply Token.Clean.of_isPlain
      rw [List.all_append, hcondition]
      simp [g.isPlain_table, Token.isPlain_identifier]

theorem tokens_toQuery (b : Bucketing) (g : Grain) :
    (b.toQuery g).select.tokens .sqlite =
      ([.keyword .select, .newline, .indent 1, .identifier "bucket", .space, .keyword .alias,
        .space, .identifier "x", .symbol .comma, .newline, .indent 1] : List Token) ++
      ((aggregate b.aggregation).tokens ++
      ([.space, .keyword .alias, .space, .identifier "y", .newline, .keyword .source, .space,
        .identifier bucketed, .newline, .keyword .filter, .space, .identifier "bucket", .space,
        .symbol .ne, .space, .literal (.text ""), .newline, .keyword .groupBy, .space,
        .identifier "bucket", .newline, .keyword .orderBy, .space, .function "MIN",
        .symbol .leftParen, .identifier "bucket_rank", .symbol .rightParen, .space,
        .keyword .ascending] : List Token)) := by
  simp [Select.tokens, toQuery, Select.itemTokens, SelectItem.tokens, Expr.tokens, Select.clause,
    Dialect.pageTokens, Token.separated, OrderKey.tokens, Expr.tokensOfList, Expr.least, Expr.text,
    Operator.token]

theorem clean_aggregate (a : Aggregation) : Token.Clean (aggregate a).tokens := by
  cases a with
  | average =>
    apply Token.Clean.of_isPlain
    simp [aggregate, Expr.average, Expr.tokens, Expr.tokensOfList, Token.separated,
      Token.isPlain_identifier, Token.isPlain_function Function.upper_average]
  | sum =>
    apply Token.Clean.of_isPlain
    simp [aggregate, Expr.sum, Expr.tokens, Expr.tokensOfList, Token.separated,
      Token.isPlain_identifier, Token.isPlain_function Function.upper_sum]
  | count =>
    apply Token.Clean.starred
    apply Token.isPlain_function Function.upper_count

theorem clean_toQuery (b : Bucketing) (g : Grain) :
    Token.Clean ((b.toQuery g).select.tokens .sqlite) := by
  rw [b.tokens_toQuery g]
  apply Token.Clean.append
  · apply Token.Clean.of_isPlain
    simp [Token.isPlain_identifier]
  · apply Token.Clean.append (clean_aggregate b.aggregation)
    apply Token.Clean.of_isPlain
    simp [Token.isPlain_identifier, Token.isPlain_function Function.upper_least, bucketed]

/-! ### Size -/

theorem sizeFault?_toQuery (b : Bucketing) (g : Grain) (calls : Nat) :
    (b.toQuery g).select.sizeFault? calls = none := by
  cases ha : b.aggregation with
  | average =>
    simp [toQuery, ha, aggregate, Select.sizeFault?, Select.expressions, Expr.average, Expr.least,
      Expr.text, Expr.callsOfList, Expr.calls, Expr.height, Expr.heightOfList, argumentLimit,
      heightLimit, List.zipIdx]
  | sum =>
    simp [toQuery, ha, aggregate, Select.sizeFault?, Select.expressions, Expr.sum, Expr.least,
      Expr.text, Expr.callsOfList, Expr.calls, Expr.height, Expr.heightOfList, argumentLimit,
      heightLimit, List.zipIdx]
  | count =>
    simp [toQuery, ha, aggregate, Select.sizeFault?, Select.expressions, Expr.count, Expr.least,
      Expr.text, Expr.callsOfList, Expr.calls, Expr.height, Expr.heightOfList, argumentLimit,
      heightLimit, List.zipIdx]

theorem ByRules.formFault?_toQuery (h : b.ByRules g run rules)
    (hparameters : ((b.toQuery g).tokens .sqlite).countP (·.parameter?.isSome) ≤ parameterLimit)
    (hheight : ∀ c, b.condition = some c → c.height ≤ heightLimit) :
    (b.toQuery g).formFault? = none := by
  have htokens : (b.toQuery g).tokens .sqlite =
      ([.keyword .common, .space, .identifier bucketed, .space, .keyword .alias, .space,
        .symbol .leftParen, .newline] : List Token) ++ ((b.rows g).tokens .sqlite ++
        (([.newline, .symbol .rightParen, .newline] : List Token) ++
          (b.toQuery g).select.tokens .sqlite)) := by
    simp [Query.tokens, Query.tokensWith, toQuery]
  have hclean : Token.Clean ((b.toQuery g).tokens .sqlite) := by
    rw [htokens]
    apply Token.Clean.append
    · apply Token.Clean.of_isPlain
      simp [Token.isPlain_identifier, bucketed]
    · apply Token.Clean.append h.clean_rows
      apply Token.Clean.append _ (b.clean_toQuery g)
      apply Token.Clean.of_isPlain
      rfl
  have hselects : (b.toQuery g).selects = [b.rows g, (b.toQuery g).select] := rfl
  simp only [Query.formFault?, hclean.firstFault?, Nat.not_lt.2 hparameters, if_false, hselects,
    List.map_cons, List.map_nil, h.ofRun.reads.regrouped_eq, b.regrouped_toQuery g,
    Query.sizeFaultOf?, h.ofRun.reads.sizeFault?_eq hheight, b.sizeFault?_toQuery g]
  rfl

/-! ### Meaning -/

theorem ByRules.fields_rows (h : b.ByRules g run rules) (rel : Relation) :
    ∃ y, (b.rows g).fields rel = [("y", y), ("bucket", .none), ("bucket_rank", .none)] := by
  have hchosen : ∀ (arms : List (Expr × Literal)) name,
      Select.itemFields rel ⟨Buckets.chosen (arms.map fun a => (a.1, .literal a.2)), some name⟩ =
        [(name, .none)] := by
    intro arms name
    unfold Buckets.chosen
    split
    · rfl
    · rfl
  refine ⟨((Expr.column b.valueColumn).replaceNames rel.meaning).affinity rel.fields, ?_⟩
  simp only [Select.fields, rows, List.flatMap_cons, List.flatMap_nil, h.label, h.rank,
    Buckets.label_ofRules, Buckets.rank_ofRules, hchosen]
  rfl

def columns : List String :=
  ["y", "bucket", "bucket_rank"]

theorem column?_of_mem_columns {rel : Relation} {y : Affinity}
    (hfields : rel.fields = [("y", y), ("bucket", .none), ("bucket_rank", .none)]) {name : String}
    (h : name ∈ columns) : rel.column? name = some name := by
  have hy : "y".toLower = "y" := Grain.toLower_eq_self (by decide)
  have hbucket : "bucket".toLower = "bucket" := Grain.toLower_eq_self (by decide)
  have hrank : "bucket_rank".toLower = "bucket_rank" := Grain.toLower_eq_self (by decide)
  simp only [columns, List.mem_cons, List.not_mem_nil, or_false] at h
  rcases h with rfl | rfl | rfl
  all_goals
    simp [Relation.column?, Fields.declared?, hfields, hy, hbucket, hrank]

theorem check_aggregate (a : Aggregation) {named : String → Option String}
    (hnamed : ∀ name ∈ columns, named name = none) (i : Nat) :
    (aggregate a).check named true i {} = {} := by
  have hy : (Expr.column "y").check named false (i + 1) {} = {} :=
    (Expr.IsItem.column (by simp [columns])).check_eq hnamed false (i + 1)
  cases a with
  | average =>
    apply Expr.check_aggregate (by simp) Function.named?_average
    exact hy
  | sum =>
    apply Expr.check_aggregate (by simp) Function.named?_sum
    exact hy
  | count => apply Expr.check_count

theorem names_toQuery (b : Bucketing) (g : Grain) (rel : Relation) :
    ((b.toQuery g).select.fields rel).map (·.1) = ["x", "y"] := by
  cases ha : b.aggregation with
  | average =>
    simp only [Select.fields, toQuery, ha]
    rfl
  | sum =>
    simp only [Select.fields, toQuery, ha]
    rfl
  | count =>
    simp only [Select.fields, toQuery, ha]
    rfl

theorem meaningFault?_toQuery (b : Bucketing) (g : Grain) {rel : Relation} {y : Affinity}
    (hfields : rel.fields = [("y", y), ("bucket", .none), ("bucket_rank", .none)])
    (calls truths : Nat) : (b.toQuery g).select.meaningFault? rel calls truths = none := by
  have hbucket : "bucket" ∈ columns := by simp [columns]
  have hrank : "bucket_rank" ∈ columns := by simp [columns]
  have hnamed : ∀ name ∈ columns, (b.toQuery g).select.aggregateItem? rel name = none := by
    intro name hname
    simp [Select.aggregateItem?, column?_of_mem_columns hfields hname]
  have haliases : ∀ calls, (b.toQuery g).select.aliasAggregates rel calls "bucket" = [] := by
    intro calls
    simp [Select.aliasAggregates, column?_of_mem_columns hfields hbucket]
  have hitems : ∀ i, Expr.callFaultOf? (fun _ => none) true i
      [.column "bucket", aggregate b.aggregation] = none := by
    intro i
    simp [Expr.callFaultOf?, Expr.check, check_aggregate]
  have hrest : ∀ i, Expr.callFaultOf? ((b.toQuery g).select.aggregateItem? rel) true i
      [.binary .ne (.column "bucket") (.text ""), .column "bucket"] = none := by
    intro i
    simp [Expr.callFaultOf?, Expr.check, Found.pass, Expr.text, hnamed _ hbucket]
  have hleast : ∀ i, (Expr.least (.column "bucket_rank")).check
      ((b.toQuery g).select.aggregateItem? rel) true i {} = {} := by
    intro i
    apply Expr.check_aggregate (by simp) Function.named?_least
    exact (Expr.IsItem.column hrank).check_eq hnamed _ _
  have horder : ∀ columns term calls truths, Select.orderFault?
      ((b.toQuery g).select.aggregateItem? rel) columns term calls truths
      [Expr.least (.column "bucket_rank")] = none := by
    intro columns term calls truths
    have hnever : (Expr.least (.column "bucket_rank")).isNever = false := rfl
    simp only [Select.orderFault?, hnever, hleast, Bool.false_eq_true, if_false]
  have hexprs : (b.toQuery g).select.items.map (·.expr) =
      [.column "bucket", aggregate b.aggregation] := rfl
  have hgroups : (b.toQuery g).select.groups = [.column "bucket"] := rfl
  have hcondition : (b.toQuery g).select.condition =
      some (.binary .ne (.column "bucket") (.text "")) := rfl
  have hkeys : (b.toQuery g).select.order.map (·.expr) =
      [.least (.column "bucket_rank")] := rfl
  have hwidth : ((b.toQuery g).select.fields rel).length = 2 := by
    rw [← List.length_map, b.names_toQuery g rel]
    rfl
  have hfew : ¬columnLimit < 2 := by decide
  simp only [Select.meaningFault?, hwidth, hexprs, hgroups, hcondition,
    hkeys, hfew, if_false, Option.toList_some, List.cons_append, List.nil_append,
    List.isEmpty_cons, Bool.not_false, Bool.or_true, hitems, hrest, horder]
  simp [Expr.aggregates, Expr.text, haliases, columnLimit]

theorem ByRules.joinedFault?_eq (h : b.ByRules g run rules)
    (hheight : ∀ c, b.condition = some c → c.height < heightLimit) :
    Query.joinedFault? (b.toQuery g).select (b.rows g) = none := by
  obtain ⟨c, hc, hchain, _⟩ := h.condition
  have hjoined : (c.and (.binary .ne (.column "bucket") (.text ""))).height ≤ heightLimit := by
    have hlow := hheight c hc
    have hcompared :
        (Expr.binary .ne (.column "bucket") (.literal (.text ""))).height = 2 :=
      Expr.height_compared (by decide) _ _
    rw [Expr.height_and hchain.isNever_eq rfl]
    unfold Expr.text
    unfold heightLimit at hlow ⊢
    omega
  have hinner : (b.rows g).condition = some c := hc
  have houter : (b.toQuery g).select.condition =
      some (.binary .ne (.column "bucket") (.text "")) := rfl
  simp [Query.joinedFault?, hinner, houter, Nat.not_lt.2 hjoined]

theorem ByRules.refusal?_toQuery (h : b.ByRules g run rules)
    (hparameters : ((b.toQuery g).tokens .sqlite).countP (·.parameter?.isSome) ≤ parameterLimit)
    (hheight : ∀ c, b.condition = some c → c.height < heightLimit) (d : Database) :
    (b.toQuery g).refusal? d.relation = none := by
  have hform := h.formFault?_toQuery hparameters fun c hc => Nat.le_of_lt (hheight c hc)
  have hreads := h.ofRun.reads
  -- first the query on the table, then the one on its rows, then both together
  have hmeaning : (b.toQuery g).meaningFault? d.relation = none := by
    have hcommon : (b.toQuery g).common = [(bucketed, b.rows g)] := rfl
    have hsource : (b.rows g).source.elim { fields := [], rows := [] } d.relation =
        (d.table g).relation := by
      rw [hreads.source, Option.elim_some, d.relation_table]
    obtain ⟨y, hfields⟩ := h.fields_rows (d.table g).relation
    have hinner : ∀ calls truths,
        (b.rows g).meaningFault? (d.table g).relation calls truths = none := by
      apply hreads.meaningFault?_eq (d.table g)
      · rw [hfields]
        simp [columnLimit]
      · exact Nat.zero_le _
    simp only [Query.meaningFault?, hcommon, List.map_cons, List.map_nil, hreads.regrouped_eq,
      b.regrouped_toQuery g, Query.meaningFaultWith?_cons]
    have houter : (b.toQuery g).select.source = some bucketed := rfl
    simp only [Query.meaningFaultWith?, Query.meaningFaultAfter?, hsource, hinner, Except.bind,
      Query.Passed.naming, houter, Option.elim_some, if_true]
    rw [b.meaningFault?_toQuery g hfields]
    simp only [h.joinedFault?_eq hheight]
  simp [Query.refusal?, hform, hmeaning]

/-! ### The number of rules -/

theorem countP_tokensOfArms {arms : List (Expr × Literal)}
    (h : ∀ a ∈ arms, a.2.isParameter = true) :
    (Expr.tokensOfArms (arms.map fun a => (a.1, .literal a.2))).countP (·.parameter?.isSome) =
      (arms.flatMap fun a => a.1.tokens).countP (·.parameter?.isSome) + arms.length := by
  induction arms with
  | nil => rfl
  | cons a arms ih =>
    have hrest := ih fun b hb => h b (List.mem_cons_of_mem _ hb)
    have hliteral : (Token.literal a.2).parameter?.isSome = true := by
      simp [Token.parameter?, h a List.mem_cons_self]
    simp only [List.map_cons, Expr.tokensOfArms, Expr.tokens, List.countP_append, List.countP_cons,
      List.countP_nil, hliteral, List.flatMap_cons, List.length_cons, if_true, hrest]
    simp [Token.parameter?]
    omega

theorem countP_chosen {arms : List (Expr × Literal)} (h : ∀ a ∈ arms, a.2.isParameter = true) :
    (Buckets.chosen (arms.map fun a => (a.1, .literal a.2))).tokens.countP (·.parameter?.isSome) =
      (arms.flatMap fun a => a.1.tokens).countP (·.parameter?.isSome) + arms.length := by
  unfold Buckets.chosen
  split
  · next hnil =>
    rw [List.isEmpty_iff, List.map_eq_nil_iff] at hnil
    rw [hnil]
    rfl
  · have hopen : [Token.keyword .choice].countP (·.parameter?.isSome) = 0 := rfl
    have hotherwise : [Token.space, .keyword .otherwise, .space].countP (·.parameter?.isSome) = 0 :=
      rfl
    have hnull : Expr.null.tokens.countP (·.parameter?.isSome) = 0 := rfl
    have hclose : [Token.space, .keyword .done].countP (·.parameter?.isSome) = 0 := rfl
    simp only [Expr.tokens, List.countP_append, countP_tokensOfArms h, hopen, hotherwise, hnull,
      hclose, Nat.zero_add, Nat.add_zero]

theorem countP_label_ofRules (rules : List (Expr × String)) :
    (Buckets.ofRules rules).label.tokens.countP (·.parameter?.isSome) =
      (rules.flatMap fun r => r.1.tokens).countP (·.parameter?.isSome) + rules.length := by
  rw [Buckets.label_ofRules, countP_chosen, List.flatMap_map, List.length_map]
  rw [List.forall_mem_map]
  exact fun _ _ => rfl

theorem countP_rank_ofRules (rules : List (Expr × String)) :
    (Buckets.ofRules rules).rank.tokens.countP (·.parameter?.isSome) =
      (rules.flatMap fun r => r.1.tokens).countP (·.parameter?.isSome) + rules.length := by
  have hrules : rules = rules.zipIdx.map Prod.fst := (List.zipIdx_map_fst 0 rules).symm
  rw [Buckets.rank_ofRules, countP_chosen, List.flatMap_map, List.length_map, List.length_zipIdx]
  · conv_rhs => rw [hrules, List.flatMap_map, ← hrules]
  · rw [List.forall_mem_map]
    exact fun _ _ => rfl

theorem ByRules.length_rules_le (h : b.ByRules g run rules) :
    rules.length ≤ ((b.toQuery g).tokens .sqlite).countP (·.parameter?.isSome) := by
  obtain ⟨c, hc, _⟩ := h.condition
  -- each rule passes its number as a parameter
  have hrank : rules.length ≤ b.rank.tokens.countP (·.parameter?.isSome) := by
    rw [h.rank, countP_rank_ofRules]
    exact Nat.le_add_left _ _
  have htokens : (b.toQuery g).tokens .sqlite =
      Query.tokensWith .sqlite (b.toQuery g).select [(bucketed, b.rows g)] := rfl
  simp only [htokens, Query.tokensWith, b.tokens_rows g hc, List.countP_append]
  omega

end Bucketing

end Vacancy
