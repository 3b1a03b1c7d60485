import Vacancy.Proofs.Batch
import Vacancy.Proofs.Plan
import Vacancy.Proofs.Rendering

/-!
The names in a statement. Views and batch requests carry any strings, but as identifiers a statement
has only names of the catalog and a few of its own; as functions it has those of aggregates; and it
has no text as it is but the limit that stands for none.
-/

namespace Vacancy

open Sql

namespace Sql.Token

def identifier? : Token → Option String
  | .identifier name => some name
  | _ => none

def function? : Token → Option String
  | .function name => some name
  | _ => none

def raw? : Token → Option String
  | .raw text => some text
  | _ => none

def functionNames : List String :=
  ["AVG", "SUM", "COUNT", "MIN"]

/-- A token that is no text as it is and no name but the given ones and those of functions. -/
def IsNamed (names : List String) : Token → Prop
  | .identifier name => name ∈ names
  | .function name => name ∈ functionNames
  | .raw _ => False
  | _ => True

section

variable {names : List String}

@[simp] theorem isNamed_keyword (k : Keyword) : (keyword k).IsNamed names :=
  trivial

@[simp] theorem isNamed_symbol (s : Symbol) : (symbol s).IsNamed names :=
  trivial

@[simp] theorem isNamed_space : space.IsNamed names :=
  trivial

@[simp] theorem isNamed_newline : newline.IsNamed names :=
  trivial

@[simp] theorem isNamed_indent (depth : Nat) : (indent depth).IsNamed names :=
  trivial

@[simp] theorem isNamed_literal (l : Literal) : (literal l).IsNamed names :=
  trivial

@[simp] theorem isNamed_identifier {name : String} :
    (identifier name).IsNamed names ↔ name ∈ names :=
  Iff.rfl

@[simp] theorem isNamed_function {name : String} :
    (function name).IsNamed names ↔ name ∈ functionNames :=
  Iff.rfl

end

def Named (names : List String) (ts : List Token) : Prop :=
  ∀ t ∈ ts, t.IsNamed names

variable {names : List String}

@[simp] theorem named_nil : Named names [] := by
  simp [Named]

@[simp] theorem named_cons {t : Token} {ts : List Token} :
    Named names (t :: ts) ↔ t.IsNamed names ∧ Named names ts :=
  List.forall_mem_cons

@[simp] theorem named_append {ts us : List Token} :
    Named names (ts ++ us) ↔ Named names ts ∧ Named names us :=
  List.forall_mem_append

theorem Named.mono {names' : List String} {ts : List Token} (h : Named names ts)
    (hnames : ∀ name ∈ names, name ∈ names') : Named names' ts := by
  intro t ht
  have := h t ht
  cases t with
  | identifier name => exact hnames name this
  | _ => exact this

theorem named_separated :
    ∀ {tss : List (List Token)}, (∀ ts ∈ tss, Named names ts) → Named names (separated tss)
  | [], _ => named_nil
  | [ts], h => h ts List.mem_cons_self
  | ts :: us :: rest, h => by
    rw [List.forall_mem_cons] at h
    rw [separated_cons_cons]
    simp only [named_append, named_cons, named_nil, isNamed_symbol, isNamed_space, and_true]
    exact ⟨h.1, named_separated h.2⟩

theorem raw?_of_named {ts : List Token} (h : Named names ts) : ts.filterMap raw? = [] := by
  rw [List.filterMap_eq_nil_iff]
  intro t ht
  cases t with
  | raw text => exact (h _ ht).elim
  | _ => rfl

end Sql.Token

open Sql.Token (Named IsNamed named_separated)

/-! ### Expressions -/

namespace Sql.Expr

variable {names : List String}

theorem named_binary (op : Operator) {left right : Expr} (hleft : Named names left.tokens)
    (hright : Named names right.tokens) : Named names (tokens (.binary op left right)) := by
  cases op <;> simp [tokens, Operator.token, hleft, hright]

theorem named_compared (op : Operator) {name : String} (h : name ∈ names) (l : Literal) :
    Named names (tokens (.binary op (.column name) (.literal l))) := by
  apply named_binary
  · simpa [tokens] using h
  · simp [tokens]

theorem named_of_mem_tokensOfList (ls : List Literal) :
    ∀ ts ∈ tokensOfList (ls.map .literal), Named names ts := by
  intro ts hts
  rw [tokensOfList_literals, List.mem_map] at hts
  obtain ⟨l, _, rfl⟩ := hts
  simp

theorem IsTerm.named {e : Expr} (h : IsTerm names e) : Named names e.tokens := by
  cases h with
  | compared _ hname => exact named_compared _ hname _
  | @like _ _ negated hname => cases negated <;> simp [tokens, text, hname]
  | @range op op' name l l' _ _ hname =>
    have h : Named names (Expr.and _ _).tokens :=
      named_binary .and (named_compared op hname l) (named_compared op' hname l')
    rw [tokens]
    simpa using h
  | @among name l ls hname =>
    have hvalues : Named names (Token.separated (tokensOfList ((l :: ls).map .literal))) :=
      named_separated (named_of_mem_tokensOfList (l :: ls))
    simp only [List.map_cons, tokensOfList, tokens] at hvalues
    simp [tokens, hname, hvalues]

theorem IsChain.named {c : Expr} (h : IsChain names c) : Named names c.tokens := by
  induction h with
  | term h => exact h.named
  | join _ h ih => exact named_binary .and ih h.named

theorem named_tokensOfArms {arms : List (Expr × Literal)} (h : ∀ a ∈ arms, IsTerm names a.1) :
    Named names (tokensOfArms (arms.map fun a => (a.1, .literal a.2))) := by
  induction arms with
  | nil => simp [tokensOfArms]
  | cons a arms ih =>
    have ha := (h a List.mem_cons_self).named
    have harms := ih fun b hb => h b (List.mem_cons_of_mem _ hb)
    simp [tokensOfArms, tokens, ha, harms]

theorem IsItem.named {e : Expr} (h : IsItem names e) : Named names e.tokens := by
  cases h with
  | star => simp [tokens]
  | column hname => simp [tokens, hname]
  | literal => simp [tokens]
  | choice h => simp [tokens, named_tokensOfArms h]

end Sql.Expr

/-! ### Queries -/

namespace Sql

variable {names : List String}

theorem SelectItem.named {i : SelectItem} (hexpr : Named names i.expr.tokens)
    (hname : ∀ name ∈ i.name, name ∈ names) : Named names i.tokens := by
  obtain ⟨e, name⟩ := i
  cases name with
  | none => simpa [tokens] using hexpr
  | some name =>
    have := hname name rfl
    simpa [tokens, this] using hexpr

theorem OrderKey.named {k : OrderKey} (h : Named names k.expr.tokens) : Named names k.tokens := by
  simpa [tokens] using h

namespace Select

theorem named_itemTokens :
    ∀ {is : List SelectItem}, (∀ i ∈ is, Named names i.tokens) → Named names (itemTokens is)
  | [], _ => Token.named_nil
  | [i], h => by simpa [itemTokens_singleton] using h
  | i :: j :: is, h => by
    rw [List.forall_mem_cons] at h
    rw [itemTokens_cons_cons]
    simp [h.1, named_itemTokens h.2]

theorem named_clause (k : Keyword) {ts : List Token} (h : Named names ts) :
    Named names (clause k ts) := by
  simpa [clause] using h

/-- What a select must satisfy for its tokens to be named, but for those of its page. -/
structure IsNamed (names : List String) (s : Select) : Prop where
  items : ∀ i ∈ s.items, Named names i.tokens
  source : ∀ table ∈ s.source, table ∈ names
  condition : ∀ c ∈ s.condition, Named names c.tokens
  groups : ∀ e ∈ s.groups, Named names e.tokens
  order : ∀ k ∈ s.order, Named names k.expr.tokens

theorem IsNamed.unpaged {s : Select} (h : s.IsNamed names) (d : Dialect) :
    Named names (s.unpaged.tokens d) := by
  simp only [Select.unpaged]
  simp only [tokens, Token.named_append]
  refine ⟨⟨⟨⟨⟨⟨⟨?_, ?_⟩, ?_⟩, ?_⟩, ?_⟩, ?_⟩, ?_⟩, ?_⟩
  · simp
  · split <;> simp
  · exact named_itemTokens h.items
  · split
    · next table htable =>
      apply named_clause
      simpa using h.source table htable
    · simp
  · split
    · next c hc => exact named_clause .filter (h.condition c hc)
    · simp
  · split
    · simp
    · apply named_clause
      apply named_separated
      simpa using h.groups
  · split
    · simp
    · apply named_clause
      apply named_separated
      intro ts hts
      obtain ⟨k, hk, rfl⟩ := List.mem_map.1 hts
      exact OrderKey.named (h.order k hk)
  · simp [Dialect.pageTokens]

end Select

end Sql

/-! ### Catalog -/

def Bucketing.names : List String :=
  [Bucketing.bucketed, "bucket", "bucket_rank", "x", "y"]

namespace Grain

theorem has_of_mem_names {g : Grain} {name : String} (h : name ∈ g.names) : g.has name = true := by
  have hall : ∀ name ∈ g.names, g.has name = true := by
    cases g <;> decide +kernel
  exact hall name h

def statementNames (g : Grain) : List String :=
  g.table :: (g.names ++ Bucketing.names)

theorem mem_statementNames {g : Grain} {name : String} (h : name ∈ g.names) :
    name ∈ g.statementNames := by
  simp [statementNames, h]

end Grain

namespace Sql.Token

/-- Tokens whose names are the table and columns of the grain, those of buckets, and aggregates. -/
structure OfCatalog (g : Grain) (ts : List Token) : Prop where
  identifiers : ∀ name ∈ ts.filterMap identifier?,
    name = g.table ∨ g.has name = true ∨ name ∈ Bucketing.names
  functions : ∀ name ∈ ts.filterMap function?, name ∈ functionNames

variable {g : Grain}

theorem ofCatalog_of_named {ts : List Token} (h : Named g.statementNames ts) : OfCatalog g ts := by
  constructor
  case identifiers =>
    intro name hname
    obtain ⟨t, ht, hidentifier⟩ := List.mem_filterMap.1 hname
    cases t with
    | identifier name' =>
      simp only [identifier?, Option.some.injEq] at hidentifier
      subst hidentifier
      have := h _ ht
      simp only [isNamed_identifier, Grain.statementNames, List.mem_cons, List.mem_append] at this
      exact this.imp_right (Or.imp_left Grain.has_of_mem_names)
    | _ => simp [identifier?] at hidentifier
  case functions =>
    intro name hname
    obtain ⟨t, ht, hfunction⟩ := List.mem_filterMap.1 hname
    cases t with
    | function name' =>
      simp only [function?, Option.some.injEq] at hfunction
      subst hfunction
      exact h _ ht
    | _ => simp [function?] at hfunction

theorem OfCatalog.append {ts us : List Token} (hts : OfCatalog g ts) (hus : OfCatalog g us) :
    OfCatalog g (ts ++ us) := by
  constructor
  · rw [List.filterMap_append, List.forall_mem_append]
    exact ⟨hts.identifiers, hus.identifiers⟩
  · rw [List.filterMap_append, List.forall_mem_append]
    exact ⟨hts.functions, hus.functions⟩

end Sql.Token

namespace Sql

def Dialect.pageTexts (d : Dialect) (p : Page) : List String :=
  if d = .sqlite ∧ p.limit = none ∧ p.offset.isSome then ["-1"] else []

theorem Dialect.ofCatalog_pageLine (d : Dialect) (g : Grain) (limit offset : Option UInt64) :
    Token.OfCatalog g (d.pageLine limit offset) := by
  cases limit with
  | none =>
    cases offset with
    | none => exact ⟨nofun, nofun⟩
    | some o => cases d <;> exact ⟨nofun, nofun⟩
  | some l => cases offset <;> exact ⟨nofun, nofun⟩

theorem Dialect.raw?_pageLine (d : Dialect) (p : Page) :
    (d.pageLine p.limit p.offset).filterMap Token.raw? = d.pageTexts p := by
  obtain ⟨limit, offset⟩ := p
  cases limit with
  | none =>
    cases offset with
    | none => cases d <;> rfl
    | some o => cases d <;> rfl
  | some l => cases offset <;> cases d <;> rfl

namespace Select

variable {g : Grain} {run : Int64} {s : Select}

theorem Reads.isNamed (h : s.Reads g run)
    (hnames : ∀ i ∈ s.items, ∀ name ∈ i.name, name ∈ Bucketing.names) :
    s.IsNamed g.statementNames := by
  constructor
  case items =>
    intro i hi
    apply SelectItem.named
    · exact (h.items i hi).named.mono fun name => Grain.mem_statementNames
    · intro name hname
      simp [Grain.statementNames, hnames i hi name hname]
  case source =>
    intro table htable
    rw [h.source, Option.mem_some_iff] at htable
    simp [Grain.statementNames, htable]
  case condition =>
    intro c hc
    obtain ⟨c', hc', hchain, _⟩ := h.condition
    rw [hc', Option.mem_some_iff] at hc
    subst hc
    exact hchain.named.mono fun name => Grain.mem_statementNames
  case groups => simp [h.groups]
  case order =>
    intro k hk
    obtain ⟨name, hname, hexpr⟩ := h.order k hk
    rw [hexpr]
    simpa [Expr.tokens] using Grain.mem_statementNames hname

theorem IsNamed.ofCatalog (h : s.IsNamed g.statementNames) (d : Dialect) :
    Token.OfCatalog g (s.tokens d) := by
  rw [s.tokens_eq d d]
  exact (Token.ofCatalog_of_named (h.unpaged d)).append (d.ofCatalog_pageLine g s.limit s.offset)

theorem IsNamed.raw?_tokens {names : List String} (h : s.IsNamed names) (d : Dialect) :
    (s.tokens d).filterMap Token.raw? = d.pageTexts ⟨s.limit, s.offset⟩ := by
  rw [s.tokens_eq d d, List.filterMap_append, Token.raw?_of_named (h.unpaged d),
    ← d.raw?_pageLine, List.nil_append]

theorem IsNamed.tokens (h : s.IsNamed g.statementNames) (hlimit : s.limit = none)
    (hoffset : s.offset = none) (d : Dialect) : Named g.statementNames (s.tokens d) := by
  rw [s.tokens_eq d d, hlimit, hoffset]
  simpa [Dialect.pageLine, Dialect.pageTokens] using h.unpaged d

end Select

end Sql

/-! ### Plans -/

theorem Selection.isNamed {g : Grain} {run : Int64} {s : Selection}
    (h : (s.toQuery g).select.Reads g run) : (s.toQuery g).select.IsNamed g.statementNames := by
  apply h.isNamed
  intro i hi name hname
  simp only [toQuery] at hi
  split at hi
  · simp_all
  · obtain ⟨_, _, rfl⟩ := List.mem_map.1 hi
    simp at hname

namespace Bucketing

variable {g : Grain} {run : Int64} {b : Bucketing}

theorem OfRun.isNamed_rows (h : b.OfRun g run) : (b.rows g).IsNamed g.statementNames := by
  apply h.reads.isNamed
  intro i hi name hname
  simp only [rows, List.mem_cons, List.not_mem_nil, or_false] at hi
  rcases hi with rfl | rfl | rfl <;> simp_all [names]

theorem named_aggregate {names : List String} (h : "y" ∈ names) (a : Aggregation) :
    Named names (aggregate a).tokens := by
  cases a <;>
    simp [aggregate, Expr.average, Expr.sum, Expr.count, Expr.tokens, Expr.tokensOfList,
      Token.separated, Token.functionNames, h]

theorem isNamed_toQuery (b : Bucketing) (g : Grain) :
    (b.toQuery g).select.IsNamed g.statementNames := by
  have hnames : ∀ name ∈ names, name ∈ g.statementNames := by
    intro name hname
    simp [Grain.statementNames, hname]
  have hbucket : Named g.statementNames (Expr.column "bucket").tokens := by
    simpa [Expr.tokens] using hnames "bucket" (by decide)
  constructor
  case items =>
    simp only [toQuery, List.forall_mem_cons]
    refine ⟨?_, ?_, by simp⟩
    · apply SelectItem.named hbucket
      simpa using hnames "x" (by decide)
    · apply SelectItem.named
      · exact named_aggregate (hnames "y" (by decide)) b.aggregation
      · simpa using hnames "y" (by decide)
  case source => simpa [toQuery] using hnames bucketed (by decide)
  case condition =>
    have hcondition := Expr.named_compared .ne (hnames "bucket" (by decide)) (.text "")
    simp only [toQuery, Option.mem_some_iff, forall_eq']
    exact hcondition
  case groups => simpa [toQuery] using hbucket
  case order =>
    have hrank := hnames "bucket_rank" (by decide)
    simp [toQuery, Expr.least, Expr.tokens, Expr.tokensOfList, Token.separated,
      Token.functionNames, hrank]

theorem OfRun.named (h : b.OfRun g run) (d : Dialect) :
    Named g.statementNames ((b.toQuery g).tokens d) := by
  have hrows := h.isNamed_rows.tokens rfl rfl d
  have hselect := (b.isNamed_toQuery g).tokens rfl rfl d
  have hname : bucketed ∈ g.statementNames := by simp [Grain.statementNames, names]
  have htokens : (b.toQuery g).tokens d =
      [.keyword .common, .space, .identifier bucketed, .space, .keyword .alias, .space,
        .symbol .leftParen, .newline] ++ (b.rows g).tokens d ++
        [.newline, .symbol .rightParen, .newline] ++ (b.toQuery g).select.tokens d := rfl
  rw [htokens]
  simp [hname, hrows, hselect]

end Bucketing

namespace View

variable {v : View}

theorem grain_of_plan {page : Page} {p : Plan} (h : v.plan page = .ok p) : p.grain = v.grain := by
  cases (plan_eq_ok_iff.1 h).2 <;> rfl

end View

def Plan.IsPaged (page : Page) (p : Plan) : Prop :=
  match p.reading with
  | .table _ selection | .points _ _ _ selection => selection.page = page
  | .buckets _ _ _ => True

theorem View.isPaged_plan {v : View} {page : Page} {p : Plan} (h : v.plan page = .ok p) :
    p.IsPaged page := by
  cases (plan_eq_ok_iff.1 h).2 with
  | table => rfl
  | points => rfl
  | buckets => trivial

namespace Plan

theorem OfRun.ofCatalog {run : Int64} {p : Plan} (h : p.OfRun run) (d : Dialect) :
    Token.OfCatalog p.grain (p.toQuery.tokens d) := by
  obtain ⟨g, reading⟩ := p
  cases reading with
  | table columns selection => exact (Selection.isNamed h).ofCatalog d
  | points x y aggregation selection => exact (Selection.isNamed h).ofCatalog d
  | buckets x y bucketing => exact Token.ofCatalog_of_named (Bucketing.OfRun.named h d)

theorem OfRun.raw?_tokens {run : Int64} {p : Plan} (h : p.OfRun run) {page : Page}
    (hpage : p.IsPaged page) (d : Dialect) :
    (p.toQuery.tokens d).filterMap Token.raw? = if p.isBucketed then [] else d.pageTexts page := by
  obtain ⟨g, reading⟩ := p
  cases reading with
  | table columns selection =>
    rw [← hpage]
    exact (Selection.isNamed h).raw?_tokens d
  | points x y aggregation selection =>
    rw [← hpage]
    exact (Selection.isNamed h).raw?_tokens d
  | buckets x y bucketing => exact Token.raw?_of_named (Bucketing.OfRun.named h d)

end Plan

/--
A view, whatever its strings are, makes a statement of names of the catalog, of a few more and of
four functions; and so does a batch request. Text as it is stands in neither, but for the limit of
an offset alone in SQLite.
-/
theorem ofCatalog_tokens (d : Dialect) :
    (∀ (v : View) (page : Page) (p : Plan), v.plan page = .ok p →
      Token.OfCatalog v.grain (p.toQuery.tokens d) ∧
        (p.toQuery.tokens d).filterMap Token.raw? =
          if p.isBucketed then [] else d.pageTexts page) ∧
    ∀ (r : BatchRequest) (s : Selection), r.selection = .ok s →
      Token.OfCatalog r.grain ((s.toQuery r.grain).tokens d) ∧
        ((s.toQuery r.grain).tokens d).filterMap Token.raw? = [] := by
  constructor
  · intro v page p hp
    have hrun := View.ofRun_plan hp
    constructor
    · rw [← View.grain_of_plan hp]
      exact hrun.ofCatalog d
    · exact hrun.raw?_tokens (View.isPaged_plan hp) d
  · intro r s hs
    have hnamed := Selection.isNamed (r.reads hs)
    constructor
    · exact hnamed.ofCatalog d
    · obtain ⟨_, _, rfl⟩ := BatchRequest.selection_eq_ok hs
      exact (hnamed.raw?_tokens d).trans (by simp [Dialect.pageTexts, Selection.toQuery])

def quotedView : View where
  run := 1
  style := .table
  grain := .building
  parameters := [.table ["name", "rank"],
    .filterNamed "1" ((Condition.compare .text .eq (.text "' OR 1")).on "name OR 1")]

def quotedRequest : BatchRequest where
  run := 1
  grain := .area
  areas := ["') OR (1"]
  size := 2

theorem ofCatalog_tokens_quoted :
    (∃ p, quotedView.plan { offset := some 3 } = .ok p ∧
      Token.OfCatalog .building (p.toQuery.tokens .sqlite) ∧
      (p.toQuery.tokens .sqlite).filterMap Token.raw? = ["-1"]) ∧
    ∃ s, quotedRequest.selection = .ok s ∧
      Token.OfCatalog .area ((s.toQuery .area).tokens .sqlite) ∧
      ((s.toQuery .area).tokens .sqlite).filterMap Token.raw? = [] := by
  constructor
  · refine ⟨_, rfl, ?_⟩
    exact (ofCatalog_tokens .sqlite).1 quotedView { offset := some 3 } _ rfl
  · refine ⟨_, rfl, ?_⟩
    exact (ofCatalog_tokens .sqlite).2 quotedRequest _ rfl

end Vacancy
