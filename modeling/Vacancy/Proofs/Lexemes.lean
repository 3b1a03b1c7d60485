import Mathlib.Data.List.Chain
import Vacancy.Proofs.Lexer
import Vacancy.Proofs.Rendering

/-!
The text of a query with everything written out falls into the lexemes of its tokens again, whatever
its names and texts are. Of two tokens next to each other one is a break, which no lexeme goes
beyond.
-/

namespace Vacancy.Sql

open Lexeme (Broken breaks startsWord continuesWord isWord ofChars? next? operator? operators
  ofChars?_nil ofChars?_lexeme ofChars?_skip)

namespace Dialect

def truthLexeme : Dialect → Bool → Lexeme
  | .sqlite, b => .number (truth .sqlite b)
  | d, b => .word (truth d b)

def literalLexeme (d : Dialect) : Literal → Lexeme
  | .null => .word "NULL"
  | .integer n => .number (toString n.toInt)
  | .real x => if x.isFinite then .number (Value.layout.float x) else .word "NULL"
  | .text s => .text s
  | .bool b => d.truthLexeme b

end Dialect

namespace Token

/-- The lexemes of a token: a text and a name as they are, with nothing quoted. -/
def lexemes (d : Dialect) : Token → List Lexeme
  | .keyword .groupBy => [.word "GROUP", .word "BY"]
  | .keyword .orderBy => [.word "ORDER", .word "BY"]
  | .keyword k => [.word k.text]
  | .symbol s => [.operator s.text]
  | .truth b => [d.truthLexeme b]
  | .space | .newline | .indent _ => []
  | .identifier name => [.name name]
  | .function name => [.word (Text.upper name)]
  | .literal l => [d.literalLexeme l]
  | .raw text => [.number text]

def lexemeCount : Token → Nat
  | .space | .newline | .indent _ => 0
  | .keyword .groupBy | .keyword .orderBy => 2
  | _ => 1

theorem length_lexemes (d : Dialect) (t : Token) : (t.lexemes d).length = t.lexemeCount := by
  cases t with
  | keyword k => cases k <;> rfl
  | _ => rfl

theorem comment_notMem_lexemes (d : Dialect) (t : Token) (s : String) :
    .comment s ∉ t.lexemes d := by
  have htruth (b : Bool) : .comment s ≠ d.truthLexeme b := by
    cases d <;> simp [Dialect.truthLexeme]
  cases t with
  | keyword k => cases k <;> simp [lexemes]
  | truth b => simpa [lexemes] using htruth b
  | literal l =>
    cases l with
    | real x =>
      simp only [lexemes, Dialect.literalLexeme, List.mem_singleton]
      split <;> simp
    | bool b => simpa [lexemes, Dialect.literalLexeme] using htruth b
    | _ => simp [lexemes, Dialect.literalLexeme]
  | _ => simp [lexemes]

/-! ### Breaks between tokens -/

def isBreak : Token → Bool
  | .space | .newline => true
  | .indent depth => 0 < depth
  | .symbol .comma | .symbol .leftParen | .symbol .rightParen => true
  | _ => false

/-- The only text that is taken as it is stands for no limit. -/
def IsOwn : Token → Prop
  | .raw text => text = "-1"
  | _ => True

theorem isOwn_of_isBreak {t : Token} (h : t.isBreak = true) : t.IsOwn := by
  cases t with
  | raw text => simp [isBreak] at h
  | _ => trivial

/-- Of any two tokens that stand next to each other one is a break. -/
structure Spaced (ts : List Token) : Prop where
  chain : ts.IsChain fun t u => t.isBreak = true ∨ u.isBreak = true
  own : ∀ t ∈ ts, t.IsOwn

structure Detached (ts : List Token) : Prop where
  spaced : Spaced ts
  head : ∀ t ∈ ts.head?, t.isBreak = true

section Spaced

variable {t b : Token} {ts us : List Token}

@[simp] theorem spaced_nil : Spaced [] :=
  ⟨.nil, by simp⟩

@[simp] theorem spaced_singleton : Spaced [t] ↔ t.IsOwn :=
  ⟨fun h => h.own t (by simp), fun h => ⟨.singleton t, by simpa using h⟩⟩

theorem Spaced.append (hts : Spaced ts) (hus : Detached us) : Spaced (ts ++ us) where
  chain := List.isChain_append.2
    ⟨hts.chain, hus.spaced.chain, fun _ _ u hu => .inr (hus.head u hu)⟩
  own := List.forall_mem_append.2 ⟨hts.own, hus.spaced.own⟩

theorem Spaced.cons (hb : b.isBreak = true) (h : Spaced us) : Spaced (b :: us) where
  chain := List.isChain_cons.2 ⟨fun _ _ => .inl hb, h.chain⟩
  own := List.forall_mem_cons.2 ⟨isOwn_of_isBreak hb, h.own⟩

theorem Detached.cons (hb : b.isBreak = true) (h : Spaced us) : Detached (b :: us) :=
  ⟨h.cons hb, by simpa using hb⟩

theorem Detached.nil : Detached [] :=
  ⟨spaced_nil, by simp⟩

theorem Detached.append (hts : Detached ts) (hus : Detached us) : Detached (ts ++ us) := by
  refine ⟨hts.spaced.append hus, ?_⟩
  cases ts with
  | nil => exact hus.head
  | cons t ts => exact hts.head

theorem spaced_cons_cons (ht : t.IsOwn) (hb : b.isBreak = true) (h : Spaced us) :
    Spaced (t :: b :: us) :=
  (spaced_singleton.2 ht).append (.cons hb h)

theorem Detached.keyword (k : Keyword) (h : Spaced us) :
    Detached ([.space, .keyword k, .space] ++ us) :=
  .cons rfl (spaced_cons_cons trivial rfl h)

theorem spaced_separated :
    ∀ {tss : List (List Token)}, (∀ ts ∈ tss, Spaced ts) → Spaced (separated tss)
  | [], _ => spaced_nil
  | [ts], h => h ts List.mem_cons_self
  | ts :: us :: rest, h => by
    rw [List.forall_mem_cons] at h
    rw [separated_cons_cons, List.append_assoc]
    exact h.1.append (.cons rfl ((spaced_separated h.2).cons rfl))

end Spaced

end Token

/-! ### Expressions -/

namespace Expr

open Token (Spaced Detached spaced_singleton spaced_separated)

theorem isOwn_token (op : Operator) : op.token.IsOwn := by
  cases op <;> trivial

mutual

theorem spaced_tokens : ∀ e : Expr, Spaced e.tokens
  | .column name => spaced_singleton.2 trivial
  | .literal l => spaced_singleton.2 trivial
  | .binary op left right => by
    rw [tokens, List.append_assoc]
    exact (spaced_tokens left).append
      (.cons rfl (Token.spaced_cons_cons (isOwn_token op) rfl (spaced_tokens right)))
  | .call name args => by
    rw [tokens, List.append_assoc]
    refine Token.spaced_cons_cons trivial rfl ?_
    exact (spaced_separated (spaced_tokensOfList args)).append (.cons rfl Token.spaced_nil)
  | .choice arms otherwise => by
    simp only [tokens, List.append_assoc, List.cons_append, List.nil_append]
    have hend : Detached [.space, .keyword .done] := .cons rfl (spaced_singleton.2 trivial)
    have hotherwise : Detached ([.space, .keyword .otherwise, .space] ++
        (otherwise.tokens ++ [.space, .keyword .done])) :=
      .keyword .otherwise ((spaced_tokens otherwise).append hend)
    have hchoice : Spaced [.keyword .choice] := spaced_singleton.2 trivial
    exact hchoice.append ((detached_tokensOfArms arms).append hotherwise)
  | .among _ [] => spaced_singleton.2 trivial
  | .among e (v :: vs) => by
    have hvalues : Spaced (Token.separated (tokens v :: tokensOfList vs)) :=
      spaced_separated (spaced_tokensOfList (v :: vs))
    simp only [tokens, List.append_assoc]
    refine (spaced_tokens e).append (.keyword .among ?_)
    exact .cons rfl (hvalues.append (.cons rfl Token.spaced_nil))
  | .like e pattern negated => by
    have hpattern : Detached ([.space, .keyword .like, .space] ++ pattern.tokens) :=
      .keyword .like (spaced_tokens pattern)
    simp only [tokens, List.append_assoc]
    refine (spaced_tokens e).append ?_
    cases negated with
    | true => exact .append (.cons rfl (spaced_singleton.2 trivial)) hpattern
    | false => exact hpattern
  | .star => spaced_singleton.2 trivial
  | .group e => by
    rw [tokens, List.append_assoc]
    exact .cons rfl ((spaced_tokens e).append (.cons rfl Token.spaced_nil))

theorem spaced_tokensOfList : ∀ es : List Expr, ∀ ts ∈ tokensOfList es, Spaced ts
  | [] => by simp [tokensOfList]
  | e :: es => by
    rw [tokensOfList, List.forall_mem_cons]
    exact ⟨spaced_tokens e, spaced_tokensOfList es⟩

theorem detached_tokensOfArms : ∀ arms : List (Expr × Expr), Detached (tokensOfArms arms)
  | [] => Detached.nil
  | (condition, result) :: arms => by
    have hresult : Detached ([.space, .keyword .result, .space] ++
        (result.tokens ++ tokensOfArms arms)) :=
      .keyword .result ((spaced_tokens result).append (detached_tokensOfArms arms))
    simp only [tokensOfArms, List.append_assoc]
    exact .keyword .when ((spaced_tokens condition).append hresult)

end

end Expr

/-! ### Queries -/

open Token (Spaced Detached spaced_singleton spaced_separated)

theorem SelectItem.spaced_tokens (i : SelectItem) : Spaced i.tokens := by
  refine i.expr.spaced_tokens.append ?_
  cases i.name with
  | none => exact .nil
  | some name => exact .keyword .alias (spaced_singleton.2 trivial)

theorem OrderKey.spaced_tokens (k : OrderKey) : Spaced k.tokens :=
  k.expr.spaced_tokens.append (.cons rfl (spaced_singleton.2 trivial))

theorem Dialect.detached_pageLine (d : Dialect) (limit offset : Option UInt64) :
    Detached (d.pageLine limit offset) := by
  have hnumber (l : Literal) : Spaced [.literal l] := spaced_singleton.2 trivial
  have hoffset (o : UInt64) : Spaced [.keyword .offset, .space, .literal (pageLiteral o)] :=
    Token.spaced_cons_cons trivial rfl (hnumber _)
  unfold pageLine
  cases limit with
  | none =>
    cases offset with
    | none => exact .nil
    | some o =>
      cases d with
      | sqlite =>
        have hlimit : Spaced ([.raw "-1", .space] ++
            [.keyword .offset, .space, .literal (pageLiteral o)]) :=
          Token.spaced_cons_cons rfl rfl (hoffset o)
        exact .cons rfl (Token.spaced_cons_cons trivial rfl hlimit)
      | postgres => exact .cons rfl (hoffset o)
      | duckdb => exact .cons rfl (hoffset o)
  | some l =>
    cases offset with
    | none => exact .cons rfl (Token.spaced_cons_cons trivial rfl (hnumber _))
    | some o =>
      have hlimit : Spaced ([.literal (pageLiteral l), .space] ++
          [.keyword .offset, .space, .literal (pageLiteral o)]) :=
        Token.spaced_cons_cons trivial rfl (hoffset o)
      exact .cons rfl (Token.spaced_cons_cons trivial rfl hlimit)

namespace Select

theorem detached_clause (k : Keyword) {ts : List Token} (h : Spaced ts) :
    Detached (clause k ts) :=
  .cons rfl (Token.spaced_cons_cons trivial rfl h)

theorem detached_itemTokens : ∀ is : List SelectItem, Detached (itemTokens is)
  | [] => .nil
  | [i] => by
    rw [itemTokens_singleton]
    exact .cons rfl (i.spaced_tokens.cons rfl)
  | i :: j :: is => by
    rw [itemTokens_cons_cons]
    simp only [List.append_assoc]
    have hrest : Detached ([.symbol .comma] ++ itemTokens (j :: is)) :=
      .cons rfl (detached_itemTokens (j :: is)).spaced
    exact .cons rfl ((i.spaced_tokens.append hrest).cons rfl)

theorem spaced_tokens (d : Dialect) (s : Select) : Spaced (s.tokens d) := by
  have hselect : Spaced [.keyword .select] := spaced_singleton.2 trivial
  rw [tokens]
  refine ((((((hselect.append ?distinct).append (detached_itemTokens s.items)).append
    ?source).append ?condition).append ?groups).append ?order).append
    (d.detached_pageLine s.limit s.offset)
  case distinct =>
    split
    · exact .cons rfl (spaced_singleton.2 trivial)
    · exact .nil
  case source =>
    split
    · exact detached_clause .source (spaced_singleton.2 trivial)
    · exact .nil
  case condition =>
    split
    · next c _ => exact detached_clause .filter c.spaced_tokens
    · exact .nil
  case groups =>
    split
    · exact .nil
    · refine detached_clause .groupBy (spaced_separated ?_)
      simpa using fun e _ => Expr.spaced_tokens e
  case order =>
    split
    · exact .nil
    · refine detached_clause .orderBy (spaced_separated ?_)
      simpa using fun k _ => OrderKey.spaced_tokens k

end Select

theorem Query.spaced_tokensWith (d : Dialect) (s : Select) (common : List (String × Select)) :
    Spaced (tokensWith d s common) := by
  induction common generalizing s with
  | nil => exact s.spaced_tokens d
  | cons c common ih =>
    obtain ⟨name, inner⟩ := c
    have houter : Detached ([.newline, .symbol .rightParen, .newline] ++ s.tokens d) :=
      .cons rfl (((s.spaced_tokens d).cons rfl).cons rfl)
    rw [tokensWith, List.append_assoc, List.append_assoc]
    refine Token.spaced_cons_cons trivial rfl (Token.spaced_cons_cons trivial rfl ?_)
    refine Token.spaced_cons_cons trivial rfl (.cons rfl (.cons rfl ?_))
    exact (ih inner).append houter

/-! ### Lexemes of a text -/

namespace Token

theorem toUpper_eq_or_isUpper (c : Char) : c.toUpper = c ∨ c.toUpper.isUpper = true := by
  by_cases hc : c.toNat < 128
  · exact Lexeme.of_ascii (P := fun c => c.toUpper = c ∨ c.toUpper.isUpper = true) (by decide) hc
  · exact .inl (dif_neg fun h => hc (Nat.lt_of_le_of_lt h.2 (by decide)))

theorem isAlpha_of_isUpper {c : Char} (h : c.isUpper = true) : c.isAlpha = true :=
  Bool.or_eq_true_iff.2 (.inl h)

theorem startsWord_toUpper {c : Char} (h : startsWord c = true) : startsWord c.toUpper = true := by
  obtain heq | hupper := toUpper_eq_or_isUpper c
  · rwa [heq]
  · simp [startsWord, isAlpha_of_isUpper hupper]

theorem continuesWord_toUpper {c : Char} (h : continuesWord c = true) :
    continuesWord c.toUpper = true := by
  obtain heq | hupper := toUpper_eq_or_isUpper c
  · rwa [heq]
  · simp [continuesWord, Char.isAlphanum, isAlpha_of_isUpper hupper]

theorem continuesWord_of_startsWord {c : Char} (h : startsWord c = true) :
    continuesWord c = true := by
  rw [startsWord, Bool.or_eq_true] at h
  rw [continuesWord, Char.isAlphanum, Bool.or_eq_true, Bool.or_eq_true]
  exact h.imp_left .inl

theorem toNat_lt_of_isAlphanum {c : Char} (h : c.isAlphanum = true) : c.toNat < 0x80 := by
  rcases Bool.or_eq_true_iff.1 h with halpha | hdigit
  · rcases Bool.or_eq_true_iff.1 halpha with hupper | hlower
    · have hle := (of_decide_eq_true hupper).2
      exact Nat.lt_of_le_of_lt (UInt32.le_iff_toNat_le.1 hle) (by decide)
    · have hle := of_decide_eq_true (Bool.and_eq_true_iff.1 hlower).2
      exact Nat.lt_of_le_of_lt (UInt32.le_iff_toNat_le.1 hle) (by decide)
  · have hle := of_decide_eq_true (Bool.and_eq_true_iff.1 hdigit).2
    exact Nat.lt_of_le_of_lt (UInt32.le_iff_toNat_le.1 hle) (by decide)

theorem toNat_lt_of_continuesWord {c : Char} (h : continuesWord c = true) : c.toNat < 0x80 := by
  rw [continuesWord, Bool.or_eq_true, decide_eq_true_eq] at h
  rcases h with h | rfl
  · exact toNat_lt_of_isAlphanum h
  · decide

theorem isWord_upper {s : String} (h : isWord s = true) : isWord (Text.upper s) = true := by
  unfold isWord at h
  cases hs : s.toList with
  | nil => simp [hs] at h
  | cons c cs =>
    simp only [hs, Bool.and_eq_true, List.all_eq_true] at h
    have hascii : ∀ c' ∈ s.toList, c'.toNat < 0x80 := by
      rw [hs, List.forall_mem_cons]
      exact ⟨toNat_lt_of_continuesWord (continuesWord_of_startsWord h.1),
        fun c' hc' => toNat_lt_of_continuesWord (h.2 c' hc')⟩
    rw [Text.upper_of_ascii hascii, isWord, String.toUpper, String.toList_map, hs]
    simp only [List.map_cons, Bool.and_eq_true, List.all_eq_true, List.forall_mem_map]
    exact ⟨startsWord_toUpper h.1, fun c hc => continuesWord_toUpper (h.2 c hc)⟩

variable (d : Dialect)

theorem broken_inline {ts : List Token} (h : ∀ t ∈ ts.head?, t.isBreak = true) :
    Broken (inline d ts).toList := by
  cases ts with
  | nil => simp [inline, Broken]
  | cons t ts =>
    have ht : t.isBreak = true := h t rfl
    rw [inline_cons, String.toList_append]
    cases t with
    | indent depth =>
      obtain ⟨n, rfl⟩ := Nat.exists_eq_add_of_lt (of_decide_eq_true ht)
      simp [render, Broken, Nat.mul_add, List.replicate_succ, breaks]
    | symbol s => cases s <;> simp [isBreak] at ht <;> simp [render, Symbol.text, Broken, breaks]
    | space => simp [render, Broken, breaks]
    | newline => simp [render, Broken, breaks]
    | _ => simp [isBreak] at ht

variable {rest : List Char}

theorem ofChars?_word {s : String} (hs : isWord s = true) (hrest : Broken rest) :
    ofChars? (s.toList ++ rest) = (ofChars? rest).map ([.word s] ++ ·) :=
  ofChars?_lexeme (Lexeme.next?_word hs hrest)

theorem ofChars?_number {s : String} (hs : Decimal.IsSigned s.toList) (hrest : Broken rest) :
    ofChars? (s.toList ++ rest) = (ofChars? rest).map ([.number s] ++ ·) :=
  ofChars?_lexeme (Lexeme.next?_number hs hrest)

theorem ofChars?_blank {c : Char} (hc : c.isWhitespace = true) :
    ofChars? (c :: rest) = ofChars? rest :=
  ofChars?_skip (Lexeme.next?_blank hc rest)

theorem ofChars?_blanks (n : Nat) : ofChars? (List.replicate n ' ' ++ rest) = ofChars? rest := by
  induction n with
  | zero => rfl
  | succ n ih =>
    rw [List.replicate_succ, List.cons_append, ofChars?_blank rfl, ih]

theorem ofChars?_keyword (k : Keyword) (hrest : Broken rest) :
    ofChars? (k.text.toList ++ rest) = (ofChars? rest).map ((Token.keyword k).lexemes d ++ ·) := by
  -- two keywords are of two words
  have hby : ofChars? ("BY".toList ++ rest) = (ofChars? rest).map ([.word "BY"] ++ ·) :=
    ofChars?_word rfl hrest
  have htwo {s : String} (hs : isWord s = true) :
      ofChars? (s.toList ++ ' ' :: ("BY".toList ++ rest)) =
        (ofChars? rest).map ([.word s, .word "BY"] ++ ·) := by
    rw [ofChars?_word hs (by simp [Broken, breaks]), ofChars?_blank rfl, hby, Option.map_map]
    rfl
  cases k with
  | groupBy => exact htwo (s := "GROUP") rfl
  | orderBy => exact htwo (s := "ORDER") rfl
  | _ => exact ofChars?_word (by decide) hrest

theorem ofChars?_symbol (s : Symbol) (hrest : (symbol s).isBreak = true ∨ Broken rest) :
    ofChars? (s.text.toList ++ rest) = (ofChars? rest).map ([.operator s.text] ++ ·) := by
  apply ofChars?_lexeme
  have hnext : next? (s.text.toList ++ rest) =
      (operator? (s.text.toList ++ rest)).map (Prod.map some id) := by
    cases s <;> simp [Symbol.text, next?, Char.isWhitespace, startsWord, Lexeme.startsNumber]
  rw [hnext]
  cases s with
  | lt =>
    have hrest : Broken rest := hrest.resolve_left (by decide)
    have heq := hrest.isPrefixOf?_singleton (c := '=') (by decide)
    have hgt := hrest.isPrefixOf?_singleton (c := '>') (by decide)
    simp [operator?, operators, Symbol.text, List.findSome?, List.isPrefixOf?, heq, hgt]
  | gt =>
    have hrest : Broken rest := hrest.resolve_left (by decide)
    have heq := hrest.isPrefixOf?_singleton (c := '=') (by decide)
    simp [operator?, operators, Symbol.text, List.findSome?, List.isPrefixOf?, heq]
  | _ => simp [operator?, operators, Symbol.text, List.findSome?, List.isPrefixOf?]

theorem ofChars?_truth (b : Bool) (hrest : Broken rest) :
    ofChars? ((d.truth b).toList ++ rest) = (ofChars? rest).map ([d.truthLexeme b] ++ ·) := by
  have hdigit {s : String} {c : Char} (hs : s.toList = [c]) (hc : c.isDigit = true) :
      Decimal.IsSigned s.toList :=
    .inl (hs ▸ .of_whole (by simp) (by simpa using hc))
  cases d with
  | sqlite =>
    cases b with
    | true => exact ofChars?_number (hdigit (s := "1") rfl rfl) hrest
    | false => exact ofChars?_number (hdigit (s := "0") rfl rfl) hrest
  | _ =>
    cases b with
    | true => exact ofChars?_word (s := "true") rfl hrest
    | false => exact ofChars?_word (s := "false") rfl hrest

theorem ofChars?_literal (l : Literal) (hrest : Broken rest) :
    ofChars? ((d.literal l).toList ++ rest) = (ofChars? rest).map ([d.literalLexeme l] ++ ·) := by
  cases l with
  | null => exact ofChars?_word (s := "NULL") rfl hrest
  | integer n => exact ofChars?_number (Decimal.isSigned_toString _) hrest
  | real x =>
    simp only [Dialect.literal, Dialect.literalLexeme]
    split
    · next hx => exact ofChars?_number (Value.layout.isSigned_float hx) hrest
    · exact ofChars?_word (by decide) hrest
  | text s => exact ofChars?_lexeme (Lexeme.next?_quoteText s hrest)
  | bool b => exact ofChars?_truth d b hrest

theorem ofChars?_render {t : Token} (hown : t.IsOwn)
    (hname : ∀ name, t = .function name → isWord name = true)
    (hrest : t.isBreak = true ∨ Broken rest) :
    ofChars? ((t.render d).toList ++ rest) = (ofChars? rest).map (t.lexemes d ++ ·) := by
  have hbroken (ht : t.isBreak = false) : Broken rest :=
    hrest.resolve_left (by simp [ht])
  cases t with
  | keyword k => exact ofChars?_keyword d k (hbroken rfl)
  | symbol s => exact ofChars?_symbol s hrest
  | truth b => exact ofChars?_truth d b (hbroken rfl)
  | space => simpa [render, lexemes] using ofChars?_blank (c := ' ') rfl
  | newline => simpa [render, lexemes] using ofChars?_blank (c := '\n') rfl
  | indent depth => simpa [render, lexemes] using ofChars?_blanks (2 * depth)
  | identifier name => exact ofChars?_lexeme (Lexeme.next?_quoteIdentifier name (hbroken rfl))
  | function name => exact ofChars?_word (isWord_upper (hname name rfl)) (hbroken rfl)
  | literal l => exact ofChars?_literal d l (hbroken rfl)
  | raw text =>
    obtain rfl : text = "-1" := hown
    have hone : Decimal.IsSigned "-1".toList := .inr ⟨['1'], rfl, .of_whole (by simp) (by simp)⟩
    exact ofChars?_number hone (hbroken rfl)

theorem ofText?_inline {ts : List Token} (h : Spaced ts)
    (hnames : ∀ name, .function name ∈ ts → isWord name = true) :
    Lexeme.ofText? (inline d ts) = some (ts.flatMap (lexemes d)) := by
  rw [Lexeme.ofText?]
  induction ts with
  | nil => exact ofChars?_nil
  | cons t ts ih =>
    have hchain := List.isChain_cons.1 h.chain
    have hts : Spaced ts := ⟨hchain.2, (List.forall_mem_cons.1 h.own).2⟩
    have hrest : t.isBreak = true ∨ Broken (inline d ts).toList := by
      rw [or_iff_not_imp_left]
      exact fun hb => broken_inline d fun u hu => (hchain.1 u hu).resolve_left hb
    rw [inline_cons, String.toList_append, ofChars?_render d (h.own t List.mem_cons_self) ?_ hrest,
      ih hts fun name hname => hnames name (List.mem_cons_of_mem t hname)]
    · rfl
    · rintro name rfl
      exact hnames name List.mem_cons_self

end Token

/--
A query with everything written out falls into the lexemes of its tokens, whatever its names and
texts are: no quotation ends early or goes on, nothing runs into what stands next to it, and no
comment begins.
-/
theorem Query.lexemes_inline (q : Query) (d : Dialect)
    (hnames : ∀ name, .function name ∈ q.tokens d → isWord name = true) :
    Lexeme.ofText? (q.inline d) = some ((q.tokens d).flatMap (Token.lexemes d)) ∧
      ∀ t ∈ q.tokens d, (t.lexemes d).length = t.lexemeCount ∧
        ∀ s, .comment s ∉ t.lexemes d := by
  constructor
  · exact Token.ofText?_inline d (spaced_tokensWith d q.select q.common) hnames
  · exact fun t _ => ⟨t.length_lexemes d, t.comment_notMem_lexemes d⟩

def quotedQuery : Query where
  select :=
    { items := [⟨.count, some "n\" -- n"⟩]
      source := some "t"
      condition := some (.binary .ne (.column "x") (.text "it's -- 'new'"))
      groups := [.column "x"] }

theorem lexemes_inline_quotedQuery :
    (∀ name, .function name ∈ quotedQuery.tokens .sqlite → isWord name = true) ∧
      Lexeme.ofText? (quotedQuery.inline .sqlite) =
        some [.word "SELECT", .word "COUNT", .operator "(", .operator "*", .operator ")",
          .word "AS", .name "n\" -- n", .word "FROM", .name "t", .word "WHERE", .name "x",
          .operator "<>", .text "it's -- 'new'", .word "GROUP", .word "BY", .name "x"] := by
  have hnames : ∀ name, .function name ∈ quotedQuery.tokens .sqlite → isWord name = true := by
    intro name h
    simp [Query.tokens, Query.tokensWith, quotedQuery, Select.tokens, Select.itemTokens,
      SelectItem.tokens, Select.clause, Expr.count, Expr.tokens, Expr.tokensOfList, Expr.text,
      Token.separated, Operator.token, Dialect.pageTokens] at h
    subst h
    decide
  have hcount : Text.upper "COUNT" = "COUNT" := by
    decide +kernel
  have hlexemes : (quotedQuery.tokens .sqlite).flatMap (Token.lexemes .sqlite) =
      [.word "SELECT", .word (Text.upper "COUNT"), .operator "(", .operator "*", .operator ")",
        .word "AS", .name "n\" -- n", .word "FROM", .name "t", .word "WHERE", .name "x",
        .operator "<>", .text "it's -- 'new'", .word "GROUP", .word "BY", .name "x"] := rfl
  refine ⟨hnames, ?_⟩
  rw [(quotedQuery.lexemes_inline .sqlite hnames).1, hlexemes, hcount]

end Vacancy.Sql
