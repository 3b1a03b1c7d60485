import Vacancy.Sql.Query

/-!
The two texts of a query. Both fill one frame, a text with a gap for each parameter: the statement
has placeholders in the gaps, and the text with everything written out has the parameters
themselves. What the parameters are does not depend on the dialect.
-/

namespace Vacancy.Sql

/-- A text with gaps: what stands in front of the first, and what follows each. -/
structure Frame where
  front : String
  gaps : List (Literal × String)

namespace Frame

def literals (f : Frame) : List Literal :=
  f.gaps.map (·.1)

def filledAfter (n : Nat) (fill : Nat → Literal → String) (f : Frame) : String :=
  f.front ++ String.join ((f.gaps.zipIdx (n + 1)).map fun (gap, i) => fill i gap.1 ++ gap.2)

def filled (fill : Nat → Literal → String) (f : Frame) : String :=
  f.filledAfter 0 fill

def ofTokens (d : Dialect) : List Token → Frame
  | [] => ⟨"", []⟩
  | t :: ts =>
    let rest := ofTokens d ts
    match t.parameter? with
    | some l => ⟨"", (l, rest.front) :: rest.gaps⟩
    | none => ⟨t.render d ++ rest.front, rest.gaps⟩

end Frame

namespace Token

theorem parameter?_eq_some {t : Token} {l : Literal} :
    t.parameter? = some l ↔ t = .literal l ∧ l.isParameter = true := by
  cases t with
  | literal l' =>
    simp only [parameter?, Option.ite_none_right_eq_some, Option.some.injEq, literal.injEq]
    constructor
    · rintro ⟨h, rfl⟩
      exact ⟨rfl, h⟩
    · rintro ⟨rfl, h⟩
      exact ⟨h, rfl⟩
  | _ => simp [parameter?]

theorem bindAfter_eq (d : Dialect) (n : Nat) (ts : List Token) :
    bindAfter d n ts =
      ⟨(Frame.ofTokens d ts).filledAfter n fun i _ => d.placeholder i,
        (Frame.ofTokens d ts).literals⟩ := by
  induction ts generalizing n with
  | nil => rfl
  | cons t ts ih =>
    cases h : t.parameter? with
    | some l =>
      simp [bindAfter, Frame.ofTokens, h, ih, Frame.filledAfter, Frame.literals, String.join_cons,
        String.append_assoc]
    | none =>
      simp [bindAfter, Frame.ofTokens, h, ih, Frame.filledAfter, Frame.literals,
        String.append_assoc]

theorem bound_eq (d : Dialect) (ts : List Token) :
    bound d ts =
      ⟨(Frame.ofTokens d ts).filled fun i _ => d.placeholder i,
        (Frame.ofTokens d ts).literals⟩ :=
  bindAfter_eq d 0 ts

theorem inline_cons (d : Dialect) (t : Token) (ts : List Token) :
    inline d (t :: ts) = t.render d ++ inline d ts := by
  simp [inline, String.join_cons]

theorem inline_eq_filledAfter (d : Dialect) (n : Nat) (ts : List Token) :
    inline d ts = (Frame.ofTokens d ts).filledAfter n fun _ l => d.literal l := by
  induction ts generalizing n with
  | nil => rfl
  | cons t ts ih =>
    rw [inline_cons]
    cases h : t.parameter? with
    | some l =>
      obtain ⟨rfl, _⟩ := parameter?_eq_some.1 h
      rw [ih (n + 1)]
      simp [Frame.ofTokens, h, Frame.filledAfter, render, String.join_cons, String.append_assoc]
    | none =>
      rw [ih n]
      simp [Frame.ofTokens, h, Frame.filledAfter, String.append_assoc]

theorem literals_ofTokens (d : Dialect) (ts : List Token) :
    (Frame.ofTokens d ts).literals = ts.filterMap parameter? := by
  induction ts with
  | nil => rfl
  | cons t ts ih =>
    rw [List.filterMap_cons, ← ih]
    cases h : t.parameter? with
    | some l => simp [Frame.ofTokens, h, Frame.literals]
    | none => simp [Frame.ofTokens, h, Frame.literals]

theorem separated_cons_cons (ts us : List Token) (rest : List (List Token)) :
    separated (ts :: us :: rest) = ts ++ [.symbol .comma, .space] ++ separated (us :: rest) :=
  rfl

theorem parameters_bound (d : Dialect) (ts : List Token) :
    (bound d ts).parameters = ts.filterMap parameter? := by
  rw [bound_eq, literals_ofTokens]

end Token

theorem Literal.isParameter_iff {l : Literal} :
    l.isParameter = true ↔ l ≠ .null ∧ ∀ x, l = .real x → x.isFinite = true := by
  cases l <;> simp [isParameter]

/-! ### Parameters -/

theorem Dialect.parameters_pageTokens (d : Dialect) (limit offset : Option UInt64) :
    (d.pageTokens limit offset).filterMap Token.parameter? =
      (limit.toList ++ offset.toList).map pageLiteral := by
  cases limit with
  | none =>
    cases offset with
    | none => rfl
    | some o => cases d <;> rfl
  | some l => cases offset <;> rfl

def Dialect.pageLine (d : Dialect) (limit offset : Option UInt64) : List Token :=
  match d.pageTokens limit offset with
  | [] => []
  | ts => .newline :: ts

theorem Dialect.parameters_pageLine (d : Dialect) (limit offset : Option UInt64) :
    (d.pageLine limit offset).filterMap Token.parameter? =
      (limit.toList ++ offset.toList).map pageLiteral := by
  rw [← d.parameters_pageTokens]
  unfold pageLine
  cases d.pageTokens limit offset with
  | nil => rfl
  | cons t ts => rfl

namespace Select

theorem itemTokens_singleton (i : SelectItem) :
    itemTokens [i] = [.newline, .indent 1] ++ i.tokens :=
  rfl

theorem itemTokens_cons_cons (i j : SelectItem) (is : List SelectItem) :
    itemTokens (i :: j :: is) =
      [.newline, .indent 1] ++ i.tokens ++ [.symbol .comma] ++ itemTokens (j :: is) :=
  rfl

def unpaged (s : Select) : Select :=
  { s with limit := none, offset := none }

theorem tokens_eq (d d' : Dialect) (s : Select) :
    s.tokens d = s.unpaged.tokens d' ++ d.pageLine s.limit s.offset := by
  simp only [tokens, unpaged, Dialect.pageTokens, List.append_nil]
  rfl

theorem parameters_tokens (d d' : Dialect) (s : Select) :
    (s.tokens d).filterMap Token.parameter? = (s.tokens d').filterMap Token.parameter? := by
  rw [s.tokens_eq d d, s.tokens_eq d' d, List.filterMap_append, List.filterMap_append,
    d.parameters_pageLine, d'.parameters_pageLine]

end Select

theorem Query.parameters_tokensWith (d d' : Dialect) (s : Select)
    (common : List (String × Select)) :
    (tokensWith d s common).filterMap Token.parameter? =
      (tokensWith d' s common).filterMap Token.parameter? := by
  induction common generalizing s with
  | nil => exact s.parameters_tokens d d'
  | cons c common ih =>
    simp only [tokensWith, List.filterMap_append, ih c.2, s.parameters_tokens d d']

/--
What is executed and what is shown are one text but for the parameters, whose placeholders stand
where they are written out and are numbered in that order. Null, and doubles that are no numbers,
are never parameters.
-/
theorem Query.bound_and_inline (q : Query) :
    (∀ d : Dialect, ∃ f : Frame,
      q.bound d = ⟨f.filled fun i _ => d.placeholder i, f.literals⟩ ∧
      q.inline d = (f.filled fun _ l => d.literal l) ∧
      ∀ l ∈ f.literals, l ≠ .null ∧ ∀ x, l = .real x → x.isFinite = true) ∧
    ∀ d d' : Dialect, (q.bound d).parameters = (q.bound d').parameters := by
  constructor
  · intro d
    refine ⟨Frame.ofTokens d (q.tokens d), ?_, ?_, ?_⟩
    · exact Token.bound_eq d (q.tokens d)
    · exact Token.inline_eq_filledAfter d 0 (q.tokens d)
    · intro l hl
      rw [Token.literals_ofTokens, List.mem_filterMap] at hl
      obtain ⟨t, _, ht⟩ := hl
      exact Literal.isParameter_iff.1 (Token.parameter?_eq_some.1 ht).2
  · intro d d'
    simp only [bound, Token.parameters_bound]
    exact parameters_tokensWith d d' q.select q.common

/-- A null stays in the text, and the offset of a page is its parameter. -/
example :
    let e : Expr := .among (.column "x") [.null, .text "a"]
    let q : Query := ⟨{ items := [⟨.column "x", none⟩], condition := some e, offset := some 2 }, []⟩
    q.bound .postgres = ⟨"SELECT\n  \"x\"\nWHERE \"x\" IN (NULL, $1)\nOFFSET $2",
      [.text "a", .integer 2]⟩ := by
  cbv

end Vacancy.Sql
