import Vacancy.Proofs.Rendering

/-!
Queries with their data taken out. Masking puts one literal in the place of every literal that may
be a parameter, and of the numbers of pages. The statement of the masked query has the same text.
-/

namespace Vacancy.Sql

def Literal.mask : Literal :=
  .integer 0

def Literal.masked (l : Literal) : Literal :=
  if l.isParameter then mask else l

theorem Literal.isParameter_masked (l : Literal) : l.masked.isParameter = l.isParameter := by
  unfold masked
  split
  · next h => exact h.symm
  · rfl

namespace Expr

mutual

def masked : Expr → Expr
  | .column name => .column name
  | .literal l => .literal l.masked
  | .binary op left right => .binary op (masked left) (masked right)
  | .call name args => .call name (maskedList args)
  | .choice arms otherwise => .choice (maskedArms arms) (masked otherwise)
  | .among e values => .among (masked e) (maskedList values)
  | .like e pattern negated => .like (masked e) (masked pattern) negated
  | .star => .star
  | .group e => .group (masked e)

def maskedList : List Expr → List Expr
  | [] => []
  | e :: es => masked e :: maskedList es

def maskedArms : List (Expr × Expr) → List (Expr × Expr)
  | [] => []
  | (condition, result) :: arms => (masked condition, masked result) :: maskedArms arms

end

end Expr

def SelectItem.masked (i : SelectItem) : SelectItem :=
  { i with expr := i.expr.masked }

def OrderKey.masked (k : OrderKey) : OrderKey :=
  { k with expr := k.expr.masked }

def Select.masked (s : Select) : Select :=
  { s with
    items := s.items.map SelectItem.masked
    condition := s.condition.map Expr.masked
    groups := s.groups.map Expr.masked
    order := s.order.map OrderKey.masked
    limit := s.limit.map fun _ => 0
    offset := s.offset.map fun _ => 0 }

def Query.masked (q : Query) : Query where
  select := q.select.masked
  common := q.common.map fun (name, s) => (name, s.masked)

/-! ### Tokens -/

namespace Token

def masked : Token → Token
  | .literal l => .literal l.masked
  | t => t

theorem parameter?_masked (t : Token) :
    t.masked.parameter? = t.parameter?.map fun _ => Literal.mask := by
  cases t with
  | literal l =>
    simp only [masked, parameter?, Literal.isParameter_masked]
    split
    · next h => simp [Literal.masked, h]
    · rfl
  | _ => rfl

theorem masked_eq_self {t : Token} (h : t.parameter? = none) : t.masked = t := by
  cases t with
  | literal l =>
    simp only [parameter?, ite_eq_right_iff, reduceCtorEq, imp_false] at h
    simp [masked, Literal.masked, h]
  | _ => rfl

theorem text_bindAfter_masked (d : Dialect) (n : Nat) (ts : List Token) :
    (bindAfter d n (ts.map masked)).text = (bindAfter d n ts).text := by
  induction ts generalizing n with
  | nil => rfl
  | cons t ts ih =>
    cases h : t.parameter? with
    | some l => simp [bindAfter, parameter?_masked, h, ih]
    | none => simp [bindAfter, h, masked_eq_self h, ih]

theorem parameters_bound_masked (d : Dialect) (ts : List Token) :
    (bound d (ts.map masked)).parameters =
      (bound d ts).parameters.map fun _ => Literal.mask := by
  rw [parameters_bound, parameters_bound, List.filterMap_map, List.map_filterMap]
  congr 1
  funext t
  exact t.parameter?_masked

theorem separated_masked :
    ∀ tss : List (List Token), separated (tss.map (List.map masked)) = (separated tss).map masked
  | [] => rfl
  | [ts] => rfl
  | ts :: us :: rest => by
    have ih := separated_masked (us :: rest)
    rw [List.map_cons] at ih
    simp only [List.map_cons, separated_cons_cons, ih, List.map_append]
    rfl

end Token

/-! ### Expressions -/

namespace Expr

@[simp] theorem masked_token (op : Operator) : op.token.masked = op.token := by
  cases op <;> rfl

mutual

theorem tokens_masked : ∀ e : Expr, e.masked.tokens = e.tokens.map Token.masked
  | .column name => rfl
  | .literal l => rfl
  | .binary op left right => by
    simp only [masked, tokens, tokens_masked left, tokens_masked right, List.map_append,
      List.map_cons, List.map_nil, masked_token]
    rfl
  | .call name args => by
    simp [masked, tokens, tokensOfList_masked args, Token.separated_masked, Token.masked]
  | .choice arms otherwise => by
    simp [masked, tokens, tokensOfArms_masked arms, tokens_masked otherwise, Token.masked]
  | .among e [] => rfl
  | .among e (v :: vs) => by
    have hvalues := Token.separated_masked (tokens v :: tokensOfList vs)
    rw [List.map_cons] at hvalues
    simp only [masked, maskedList, tokens, tokens_masked e, tokens_masked v,
      tokensOfList_masked vs, hvalues, List.map_append]
    rfl
  | .like e pattern negated => by
    cases negated <;>
      simp [masked, tokens, tokens_masked e, tokens_masked pattern, Token.masked]
  | .star => rfl
  | .group e => by
    simp [masked, tokens, tokens_masked e, Token.masked]

theorem tokensOfList_masked :
    ∀ es : List Expr, tokensOfList (maskedList es) = (tokensOfList es).map (List.map Token.masked)
  | [] => rfl
  | e :: es => by
    simp [maskedList, tokensOfList, tokens_masked e, tokensOfList_masked es]

theorem tokensOfArms_masked :
    ∀ arms : List (Expr × Expr),
      tokensOfArms (maskedArms arms) = (tokensOfArms arms).map Token.masked
  | [] => rfl
  | (condition, result) :: arms => by
    simp [maskedArms, tokensOfArms, tokens_masked condition, tokens_masked result,
      tokensOfArms_masked arms, Token.masked]

end

end Expr

/-! ### Queries -/

theorem Dialect.pageTokens_masked (d : Dialect) (limit offset : Option UInt64) :
    d.pageTokens (limit.map fun _ => 0) (offset.map fun _ => 0) =
      (d.pageTokens limit offset).map Token.masked := by
  cases limit with
  | none =>
    cases offset with
    | none => rfl
    | some o => cases d <;> rfl
  | some l => cases offset <;> rfl

theorem Dialect.pageLine_masked (d : Dialect) (limit offset : Option UInt64) :
    d.pageLine (limit.map fun _ => 0) (offset.map fun _ => 0) =
      (d.pageLine limit offset).map Token.masked := by
  unfold pageLine
  rw [d.pageTokens_masked]
  cases d.pageTokens limit offset <;> rfl

theorem SelectItem.tokens_masked (i : SelectItem) :
    i.masked.tokens = i.tokens.map Token.masked := by
  obtain ⟨e, name⟩ := i
  cases name <;> simp [masked, tokens, e.tokens_masked, Token.masked]

theorem OrderKey.tokens_masked (k : OrderKey) : k.masked.tokens = k.tokens.map Token.masked := by
  simp only [masked, tokens, k.expr.tokens_masked, List.map_append]
  rfl

namespace Select

theorem itemTokens_masked :
    ∀ is : List SelectItem,
      itemTokens (is.map SelectItem.masked) = (itemTokens is).map Token.masked
  | [] => rfl
  | [i] => by
    simp only [List.map_cons, List.map_nil, itemTokens_singleton, i.tokens_masked, List.map_append]
    rfl
  | i :: j :: is => by
    have ih := itemTokens_masked (j :: is)
    rw [List.map_cons] at ih
    simp only [List.map_cons, itemTokens_cons_cons, ih, i.tokens_masked, List.map_append]
    rfl

theorem clause_masked (k : Keyword) (ts : List Token) :
    clause k (ts.map Token.masked) = (clause k ts).map Token.masked := by
  simp [clause, Token.masked]

theorem separated_map_masked {α : Type} (f : α → List Token) (mask : α → α)
    (h : ∀ a, f (mask a) = (f a).map Token.masked) (as : List α) :
    Token.separated ((as.map mask).map f) = (Token.separated (as.map f)).map Token.masked := by
  rw [← Token.separated_masked, List.map_map, List.map_map]
  congr 2
  funext a
  exact h a

theorem tokens_unpaged_masked (d : Dialect) (s : Select) :
    s.masked.unpaged.tokens d = (s.unpaged.tokens d).map Token.masked := by
  obtain ⟨items, distinct, source, condition, groups, order, limit, offset⟩ := s
  simp only [unpaged, masked]
  simp only [tokens, Dialect.pageTokens, List.map_append, itemTokens_masked, List.isEmpty_map,
    separated_map_masked _ _ Expr.tokens_masked, separated_map_masked _ _ OrderKey.tokens_masked,
    clause_masked, apply_ite (List.map Token.masked)]
  cases source <;> cases condition <;> simp [clause, Expr.tokens_masked, Token.masked]

theorem tokens_masked (d : Dialect) (s : Select) :
    s.masked.tokens d = (s.tokens d).map Token.masked := by
  rw [tokens_eq d d, tokens_eq d d s, List.map_append, tokens_unpaged_masked,
    ← d.pageLine_masked]
  rfl

end Select

namespace Query

theorem tokensWith_masked (d : Dialect) (s : Select) (common : List (String × Select)) :
    tokensWith d s.masked (common.map fun c => (c.1, c.2.masked)) =
      (tokensWith d s common).map Token.masked := by
  induction common generalizing s with
  | nil => exact s.tokens_masked d
  | cons c common ih => simp [tokensWith, ih c.2, s.tokens_masked d, Token.masked]

theorem text_bound_masked (d : Dialect) (q : Query) :
    (q.masked.bound d).text = (q.bound d).text := by
  have h : q.masked.tokens d = (q.tokens d).map Token.masked :=
    tokensWith_masked d q.select q.common
  simp only [bound, h]
  exact Token.text_bindAfter_masked d 0 (q.tokens d)

theorem parameters_bound_masked (d : Dialect) (q : Query) :
    (q.masked.bound d).parameters = (q.bound d).parameters.map fun _ => Literal.mask := by
  have h : q.masked.tokens d = (q.tokens d).map Token.masked :=
    tokensWith_masked d q.select q.common
  simp only [bound, h]
  exact Token.parameters_bound_masked d (q.tokens d)

end Query

end Vacancy.Sql
