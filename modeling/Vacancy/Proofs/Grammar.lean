import Vacancy.Sql.Expr

/-!
The grammar that conditions are written in, over tokens without the spaces between them. A predicate
is a row of terms with AND between them, grouped from the left; a term is an operand, and perhaps a
comparison of it; an operand is a name, a literal, a choice, a call or a predicate in parentheses.
The reader below reads exactly what the grammar derives, so no tokens are derived for two
predicates.
-/

namespace Vacancy.Sql

namespace Token

def isSpace : Token → Bool
  | .space => true
  | _ => false

def unspaced (ts : List Token) : List Token :=
  ts.filter (!·.isSpace)

def comparison? : Token → Option Operator
  | .symbol .eq => some .eq
  | .symbol .ne => some .ne
  | .symbol .lt => some .lt
  | .symbol .gt => some .gt
  | .symbol .lte => some .lte
  | .symbol .gte => some .gte
  | _ => none

theorem of_comparison? {t : Token} {op : Operator} (h : t.comparison? = some op) :
    t = op.token ∧ op ≠ .and := by
  unfold comparison? at h
  split at h
  all_goals simp only [Option.some.injEq, reduceCtorEq] at h
  all_goals rw [← h]; exact ⟨rfl, by simp⟩

end Token

namespace Grammar

/-- What tokens can spell. -/
inductive Phrase where
  | predicate (e : Expr)
  /-- What follows the conditions that are joined to `left`, up to the predicate `e`. -/
  | links (left e : Expr)
  | term (e : Expr)
  | operand (e : Expr)
  | operands (es : List Expr)
  | arms (arms : List (Expr × Expr))

inductive Derives : Phrase → List Token → Prop where
  | predicate {e c ts us} (hterm : Derives (.term e) ts) (hlinks : Derives (.links e c) us) :
      Derives (.predicate c) (ts ++ us)
  | finish {c} : Derives (.links c c) []
  | link {left e c ts us} (hterm : Derives (.term e) ts)
      (hlinks : Derives (.links (.and left e) c) us) :
      Derives (.links left c) (.keyword .and :: (ts ++ us))
  | alone {e ts} (he : Derives (.operand e) ts) : Derives (.term e) ts
  | compared {op left right ts us} (hop : op ≠ .and) (hleft : Derives (.operand left) ts)
      (hright : Derives (.operand right) us) :
      Derives (.term (.binary op left right)) (ts ++ op.token :: us)
  | like {e pattern ts us} (he : Derives (.operand e) ts)
      (hpattern : Derives (.operand pattern) us) :
      Derives (.term (.like e pattern false)) (ts ++ .keyword .like :: us)
  | unlike {e pattern ts us} (he : Derives (.operand e) ts)
      (hpattern : Derives (.operand pattern) us) :
      Derives (.term (.like e pattern true)) (ts ++ .keyword .not :: .keyword .like :: us)
  | among {e es ts us} (he : Derives (.operand e) ts) (hes : Derives (.operands es) us) :
      Derives (.term (.among e es))
        (ts ++ .keyword .among :: .symbol .leftParen :: (us ++ [.symbol .rightParen]))
  | column {name} : Derives (.operand (.column name)) [.identifier name]
  | literal {l} : Derives (.operand (.literal l)) [.literal l]
  | choice {arms e ts us} (harms : Derives (.arms arms) ts) (he : Derives (.predicate e) us) :
      Derives (.operand (.choice arms e))
        (.keyword .choice :: (ts ++ .keyword .otherwise :: (us ++ [.keyword .done])))
  | emptyCall {name} :
      Derives (.operand (.call name []))
        [.function name, .symbol .leftParen, .symbol .rightParen]
  | call {name es ts} (hes : Derives (.operands es) ts) :
      Derives (.operand (.call name es))
        (.function name :: .symbol .leftParen :: (ts ++ [.symbol .rightParen]))
  | group {e ts} (he : Derives (.predicate e) ts) :
      Derives (.operand (.group e)) (.symbol .leftParen :: (ts ++ [.symbol .rightParen]))
  | last {e ts} (he : Derives (.operand e) ts) : Derives (.operands [e]) ts
  | more {e es ts us} (he : Derives (.operand e) ts) (hes : Derives (.operands es) us) :
      Derives (.operands (e :: es)) (ts ++ .symbol .comma :: us)
  | lastArm {condition result ts us} (hcondition : Derives (.predicate condition) ts)
      (hresult : Derives (.predicate result) us) :
      Derives (.arms [(condition, result)]) (.keyword .when :: (ts ++ .keyword .result :: us))
  | arm {condition result arms ts us vs} (hcondition : Derives (.predicate condition) ts)
      (hresult : Derives (.predicate result) us) (harms : Derives (.arms arms) vs) :
      Derives (.arms ((condition, result) :: arms))
        (.keyword .when :: (ts ++ .keyword .result :: (us ++ vs)))

/-! ### The reader -/

def keyword? (k : Keyword) : List Token → Option (List Token)
  | .keyword k' :: rest => if k' = k then some rest else none
  | _ => none

def symbol? (s : Symbol) : List Token → Option (List Token)
  | .symbol s' :: rest => if s' = s then some rest else none
  | _ => none

mutual

def predicate? : Nat → List Token → Option (Expr × List Token)
  | 0, _ => none
  | fuel + 1, ts => do
    let (e, rest) ← term? fuel ts
    links? fuel e rest
termination_by structural fuel => fuel

def links? : Nat → Expr → List Token → Option (Expr × List Token)
  | 0, _, _ => none
  | fuel + 1, left, ts =>
    match keyword? .and ts with
    | some rest => do
      let (e, rest) ← term? fuel rest
      links? fuel (.and left e) rest
    | none => some (left, ts)
termination_by structural fuel => fuel

def term? : Nat → List Token → Option (Expr × List Token)
  | 0, _ => none
  | fuel + 1, ts => do
    let (e, rest) ← operand? fuel ts
    match rest with
    | .keyword .like :: rest =>
      let (pattern, rest) ← operand? fuel rest
      return (.like e pattern false, rest)
    | .keyword .not :: .keyword .like :: rest =>
      let (pattern, rest) ← operand? fuel rest
      return (.like e pattern true, rest)
    | .keyword .among :: .symbol .leftParen :: rest =>
      let (es, rest) ← operands? fuel rest
      let rest ← symbol? .rightParen rest
      return (.among e es, rest)
    | t :: rest =>
      match t.comparison? with
      | some op =>
        let (right, rest) ← operand? fuel rest
        return (.binary op e right, rest)
      | none => return (e, t :: rest)
    | [] => return (e, [])
termination_by structural fuel => fuel

def operand? : Nat → List Token → Option (Expr × List Token)
  | 0, _ => none
  | fuel + 1, ts =>
    match ts with
    | .identifier name :: rest => some (.column name, rest)
    | .literal l :: rest => some (.literal l, rest)
    | .keyword .choice :: rest => do
      let (arms, rest) ← arms? fuel rest
      let rest ← keyword? .otherwise rest
      let (e, rest) ← predicate? fuel rest
      let rest ← keyword? .done rest
      return (.choice arms e, rest)
    | .function name :: rest => do
      let rest ← symbol? .leftParen rest
      match symbol? .rightParen rest with
      | some rest => return (.call name [], rest)
      | none =>
        let (es, rest) ← operands? fuel rest
        let rest ← symbol? .rightParen rest
        return (.call name es, rest)
    | .symbol .leftParen :: rest => do
      let (e, rest) ← predicate? fuel rest
      let rest ← symbol? .rightParen rest
      return (.group e, rest)
    | _ => none
termination_by structural fuel => fuel

def operands? : Nat → List Token → Option (List Expr × List Token)
  | 0, _ => none
  | fuel + 1, ts => do
    let (e, rest) ← operand? fuel ts
    match symbol? .comma rest with
    | some rest =>
      let (es, rest) ← operands? fuel rest
      return (e :: es, rest)
    | none => return ([e], rest)
termination_by structural fuel => fuel

def arms? : Nat → List Token → Option (List (Expr × Expr) × List Token)
  | 0, _ => none
  | fuel + 1, ts => do
    let rest ← keyword? .when ts
    let (condition, rest) ← predicate? fuel rest
    let rest ← keyword? .result rest
    let (result, rest) ← predicate? fuel rest
    match keyword? .when rest with
    | some _ =>
      let (arms, rest) ← arms? fuel rest
      return ((condition, result) :: arms, rest)
    | none => return ([(condition, result)], rest)
termination_by structural fuel => fuel

end

def read? (ts : List Token) : Option Expr :=
  match predicate? (3 * ts.length) ts with
  | some (e, []) => some e
  | _ => none

/-! ### What is read is derived -/

@[simp] theorem keyword?_eq_some {k : Keyword} {ts rest : List Token} :
    keyword? k ts = some rest ↔ ts = .keyword k :: rest := by
  unfold keyword?
  split
  · simp [eq_comm]
  · next h =>
    simp only [reduceCtorEq, false_iff]
    exact h k rest

@[simp] theorem symbol?_eq_some {s : Symbol} {ts rest : List Token} :
    symbol? s ts = some rest ↔ ts = .symbol s :: rest := by
  unfold symbol?
  split
  · simp [eq_comm]
  · next h =>
    simp only [reduceCtorEq, false_iff]
    exact h s rest

/-- The reader of a phrase takes `ts` and leaves `rest`. -/
def Reads (fuel : Nat) : Phrase → List Token → List Token → Prop
  | .predicate e, ts, rest => predicate? fuel ts = some (e, rest)
  | .links left e, ts, rest => links? fuel left ts = some (e, rest)
  | .term e, ts, rest => term? fuel ts = some (e, rest)
  | .operand e, ts, rest => operand? fuel ts = some (e, rest)
  | .operands es, ts, rest => operands? fuel ts = some (es, rest)
  | .arms arms, ts, rest => arms? fuel ts = some (arms, rest)

def Sound (fuel : Nat) (p : Phrase) : Prop :=
  ∀ ts rest, Reads fuel p ts rest → ∃ us, Derives p us ∧ ts = us ++ rest

section Sound

variable {fuel : Nat} (ih : ∀ p, Sound fuel p)

include ih

theorem sound_predicate (c : Expr) : Sound (fuel + 1) (.predicate c) := by
  intro ts rest h
  simp only [Reads, predicate?, Option.bind_eq_bind, Option.bind_eq_some_iff, Prod.exists] at h
  obtain ⟨e, mid, hterm, hlinks⟩ := h
  obtain ⟨us, hus, rfl⟩ := ih (.term e) ts mid hterm
  obtain ⟨vs, hvs, rfl⟩ := ih (.links e c) mid rest hlinks
  exact ⟨us ++ vs, .predicate hus hvs, by simp⟩

theorem sound_links (left c : Expr) : Sound (fuel + 1) (.links left c) := by
  intro ts rest h
  simp only [Reads, links?] at h
  split at h
  · next mid hand =>
    rw [keyword?_eq_some] at hand
    subst hand
    simp only [Option.bind_eq_bind, Option.bind_eq_some_iff, Prod.exists] at h
    obtain ⟨e, last, hterm, hlinks⟩ := h
    obtain ⟨us, hus, rfl⟩ := ih (.term e) mid last hterm
    obtain ⟨vs, hvs, rfl⟩ := ih (.links (.and left e) c) last rest hlinks
    exact ⟨_, .link hus hvs, by simp⟩
  · simp only [Option.some.injEq, Prod.mk.injEq] at h
    obtain ⟨rfl, rfl⟩ := h
    exact ⟨[], .finish, rfl⟩

theorem sound_term (e : Expr) : Sound (fuel + 1) (.term e) := by
  intro ts rest h
  simp only [Reads, term?, Option.bind_eq_bind, Option.bind_eq_some_iff, Prod.exists] at h
  obtain ⟨left, mid, hleft, h⟩ := h
  obtain ⟨us, hus, rfl⟩ := ih (.operand left) ts mid hleft
  split at h
  · next mid =>
    simp only [Option.bind_eq_some_iff, Prod.exists, Option.pure_def, Option.some.injEq,
      Prod.mk.injEq] at h
    obtain ⟨pattern, _, hpattern, rfl, rfl⟩ := h
    obtain ⟨vs, hvs, rfl⟩ := ih (.operand pattern) mid _ hpattern
    exact ⟨_, .like hus hvs, by simp⟩
  · next mid =>
    simp only [Option.bind_eq_some_iff, Prod.exists, Option.pure_def, Option.some.injEq,
      Prod.mk.injEq] at h
    obtain ⟨pattern, _, hpattern, rfl, rfl⟩ := h
    obtain ⟨vs, hvs, rfl⟩ := ih (.operand pattern) mid _ hpattern
    exact ⟨_, .unlike hus hvs, by simp⟩
  · next mid =>
    simp only [Option.bind_eq_some_iff, Prod.exists, symbol?_eq_some, Option.pure_def,
      Option.some.injEq, Prod.mk.injEq] at h
    obtain ⟨es, _, hes, _, rfl, rfl, rfl⟩ := h
    obtain ⟨vs, hvs, rfl⟩ := ih (.operands es) mid _ hes
    exact ⟨_, .among hus hvs, by simp⟩
  · next t mid _ _ _ =>
    split at h
    · next op hsome =>
      obtain ⟨rfl, hop⟩ := Token.of_comparison? hsome
      simp only [Option.bind_eq_some_iff, Prod.exists, Option.pure_def, Option.some.injEq,
        Prod.mk.injEq] at h
      obtain ⟨right, _, hright, rfl, rfl⟩ := h
      obtain ⟨vs, hvs, rfl⟩ := ih (.operand right) mid _ hright
      exact ⟨_, .compared hop hus hvs, by simp⟩
    · simp only [Option.pure_def, Option.some.injEq, Prod.mk.injEq] at h
      obtain ⟨rfl, rfl⟩ := h
      exact ⟨us, .alone hus, rfl⟩
  · simp only [Option.pure_def, Option.some.injEq, Prod.mk.injEq] at h
    obtain ⟨rfl, rfl⟩ := h
    exact ⟨us, .alone hus, rfl⟩

theorem sound_operand (e : Expr) : Sound (fuel + 1) (.operand e) := by
  intro ts rest h
  simp only [Reads, operand?] at h
  split at h
  · simp only [Option.some.injEq, Prod.mk.injEq] at h
    obtain ⟨rfl, rfl⟩ := h
    exact ⟨_, .column, rfl⟩
  · simp only [Option.some.injEq, Prod.mk.injEq] at h
    obtain ⟨rfl, rfl⟩ := h
    exact ⟨_, .literal, rfl⟩
  · next mid =>
    simp only [Option.bind_eq_bind, Option.bind_eq_some_iff, Prod.exists, keyword?_eq_some,
      Option.pure_def, Option.some.injEq, Prod.mk.injEq] at h
    obtain ⟨arms, _, harms, _, rfl, otherwise, _, he, _, rfl, rfl, rfl⟩ := h
    obtain ⟨us, hus, rfl⟩ := ih (.arms arms) mid _ harms
    obtain ⟨vs, hvs, rfl⟩ := ih (.predicate otherwise) _ _ he
    exact ⟨_, .choice hus hvs, by simp⟩
  · simp only [Option.bind_eq_bind, Option.bind_eq_some_iff, symbol?_eq_some] at h
    obtain ⟨mid, rfl, h⟩ := h
    split at h
    · next last hlast =>
      simp only [symbol?_eq_some, Option.pure_def, Option.some.injEq, Prod.mk.injEq] at hlast h
      obtain ⟨rfl, rfl⟩ := h
      exact ⟨_, .emptyCall, by simp [hlast]⟩
    · simp only [Option.bind_eq_some_iff, Prod.exists, symbol?_eq_some, Option.pure_def,
        Option.some.injEq, Prod.mk.injEq] at h
      obtain ⟨es, _, hes, _, rfl, rfl, rfl⟩ := h
      obtain ⟨us, hus, rfl⟩ := ih (.operands es) mid _ hes
      exact ⟨_, .call hus, by simp⟩
  · next mid =>
    simp only [Option.bind_eq_bind, Option.bind_eq_some_iff, Prod.exists, symbol?_eq_some,
      Option.pure_def, Option.some.injEq, Prod.mk.injEq] at h
    obtain ⟨inner, _, he, _, rfl, rfl, rfl⟩ := h
    obtain ⟨us, hus, rfl⟩ := ih (.predicate inner) mid _ he
    exact ⟨_, .group hus, by simp⟩
  · exact absurd h (by simp)

theorem sound_operands (es : List Expr) : Sound (fuel + 1) (.operands es) := by
  intro ts rest h
  simp only [Reads, operands?, Option.bind_eq_bind, Option.bind_eq_some_iff, Prod.exists] at h
  obtain ⟨e, mid, he, h⟩ := h
  obtain ⟨us, hus, rfl⟩ := ih (.operand e) ts mid he
  split at h
  · next last hcomma =>
    rw [symbol?_eq_some] at hcomma
    subst hcomma
    simp only [Option.bind_eq_some_iff, Prod.exists, Option.pure_def, Option.some.injEq,
      Prod.mk.injEq] at h
    obtain ⟨es, _, hes, rfl, rfl⟩ := h
    obtain ⟨vs, hvs, rfl⟩ := ih (.operands es) last _ hes
    exact ⟨_, .more hus hvs, by simp⟩
  · simp only [Option.pure_def, Option.some.injEq, Prod.mk.injEq] at h
    obtain ⟨rfl, rfl⟩ := h
    exact ⟨us, .last hus, rfl⟩

theorem sound_arms (arms : List (Expr × Expr)) : Sound (fuel + 1) (.arms arms) := by
  intro ts rest h
  simp only [Reads, arms?, Option.bind_eq_bind, Option.bind_eq_some_iff, Prod.exists,
    keyword?_eq_some] at h
  obtain ⟨mid, rfl, condition, _, hcondition, _, rfl, result, last, hresult, h⟩ := h
  obtain ⟨us, hus, rfl⟩ := ih (.predicate condition) mid _ hcondition
  obtain ⟨vs, hvs, rfl⟩ := ih (.predicate result) _ last hresult
  split at h
  · simp only [Option.bind_eq_some_iff, Prod.exists, Option.pure_def, Option.some.injEq,
      Prod.mk.injEq] at h
    obtain ⟨arms, _, harms, rfl, rfl⟩ := h
    obtain ⟨ws, hws, rfl⟩ := ih (.arms arms) last _ harms
    exact ⟨_, .arm hus hvs hws, by simp⟩
  · simp only [Option.pure_def, Option.some.injEq, Prod.mk.injEq] at h
    obtain ⟨rfl, rfl⟩ := h
    exact ⟨_, .lastArm hus hvs, by simp⟩

end Sound

theorem sound (fuel : Nat) (p : Phrase) : Sound fuel p := by
  induction fuel generalizing p with
  | zero =>
    intro ts rest h
    cases p <;> simp [Reads, predicate?, links?, term?, operand?, operands?, arms?] at h
  | succ fuel ih =>
    cases p with
    | predicate c => exact sound_predicate ih c
    | links left c => exact sound_links ih left c
    | term e => exact sound_term ih e
    | operand e => exact sound_operand ih e
    | operands es => exact sound_operands ih es
    | arms arms => exact sound_arms ih arms

/-! ### What is derived is read -/

/-- A token that a term would go on with. -/
def extendsTerm : Token → Bool
  | .keyword .like | .keyword .not | .keyword .among => true
  | t => t.comparison?.isSome

namespace Phrase

def extendedBy (t : Token) : Phrase → Bool
  | .operand _ => false
  | .operands _ => (t matches .symbol .comma)
  | .term _ => extendsTerm t
  | .predicate _ | .links _ _ => extendsTerm t || (t matches .keyword .and)
  | .arms _ => extendsTerm t || (t matches .keyword .and | .keyword .when)

def EndsBefore (p : Phrase) (rest : List Token) : Prop :=
  ∀ t ∈ rest.head?, p.extendedBy t = false

def Begins : Phrase → List Token → Prop
  | .links _ _, ts => ts = [] ∨ ∃ us, ts = .keyword .and :: us
  | .arms _, ts => ∃ us, ts = .keyword .when :: us
  | _, ts => ∃ t us, ts = t :: us ∧ t ≠ .symbol .rightParen

/-- The fuel that the reader of a phrase needs beyond three for each token, and two more. -/
def slack : Phrase → Nat
  | .operand _ | .arms _ => 0
  | .term _ | .operands _ => 1
  | .predicate _ => 2
  | .links _ _ => 3

end Phrase

theorem Derives.begins {p : Phrase} {ts : List Token} (h : Derives p ts) : p.Begins ts := by
  induction h with
  | predicate _ _ ih _ =>
    obtain ⟨t, us, rfl, ht⟩ := ih
    exact ⟨t, _, rfl, ht⟩
  | finish => exact .inl rfl
  | link => exact .inr ⟨_, rfl⟩
  | alone _ ih | last _ ih => exact ih
  | compared _ _ _ ih _ | like _ _ ih _ | unlike _ _ ih _ | among _ _ ih _ | more _ _ ih _ =>
    obtain ⟨t, us, rfl, ht⟩ := ih
    exact ⟨t, _, rfl, ht⟩
  | column | literal | choice | emptyCall | call | group => exact ⟨_, _, rfl, by simp⟩
  | lastArm | arm => exact ⟨_, rfl⟩

theorem Phrase.Begins.length_pos {p : Phrase} {ts : List Token} (h : p.Begins ts)
    (hp : ∀ left c, p ≠ .links left c) : 0 < ts.length := by
  cases p with
  | links left c => exact absurd rfl (hp left c)
  | arms =>
    obtain ⟨us, rfl⟩ := h
    simp
  | _ =>
    obtain ⟨t, us, rfl, _⟩ := h
    simp

/-- The reader takes the tokens of the phrase from all that may begin with them. -/
def Complete (p : Phrase) (ts : List Token) : Prop :=
  ∀ fuel rest, 3 * ts.length + p.slack ≤ fuel + 2 → p.EndsBefore rest →
    Reads fuel p (ts ++ rest) rest

@[simp] theorem keyword?_cons (k : Keyword) (rest : List Token) :
    keyword? k (.keyword k :: rest) = some rest := by
  simp

@[simp] theorem symbol?_cons (s : Symbol) (rest : List Token) :
    symbol? s (.symbol s :: rest) = some rest := by
  simp

theorem endsBefore_operand (e : Expr) (rest : List Token) : (Phrase.operand e).EndsBefore rest :=
  fun _ _ => rfl

theorem endsBefore_cons {p : Phrase} {t : Token} (h : p.extendedBy t = false) (rest : List Token) :
    p.EndsBefore (t :: rest) := by
  intro t' ht'
  simp only [List.head?_cons, Option.mem_def, Option.some.injEq] at ht'
  exact ht' ▸ h

theorem endsBefore_term {left c : Expr} {us rest : List Token} (e : Expr)
    (hus : (Phrase.links left c).Begins us) (hrest : (Phrase.links left c).EndsBefore rest) :
    (Phrase.term e).EndsBefore (us ++ rest) := by
  rcases hus with rfl | ⟨us, rfl⟩
  · intro t ht
    have := hrest t ht
    simp only [Phrase.extendedBy, Bool.or_eq_false_iff] at this
    exact this.1
  · exact endsBefore_cons rfl _

theorem keyword?_eq_none {p : Phrase} {k : Keyword} {rest : List Token} (hrest : p.EndsBefore rest)
    (hk : p.extendedBy (.keyword k) = true) : keyword? k rest = none := by
  cases h : keyword? k rest with
  | none => rfl
  | some last =>
    rw [keyword?_eq_some] at h
    subst h
    have := hrest _ rfl
    simp [this] at hk

theorem symbol?_eq_none {p : Phrase} {s : Symbol} {rest : List Token} (hrest : p.EndsBefore rest)
    (hs : p.extendedBy (.symbol s) = true) : symbol? s rest = none := by
  cases h : symbol? s rest with
  | none => rfl
  | some last =>
    rw [symbol?_eq_some] at h
    subst h
    have := hrest _ rfl
    simp [this] at hs

section Complete

variable {ts us vs : List Token} {e c left right pattern condition result : Expr} {es : List Expr}
  {arms : List (Expr × Expr)} {op : Operator}

theorem complete_predicate (hbegins : (Phrase.term e).Begins ts)
    (hand : (Phrase.links e c).Begins us) (hterm : Complete (.term e) ts)
    (hlinks : Complete (.links e c) us) : Complete (.predicate c) (ts ++ us) := by
  simp only [Complete, Reads, Phrase.slack, List.length_append] at *
  intro fuel rest hfuel hrest
  have hlength := hbegins.length_pos (by simp)
  obtain ⟨fuel, rfl⟩ : ∃ n, fuel = n + 1 := ⟨fuel - 1, by omega⟩
  have hterm := hterm fuel (us ++ rest) (by omega) (endsBefore_term e hand hrest)
  have hlinks := hlinks fuel rest (by omega) hrest
  simp [predicate?, hterm, hlinks]

theorem complete_finish : Complete (.links c c) [] := by
  simp only [Complete, Reads, Phrase.slack, List.length_nil]
  intro fuel rest hfuel hrest
  obtain ⟨fuel, rfl⟩ : ∃ n, fuel = n + 1 := ⟨fuel - 1, by omega⟩
  have hnone : keyword? .and rest = none := keyword?_eq_none hrest rfl
  simp [links?, hnone]

theorem complete_link (hand : (Phrase.links (.and left e) c).Begins us)
    (hterm : Complete (.term e) ts) (hlinks : Complete (.links (.and left e) c) us) :
    Complete (.links left c) (.keyword .and :: (ts ++ us)) := by
  simp only [Complete, Reads, Phrase.slack, List.length_cons, List.length_append] at *
  intro fuel rest hfuel hrest
  obtain ⟨fuel, rfl⟩ : ∃ n, fuel = n + 1 := ⟨fuel - 1, by omega⟩
  have hterm := hterm fuel (us ++ rest) (by omega) (endsBefore_term e hand hrest)
  have hlinks := hlinks fuel rest (by omega) hrest
  simp [links?, hterm, hlinks]

theorem complete_alone (hbegins : (Phrase.operand e).Begins ts) (he : Complete (.operand e) ts) :
    Complete (.term e) ts := by
  simp only [Complete, Reads, Phrase.slack] at *
  intro fuel rest hfuel hrest
  have hlength := hbegins.length_pos (by simp)
  obtain ⟨fuel, rfl⟩ : ∃ n, fuel = n + 1 := ⟨fuel - 1, by omega⟩
  have he := he fuel rest (by omega) (endsBefore_operand e rest)
  simp only [term?, he, Option.bind_eq_bind, Option.bind_some]
  -- nothing that a term goes on with comes next
  split
  · have := hrest _ rfl
    simp [Phrase.extendedBy, extendsTerm] at this
  · have := hrest _ rfl
    simp [Phrase.extendedBy, extendsTerm] at this
  · have := hrest _ rfl
    simp [Phrase.extendedBy, extendsTerm] at this
  · next t rest _ _ _ =>
    split
    · next op hop =>
      obtain ⟨rfl, hop⟩ := Token.of_comparison? hop
      have := hrest _ rfl
      cases op <;> simp_all [Phrase.extendedBy, extendsTerm, Operator.token, Token.comparison?]
    · rfl
  · rfl

theorem complete_compared (hop : op ≠ .and) (hleft : Complete (.operand left) ts)
    (hright : Complete (.operand right) us) :
    Complete (.term (.binary op left right)) (ts ++ op.token :: us) := by
  simp only [Complete, Reads, Phrase.slack, List.length_append, List.length_cons] at *
  intro fuel rest hfuel _
  obtain ⟨fuel, rfl⟩ : ∃ n, fuel = n + 1 := ⟨fuel - 1, by omega⟩
  have hleft := hleft fuel (op.token :: (us ++ rest)) (by omega) (endsBefore_operand _ _)
  have hright := hright fuel rest (by omega) (endsBefore_operand _ _)
  cases op with
  | and => exact absurd rfl hop
  | _ =>
    simp only [Operator.token] at hleft
    simp [term?, Operator.token, Token.comparison?, hleft, hright]

theorem complete_like (he : Complete (.operand e) ts) (hpattern : Complete (.operand pattern) us) :
    Complete (.term (.like e pattern false)) (ts ++ .keyword .like :: us) := by
  simp only [Complete, Reads, Phrase.slack, List.length_append, List.length_cons] at *
  intro fuel rest hfuel _
  obtain ⟨fuel, rfl⟩ : ∃ n, fuel = n + 1 := ⟨fuel - 1, by omega⟩
  have he := he fuel (.keyword .like :: (us ++ rest)) (by omega) (endsBefore_operand _ _)
  have hpattern := hpattern fuel rest (by omega) (endsBefore_operand _ _)
  simp [term?, he, hpattern]

theorem complete_unlike (he : Complete (.operand e) ts)
    (hpattern : Complete (.operand pattern) us) :
    Complete (.term (.like e pattern true)) (ts ++ .keyword .not :: .keyword .like :: us) := by
  simp only [Complete, Reads, Phrase.slack, List.length_append, List.length_cons] at *
  intro fuel rest hfuel _
  obtain ⟨fuel, rfl⟩ : ∃ n, fuel = n + 1 := ⟨fuel - 1, by omega⟩
  have he := he fuel (.keyword .not :: .keyword .like :: (us ++ rest)) (by omega)
    (endsBefore_operand _ _)
  have hpattern := hpattern fuel rest (by omega) (endsBefore_operand _ _)
  simp [term?, he, hpattern]

theorem complete_among (he : Complete (.operand e) ts) (hes : Complete (.operands es) us) :
    Complete (.term (.among e es))
      (ts ++ .keyword .among :: .symbol .leftParen :: (us ++ [.symbol .rightParen])) := by
  simp only [Complete, Reads, Phrase.slack, List.length_append, List.length_cons] at *
  intro fuel rest hfuel _
  obtain ⟨fuel, rfl⟩ : ∃ n, fuel = n + 1 := ⟨fuel - 1, by omega⟩
  have he := he fuel (.keyword .among :: .symbol .leftParen :: (us ++ .symbol .rightParen :: rest))
    (by omega) (endsBefore_operand _ _)
  have hes := hes fuel (.symbol .rightParen :: rest) (by omega) (endsBefore_cons rfl _)
  simp [term?, he, hes]

theorem complete_column (name : String) :
    Complete (.operand (.column name)) [.identifier name] := by
  simp only [Complete, Reads, Phrase.slack, List.length_singleton]
  intro fuel rest hfuel _
  obtain ⟨fuel, rfl⟩ : ∃ n, fuel = n + 1 := ⟨fuel - 1, by omega⟩
  simp [operand?]

theorem complete_literal (l : Literal) : Complete (.operand (.literal l)) [.literal l] := by
  simp only [Complete, Reads, Phrase.slack, List.length_singleton]
  intro fuel rest hfuel _
  obtain ⟨fuel, rfl⟩ : ∃ n, fuel = n + 1 := ⟨fuel - 1, by omega⟩
  simp [operand?]

theorem complete_choice (harms : Complete (.arms arms) ts) (he : Complete (.predicate e) us) :
    Complete (.operand (.choice arms e))
      (.keyword .choice :: (ts ++ .keyword .otherwise :: (us ++ [.keyword .done]))) := by
  simp only [Complete, Reads, Phrase.slack, List.length_append, List.length_cons] at *
  intro fuel rest hfuel _
  obtain ⟨fuel, rfl⟩ : ∃ n, fuel = n + 1 := ⟨fuel - 1, by omega⟩
  have harms := harms fuel (.keyword .otherwise :: (us ++ .keyword .done :: rest)) (by omega)
    (endsBefore_cons rfl _)
  have he := he fuel (.keyword .done :: rest) (by omega) (endsBefore_cons rfl _)
  simp [operand?, harms, he]

theorem complete_emptyCall (name : String) : Complete (.operand (.call name []))
    [.function name, .symbol .leftParen, .symbol .rightParen] := by
  simp only [Complete, Reads, Phrase.slack, List.length_cons]
  intro fuel rest hfuel _
  obtain ⟨fuel, rfl⟩ : ∃ n, fuel = n + 1 := ⟨fuel - 1, by omega⟩
  simp [operand?]

theorem complete_call (name : String) (hbegins : (Phrase.operands es).Begins ts)
    (hes : Complete (.operands es) ts) :
    Complete (.operand (.call name es))
      (.function name :: .symbol .leftParen :: (ts ++ [.symbol .rightParen])) := by
  simp only [Complete, Reads, Phrase.slack, List.length_append, List.length_cons] at *
  intro fuel rest hfuel _
  obtain ⟨fuel, rfl⟩ : ∃ n, fuel = n + 1 := ⟨fuel - 1, by omega⟩
  have hes := hes fuel (.symbol .rightParen :: rest) (by omega) (endsBefore_cons rfl _)
  have hnone : symbol? .rightParen (ts ++ .symbol .rightParen :: rest) = none := by
    obtain ⟨t, us, rfl, ht⟩ := hbegins
    cases h : symbol? .rightParen (t :: us ++ .symbol .rightParen :: rest) with
    | none => rfl
    | some last =>
      rw [symbol?_eq_some, List.cons_append, List.cons.injEq] at h
      exact absurd h.1 ht
  simp [operand?, hnone, hes]

theorem complete_group (he : Complete (.predicate e) ts) :
    Complete (.operand (.group e)) (.symbol .leftParen :: (ts ++ [.symbol .rightParen])) := by
  simp only [Complete, Reads, Phrase.slack, List.length_append, List.length_cons] at *
  intro fuel rest hfuel _
  obtain ⟨fuel, rfl⟩ : ∃ n, fuel = n + 1 := ⟨fuel - 1, by omega⟩
  have he := he fuel (.symbol .rightParen :: rest) (by omega) (endsBefore_cons rfl _)
  simp [operand?, he]

theorem complete_last (hbegins : (Phrase.operand e).Begins ts) (he : Complete (.operand e) ts) :
    Complete (.operands [e]) ts := by
  simp only [Complete, Reads, Phrase.slack] at *
  intro fuel rest hfuel hrest
  have hlength := hbegins.length_pos (by simp)
  obtain ⟨fuel, rfl⟩ : ∃ n, fuel = n + 1 := ⟨fuel - 1, by omega⟩
  have he := he fuel rest (by omega) (endsBefore_operand e rest)
  have hnone : symbol? .comma rest = none := symbol?_eq_none hrest rfl
  simp [operands?, he, hnone]

theorem complete_more (he : Complete (.operand e) ts) (hes : Complete (.operands es) us) :
    Complete (.operands (e :: es)) (ts ++ .symbol .comma :: us) := by
  simp only [Complete, Reads, Phrase.slack, List.length_append, List.length_cons] at *
  intro fuel rest hfuel hrest
  obtain ⟨fuel, rfl⟩ : ∃ n, fuel = n + 1 := ⟨fuel - 1, by omega⟩
  have he := he fuel (.symbol .comma :: (us ++ rest)) (by omega) (endsBefore_operand _ _)
  have hes := hes fuel rest (by omega) hrest
  simp [operands?, he, hes]

theorem complete_lastArm (hcondition : Complete (.predicate condition) ts)
    (hresult : Complete (.predicate result) us) :
    Complete (.arms [(condition, result)]) (.keyword .when :: (ts ++ .keyword .result :: us)) := by
  simp only [Complete, Reads, Phrase.slack, List.length_append, List.length_cons] at *
  intro fuel rest hfuel hrest
  obtain ⟨fuel, rfl⟩ : ∃ n, fuel = n + 1 := ⟨fuel - 1, by omega⟩
  have hcondition := hcondition fuel (.keyword .result :: (us ++ rest)) (by omega)
    (endsBefore_cons rfl _)
  have hnext : (Phrase.predicate result).EndsBefore rest := by
    intro t ht
    have := hrest t ht
    simp only [Phrase.extendedBy] at this ⊢
    split at this <;> simp_all
  have hresult := hresult fuel rest (by omega) hnext
  have hnone : keyword? .when rest = none := keyword?_eq_none hrest rfl
  simp [arms?, hcondition, hresult, hnone]

theorem complete_arm (hbegins : (Phrase.arms arms).Begins vs)
    (hcondition : Complete (.predicate condition) ts)
    (hresult : Complete (.predicate result) us) (harms : Complete (.arms arms) vs) :
    Complete (.arms ((condition, result) :: arms))
      (.keyword .when :: (ts ++ .keyword .result :: (us ++ vs))) := by
  obtain ⟨ws, rfl⟩ := hbegins
  simp only [Complete, Reads, Phrase.slack, List.length_append, List.length_cons,
    List.cons_append] at *
  intro fuel rest hfuel hrest
  obtain ⟨fuel, rfl⟩ : ∃ n, fuel = n + 1 := ⟨fuel - 1, by omega⟩
  have hcondition := hcondition fuel (.keyword .result :: (us ++ .keyword .when :: (ws ++ rest)))
    (by omega) (endsBefore_cons rfl _)
  have hresult := hresult fuel (.keyword .when :: (ws ++ rest)) (by omega) (endsBefore_cons rfl _)
  have harms := harms fuel rest (by omega) hrest
  simp [arms?, hcondition, hresult, harms]

end Complete

theorem Derives.complete {p : Phrase} {ts : List Token} (h : Derives p ts) : Complete p ts := by
  induction h with
  | predicate hterm hlinks ih ih' =>
    exact complete_predicate hterm.begins hlinks.begins ih ih'
  | finish => exact complete_finish
  | link _ hlinks ih ih' => exact complete_link hlinks.begins ih ih'
  | alone he ih => exact complete_alone he.begins ih
  | compared hop _ _ ih ih' => exact complete_compared hop ih ih'
  | like _ _ ih ih' => exact complete_like ih ih'
  | unlike _ _ ih ih' => exact complete_unlike ih ih'
  | among _ _ ih ih' => exact complete_among ih ih'
  | column => exact complete_column _
  | literal => exact complete_literal _
  | choice _ _ ih ih' => exact complete_choice ih ih'
  | emptyCall => exact complete_emptyCall _
  | call hes ih => exact complete_call _ hes.begins ih
  | group _ ih => exact complete_group ih
  | last he ih => exact complete_last he.begins ih
  | more _ _ ih ih' => exact complete_more ih ih'
  | lastArm _ _ ih ih' => exact complete_lastArm ih ih'
  | arm _ _ harms ih ih' ih'' => exact complete_arm harms.begins ih ih' ih''

theorem read?_eq_some_iff {ts : List Token} {e : Expr} :
    read? ts = some e ↔ Derives (.predicate e) ts := by
  constructor
  · intro h
    unfold read? at h
    split at h
    · next e' hread =>
      obtain ⟨us, hus, hts⟩ := sound _ (.predicate e') ts [] hread
      simp only [Option.some.injEq] at h
      rw [hts, List.append_nil]
      exact h ▸ hus
    · exact absurd h (by simp)
  · intro h
    have hread := h.complete (3 * ts.length) [] (by simp [Phrase.slack])
      (by simp [Phrase.EndsBefore])
    simp only [Reads, List.append_nil] at hread
    simp [read?, hread]

/-- Tokens spell one predicate at most. -/
theorem Derives.unique {ts : List Token} {e e' : Expr} (h : Derives (.predicate e) ts)
    (h' : Derives (.predicate e') ts) : e = e' := by
  rw [← read?_eq_some_iff] at h h'
  exact Option.some.inj (h.symm.trans h')

end Grammar

end Vacancy.Sql
