import Vacancy.Proofs.Scope

/-!
What statements are refused for. Each term of a condition makes its tree higher, so that a condition
of as many terms as the limit allows levels is too high. The rows of tables are no matter: databases
refuse the same statements.
-/

namespace Vacancy

open Sql

namespace Sql.Expr

theorem IsTerm.isNever_eq {names : List String} {e : Expr} (h : e.IsTerm names) :
    e.isNever = false := by
  cases h with
  | compared hop _ => exact isNever_compared hop _ _
  | like _ => rfl
  | range hop hop' _ => simp [isNever, Expr.and, isNever_compared hop, isNever_compared hop']
  | among _ => rfl

theorem IsChain.isNever_eq {names : List String} {c : Expr} (h : c.IsChain names) :
    c.isNever = false := by
  induction h with
  | term h => exact h.isNever_eq
  | join _ h ih => simp [Expr.and, isNever, ih, h.isNever_eq]

theorem IsTerm.height_bounds {names : List String} {e : Expr} (h : e.IsTerm names) :
    2 ≤ e.height ∧ e.height ≤ 3 := by
  cases h with
  | compared hop _ => simp [height_compared hop]
  | like _ =>
    simp only [height, text]
    split <;> simp
  | range hop hop' hname =>
    simp only [height]
    rw [height_and (IsTerm.compared hop hname).isNever_eq (IsTerm.compared hop' hname).isNever_eq,
      height_compared hop, height_compared hop']
    simp
  | among hname =>
    rename_i name l ls
    cases ls with
    | nil => simp [height, isConstant]
    | cons l' ls =>
      have := heightOfList_literals (l' :: ls)
      simp only [List.map_cons] at this
      simp only [List.map_cons, height, heightOfList] at this ⊢
      omega

theorem height_foldl_and {names : List String} {c : Expr} (hc : c.IsChain names)
    {es : List Expr} (hes : ∀ e ∈ es, e.IsTerm names) :
    es.length + c.height ≤ (es.foldl and c).height ∧
      (es.foldl and c).height ≤ es.length + max c.height 3 := by
  induction es generalizing c with
  | nil =>
    simp only [List.foldl_nil, List.length_nil]
    omega
  | cons e es ih =>
    have he := hes e List.mem_cons_self
    have hjoin := ih (.join hc he) fun e' he' => hes e' (List.mem_cons_of_mem _ he')
    have := height_and hc.isNever_eq he.isNever_eq
    have := he.height_bounds
    simp only [List.length_cons, List.foldl_cons]
    omega

theorem height_of_conjunction {names : List String} {es : List Expr} {c : Expr}
    (h : ∀ e ∈ es, e.IsTerm names) (hc : conjunction es = some c) :
    es.length < c.height ∧ c.height ≤ es.length + 2 := by
  cases es with
  | nil => simp [conjunction] at hc
  | cons e es =>
    simp only [conjunction, Option.some.injEq] at hc
    have he := h e List.mem_cons_self
    have := height_foldl_and (.term he) fun e' he' => h e' (List.mem_cons_of_mem _ he')
    have := he.height_bounds
    rw [← hc, List.length_cons]
    omega

end Sql.Expr

namespace Sql.Select

theorem sizeFault?_of_high {s : Select} {c : Expr} (hc : s.condition = some c)
    (hhigh : heightLimit < c.height) (calls : Nat) : (s.sizeFault? calls).isSome = true := by
  have : s.expressions.any (heightLimit < ·.height) = true := by
    rw [List.any_eq_true]
    refine ⟨c, ?_, decide_eq_true hhigh⟩
    simp [expressions, hc]
  simp only [sizeFault?, this, if_true]
  simp

end Sql.Select

namespace Sql.Query

theorem refusal?_of_sizeFault? {s : Select} (h : (s.regrouped.sizeFault? 0).isSome = true)
    (tables : String → Relation) : (refusal? ⟨s, []⟩ tables).isSome = true := by
  have hform : (formFault? ⟨s, []⟩).isSome = true := by
    simp only [formFault?, selects, List.map_nil, List.reverse_nil, List.nil_append, List.map_cons,
      sizeFaultOf?, Option.orElse_eq_orElse, Option.orElse_eq_or,
      Option.isSome_or, h, Bool.true_or, Bool.or_true]
  simp only [refusal?, Option.isSome_map, Option.orElse_eq_orElse, Option.orElse_eq_or,
    Option.isSome_or, hform, Bool.true_or]

end Sql.Query

namespace Database

theorem rows_of_refusal? {d : Database} {q : Query}
    (h : (q.refusal? d.relation).isSome = true) : ∃ e, d.rows q = .error (.sql e) := by
  obtain ⟨e, he⟩ := Option.isSome_iff_exists.1 h
  refine ⟨e, ?_⟩
  simp [rows, Query.run, he]

theorem rows_of_high (d : Database) {g : Grain} {run : Int64} {s : Select} (hs : s.Reads g run)
    {c : Expr} (hc : s.condition = some c) (hhigh : heightLimit < c.height) :
    ∃ e, d.rows ⟨s, []⟩ = .error (.sql e) := by
  apply rows_of_refusal?
  apply Query.refusal?_of_sizeFault?
  rw [hs.regrouped_eq]
  exact Select.sizeFault?_of_high hc hhigh 0

end Database

/-! ### The shape of tables -/

namespace Sql.Relation

def shape (rel : Relation) : Relation :=
  { rel with rows := [] }

end Sql.Relation

namespace Sql.Query

theorem shape_elim (tables : String → Relation) (source : Option String) :
    (source.elim { fields := [], rows := [] } tables).shape =
      source.elim { fields := [], rows := [] } fun n => (tables n).shape := by
  cases source with
  | none => rfl
  | some name => rfl

def Passed.shape (p : Passed) : Passed :=
  { p with tables := fun n => (p.tables n).shape }

theorem meaningFaultAfter?_shape (p : Passed) (s : Select) :
    (meaningFaultAfter? p s).map Passed.shape = meaningFaultAfter? p.shape s := by
  have hsame :
      s.meaningFault? (s.source.elim { fields := [], rows := [] } p.tables) p.calls p.truths =
        s.meaningFault? (s.source.elim { fields := [], rows := [] } p.shape.tables) p.shape.calls
          p.shape.truths := by
    -- the check reads no row of the table, so its shape answers as well
    have : ∀ rel,
        s.meaningFault? rel p.calls p.truths = s.meaningFault? rel.shape p.calls p.truths :=
      fun _ => rfl
    rw [this, shape_elim]
    rfl
  simp only [meaningFaultAfter?, hsame]
  split
  · rfl
  · rfl

def Passed.naming (p : Passed) (name : String) (fields : Fields) : Passed :=
  { p with tables := fun n => if n = name then { fields, rows := [] } else p.tables n }

theorem Passed.shape_naming (p : Passed) (name : String) (fields : Fields) :
    (p.naming name fields).shape = p.shape.naming name fields := by
  simp only [shape, naming, Passed.mk.injEq, and_true]
  funext n
  split
  · rfl
  · rfl

theorem meaningFaultWith?_cons (tables : String → Relation) (s : Select) (name : String)
    (inner : Select) (common : List (String × Select)) :
    meaningFaultWith? tables s ((name, inner) :: common) =
      (meaningFaultWith? tables inner common).bind fun p =>
        (meaningFaultAfter? (p.naming name
          (inner.fields (inner.source.elim { fields := [], rows := [] } p.tables))) s).bind fun q =>
            match joinedFault? s inner with
            | some f => .error f
            | none => .ok q :=
  rfl

theorem meaningFaultWith?_shape (tables : String → Relation) (s : Select)
    (common : List (String × Select)) :
    (meaningFaultWith? tables s common).map Passed.shape =
      meaningFaultWith? (fun n => (tables n).shape) s common := by
  induction common generalizing s with
  | nil => exact meaningFaultAfter?_shape { tables } s
  | cons c common ih =>
    obtain ⟨name, inner⟩ := c
    rw [meaningFaultWith?_cons, meaningFaultWith?_cons, ← ih]
    cases meaningFaultWith? tables inner common with
    | error f => rfl
    | ok p =>
      have hfields : inner.fields (inner.source.elim { fields := [], rows := [] } p.tables) =
          inner.fields (inner.source.elim { fields := [], rows := [] } p.shape.tables) := by
        have : ∀ rel, inner.fields rel = inner.fields rel.shape := fun _ => rfl
        rw [this, shape_elim]
        rfl
      simp only [Except.map, Except.bind]
      rw [← hfields, ← Passed.shape_naming, ← meaningFaultAfter?_shape]
      cases meaningFaultAfter? _ s with
      | error f => rfl
      | ok q =>
        simp only [Except.map]
        cases joinedFault? s inner with
        | some f => rfl
        | none => rfl

theorem refusal?_shape (q : Query) (tables : String → Relation) :
    q.refusal? tables = q.refusal? fun n => (tables n).shape := by
  have : q.meaningFault? tables = q.meaningFault? fun n => (tables n).shape := by
    simp only [meaningFault?]
    rw [← meaningFaultWith?_shape]
    cases meaningFaultWith? tables q.select.regrouped _ with
    | error f => rfl
    | ok p => rfl
  simp only [refusal?, this]

end Sql.Query

namespace Database

theorem shape_relation (d : Database) (name : String) :
    (d.relation name).shape = (({} : Database).relation name).shape := by
  unfold relation
  split
  · rfl
  · split
    · rfl
    · rfl

theorem refusal?_eq (q : Query) (d e : Database) :
    q.refusal? d.relation = q.refusal? e.relation := by
  rw [q.refusal?_shape d.relation, q.refusal?_shape e.relation]
  simp only [shape_relation]

end Database

end Vacancy
