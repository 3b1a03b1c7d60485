import Vacancy.Proofs.Admission
import Vacancy.Proofs.Isolation

/-!
Operations that are each other's opposites. Of two filters that differ in such operations only, one
admits the rows that the other leaves out, as long as there is a value to compare and a pattern that
is not too long.
-/

namespace Vacancy

open Sql

/-- Operations of which one is true of a value if and only if the other is not. -/
inductive Operation.Opposite : Operation → Operation → Prop where
  | eq : Opposite .eq .notEq
  | lt : Opposite .lt .gte
  | gt : Opposite .gt .lte
  | contains : Opposite .contains .notContains

def Comparison.Opposes (k k' : Comparison) : Prop :=
  ∀ a b : SortKey, k'.operator.holds a b = !k.operator.holds a b

theorem Operation.Opposite.comparison_or_contains {o o' : Operation} (h : o.Opposite o') :
    (∃ k k' : Comparison, o = k.operation ∧ o' = k'.operation ∧ k.Opposes k') ∨
      o = .contains ∧ o' = .notContains := by
  cases h with
  | eq => exact .inl ⟨.eq, .ne, rfl, rfl, fun _ _ => rfl⟩
  | lt => exact .inl ⟨.lt, .gte, rfl, rfl, fun _ _ => rfl⟩
  | gt => exact .inl ⟨.gt, .lte, rfl, rfl, fun _ _ => rfl⟩
  | contains => exact .inr ⟨rfl, rfl⟩

namespace Sql

theorem exists_like_eq {v : Value} (hv : v ≠ .null) (s : String) :
    ∃ b, Sql.like v (.text s) = some b := by
  cases v with
  | null => contradiction
  | _ => exact ⟨_, rfl⟩

theorem Operator.ofValue_eq_of_compare {c : Conversion} {v w : Value}
    (h : Operator.eq.compare c v w = some true) :
    SortKey.ofValue (c.apply v w).1 = .ofValue (c.apply v w).2 := by
  unfold Operator.compare at h
  dsimp only at h
  split at h
  · contradiction
  · simpa [Operator.holds] using h

/-- An equality does not hold of both truth values, whatever the column makes of them. -/
theorem not_compare_eq_both (c : Conversion) (v : Value) :
    ¬(Operator.eq.compare c v (.integer 1) = some true ∧
      Operator.eq.compare c v (.integer 0) = some true) := by
  have hsame : (c.apply v (.integer 1)).1 = (c.apply v (.integer 0)).1 := by
    cases c with
    | text => cases v <;> rfl
    | _ => rfl
  have hnumbers : SortKey.ofValue (.integer 1) ≠ .ofValue (.integer 0) := by
    simp [SortKey.ofValue, scaledInt_inj]
  have htexts : SortKey.ofValue (Value.toText (.integer 1)) ≠
      .ofValue (Value.toText (.integer 0)) := by
    decide
  have hne : SortKey.ofValue (c.apply v (.integer 1)).2 ≠
      .ofValue (c.apply v (.integer 0)).2 := by
    cases c with
    | text =>
      cases v with
      | text s => exact htexts
      | _ => exact hnumbers
    | _ => exact hnumbers
  rintro ⟨hone, hzero⟩
  apply hne
  rw [← Operator.ofValue_eq_of_compare hone, hsame, Operator.ofValue_eq_of_compare hzero]

end Sql

/-! ### Predicates -/

namespace Predicate

inductive Opposite : Predicate → Predicate → Prop where
  | compare {name : String} {k k' : Comparison} {l : Literal} (h : k.Opposes k')
      (hl : l.isParameter = true) : Opposite (.compare name k l) (.compare name k' l)
  | like {name pattern : String} : Opposite (.like name pattern false) (.like name pattern true)

variable {p q : Predicate} {fs : Fields} {r : Row}

theorem not_isMet_of_null (h : p.Opposite q) (hnull : r.cell p.column = .null) :
    ¬p.toExpr.IsMet fs r ∧ ¬q.toExpr.IsMet fs r := by
  cases h with
  | compare =>
    rw [column] at hnull
    simp [toExpr, Expr.isMet_compared, hnull, Operator.compare_null_left]
  | like =>
    rw [column] at hnull
    simp [toExpr, Expr.isMet_like, hnull, like_null]

theorem not_isMet_of_long (h : p.Opposite q) (hlong : p.toExpr.hasLongPattern = true) :
    ¬p.toExpr.IsMet fs r ∧ ¬q.toExpr.IsMet fs r := by
  cases h with
  | compare => contradiction
  | like =>
    have hlimit := Nat.not_le.2 (of_decide_eq_true hlong)
    simp only [toExpr, Expr.isMet_like]
    exact ⟨fun h => hlimit h.1, fun h => hlimit h.1⟩

theorem isMet_iff_not (h : p.Opposite q) (hshort : p.toExpr.hasLongPattern = false)
    (hcell : r.cell p.column ≠ .null) : q.toExpr.IsMet fs r ↔ ¬p.toExpr.IsMet fs r := by
  cases h with
  | @compare name k k' l h hl =>
    rw [column] at hcell
    obtain ⟨a, b, hcompare⟩ :=
      Operator.exists_compare_eq (Expr.conversion fs name) hcell (Literal.toValue_ne_null hl)
    simp only [toExpr, Expr.isMet_compared, hcompare, h a b]
    simp
  | @like name pattern =>
    have hlimit := Nat.not_lt.1 (of_decide_eq_false hshort)
    obtain ⟨b, hb⟩ := exists_like_eq hcell pattern
    rw [column] at hb
    simp only [toExpr, Expr.isMet_like, hb]
    cases b <;> simp [hlimit]

end Predicate

/-! ### Operands -/

namespace OperandType

variable {t : OperandType} {operand : Option Value}

theorem Takes.isParameter {v : Value} {l : Literal} (h : t.Takes v l)
    (hfinite : ∀ x, v = .real x → x.isFinite = true) : l.isParameter = true := by
  cases h with
  | text => rfl
  | integer => rfl
  | real _ x => exact hfinite x rfl
  | spelledInteger => rfl
  | spelledReal _ _ hx =>
    rw [Decimal.readFinite?, Option.filter_eq_some_iff] at hx
    exact hx.2

theorem isBound_of_read {l : Literal} (h : t.read operand = .ok l)
    (hfinite : ∀ x, operand = some (.real x) → x.isFinite = true) : t.isBound operand = true := by
  rcases t.read_cases operand with hmissing | ⟨v, m, rfl, hm⟩ | ⟨ht, s, rfl, hs⟩
  · rw [read_of_isMissing hmissing] at h
    contradiction
  · have hparameter := hm.isParameter fun x hx => hfinite x (congrArg some hx)
    simpa [isBound, literal?, read_of_takes hm, Except.toOption] using hparameter
  · rw [read_of_isNoNumber ht hs] at h
    contradiction

theorem eq_text_of_contains (h : Operation.contains ∈ t.operations) : t = .text := by
  cases t with
  | text => rfl
  | _ => simp [operations] at h

theorem isParameter_of_isBound {l : Literal} (h : t.isBound operand = true)
    (hl : t.read operand = .ok l) : l.isParameter = true := by
  simpa [isBound, literal?, hl, Except.toOption] using h

end OperandType

/-! ### Conditions -/

namespace Condition

variable {c c' : Condition} {g : Grain} {name : String} {x : Option Column}

/-- Conditions that differ in their operations only, which are opposites. -/
structure Opposes (c c' : Condition) : Prop where
  operation : c.operation.Opposite c'.operation
  rest : c' = { c with operation := c'.operation }

def IsFinite (c : Condition) : Prop :=
  ∀ x, c.value = some (.real x) → x.isFinite = true

/-- The pattern of the condition, its operand between two percent signs, is longer than allowed. -/
def IsOverlong (c : Condition) : Prop :=
  (c.operation = .contains ∨ c.operation = .notContains) ∧
    ∃ v s, c.value = some v ∧ v.toText? = some s ∧ Pattern.sizeLimit < s.utf8ByteSize + 2

theorem Opposes.rescaled (h : c.Opposes c') (x : Option Column) :
    (c.rescaled x).Opposes (c'.rescaled x) := by
  constructor
  · rw [operation_rescaled, operation_rescaled]
    exact h.operation
  · rw [operation_rescaled, h.rest]
    unfold Condition.rescaled
    split <;> rfl

theorem mem_operations_of_isOk (h : (c.compile name).isOk = true) :
    c.operation ∈ c.type.operations := by
  by_contra hillegal
  rw [compile_of_illegal hillegal] at h
  contradiction

theorem exists_read_of_isOk {k : Comparison} (hk : c.operation = k.operation)
    (h : (c.compile name).isOk = true) :
    ∃ l, c.type.read c.value = .ok l ∧ c.compile name = .ok (.compare name k l) := by
  have hlegal := mem_operations_of_isOk h
  rw [compile_of_comparison hlegal hk] at h ⊢
  cases hl : c.type.read c.value with
  | error r =>
    rw [hl] at h
    contradiction
  | ok l => exact ⟨l, rfl, rfl⟩

theorem isBound_rescaled (h : c.type.isBound c.value = true) :
    (c.rescaled x).type.isBound (c.rescaled x).value = true := by
  rw [type_rescaled]
  unfold rescaled
  split
  · next hpercent =>
    have ht := OperandType.isNumeric_of_isFloat (Bool.and_eq_true_iff.1 hpercent).2
    exact OperandType.isBound_mapNumber ht h
  · exact h

theorem exists_opposite_compare {k k' : Comparison} (hk : c.operation = k.operation)
    (hk' : c'.operation = k'.operation) (hopposes : k.Opposes k')
    (hrest : c' = { c with operation := c'.operation }) (hc : (c.compile name).isOk = true)
    (hc' : (c'.compile name).isOk = true) (hbound : c.type.isBound c.value = true) :
    ∃ l, c.compile name = .ok (.compare name k l) ∧ c'.compile name = .ok (.compare name k' l) ∧
      Predicate.Opposite (.compare name k l) (.compare name k' l) := by
  obtain ⟨l, hl, hcompile⟩ := exists_read_of_isOk hk hc
  obtain ⟨l', hl', hcompile'⟩ := exists_read_of_isOk hk' hc'
  rw [hrest] at hl'
  obtain rfl := Except.ok.inj (hl.symm.trans hl')
  exact ⟨l, hcompile, hcompile', .compare hopposes (OperandType.isParameter_of_isBound hbound hl)⟩

theorem exists_opposite_like (ho : c.operation = .contains) (ho' : c'.operation = .notContains)
    (hrest : c' = { c with operation := c'.operation }) (hc : (c.compile name).isOk = true) :
    c.type = .text ∧ ∃ v s, c.value = some v ∧ v.toText? = some s ∧
      c.compile name = .ok (.like name ("%" ++ s ++ "%") false) ∧
      c'.compile name = .ok (.like name ("%" ++ s ++ "%") true) := by
  have ht : c.type = .text := by
    apply OperandType.eq_text_of_contains
    rw [← ho]
    exact mem_operations_of_isOk hc
  have ht' : c'.type = .text := by rw [hrest]; exact ht
  have hvalue' : c'.value = c.value := by rw [hrest]
  rw [compile_of_contains ht ho] at hc
  cases hs : c.value.bind Value.toText? with
  | none =>
    rw [compileContains, hs] at hc
    contradiction
  | some s =>
    obtain ⟨v, hvalue, hs⟩ := Option.bind_eq_some_iff.1 hs
    refine ⟨ht, v, s, hvalue, hs, ?_, ?_⟩
    · rw [compile_of_contains ht ho, compileContains_of_toText? hvalue hs]
    · rw [compile_of_notContains ht' ho', compileContains_of_toText? (hvalue'.trans hvalue) hs]

theorem hasLongPattern_like (name s : String) :
    (Predicate.like name ("%" ++ s ++ "%") false).toExpr.hasLongPattern =
      decide (Pattern.sizeLimit < s.utf8ByteSize + 2) := by
  rw [← Pattern.utf8ByteSize_between]
  rfl

theorem exists_opposite_predicates (hcolumn : c.column = some name) (hname : g.has name = true)
    (h : c.Opposes c') (hc : (c.compile name).isOk = true) (hc' : (c'.compile name).isOk = true)
    (hfinite : c.IsFinite) :
    ∃ p q, c.filterPredicate g = .ok p ∧ c'.filterPredicate g = .ok q ∧ p.Opposite q ∧
      p.column = name ∧ (p.toExpr.hasLongPattern = true ↔ c.IsOverlong) := by
  have hcolumn' : c'.column = some name := by rw [h.rest]; exact hcolumn
  rw [filterPredicate_of_has hcolumn hname, filterPredicate_of_has hcolumn' hname]
  rcases h.operation.comparison_or_contains with ⟨k, k', hk, hk', hopposes⟩ | ⟨ho, ho'⟩
  · obtain ⟨l, hl, _⟩ := exists_read_of_isOk hk hc
    have hbound := isBound_rescaled (x := g.column? name)
      (OperandType.isBound_of_read hl hfinite)
    rw [← c.isOk_compile_rescaled (g.column? name)] at hc
    rw [← c'.isOk_compile_rescaled (g.column? name)] at hc'
    have hrescaled := h.rescaled (g.column? name)
    obtain ⟨m, hp, hq, hopposite⟩ := exists_opposite_compare
      ((operation_rescaled c _).trans hk) ((operation_rescaled c' _).trans hk') hopposes
      hrescaled.rest hc hc' hbound
    refine ⟨_, _, hp, hq, hopposite, rfl, nofun, ?_⟩
    rintro ⟨ho | ho, _⟩
    · rw [hk] at ho
      cases k <;> contradiction
    · rw [hk] at ho
      cases k <;> contradiction
  · obtain ⟨ht, v, s, hvalue, hs, hp, hq⟩ := exists_opposite_like ho ho' h.rest hc
    have hfloat : c.type.isFloat = false := by rw [ht]; rfl
    have hfloat' : c'.type.isFloat = false := by rw [h.rest]; exact hfloat
    rw [rescaled_of_not_isFloat hfloat, rescaled_of_not_isFloat hfloat']
    refine ⟨_, _, hp, hq, .like, rfl, ?_⟩
    rw [hasLongPattern_like, decide_eq_true_iff]
    constructor
    · exact fun hlong => ⟨.inl ho, v, s, hvalue, hs, hlong⟩
    · rintro ⟨_, v', s', hvalue', hs', hlong⟩
      obtain rfl := Option.some.inj (hvalue.symm.trans hvalue')
      obtain rfl := Option.some.inj (hs.symm.trans hs')
      exact hlong

theorem not_admits_of_opposes (hcolumn : c.column = some name) (hname : g.has name = true)
    (h : c.Opposes c') (hc : (c.compile name).isOk = true) (hc' : (c'.compile name).isOk = true)
    (hfinite : c.IsFinite) {r : Row} (hr : r.cell name = .null ∨ c.IsOverlong) :
    ¬c.Admits g r ∧ ¬c'.Admits g r := by
  obtain ⟨p, q, hp, hq, hopposite, rfl, hlong⟩ :=
    exists_opposite_predicates hcolumn hname h hc hc' hfinite
  rw [admits_iff_isMet hp, admits_iff_isMet hq]
  rcases hr with hnull | hoverlong
  · exact Predicate.not_isMet_of_null hopposite hnull
  · exact Predicate.not_isMet_of_long hopposite (hlong.2 hoverlong)

theorem admits_iff_not_of_opposes (hcolumn : c.column = some name) (hname : g.has name = true)
    (h : c.Opposes c') (hc : (c.compile name).isOk = true) (hc' : (c'.compile name).isOk = true)
    (hfinite : c.IsFinite) {r : Row} (hcell : r.cell name ≠ .null) (hshort : ¬c.IsOverlong) :
    c'.Admits g r ↔ ¬c.Admits g r := by
  obtain ⟨p, q, hp, hq, hopposite, rfl, hlong⟩ :=
    exists_opposite_predicates hcolumn hname h hc hc' hfinite
  rw [admits_iff_isMet hp, admits_iff_isMet hq]
  apply Predicate.isMet_iff_not hopposite _ hcell
  rw [← Bool.not_eq_true, hlong]
  exact hshort

/-! ### Truth values -/

theorem eq_of_demands_boolean {p : Predicate} {b : Bool} (h : c.Demands name p)
    (ho : c.operation = if b then .isTrue else .isFalse) :
    p = .compare name .eq (.integer (if b then 1 else 0)) := by
  cases h with
  | @compare k _ _ _ hk =>
    rw [hk] at ho
    cases k <;> cases b <;> contradiction
  | contains _ hk | notContains _ hk | range _ hk =>
    rw [hk] at ho
    cases b <;> contradiction
  | isTrue _ hk =>
    rw [hk] at ho
    cases b with
    | true => rfl
    | false => contradiction
  | isFalse _ hk =>
    rw [hk] at ho
    cases b with
    | true => contradiction
    | false => rfl

theorem Admits.compare_boolean {r : Row} {b : Bool} (h : c.Admits g r)
    (hcolumn : c.column = some name) (hname : g.has name = true)
    (ho : c.operation = if b then .isTrue else .isFalse) :
    Operator.eq.compare (Expr.conversion g.schema name) (r.cell name)
      (.integer (if b then 1 else 0)) = some true := by
  obtain ⟨p, hp, hmet⟩ := h.exists_predicate
  rw [filterPredicate_of_has hcolumn hname, compile_eq_ok_iff] at hp
  rw [← operation_rescaled c (g.column? name)] at ho
  obtain rfl := eq_of_demands_boolean hp ho
  exact Expr.isMet_compared.1 hmet

/--
Of two filters with opposite operations exactly one admits a row with a value in the column, and
none admits one without. None admits any row, either, if their pattern is too long.
-/
theorem opposites_split {g : Grain} {name : String} (hname : g.has name = true) :
    (∀ c c' : Condition, c.column = some name → c.Opposes c' → (c.compile name).isOk = true →
      (c'.compile name).isOk = true → c.IsFinite → ∀ r : Row,
      (r.cell name ≠ .null → ¬c.IsOverlong → (c'.Admits g r ↔ ¬c.Admits g r)) ∧
      (r.cell name = .null ∨ c.IsOverlong → ¬c.Admits g r ∧ ¬c'.Admits g r)) ∧
    ∀ c c' : Condition, c.column = some name → c'.column = some name → c.operation = .isTrue →
      c'.operation = .isFalse → ∀ r : Row, ¬(c.Admits g r ∧ c'.Admits g r) := by
  constructor
  · intro c c' hcolumn h hc hc' hfinite r
    constructor
    · exact admits_iff_not_of_opposes hcolumn hname h hc hc' hfinite
    · exact not_admits_of_opposes hcolumn hname h hc hc' hfinite
  · rintro c c' hcolumn hcolumn' ho ho' r ⟨hadmits, hadmits'⟩
    have hone := hadmits.compare_boolean (b := true) hcolumn hname ho
    have hzero := hadmits'.compare_boolean (b := false) hcolumn' hname ho'
    exact not_compare_eq_both _ _ ⟨hone, hzero⟩

end Condition

def ratedRow : Row :=
  Table.kept .building (Table.valueFor ⟨[(runColumn, .integer 1), (areaColumn, .text "North"),
    ("predicted_probability", .real 0.5)]⟩ 1)

theorem holds_ratedRow : Table.Holds .building ratedRow :=
  Table.holds_kept rfl

namespace Condition

def probability (o : Operation) : Condition :=
  (compare .float o (.text " 50 ")).on "predicted_probability"

theorem opposites_split_half :
    Grain.building.has "predicted_probability" = true ∧
      (probability .lt).Opposes (probability .gte) ∧ (probability .lt).IsFinite ∧
      (probability .gte).Admits .building ratedRow ∧
        ¬(probability .lt).Admits .building ratedRow := by
  have hopposes : (probability .lt).Opposes (probability .gte) := ⟨.lt, rfl⟩
  have hfinite : (probability .lt).IsFinite := nofun
  have hnot : ¬(probability .lt).Admits .building ratedRow := by
    rintro ⟨e, he, hmet⟩
    cases he
    have := hmet.admits
    revert this
    decide +kernel
  have hname : Grain.building.has "predicted_probability" = true := rfl
  obtain ⟨hsplit, _⟩ := opposites_split hname
  obtain ⟨hiff, _⟩ := hsplit _ _ rfl hopposes rfl rfl hfinite ratedRow
  have hcell : ratedRow.cell "predicted_probability" ≠ .null := by
    rw [ne_eq, ← Value.isNull_iff]
    decide +kernel
  have hshort : ¬(probability .lt).IsOverlong := by
    rintro ⟨ho | ho, _⟩ <;> contradiction
  exact ⟨rfl, hopposes, hfinite, (hiff hcell hshort).2 hnot, hnot⟩

def lettered (o : Operation) (n : Nat) : Condition :=
  (compare .text o (.text (Database.letters n))).on areaColumn

/-- A pattern that is too long is refused on every row, whether it is to be met or not. -/
theorem not_admits_lettered :
    let c := lettered .contains 49999
    let c' := lettered .notContains 49999
    Grain.building.has areaColumn = true ∧ c.column = some areaColumn ∧ c.Opposes c' ∧
      (c.compile areaColumn).isOk = true ∧ (c'.compile areaColumn).isOk = true ∧ c.IsFinite ∧
      ∃ t : Table .building, ∃ r ∈ t.rows, r.cell areaColumn ≠ .null ∧
        ¬(c'.Admits .building r ↔ ¬c.Admits .building r) := by
  have hopposes : (lettered .contains 49999).Opposes (lettered .notContains 49999) :=
    ⟨.contains, rfl⟩
  have hfinite : (lettered .contains 49999).IsFinite := nofun
  have hlong : (lettered .contains 49999).IsOverlong := by
    refine ⟨.inl rfl, _, _, rfl, rfl, ?_⟩
    rw [Database.utf8ByteSize_letters]
    decide
  refine ⟨rfl, rfl, hopposes, rfl, rfl, hfinite, Table.empty.add ratedRow holds_ratedRow, ratedRow,
    ?_, ?_, ?_⟩
  · simp [Table.add]
  · rw [ne_eq, ← Value.isNull_iff]
    decide +kernel
  · obtain ⟨hnot, hnot'⟩ := not_admits_of_opposes (g := .building) (r := ratedRow) rfl rfl hopposes
      rfl rfl hfinite (.inr hlong)
    exact fun hiff => hnot' (hiff.2 hnot)

end Condition

end Vacancy
