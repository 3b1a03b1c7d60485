import Vacancy.Proofs.Batch
import Vacancy.Proofs.Grouping
import Vacancy.Proofs.Plan

/-!
The order in which a view shows rows, and the pages of it. No two rows of a table share a place in
the order, so there is but one way to put them in order.
-/

namespace Vacancy

open Sql

namespace Row

def cell (r : Row) (name : String) : Value :=
  (r.get? name).getD .null

def date? (r : Row) : Option String :=
  (r.cell dateColumn).toText?

def project (names : List String) (r : Row) : Row :=
  ⟨names.map fun name => (name, r.cell name)⟩

end Row

/-- Having no date comes before all dates. -/
def DateBefore : Option String → Option String → Prop
  | none, some _ => True
  | some s, some t => Text.before s.toList t.toList = true
  | _, none => False

instance : (s t : Option String) → Decidable (DateBefore s t)
  | none, some _ => .isTrue trivial
  | some s, some t => inferInstanceAs (Decidable (Text.before s.toList t.toList = true))
  | some _, none | none, none => .isFalse id

theorem DateBefore.trans {s t u : Option String} (hst : DateBefore s t) (htu : DateBefore t u) :
    DateBefore s u := by
  cases s <;> cases t <;> cases u <;> simp_all [DateBefore]
  exact Text.before_trans hst htu

theorem DateBefore.irrefl (s : Option String) : ¬DateBefore s s := by
  cases s <;> simp [DateBefore, Text.before_irrefl]

theorem Grain.affinity?_date (g : Grain) : g.schema.affinity? dateColumn = some .text := by
  cases g <;> rfl

namespace Table.Holds

variable {g : Grain} {r : Row}

theorem exists_cell (h : Holds g r) {name : String} {a : Affinity}
    (ha : g.schema.affinity? name = some a) : ∃ v, r.cell name = a.store v := by
  obtain ⟨f, rfl⟩ := h.cells
  exact ⟨f name, by rw [Row.cell, get?_kept ha, Option.getD_some]⟩

theorem cell_of_text (h : Holds g r) {name : String} (htext : g.schema.affinity? name = some .text) :
    r.cell name = .null ∨ ∃ s, r.cell name = .text s := by
  obtain ⟨v, hv⟩ := h.exists_cell htext
  rw [hv, Affinity.store]
  cases Value.bound v <;> simp [Value.toText]

theorem cell_date (h : Holds g r) : r.cell dateColumn = r.date?.elim .null .text := by
  rcases h.cell_of_text g.affinity?_date with hcell | ⟨s, hcell⟩
  · rw [Row.date?, hcell]
    rfl
  · rw [Row.date?, hcell]
    rfl

theorem cell_id (h : Holds g r) : r.cell idColumn = .integer (key r) := by
  rw [Row.cell, h.get?_id, Option.getD_some]

end Table.Holds

namespace View

variable {v : View}

/-- Rows stand in the order of their ids; in bars those of an earlier date come first. -/
def Before (v : View) (a b : Row) : Prop :=
  match v.style with
  | .bar => DateBefore a.date? b.date? ∨ a.date? = b.date? ∧ Table.key a < Table.key b
  | _ => Table.key a < Table.key b

theorem before_of_ne_bar (hstyle : v.style ≠ .bar) (a b : Row) :
    v.Before a b ↔ Table.key a < Table.key b := by
  unfold Before
  split
  · contradiction
  · rfl

theorem before_of_bar (hstyle : v.style = .bar) (a b : Row) :
    v.Before a b ↔
      DateBefore a.date? b.date? ∨ a.date? = b.date? ∧ Table.key a < Table.key b := by
  simp [Before, hstyle]

instance (v : View) (a b : Row) : Decidable (v.Before a b) :=
  if hstyle : v.style = .bar then decidable_of_iff _ (before_of_bar hstyle a b).symm
  else decidable_of_iff _ (before_of_ne_bar hstyle a b).symm

theorem Before.asymm {a b : Row} (hab : v.Before a b) : ¬v.Before b a := by
  by_cases hstyle : v.style = .bar
  · rw [before_of_bar hstyle] at hab ⊢
    rintro (hba | ⟨hdate, hba⟩)
    · rcases hab with hab | ⟨hdate, _⟩
      · exact DateBefore.irrefl _ (hab.trans hba)
      · exact DateBefore.irrefl _ (hdate ▸ hba)
    · rcases hab with hab | ⟨_, hab⟩
      · exact DateBefore.irrefl _ (hdate ▸ hab)
      · exact Int64.lt_asymm hab hba
  · rw [before_of_ne_bar hstyle] at hab ⊢
    exact Int64.lt_asymm hab

theorem eq_of_before {rows rows' : List Row} (h : rows.Pairwise v.Before)
    (h' : rows'.Pairwise v.Before) (hperm : rows.Perm rows') : rows = rows' := by
  apply List.Perm.eq_of_pairwise _ h h' hperm
  intro a b _ _ hab hba
  exact absurd hba hab.asymm

def sortKeys (v : View) (fs : Fields) (r : Row) : List SortKey :=
  v.chartOrder.map fun k => .ofValue (k.expr.eval fs (.single r))

theorem chartOrder_of_bar (hstyle : v.style = .bar) :
    v.chartOrder = [⟨.column dateColumn, .ascending⟩, idOrder] := by
  simp [chartOrder, hstyle]

theorem dateBefore_of_lt {s t : Option String}
    (h : SortKey.lt (.ofValue (s.elim .null .text)) (.ofValue (t.elim .null .text)) = true) :
    DateBefore s t := by
  cases s <;> cases t <;> simp_all [SortKey.ofValue, SortKey.lt, DateBefore]

theorem eq_of_ofValue_eq {s t : Option String}
    (h : SortKey.ofValue (s.elim .null .text) = SortKey.ofValue (t.elim .null .text)) : s = t := by
  cases s <;> cases t <;> simp_all [SortKey.ofValue]

theorem lt_of_inOrder_id {g : Grain} {a b : Row} (ha : Table.Holds g a) (hb : Table.Holds g b)
    (hne : Table.key a ≠ Table.key b)
    (h : inOrder [.ascending] [.ofValue (a.cell idColumn)] [.ofValue (b.cell idColumn)] = true) :
    Table.key a < Table.key b := by
  rw [inOrder_cons_iff, ha.cell_id, hb.cell_id] at h
  rcases h with h | ⟨h, _⟩
  · simpa [Direction.before, SortKey.lt_integer] using h
  · simp only [SortKey.ofValue, SortKey.number.injEq, scaledInt_inj, Int64.toInt_inj] at h
    exact absurd h hne

theorem before_of_inOrder {g : Grain} {fs : Fields} {a b : Row} (ha : Table.Holds g a)
    (hb : Table.Holds g b) (hne : Table.key a ≠ Table.key b)
    (h : inOrder (v.chartOrder.map (·.direction)) (v.sortKeys fs a) (v.sortKeys fs b) = true) :
    v.Before a b := by
  have heval : ∀ (r : Row) name, (Expr.column name).eval fs (.single r) = r.cell name := by
    intro r name
    simp [Expr.eval, Group.single, Row.cell]
  by_cases hstyle : v.style = .bar
  · rw [before_of_bar hstyle]
    simp only [sortKeys, chartOrder_of_bar hstyle, List.map_cons, List.map_nil, idOrder, heval]
      at h
    rw [inOrder_cons_iff, ha.cell_date, hb.cell_date] at h
    rcases h with h | ⟨hdate, h⟩
    · exact .inl (dateBefore_of_lt h)
    · exact .inr ⟨eq_of_ofValue_eq hdate, lt_of_inOrder_id ha hb hne h⟩
  · rw [before_of_ne_bar hstyle]
    simp only [sortKeys, chartOrder_of_ne_bar hstyle, List.map_cons, List.map_nil, idOrder, heval]
      at h
    exact lt_of_inOrder_id ha hb hne h

end View

/-! ### Pages -/

theorem Sql.map_page (limit offset : Option UInt64) (f : α → β) (as : List α) :
    (page limit offset as).map f = page limit offset (as.map f) := by
  unfold page
  cases limit with
  | none => simp
  | some n => simp [List.map_take, List.map_drop]

namespace Page

def cut (p : Page) (as : List α) : List α :=
  let rest := as.drop (p.offset.elim 0 (·.toNat))
  p.limit.elim rest fun n => rest.take n.toNat

theorem map_cut (p : Page) (f : α → β) (as : List α) : (p.cut as).map f = p.cut (as.map f) := by
  unfold cut
  cases p.limit with
  | none => simp
  | some n => simp [List.map_take, List.map_drop]

theorem page_eq_cut (p : Page) {as : List α} (h : as.length < 2 ^ 63) :
    page p.limit p.offset as = p.cut as := by
  -- a number that is cut down to the largest integer is past the end of the list all the same
  have hmax : Int64.maxValue.toInt.toNat = 2 ^ 63 - 1 := rfl
  have hdrop : as.drop (p.offset.elim 0 pageCount) = as.drop (p.offset.elim 0 (·.toNat)) := by
    cases p.offset with
    | none => rfl
    | some n =>
      simp only [Option.elim_some, pageCount, hmax]
      rcases Nat.le_total n.toNat (2 ^ 63 - 1) with hn | hn
      · rw [Nat.min_eq_left hn]
      · rw [Nat.min_eq_right hn, List.drop_of_length_le (by omega),
          List.drop_of_length_le (by omega)]
  unfold page cut
  rw [hdrop]
  cases p.limit with
  | none => rfl
  | some n =>
    simp only [Option.elim_some, pageCount, hmax]
    rcases Nat.le_total n.toNat (2 ^ 63 - 1) with hn | hn
    · rw [Nat.min_eq_left hn]
    · have hlength : (as.drop (p.offset.elim 0 (·.toNat))).length ≤ as.length := by
        rw [List.length_drop]
        exact Nat.sub_le _ _
      rw [Nat.min_eq_right hn, List.take_of_length_le (by omega),
        List.take_of_length_le (by omega)]

/-- The first `n` pages of one size. -/
def sheets (size : UInt64) (n : Nat) : List Page :=
  (List.range n).map fun i => ⟨some size, some (.ofNat (i * size.toNat))⟩

theorem sheets_succ (size : UInt64) (n : Nat) :
    sheets size (n + 1) = sheets size n ++ [⟨some size, some (.ofNat (n * size.toNat))⟩] := by
  simp [sheets, List.range_succ]

theorem flatMap_sheets (size : UInt64) {n : Nat} (hn : (n - 1) * size.toNat < 2 ^ 64)
    (as : List α) : (sheets size n).flatMap (·.cut as) = as.take (n * size.toNat) := by
  induction n with
  | zero => simp [sheets]
  | succ n ih =>
    have hoffset : n * size.toNat < 2 ^ 64 := hn
    have hbefore : (n - 1) * size.toNat < 2 ^ 64 :=
      Nat.lt_of_le_of_lt (Nat.mul_le_mul_right _ (Nat.sub_le n 1)) hoffset
    rw [sheets_succ, List.flatMap_append, ih hbefore]
    simp only [List.flatMap_cons, List.flatMap_nil, List.append_nil, cut, Option.elim_some,
      UInt64.toNat_ofNat_of_lt' hoffset]
    rw [Nat.succ_mul, List.take_add]

end Page

end Vacancy
