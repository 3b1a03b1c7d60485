import Vacancy.Proofs.Admission
import Vacancy.Proofs.Batch
import Vacancy.Proofs.Numeral
import Vacancy.Proofs.RowOrder

/-!
Years as bounds on dates. Dates are compared as texts; where all years are written with the same
number of digits, that is the order of the calendar, so a range of years admits the dates in it.
-/

namespace Vacancy

open Sql

section Rel

variable {R : α → β → Prop} {a? : Option α} {b? : Option β}

theorem forall_mem_congr_of_rel (h : Option.Rel R a? b?) {p : α → Prop} {q : β → Prop}
    (hpq : ∀ a b, R a b → (p a ↔ q b)) : (∀ a ∈ a?, p a) ↔ ∀ b ∈ b?, q b := by
  cases h with
  | none => simp
  | some hab => simp [hpq _ _ hab]

theorem eq_none_congr_of_rel (h : Option.Rel R a? b?) : a? = none ↔ b? = none := by
  cases h <;> simp

end Rel

namespace Text

theorem before_append_iff {cs ds cs' ds' : List Char} (h : cs.length = ds.length) :
    before (cs ++ cs') (ds ++ ds') = true ↔
      before cs ds = true ∨ cs = ds ∧ before cs' ds' = true := by
  induction cs generalizing ds with
  | nil =>
    obtain rfl := List.eq_nil_of_length_eq_zero h.symm
    simp [before_irrefl]
  | cons c cs ih =>
    cases ds with
    | nil => contradiction
    | cons d ds =>
      have ih := ih (Nat.succ.inj h)
      simp only [List.cons_append, before, Bool.or_eq_true, decide_eq_true_eq, Bool.and_eq_true,
        beq_iff_eq, List.cons.injEq, ih]
      tauto

theorem trimStart_append {before cs : List Char} (h : ∀ c ∈ before, isBlank c = true) :
    trimStart (before ++ cs) = trimStart cs :=
  List.dropWhile_append_of_pos h

theorem trimStart_of_forall {cs : List Char} (h : ∀ c ∈ cs, isBlank c = false) :
    trimStart cs = cs := by
  cases cs with
  | nil => rfl
  | cons c cs => exact trimStart_of_head (h c List.mem_cons_self)

theorem trimEnd_append {cs after : List Char} (hcs : ∀ c ∈ cs, isBlank c = false)
    (hafter : ∀ c ∈ after, isBlank c = true) : trimEnd (cs ++ after) = cs := by
  have hends : trimEnd (cs ++ after) = (trimStart (after.reverse ++ cs.reverse)).reverse := by
    rw [← List.reverse_append]
    rfl
  rw [hends, trimStart_append fun c hc => hafter c (List.mem_reverse.1 hc),
    trimStart_of_forall fun c hc => hcs c (List.mem_reverse.1 hc), List.reverse_reverse]

theorem trim_of_padded {s : String} {before cs after : List Char}
    (hs : s.toList = before ++ (cs ++ after)) (hbefore : ∀ c ∈ before, isBlank c = true)
    (hcs : ∀ c ∈ cs, isBlank c = false) (hafter : ∀ c ∈ after, isBlank c = true) :
    trim s = String.ofList cs := by
  rw [trim, hs, trimStart_append hbefore]
  congr 1
  cases cs with
  | nil =>
    rw [List.nil_append, trimStart, List.dropWhile_eq_nil_iff.2 hafter]
    rfl
  | cons c cs =>
    rw [List.cons_append, trimStart_of_head (hcs c List.mem_cons_self), ← List.cons_append,
      trimEnd_append hcs hafter]

end Text

namespace Decimal

/-! ### Numbers with a fixed number of digits -/

theorem natOfDigits_cons (c : Char) (cs : List Char) :
    natOfDigits (c :: cs) = 10 ^ cs.length * (c.toNat - '0'.toNat) + natOfDigits cs := by
  have hstart : natOfDigits (c :: cs) = Nat.ofDigitChars 10 cs (10 * 0 + (c.toNat - '0'.toNat)) :=
    rfl
  rw [hstart, Nat.ofDigitChars_eq_ofDigitChars_zero, Nat.mul_zero, Nat.zero_add]
  rfl

theorem digit_bounds {c : Char} (h : c.isDigit = true) :
    '0'.toNat ≤ c.toNat ∧ c.toNat - '0'.toNat < 10 := by
  simp only [Char.isDigit, Bool.and_eq_true, decide_eq_true_eq, ge_iff_le,
    UInt32.le_iff_toNat_le] at h
  exact ⟨h.1, Nat.lt_succ_of_le (Nat.sub_le_sub_right h.2 _)⟩

theorem not_isBlank_of_isDigit {c : Char} (h : c.isDigit = true) : Text.isBlank c = false := by
  obtain ⟨hlow, hhigh⟩ := digit_bounds h
  have hzero : '0'.toNat = 48 := rfl
  simp only [Text.isBlank, Bool.or_eq_false_iff, Bool.and_eq_false_iff, decide_eq_false_iff_not,
    beq_eq_false_iff_ne, ne_eq]
  omega

theorem natOfDigits_lt {cs : List Char} (h : IsDigits cs) : natOfDigits cs < 10 ^ cs.length := by
  induction cs with
  | nil => decide
  | cons c cs ih =>
    obtain ⟨hc, hcs⟩ := IsDigits.cons_iff.1 h
    have := ih hcs
    calc
      natOfDigits (c :: cs) < 10 ^ cs.length * (c.toNat - '0'.toNat) + 10 ^ cs.length := by
        rw [natOfDigits_cons]
        omega
      _ = 10 ^ cs.length * (c.toNat - '0'.toNat + 1) := rfl
      _ ≤ 10 ^ cs.length * 10 := Nat.mul_le_mul_left _ (digit_bounds hc).2
      _ = 10 ^ (c :: cs).length := rfl

theorem mul_add_lt_mul_add_iff {p a b x y : Nat} (hx : x < p) (hy : y < p) :
    p * a + x < p * b + y ↔ a < b ∨ a = b ∧ x < y := by
  rcases Nat.lt_trichotomy a b with hab | rfl | hab
  · have := Nat.mul_le_mul_left p hab
    rw [Nat.mul_succ] at this
    omega
  · simp
  · have := Nat.mul_le_mul_left p hab
    rw [Nat.mul_succ] at this
    omega

theorem before_iff_natOfDigits_lt {cs ds : List Char} (hcs : IsDigits cs) (hds : IsDigits ds)
    (hlength : cs.length = ds.length) :
    Text.before cs ds = true ↔ natOfDigits cs < natOfDigits ds := by
  induction cs generalizing ds with
  | nil =>
    obtain rfl := List.eq_nil_of_length_eq_zero hlength.symm
    simp [Text.before]
  | cons c cs ih =>
    cases ds with
    | nil => contradiction
    | cons d ds =>
      have hlength := Nat.succ.inj hlength
      obtain ⟨hc, hcs⟩ := IsDigits.cons_iff.1 hcs
      obtain ⟨hd, hds⟩ := IsDigits.cons_iff.1 hds
      have hcsize := natOfDigits_lt hcs
      rw [hlength] at hcsize
      obtain ⟨hczero, _⟩ := digit_bounds hc
      obtain ⟨hdzero, _⟩ := digit_bounds hd
      have hlt : c.toNat < d.toNat ↔ c.toNat - '0'.toNat < d.toNat - '0'.toNat := by
        omega
      have heq : c = d ↔ c.toNat - '0'.toNat = d.toNat - '0'.toNat := by
        rw [← Char.toNat_inj]
        omega
      rw [natOfDigits_cons, natOfDigits_cons, hlength,
        mul_add_lt_mul_add_iff hcsize (natOfDigits_lt hds), ← ih hcs hds hlength, ← hlt, ← heq]
      simp only [Text.before, Bool.or_eq_true, decide_eq_true_eq, Bool.and_eq_true, beq_iff_eq]

/-- The digits of a number, so many of them. -/
structure Writes (n : Nat) (cs : List Char) (x : Nat) : Prop where
  digits : IsDigits cs
  length : cs.length = n
  value : natOfDigits cs = x

namespace Writes

variable {n x x' : Nat} {cs cs' : List Char}

theorem before_iff (h : Writes n cs x) (h' : Writes n cs' x') :
    Text.before cs cs' = true ↔ x < x' := by
  rw [before_iff_natOfDigits_lt h.digits h'.digits (h.length.trans h'.length.symm), h.value,
    h'.value]

theorem eq_iff (h : Writes n cs x) (h' : Writes n cs' x') : cs = cs' ↔ x = x' := by
  constructor
  · rintro rfl
    exact h.value.symm.trans h'.value
  · rintro rfl
    rcases Text.before_or_eq_or_before cs cs' with hbefore | heq | hbefore
    · exact absurd ((h.before_iff h').1 hbefore) (Nat.lt_irrefl _)
    · exact heq
    · exact absurd ((h'.before_iff h).1 hbefore) (Nat.lt_irrefl _)

end Writes

end Decimal

/-! ### Dates -/

/-- A date as a text: so many digits for the year, and two each for the month and the day. -/
def WritesDate (n : Nat) (date : String) (year month day : Nat) : Prop :=
  ∃ ys ms ds, date.toList = ys ++ ('-' :: (ms ++ '-' :: ds)) ∧ Decimal.Writes n ys year ∧
    Decimal.Writes 2 ms month ∧ Decimal.Writes 2 ds day

/-- The order of dates as texts is that of the calendar. -/
theorem WritesDate.before_iff {n y m d y' m' d' : Nat} {s t : String} (h : WritesDate n s y m d)
    (h' : WritesDate n t y' m' d') :
    Text.before s.toList t.toList = true ↔ y < y' ∨ y = y' ∧ (m < m' ∨ m = m' ∧ d < d') := by
  obtain ⟨ys, ms, ds, hs, hy, hm, hd⟩ := h
  obtain ⟨ys', ms', ds', ht, hy', hm', hd'⟩ := h'
  have hdash : ∀ cs cs', Text.before ('-' :: cs) ('-' :: cs') = Text.before cs cs' := by
    intro cs cs'
    simp [Text.before]
  rw [hs, ht, Text.before_append_iff (hy.length.trans hy'.length.symm), hdash,
    Text.before_append_iff (hm.length.trans hm'.length.symm), hdash, hy.before_iff hy',
    hy.eq_iff hy', hm.before_iff hm', hm.eq_iff hm', hd.before_iff hd']

namespace Sql.Expr

variable {fs : Fields} {r : Row} {name : String}

theorem admits_compared_iff {k : Comparison} {l : Literal} :
    (Predicate.compared name k l).admits fs r = true ↔
      k.operator.compare (conversion fs name) (r.cell name) l.toValue = some true := by
  rw [← isMet_compared]
  constructor
  · intro h
    exact ⟨failure?_compared (Predicate.operator_ne_and k) fs _ _ name l, h⟩
  · exact IsMet.admits

theorem admits_compared_null (hcell : r.cell name = .null) (k : Comparison) (l : Literal) :
    (Predicate.compared name k l).admits fs r = false := by
  rw [← Bool.not_eq_true, admits_compared_iff, hcell, Operator.compare_null_left]
  exact nofun

theorem conversion_of_text (h : fs.affinity? name = some .text) : conversion fs name = .text := by
  rw [conversion, affinity, h]
  rfl

theorem admits_compared_text {s : String} (htext : fs.affinity? name = some .text)
    (hcell : r.cell name = .text s) (k : Comparison) (t : String) :
    (Predicate.compared name k (.text t)).admits fs r = k.operator.holds (.text s) (.text t) := by
  rw [Bool.eq_iff_iff, admits_compared_iff, conversion_of_text htext, hcell]
  simp [Operator.compare, Conversion.apply, Conversion.isText, Value.toText, Literal.toValue,
    Value.isNull, SortKey.ofValue]

end Sql.Expr

/-! ### Ranges -/

namespace YearRange

/-- A side of a range: no bound, or a year with so many digits, perhaps with blanks around it. -/
inductive Side (n : Nat) : Option String → Option Nat → Prop where
  | absent : Side n none none
  | blank {s : String} (h : ∀ c ∈ s.toList, Text.isBlank c = true) : Side n (some s) none
  | year {s : String} {before digits after : List Char} {y : Nat}
      (hs : s.toList = before ++ (digits ++ after))
      (hbefore : ∀ c ∈ before, Text.isBlank c = true)
      (hafter : ∀ c ∈ after, Text.isBlank c = true) (hdigits : Decimal.Writes n digits y) :
      Side n (some s) (some y)

theorem Side.rel_nonBlank? {n : Nat} (hn : 1 ≤ n) {side : Option String} {year : Option Nat}
    (h : Side n side year) :
    Option.Rel (fun s y => Decimal.Writes n s.toList y) (nonBlank? side) year := by
  cases h with
  | absent => exact .none
  | @blank s h =>
    have hs : s.toList = s.toList ++ ([] ++ []) := by
      simp
    have htrim : Text.trim s = "" := Text.trim_of_padded hs h nofun nofun
    have hblank : nonBlank? (some s) = none := by
      simp [nonBlank?, htrim]
    rw [hblank]
    exact .none
  | @year s before digits after y hs hbefore hafter hdigits =>
    have htrim := Text.trim_of_padded hs hbefore
      (fun c hc => Decimal.not_isBlank_of_isDigit (hdigits.digits c hc)) hafter
    have hne : String.ofList digits ≠ "" := by
      intro hempty
      have hlength := congrArg String.length hempty
      rw [String.length_ofList, hdigits.length, String.length_empty] at hlength
      omega
    have hyear : nonBlank? (some s) = some (String.ofList digits) := by
      simp [nonBlank?, htrim, hne]
    rw [hyear]
    exact .some (by rwa [String.toList_ofList])

def admits (range : YearRange) (g : Grain) (r : Row) : Bool :=
  (Scope.yearTerms range).all (·.admits g.schema r)

end YearRange

theorem Scope.admits_year (s : Scope) (range : YearRange) (r : Row) :
    (s.year (some range)).admits r = (s.admits r && range.admits s.grain r) := by
  simp [Scope.year, Scope.add, Scope.admits, YearRange.admits, List.all_append]

namespace YearRange

variable {n : Nat} {range : YearRange} {g : Grain} {r : Row} {start last : Option Nat}

theorem Side.rel_date {side : Option String} {year : Option Nat} (hn : 1 ≤ n)
    (h : Side n side year) {suffix : String} {ms ds : List Char} {month day : Nat}
    (hsuffix : suffix.toList = '-' :: (ms ++ '-' :: ds)) (hm : Decimal.Writes 2 ms month)
    (hd : Decimal.Writes 2 ds day) :
    Option.Rel (WritesDate n · · month day) ((nonBlank? side).map (· ++ suffix)) year := by
  have hrel := h.rel_nonBlank? hn
  generalize nonBlank? side = s? at hrel
  cases hrel with
  | none => exact .none
  | @some s y hs =>
    refine .some ⟨s.toList, ms, ds, ?_, hs, hm, hd⟩
    rw [String.toList_append, hsuffix]

theorem rel_startDate? (hn : 1 ≤ n) (h : Side n range.start start) :
    Option.Rel (WritesDate n · · 1 1) range.startDate? start := by
  have hfirst : Decimal.Writes 2 ['0', '1'] 1 := ⟨by simp, rfl, rfl⟩
  exact h.rel_date hn rfl hfirst hfirst

theorem rel_lastDate? (hn : 1 ≤ n) (h : Side n range.last last) :
    Option.Rel (WritesDate n · · 12 31) range.lastDate? last := by
  have hmonth : Decimal.Writes 2 ['1', '2'] 12 := ⟨by simp, rfl, rfl⟩
  have hday : Decimal.Writes 2 ['3', '1'] 31 := ⟨by simp, rfl, rfl⟩
  exact h.rel_date hn rfl hmonth hday

theorem admits_eq (range : YearRange) (g : Grain) (r : Row) :
    range.admits g r =
      (range.startDate?.all
          (fun date => (Predicate.compared dateColumn .gte (.text date)).admits g.schema r) &&
        range.lastDate?.all
          fun date => (Predicate.compared dateColumn .lte (.text date)).admits g.schema r) := by
  rw [admits, Scope.yearTerms, List.all_append]
  cases range.startDate? <;> cases range.lastDate? <;>
    simp [Predicate.compared, Comparison.operator, Expr.text]

theorem admits_of_text {date : String} (hdate : r.cell dateColumn = .text date) :
    range.admits g r = true ↔
      (∀ s ∈ range.startDate?, Text.before date.toList s.toList = false) ∧
        ∀ s ∈ range.lastDate?, Text.before s.toList date.toList = false := by
  simp [admits_eq, Expr.admits_compared_text g.affinity?_date hdate, Comparison.operator,
    Operator.holds, SortKey.lt, Option.all_eq_true]

theorem admits_of_null (hnull : r.cell dateColumn = .null) :
    range.admits g r = true ↔ range.startDate? = none ∧ range.lastDate? = none := by
  simp [admits_eq, Expr.admits_compared_null hnull]

theorem admits_of_writesDate (hn : 1 ≤ n) (hstart : Side n range.start start)
    (hlast : Side n range.last last) {date : String} {y m d : Nat}
    (hcell : r.cell dateColumn = .text date) (hdate : WritesDate n date y m d)
    (hm : 1 ≤ m ∧ m ≤ 12) (hd : 1 ≤ d ∧ d ≤ 31) :
    range.admits g r = true ↔ (∀ s ∈ start, s ≤ y) ∧ ∀ l ∈ last, y ≤ l := by
  rw [admits_of_text hcell]
  apply and_congr
  · apply forall_mem_congr_of_rel (rel_startDate? hn hstart)
    intro first s hfirst
    rw [← Bool.not_eq_true, hdate.before_iff hfirst]
    omega
  · apply forall_mem_congr_of_rel (rel_lastDate? hn hlast)
    intro final l hfinal
    rw [← Bool.not_eq_true, hfinal.before_iff hdate]
    omega

/--
Where years are written with one number of digits, the years of a range, compared as texts, are
bounds on the years of dates as numbers. Each side is a bound of its own.
-/
theorem year_admits_iff (hn : 1 ≤ n) (hstart : Side n range.start start)
    (hlast : Side n range.last last) (s : Scope) (r : Row) :
    (s.year (some range)).admits r = (s.admits r && range.admits s.grain r) ∧
      range.admits s.grain r = ((⟨range.start, none⟩ : YearRange).admits s.grain r &&
        (⟨none, range.last⟩ : YearRange).admits s.grain r) ∧
      (r.cell dateColumn = .null →
        (range.admits s.grain r = true ↔ start = none ∧ last = none)) ∧
      ∀ date y m d, r.cell dateColumn = .text date → WritesDate n date y m d →
        1 ≤ m ∧ m ≤ 12 → 1 ≤ d ∧ d ≤ 31 →
          (range.admits s.grain r = true ↔ (∀ a ∈ start, a ≤ y) ∧ ∀ b ∈ last, y ≤ b) ∧
            ∀ a ∈ start, ∀ b ∈ last, b < a → range.admits s.grain r = false := by
  refine ⟨s.admits_year range r, ?sides, ?null, ?date⟩
  case sides =>
    simp [admits_eq, startDate?, lastDate?, nonBlank?]
  case null =>
    intro hnull
    rw [admits_of_null hnull, eq_none_congr_of_rel (rel_startDate? hn hstart),
      eq_none_congr_of_rel (rel_lastDate? hn hlast)]
  case date =>
    intro date y m d hcell hdate hm hd
    have hadmits := admits_of_writesDate (g := s.grain) hn hstart hlast hcell hdate hm hd
    refine ⟨hadmits, ?_⟩
    intro a ha b hb hba
    rw [← Bool.not_eq_true, hadmits]
    rintro ⟨hfirst, hfinal⟩
    exact Nat.not_le.2 hba (Nat.le_trans (hfirst a ha) (hfinal b hb))

def datedRow (date : String) : Row :=
  Table.kept .building (Table.valueFor ⟨[(runColumn, .integer 1), (dateColumn, .text date)]⟩ 1)

def turnOfCentury : YearRange where
  start := some " 0999 "
  last := some "1000"

theorem year_admits_turnOfCentury :
    1 ≤ 4 ∧ Side 4 turnOfCentury.start (some 999) ∧ Side 4 turnOfCentury.last (some 1000) ∧
      WritesDate 4 "1000-12-31" 1000 12 31 ∧
      turnOfCentury.admits .building (datedRow "1000-12-31") = true := by
  have hold : " 0999 ".toList = [' '] ++ (['0', '9', '9', '9'] ++ [' ']) := rfl
  have hnew : "1000".toList = [] ++ (['1', '0', '0', '0'] ++ []) := rfl
  have hspace : ∀ c ∈ [' '], Text.isBlank c = true := by
    intro c hc
    rw [List.mem_singleton.1 hc]
    rfl
  have hstart : Side 4 turnOfCentury.start (some 999) :=
    .year hold hspace hspace ⟨by simp, rfl, rfl⟩
  have hlast : Side 4 turnOfCentury.last (some 1000) :=
    .year hnew nofun nofun ⟨by simp, rfl, rfl⟩
  have hdate : WritesDate 4 "1000-12-31" 1000 12 31 :=
    ⟨['1', '0', '0', '0'], ['1', '2'], ['3', '1'], rfl, ⟨by simp, rfl, rfl⟩, ⟨by simp, rfl, rfl⟩,
      ⟨by simp, rfl, rfl⟩⟩
  have hcell : (datedRow "1000-12-31").cell dateColumn = .text "1000-12-31" := rfl
  obtain ⟨_, _, _, hdated⟩ :=
    year_admits_iff (by decide) hstart hlast (.ofRun .building 1) (datedRow "1000-12-31")
  have hadmits := (hdated _ _ _ _ hcell hdate (by decide) (by decide)).1
  exact ⟨by decide, hstart, hlast, hdate, hadmits.2 ⟨by simp, by simp⟩⟩

end YearRange

end Vacancy
