import Mathlib.Data.List.Basic
import Mathlib.Data.List.TakeWhile
import Vacancy.Proofs.Numeral
import Vacancy.Sql.Dialect

/-!
How the text of a statement falls into lexemes. A quotation ends at its first quote that is not
doubled, a word or a numeral goes on as long as it can, two dashes begin a comment, and white space
stands between the others. Whatever is written in front of a break is a lexeme for itself.
-/

namespace Vacancy.Sql

inductive Lexeme where
  | word (s : String)
  | number (s : String)
  | operator (s : String)
  /-- What single quotes enclose, with one quote for each that is doubled. -/
  | text (s : String)
  /-- What double quotes enclose, with one quote for each that is doubled. -/
  | name (s : String)
  | comment (s : String)
  deriving DecidableEq

namespace Lexeme

def quotation? (q : Char) : List Char → Option (List Char × List Char)
  | [] => none
  | [c] => if c = q then some ([], []) else none
  | c :: d :: cs =>
    if c = q then
      if d = q then (quotation? q cs).map (Prod.map (q :: ·) id)
      else some ([], d :: cs)
    else (quotation? q (d :: cs)).map (Prod.map (c :: ·) id)

def startsWord (c : Char) : Bool :=
  c.isAlpha || c = '_'

def continuesWord (c : Char) : Bool :=
  c.isAlphanum || c = '_'

def afterNumeral (cs : List Char) : List Char :=
  let rest := (Decimal.splitDigits cs).2
  let rest :=
    match rest with
    | '.' :: part => (Decimal.splitDigits part).2
    | _ => rest
  (Decimal.splitExponent rest).2

def startsNumber (c : Char) (cs : List Char) : Bool :=
  c.isDigit || ((c = '-' || c = '+') && cs.head?.any Char.isDigit)

def operators : List String :=
  ["<=", "<>", ">=", "!=", "||", "<", ">", "=", "+", "-", "*", "/", "%", "(", ")", ",", ".", ";"]

def operator? (cs : List Char) : Option (Lexeme × List Char) :=
  operators.findSome? fun op => (op.toList.isPrefixOf? cs).map (.operator op, ·)

/-- The lexeme that the text starts with, unless that is white space, and what follows it. -/
def next? : List Char → Option (Option Lexeme × List Char)
  | [] => none
  | c :: cs =>
    if c.isWhitespace then some (none, cs)
    else if startsWord c then
      some (word (String.ofList (c :: cs.takeWhile continuesWord)), cs.dropWhile continuesWord)
    else if c = '\x27' then
      (quotation? c cs).map (Prod.map (some ∘ text ∘ String.ofList) id)
    else if c = '"' then
      (quotation? c cs).map (Prod.map (some ∘ name ∘ String.ofList) id)
    else if startsNumber c cs then
      let rest := afterNumeral cs
      some (number (String.ofList (c :: cs.take (cs.length - rest.length))), rest)
    else if c = '-' && cs.head? = some '-' then
      some (comment (String.ofList (c :: cs.takeWhile (· ≠ '\n'))), cs.dropWhile (· ≠ '\n'))
    else (operator? (c :: cs)).map (Prod.map some id)

/-! ### Progress -/

theorem exists_of_map_fst {α β : Type} {f : α → β} {o : Option (α × List Char)} {b : β}
    {rest : List Char} (h : o.map (Prod.map f id) = some (b, rest)) : ∃ a, o = some (a, rest) := by
  obtain ⟨⟨a, rest'⟩, rfl, heq⟩ := Option.map_eq_some_iff.1 h
  obtain ⟨-, rfl⟩ := Prod.mk.inj heq
  exact ⟨a, rfl⟩

theorem length_quotation? {q : Char} {cs s rest : List Char}
    (h : quotation? q cs = some (s, rest)) : rest.length < cs.length := by
  -- the text ends, or begins with a quote that is last, doubled or closing, or with none
  induction cs using quotation?.induct q generalizing s rest with
  | case1 => simp [quotation?] at h
  | case2 => simp_all [quotation?]
  | case3 c hc => simp [quotation?, hc] at h
  | case4 cs ih =>
    simp only [quotation?, if_true] at h
    obtain ⟨s', h'⟩ := exists_of_map_fst h
    exact Nat.lt_succ_of_lt (Nat.lt_succ_of_lt (ih h'))
  | case5 d cs hd =>
    simp only [quotation?, if_true, hd, if_false, Option.some.injEq, Prod.mk.injEq] at h
    simp [← h.2]
  | case6 c d cs hc ih =>
    simp only [quotation?, hc, if_false] at h
    obtain ⟨s', h'⟩ := exists_of_map_fst h
    exact Nat.lt_succ_of_lt (ih h')

theorem length_splitSign (cs : List Char) : (Decimal.splitSign cs).2.length ≤ cs.length := by
  unfold Decimal.splitSign
  split <;> simp

theorem length_splitDigits (cs : List Char) : (Decimal.splitDigits cs).2.length ≤ cs.length :=
  List.length_dropWhile_le Char.isDigit cs

theorem length_splitExponent (cs : List Char) :
    (Decimal.splitExponent cs).2.length ≤ cs.length := by
  cases cs with
  | nil => simp [Decimal.splitExponent]
  | cons e cs =>
    have hsign := length_splitSign cs
    have hdigits := length_splitDigits (Decimal.splitSign cs).2
    simp only [Decimal.splitExponent]
    split
    · split
      · exact Nat.le_refl _
      · exact Nat.le_succ_of_le (Nat.le_trans hdigits hsign)
    · exact Nat.le_refl _

theorem length_afterNumeral (cs : List Char) : (afterNumeral cs).length ≤ cs.length := by
  have hwhole := length_splitDigits cs
  simp only [afterNumeral]
  refine Nat.le_trans (length_splitExponent _) ?_
  split
  · next part hpart =>
    have hpoint := length_splitDigits part
    rw [hpart, List.length_cons] at hwhole
    omega
  · exact hwhole

theorem length_operator? {cs rest : List Char} {l : Lexeme} (h : operator? cs = some (l, rest)) :
    rest.length < cs.length := by
  obtain ⟨op, hop, hrest⟩ := List.exists_of_findSome?_eq_some h
  simp only [Option.map_eq_some_iff, Prod.mk.injEq, exists_eq_right_right,
    List.isPrefixOf?_eq_some_iff_append_eq] at hrest
  obtain ⟨hcs, -⟩ := hrest
  have hpositive : ∀ op ∈ operators, 0 < op.toList.length := by decide
  have := hpositive op hop
  rw [← hcs, List.length_append]
  omega

theorem length_next? {cs rest : List Char} {l : Option Lexeme} (h : next? cs = some (l, rest)) :
    rest.length < cs.length := by
  cases cs with
  | nil => simp [next?] at h
  | cons c cs =>
    simp only [next?] at h
    split at h
    · simp only [Option.some.injEq, Prod.mk.injEq] at h
      simp [← h.2]
    split at h
    · simp only [Option.some.injEq, Prod.mk.injEq] at h
      exact h.2 ▸ Nat.lt_succ_of_le (List.length_dropWhile_le continuesWord cs)
    split at h
    · obtain ⟨s, hs⟩ := exists_of_map_fst h
      exact Nat.lt_succ_of_lt (length_quotation? hs)
    split at h
    · obtain ⟨s, hs⟩ := exists_of_map_fst h
      exact Nat.lt_succ_of_lt (length_quotation? hs)
    split at h
    · simp only [Option.some.injEq, Prod.mk.injEq] at h
      exact h.2 ▸ Nat.lt_succ_of_le (length_afterNumeral cs)
    split at h
    · simp only [Option.some.injEq, Prod.mk.injEq] at h
      exact h.2 ▸ Nat.lt_succ_of_le (List.length_dropWhile_le _ cs)
    · obtain ⟨l', hl⟩ := exists_of_map_fst h
      exact length_operator? hl

def ofChars? (cs : List Char) : Option (List Lexeme) :=
  if cs.isEmpty then some []
  else
    match _h : next? cs with
    | none => none
    | some (l, rest) => (ofChars? rest).map (l.toList ++ ·)
termination_by cs.length
decreasing_by exact length_next? ‹_›

def ofText? (s : String) : Option (List Lexeme) :=
  ofChars? s.toList

theorem ofChars?_nil : ofChars? [] = some [] := by
  simp [ofChars?]

theorem ofChars?_of_next? {cs rest : List Char} {l : Option Lexeme}
    (h : next? cs = some (l, rest)) : ofChars? cs = (ofChars? rest).map (l.toList ++ ·) := by
  have hne : cs.isEmpty = false := by
    cases cs with
    | nil => simp [next?] at h
    | cons _ _ => rfl
  rw [ofChars?]
  simp only [hne, Bool.false_eq_true, if_false]
  split
  · simp_all
  · next h' =>
    rw [h] at h'
    simp only [Option.some.injEq, Prod.mk.injEq] at h'
    obtain ⟨rfl, rfl⟩ := h'
    rfl

theorem ofChars?_lexeme {cs rest : List Char} {l : Lexeme} (h : next? cs = some (some l, rest)) :
    ofChars? cs = (ofChars? rest).map ([l] ++ ·) :=
  ofChars?_of_next? h

theorem ofChars?_skip {cs rest : List Char} (h : next? cs = some (none, rest)) :
    ofChars? cs = ofChars? rest := by
  rw [ofChars?_of_next? h]
  exact Option.map_id_apply

/-! ### Lexemes in front of a break -/

def breaks : List Char :=
  [' ', '\t', '\x0d', '\n', ',', '(', ')']

def Broken (cs : List Char) : Prop :=
  ∀ c ∈ cs.head?, c ∈ breaks

namespace Broken

variable {rest : List Char}

theorem ne_head (h : Broken rest) {c : Char} (hc : c ∉ breaks) (cs : List Char) :
    rest ≠ c :: cs := by
  rintro rfl
  exact hc (h c rfl)

theorem isPrefixOf?_singleton (h : Broken rest) {c : Char} (hc : c ∉ breaks) :
    [c].isPrefixOf? rest = none := by
  cases rest with
  | nil => rfl
  | cons d rest =>
    have hd : c ≠ d := fun hd => h.ne_head hc rest (hd ▸ rfl)
    simp [List.isPrefixOf?, hd]

theorem head?_eq_false (h : Broken rest) {p : Char → Bool} (hp : breaks.all (!p ·) = true) :
    ∀ c ∈ rest.head?, p c = false := by
  simp only [List.all_eq_true, Bool.not_eq_true'] at hp
  exact fun c hc => hp c (h c hc)

end Broken

section Pieces

variable {p : Char → Bool} {cs rest : List Char}

theorem takeWhile_append_of_head? (hcs : ∀ c ∈ cs, p c = true)
    (hrest : ∀ c ∈ rest.head?, p c = false) : (cs ++ rest).takeWhile p = cs := by
  rw [List.takeWhile_append_of_pos hcs]
  cases rest with
  | nil => simp
  | cons c rest => simp [hrest c rfl]

theorem dropWhile_append_of_head? (hcs : ∀ c ∈ cs, p c = true)
    (hrest : ∀ c ∈ rest.head?, p c = false) : (cs ++ rest).dropWhile p = rest := by
  rw [List.dropWhile_append_of_pos hcs]
  cases rest with
  | nil => rfl
  | cons c rest => simp [hrest c rfl]

theorem splitDigits_append (hcs : Decimal.IsDigits cs)
    (hrest : ∀ c ∈ rest.head?, c.isDigit = false) :
    Decimal.splitDigits (cs ++ rest) = (cs, rest) := by
  rw [Decimal.splitDigits, takeWhile_append_of_head? hcs hrest, dropWhile_append_of_head? hcs hrest]

end Pieces

/-! ### Blanks and words -/

theorem next?_blank {c : Char} (hc : c.isWhitespace = true) (rest : List Char) :
    next? (c :: rest) = some (none, rest) := by
  simp [next?, hc]

def isWord (s : String) : Bool :=
  match s.toList with
  | [] => false
  | c :: cs => startsWord c && cs.all continuesWord

theorem isWhitespace_of_startsWord {c : Char} (h : startsWord c = true) :
    c.isWhitespace = false := by
  rw [← Bool.not_eq_true]
  intro hc
  simp only [Char.isWhitespace, Bool.or_eq_true, decide_eq_true_eq] at hc
  obtain ((rfl | rfl) | rfl) | rfl := hc <;> simp [startsWord] at h

theorem next?_word {s : String} (hs : isWord s = true) {rest : List Char} (hrest : Broken rest) :
    next? (s.toList ++ rest) = some (some (word s), rest) := by
  unfold isWord at hs
  split at hs
  · simp at hs
  · next c cs hcs =>
    simp only [Bool.and_eq_true, List.all_eq_true] at hs
    have hbreak := hrest.head?_eq_false (p := continuesWord) rfl
    rw [hcs, List.cons_append, next?]
    simp only [isWhitespace_of_startsWord hs.1, hs.1, Bool.false_eq_true, if_false, if_true,
      takeWhile_append_of_head? hs.2 hbreak, dropWhile_append_of_head? hs.2 hbreak]
    rw [← hcs, String.ofList_toList]

/-! ### Quotations -/

theorem quotation?_doubled (q : Char) (s : List Char) {rest : List Char}
    (hrest : ∀ cs, rest ≠ q :: cs) : quotation? q (doubled q s ++ q :: rest) = some (s, rest) := by
  induction s with
  | nil =>
    cases rest with
    | nil => simp [doubled, quotation?]
    | cons c rest =>
      have hc : c ≠ q := fun h => hrest rest (h ▸ rfl)
      simp [doubled, quotation?, hc]
  | cons c s ih =>
    by_cases hc : c = q
    · subst hc
      simp [doubled, quotation?, ih]
    · obtain ⟨d, cs, hcs⟩ : ∃ d cs, doubled q s ++ q :: rest = d :: cs :=
        List.exists_cons_of_ne_nil (by simp)
      rw [hcs] at ih
      simp [doubled, hc, quotation?, hcs, ih]

theorem next?_quoteText (s : String) {rest : List Char} (hrest : Broken rest) :
    next? ((quoteText s).toList ++ rest) = some (some (text s), rest) := by
  have hs := quotation?_doubled '\x27' s.toList (hrest.ne_head (by decide))
  simp [quoteText, quotedBy, next?, hs, Char.isWhitespace, startsWord]

theorem next?_quoteIdentifier (s : String) {rest : List Char} (hrest : Broken rest) :
    next? ((quoteIdentifier s).toList ++ rest) = some (some (name s), rest) := by
  have hs := quotation?_doubled '"' s.toList (hrest.ne_head (by decide))
  simp [quoteIdentifier, quotedBy, next?, hs, Char.isWhitespace, startsWord]

/-! ### Numbers -/

theorem splitSign_of_isDigit {d : Char} (hd : d.isDigit = true) (cs : List Char) :
    Decimal.splitSign (d :: cs) = (false, d :: cs) := by
  unfold Decimal.splitSign
  split
  · next h =>
    obtain ⟨rfl, -⟩ := List.cons.inj h
    simp at hd
  · next h =>
    obtain ⟨rfl, -⟩ := List.cons.inj h
    simp at hd
  · rfl

theorem splitExponent_append {cs : List Char} (hcs : Decimal.IsExponent cs) {rest : List Char}
    (hrest : Broken rest) : (Decimal.splitExponent (cs ++ rest)).2 = rest := by
  obtain rfl | ⟨sign, ds, rfl, hsign, hne, hds⟩ := hcs
  · cases rest with
    | nil => rfl
    | cons c rest =>
      have hc : ¬(c = 'e' ∨ c = 'E') := by
        rintro (rfl | rfl)
        · exact hrest.ne_head (by decide) rest rfl
        · exact hrest.ne_head (by decide) rest rfl
      simp [Decimal.splitExponent, hc]
  · obtain ⟨d, ds, rfl⟩ := List.exists_cons_of_ne_nil hne
    have hdigits := splitDigits_append hds (hrest.head?_eq_false rfl)
    rw [List.cons_append] at hdigits
    have hsplit : (Decimal.splitSign (sign ++ d :: (ds ++ rest))).2 = d :: (ds ++ rest) := by
      obtain rfl | rfl | rfl := hsign
      · exact congrArg Prod.snd (splitSign_of_isDigit (Decimal.IsDigits.cons_iff.1 hds).1 _)
      · rfl
      · rfl
    simp [Decimal.splitExponent, hsplit, hdigits]

theorem afterNumeral_append {cs : List Char} (hcs : Decimal.IsNumeral cs) {rest : List Char}
    (hrest : Broken rest) : afterNumeral (cs ++ rest) = rest := by
  obtain ⟨whole, part, exponent, rfl, -, hwhole, hpart, hexponent⟩ := hcs
  have hdigit : ∀ c ∈ (exponent ++ rest).head?, c.isDigit = false := by
    obtain rfl | ⟨sign, ds, rfl, -⟩ := hexponent
    · exact hrest.head?_eq_false rfl
    · simp
  obtain rfl | ⟨ds, rfl, hds⟩ := hpart
  · have hpoint : ∀ cs, exponent ++ rest ≠ '.' :: cs := by
      obtain rfl | ⟨sign, ds, rfl, -⟩ := hexponent
      · exact hrest.ne_head (by decide)
      · simp
    rw [List.append_nil, List.append_assoc, afterNumeral, splitDigits_append hwhole hdigit]
    simp only
    exact splitExponent_append hexponent hrest
  · have hwhole : Decimal.splitDigits (whole ++ '.' :: (ds ++ (exponent ++ rest))) =
        (whole, '.' :: (ds ++ (exponent ++ rest))) :=
      splitDigits_append hwhole (by simp)
    simp only [List.append_assoc, List.cons_append, afterNumeral, hwhole,
      splitDigits_append hds hdigit, splitExponent_append hexponent hrest]

theorem afterNumeral_cons {d : Char} (hd : d.isDigit = true) (cs : List Char) :
    afterNumeral (d :: cs) = afterNumeral cs := by
  simp [afterNumeral, Decimal.splitDigits, hd]

theorem of_ascii {P : Char → Prop} (h : ∀ n < 128, P (Char.ofNat n)) {c : Char}
    (hc : c.toNat < 128) : P c := by
  simpa using h c.toNat hc

theorem starts_of_isDigit {d : Char} (hd : d.isDigit = true) :
    d.isWhitespace = false ∧ startsWord d = false ∧ d ≠ '\x27' ∧ d ≠ '"' := by
  have hascii : d.toNat < 128 :=
    Nat.lt_of_le_of_lt (Char.isDigit_iff_toNat.1 hd).2 (by decide)
  exact of_ascii (P := fun d => d.isDigit = true → d.isWhitespace = false ∧
    startsWord d = false ∧ d ≠ '\x27' ∧ d ≠ '"') (by decide) hascii hd

theorem next?_number {s : String} (hs : Decimal.IsSigned s.toList) {rest : List Char}
    (hrest : Broken rest) : next? (s.toList ++ rest) = some (some (number s), rest) := by
  obtain h | ⟨cs, hcs, h⟩ := hs
  · have hafter := afterNumeral_append h hrest
    obtain ⟨d, ds, hds, hd⟩ := h.exists_cons
    obtain ⟨hblank, hword, hsingle, hdouble⟩ := starts_of_isDigit hd
    have hstarts : startsNumber d (ds ++ rest) = true := by simp [startsNumber, hd]
    rw [hds, List.cons_append, afterNumeral_cons hd] at hafter
    rw [hds, List.cons_append, next?]
    simp [hblank, hword, hsingle, hdouble, hstarts, hafter, ← hds]
  · have hafter := afterNumeral_append h hrest
    have hstarts : startsNumber '-' (cs ++ rest) = true := by
      obtain ⟨d, ds, rfl, hd⟩ := h.exists_cons
      simp [startsNumber, hd]
    rw [hcs, List.cons_append, next?]
    simp [hstarts, hafter, ← hcs, Char.isWhitespace, startsWord]

end Lexeme

end Vacancy.Sql
