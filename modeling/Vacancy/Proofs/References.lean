import Vacancy.Proofs.Lexer
import Vacancy.Settings

/-!
References to variables in a text. A text is read from left to right: where a reference begins it is
taken as one, and every other character stands for itself. It is expanded as it is read, unless a
dollar sign has a brace after it that begins no reference. The brace of such a sign is lost if there
is no name in it, and reaches to the end of the text if it is not closed.
-/

namespace Vacancy.Text

open Sql.Lexeme (takeWhile_append_of_head? dropWhile_append_of_head?)

def Piece.text? (value? : String → Option String) : Piece → Option String
  | .char c => some c.toString
  | .reference name => value? name

namespace Template

/-! ### Readings -/

/-- A text that begins with a reference to a name, and what follows the reference. -/
inductive Begins : List Char → List Char → List Char → Prop where
  | braced {name rest : List Char} (hne : name ≠ []) (hname : '\x7d' ∉ name) :
      Begins ('$' :: '\x7b' :: (name ++ '\x7d' :: rest)) name rest
  | bare {name rest : List Char} (hne : name ≠ []) (hname : ∀ c ∈ name, isName c = true)
      (hrest : ∀ c ∈ rest.head?, isName c = false) : Begins ('$' :: (name ++ rest)) name rest

/-- A reference where one begins, and else a character that stands for itself. -/
inductive Reads : List Char → List Piece → Prop where
  | nil : Reads [] []
  | reference {cs name rest : List Char} {ps : List Piece} (h : Begins cs name rest)
      (hrest : Reads rest ps) : Reads cs (.reference (String.ofList name) :: ps)
  | char {c : Char} {cs : List Char} {ps : List Piece}
      (h : ∀ name rest, ¬Begins (c :: cs) name rest) (hcs : Reads cs ps) :
      Reads (c :: cs) (.char c :: ps)

/-- The reading comes upon a dollar sign with a brace after it that begin no reference. -/
inductive Strays : List Char → Prop where
  | here {cs : List Char} (h : ∀ name rest, ¬Begins ('$' :: '\x7b' :: cs) name rest) :
      Strays ('$' :: '\x7b' :: cs)
  | reference {cs name rest : List Char} (h : Begins cs name rest) (hrest : Strays rest) : Strays cs
  | char {c : Char} {cs : List Char} (h : ∀ name rest, ¬Begins (c :: cs) name rest)
      (hcs : Strays cs) : Strays (c :: cs)

/-- What a text is expanded as, with stray braces. -/
inductive Scans : List Char → List Piece → Prop where
  | nil : Scans [] []
  | reference {cs name rest : List Char} {ps : List Piece} (h : Begins cs name rest)
      (hrest : Scans rest ps) : Scans cs (.reference (String.ofList name) :: ps)
  | char {c : Char} {cs : List Char} {ps : List Piece}
      (h : ∀ name rest, ¬Begins (c :: cs) name rest)
      (hbrace : c = '$' → cs.head? ≠ some '\x7b') (hcs : Scans cs ps) :
      Scans (c :: cs) (.char c :: ps)
  | unclosed {name : List Char} (hne : name ≠ []) (hname : '\x7d' ∉ name) :
      Scans ('$' :: '\x7b' :: name) [.reference (String.ofList name)]
  | unnamed {cs : List Char} {ps : List Piece} (hcs : Scans cs ps) :
      Scans ('$' :: '\x7b' :: '\x7d' :: cs) (.char '$' :: ps)
  | lone : Scans ['$', '\x7b'] [.char '$']

variable {c : Char} {cs name rest name' rest' : List Char} {ps qs : List Piece}

theorem isName_brace : isName '\x7b' = false := by
  decide +kernel

theorem ne_brace_of_mem (hname : '\x7d' ∉ name) : ∀ c ∈ name, decide (c ≠ '\x7d') = true := by
  intro c hc
  rw [decide_eq_true_eq]
  rintro rfl
  exact hname hc

theorem takeWhile_braced (hname : '\x7d' ∉ name) (rest : List Char) :
    (name ++ '\x7d' :: rest).takeWhile (fun c => decide (c ≠ '\x7d')) = name :=
  takeWhile_append_of_head? (ne_brace_of_mem hname) (by simp)

theorem dropWhile_braced (hname : '\x7d' ∉ name) (rest : List Char) :
    (name ++ '\x7d' :: rest).dropWhile (fun c => decide (c ≠ '\x7d')) = '\x7d' :: rest :=
  dropWhile_append_of_head? (ne_brace_of_mem hname) (by simp)

theorem head?_ne_brace (hne : name ≠ []) (hname : ∀ c ∈ name, isName c = true) (rest : List Char) :
    (name ++ rest).head? ≠ some '\x7b' := by
  obtain ⟨d, ds, rfl⟩ := List.exists_cons_of_ne_nil hne
  rw [List.cons_append, List.head?_cons, ne_eq, Option.some.injEq]
  rintro rfl
  exact Bool.false_ne_true (isName_brace.symm.trans (hname _ List.mem_cons_self))

theorem Begins.dollar (h : Begins (c :: cs) name rest) : c = '$' := by
  cases h <;> rfl

theorem Begins.of_brace (h : Begins ('$' :: '\x7b' :: cs) name rest) :
    name ≠ [] ∧ '\x7d' ∉ name ∧ cs = name ++ '\x7d' :: rest := by
  generalize htext : '$' :: '\x7b' :: cs = text at h
  cases h with
  | braced hne hname =>
    simp only [List.cons.injEq, true_and] at htext
    exact ⟨hne, hname, htext⟩
  | @bare name rest hne hname _ =>
    rw [List.cons.injEq] at htext
    exact absurd (htext.2 ▸ rfl) (head?_ne_brace hne hname rest)

theorem Begins.of_not_brace (hbrace : cs.head? ≠ some '\x7b') (h : Begins ('$' :: cs) name rest) :
    name ≠ [] ∧ (∀ c ∈ name, isName c = true) ∧ (∀ c ∈ rest.head?, isName c = false) ∧
      cs = name ++ rest := by
  generalize htext : '$' :: cs = text at h
  cases h with
  | braced =>
    rw [List.cons.injEq] at htext
    rw [htext.2] at hbrace
    exact absurd rfl hbrace
  | bare hne hname hrest =>
    rw [List.cons.injEq] at htext
    exact ⟨hne, hname, hrest, htext.2⟩

theorem Begins.unique (h : Begins cs name rest) (h' : Begins cs name' rest') :
    name = name' ∧ rest = rest' := by
  cases h with
  | braced hne hname =>
    obtain ⟨_, hname', htext⟩ := h'.of_brace
    have htake := congrArg (List.takeWhile fun c => decide (c ≠ '\x7d')) htext
    have hdrop := congrArg (List.dropWhile fun c => decide (c ≠ '\x7d')) htext
    rw [takeWhile_braced hname, takeWhile_braced hname'] at htake
    rw [dropWhile_braced hname, dropWhile_braced hname', List.cons.injEq] at hdrop
    exact ⟨htake, hdrop.2⟩
  | bare hne hname hrest =>
    obtain ⟨_, hname', hrest', htext⟩ := h'.of_not_brace (head?_ne_brace hne hname rest)
    have htake := congrArg (List.takeWhile isName) htext
    have hdrop := congrArg (List.dropWhile isName) htext
    rw [takeWhile_append_of_head? hname hrest, takeWhile_append_of_head? hname' hrest'] at htake
    rw [dropWhile_append_of_head? hname hrest, dropWhile_append_of_head? hname' hrest'] at hdrop
    exact ⟨htake, hdrop⟩

theorem Begins.length_lt (h : Begins cs name rest) : rest.length < cs.length := by
  cases h with
  | braced => simp only [List.length_cons, List.length_append]; omega
  | bare => simp only [List.length_cons, List.length_append]; omega

theorem exists_reads (cs : List Char) : ∃ ps, Reads cs ps := by
  generalize hn : cs.length = n
  induction n using Nat.strongRecOn generalizing cs with
  | ind n ih =>
    by_cases hbegins : ∃ name rest, Begins cs name rest
    · obtain ⟨name, rest, h⟩ := hbegins
      obtain ⟨ps, hps⟩ := ih rest.length (hn ▸ h.length_lt) rest rfl
      exact ⟨_, .reference h hps⟩
    · cases cs with
      | nil => exact ⟨_, .nil⟩
      | cons c cs =>
        obtain ⟨ps, hps⟩ := ih cs.length (hn ▸ Nat.lt_succ_self _) cs rfl
        exact ⟨_, .char (fun name rest h => hbegins ⟨name, rest, h⟩) hps⟩

theorem not_begins_nil : ¬Begins [] name rest := nofun

theorem Reads.of_begins (h : Begins cs name rest) (hr : Reads cs qs) :
    ∃ ps, qs = .reference (String.ofList name) :: ps ∧ Reads rest ps := by
  cases hr with
  | nil => exact absurd h not_begins_nil
  | reference h' hrest =>
    obtain ⟨rfl, rfl⟩ := h.unique h'
    exact ⟨_, rfl, hrest⟩
  | char h' _ => exact absurd h (h' _ _)

theorem Reads.of_not_begins (h : ∀ name rest, ¬Begins (c :: cs) name rest)
    (hr : Reads (c :: cs) qs) : ∃ ps, qs = .char c :: ps ∧ Reads cs ps := by
  cases hr with
  | reference h' _ => exact absurd h' (h _ _)
  | char _ hcs => exact ⟨_, rfl, hcs⟩

theorem Reads.unique (h : Reads cs ps) (h' : Reads cs qs) : ps = qs := by
  induction h generalizing qs with
  | nil =>
    cases h' with
    | nil => rfl
    | reference h _ => exact absurd h not_begins_nil
  | reference h _ ih =>
    obtain ⟨ps', rfl, hps'⟩ := h'.of_begins h
    rw [ih hps']
  | char h _ ih =>
    obtain ⟨ps', rfl, hps'⟩ := h'.of_not_begins h
    rw [ih hps']

/-! ### Stray braces -/

theorem not_begins_unclosed (hname : '\x7d' ∉ cs) : ¬Begins ('$' :: '\x7b' :: cs) name rest := by
  intro h
  obtain ⟨_, _, rfl⟩ := h.of_brace
  simp at hname

theorem not_begins_unnamed : ¬Begins ('$' :: '\x7b' :: '\x7d' :: cs) name rest := by
  intro h
  obtain ⟨hne, hname, htext⟩ := h.of_brace
  obtain ⟨d, ds, rfl⟩ := List.exists_cons_of_ne_nil hne
  rw [List.cons_append, List.cons.injEq] at htext
  exact hname (htext.1 ▸ List.mem_cons_self)

theorem pieces_brace (cs : List Char) :
    pieces ('$' :: '\x7b' :: cs) = dollar (cs.takeWhile fun c => decide (c ≠ '\x7d')) ::
      pieces ((cs.dropWhile fun c => decide (c ≠ '\x7d')).drop 1) := by
  rw [pieces]

theorem pieces_dollar (hbrace : cs.head? ≠ some '\x7b') :
    pieces ('$' :: cs) = dollar (cs.takeWhile isName) :: pieces (cs.dropWhile isName) := by
  rw [pieces]
  rintro cs' rfl
  exact hbrace rfl

theorem pieces_char (hc : c ≠ '$') : pieces (c :: cs) = .char c :: pieces cs := by
  rw [pieces]
  · rintro _ rfl
    contradiction
  · rintro rfl
    contradiction

theorem dollar_of_ne_nil (hne : name ≠ []) : dollar name = .reference (String.ofList name) := by
  simp [dollar, hne]

theorem Begins.pieces_eq (h : Begins cs name rest) :
    pieces cs = .reference (String.ofList name) :: pieces rest := by
  cases h with
  | braced hne hname =>
    rw [pieces_brace, takeWhile_braced hname, dropWhile_braced hname, dollar_of_ne_nil hne]
    rfl
  | bare hne hname hrest =>
    rw [pieces_dollar (head?_ne_brace hne hname rest), takeWhile_append_of_head? hname hrest,
      dropWhile_append_of_head? hname hrest, dollar_of_ne_nil hne]

theorem span_of_not_begins (h : ∀ name rest, ¬Begins ('$' :: cs) name rest) :
    cs.takeWhile isName = [] ∧ cs.dropWhile isName = cs := by
  have hsplit := List.takeWhile_append_dropWhile (p := isName) (l := cs)
  have hname : ∀ c ∈ cs.takeWhile isName, isName c = true := fun _ hc => List.mem_takeWhile_imp hc
  have hrest : ∀ c ∈ (cs.dropWhile isName).head?, isName c = false := by
    intro c hc
    have hnot := List.head?_dropWhile_not isName cs
    rw [Option.mem_def.1 hc] at hnot
    simpa using hnot
  have hnil : cs.takeWhile isName = [] := by
    by_contra hne
    have hbegins := Begins.bare hne hname hrest
    rw [hsplit] at hbegins
    exact h _ _ hbegins
  rw [hnil, List.nil_append] at hsplit
  exact ⟨hnil, hsplit⟩

theorem pieces_of_not_begins (h : ∀ name rest, ¬Begins (c :: cs) name rest)
    (hbrace : c = '$' → cs.head? ≠ some '\x7b') : pieces (c :: cs) = .char c :: pieces cs := by
  by_cases hc : c = '$'
  · subst hc
    obtain ⟨hnil, hall⟩ := span_of_not_begins h
    rw [pieces_dollar (hbrace rfl), hnil, hall]
    rfl
  · exact pieces_char hc

theorem Scans.eq_pieces (h : Scans cs ps) : ps = pieces cs := by
  induction h with
  | nil => rw [pieces]
  | reference h _ ih => rw [h.pieces_eq, ih]
  | char h hbrace _ ih => rw [pieces_of_not_begins h hbrace, ih]
  | unclosed hne hname =>
    have htake := List.takeWhile_eq_self_iff.2 (ne_brace_of_mem hname)
    have hdrop := List.dropWhile_eq_nil_iff.2 (ne_brace_of_mem hname)
    rw [pieces_brace, htake, hdrop, dollar_of_ne_nil hne, List.drop_nil, pieces]
  | unnamed _ ih =>
    rw [pieces_brace, ih]
    rfl
  | lone => simp [pieces, dollar]

theorem head?_of_not_brace (hbrace : ∀ cs', cs = '\x7b' :: cs' → False) :
    cs.head? ≠ some '\x7b' := by
  intro h
  obtain ⟨cs', rfl⟩ := List.head?_eq_some_iff.1 h
  exact hbrace cs' rfl

theorem scans_brace (h : Scans ((cs.dropWhile fun c => decide (c ≠ '\x7d')).drop 1) ps) :
    Scans ('$' :: '\x7b' :: cs) (dollar (cs.takeWhile fun c => decide (c ≠ '\x7d')) :: ps) := by
  have hsplit := List.takeWhile_append_dropWhile (p := fun c => decide (c ≠ '\x7d')) (l := cs)
  have hname : '\x7d' ∉ cs.takeWhile fun c => decide (c ≠ '\x7d') := by
    intro hmem
    simpa using List.mem_takeWhile_imp hmem
  generalize cs.takeWhile (fun c => decide (c ≠ '\x7d')) = name at hsplit hname ⊢
  cases hrest : cs.dropWhile fun c => decide (c ≠ '\x7d') with
  | nil =>
    rw [hrest, List.append_nil] at hsplit
    rw [hrest] at h
    cases h with
    | nil =>
      subst hsplit
      by_cases hne : name = []
      · rw [hne]
        exact .lone
      · rw [dollar_of_ne_nil hne]
        exact .unclosed hne hname
    | reference h _ => exact absurd h not_begins_nil
  | cons d rest =>
    have hd := List.head?_dropWhile_not (fun c => decide (c ≠ '\x7d')) cs
    rw [hrest, List.head?_cons] at hd
    obtain rfl : d = '\x7d' := by simpa using hd
    rw [hrest] at hsplit h
    subst hsplit
    by_cases hne : name = []
    · rw [hne]
      exact .unnamed h
    · rw [dollar_of_ne_nil hne]
      exact .reference (.braced hne hname) h

theorem scans_dollar (hbrace : cs.head? ≠ some '\x7b') (h : Scans (cs.dropWhile isName) ps) :
    Scans ('$' :: cs) (dollar (cs.takeWhile isName) :: ps) := by
  by_cases hbegins : ∃ name rest, Begins ('$' :: cs) name rest
  · obtain ⟨name, rest, hbegins⟩ := hbegins
    obtain ⟨hne, hname, hrest, rfl⟩ := hbegins.of_not_brace hbrace
    rw [dropWhile_append_of_head? hname hrest] at h
    rw [takeWhile_append_of_head? hname hrest, dollar_of_ne_nil hne]
    exact .reference hbegins h
  · have hnone : ∀ name rest, ¬Begins ('$' :: cs) name rest :=
      fun name rest h => hbegins ⟨name, rest, h⟩
    obtain ⟨hnil, hall⟩ := span_of_not_begins hnone
    rw [hall] at h
    rw [hnil]
    exact .char hnone (fun _ => hbrace) h

theorem scans_pieces (cs : List Char) : Scans cs (pieces cs) := by
  fun_induction pieces cs with
  | case1 cs ih => exact scans_brace ih
  | case2 cs hbrace ih => exact scans_dollar (head?_of_not_brace hbrace) ih
  | case3 c cs _ hdollar ih =>
    have hc : c ≠ '$' := hdollar
    exact .char (fun _ _ h => hc h.dollar) (fun h => absurd h hc) ih
  | case4 => exact .nil

/-! ### Where both differ -/

theorem Scans.length_le (h : Scans cs qs) (hr : Reads cs ps) :
    qs.length ≤ ps.length ∧ (Strays cs → qs.length < ps.length) := by
  have hdollar : ∀ {c cs}, c ≠ '$' → ∀ name rest, ¬Begins (c :: cs) name rest :=
    fun hc _ _ h => hc h.dollar
  induction h generalizing ps with
  | nil => exact ⟨Nat.zero_le _, nofun⟩
  | reference h _ ih =>
    obtain ⟨ps, rfl, hrest⟩ := hr.of_begins h
    obtain ⟨hle, hlt⟩ := ih hrest
    refine ⟨Nat.succ_le_succ hle, fun hs => Nat.succ_lt_succ (hlt ?_)⟩
    cases hs with
    | here h' => exact absurd h (h' _ _)
    | reference h' hs =>
      obtain ⟨_, rfl⟩ := h.unique h'
      exact hs
    | char h' _ => exact absurd h (h' _ _)
  | char h hbrace _ ih =>
    obtain ⟨ps, rfl, hcs⟩ := hr.of_not_begins h
    obtain ⟨hle, hlt⟩ := ih hcs
    refine ⟨Nat.succ_le_succ hle, fun hs => Nat.succ_lt_succ (hlt ?_)⟩
    cases hs with
    | here _ => exact absurd rfl (hbrace rfl)
    | reference h' _ => exact absurd h' (h _ _)
    | char _ hs => exact hs
  | unclosed hne hname =>
    obtain ⟨ps, rfl, hbrace⟩ := hr.of_not_begins fun _ _ => not_begins_unclosed hname
    obtain ⟨ps, rfl, _⟩ := hbrace.of_not_begins (hdollar (by decide))
    simp
  | unnamed _ ih =>
    obtain ⟨ps, rfl, hopen⟩ := hr.of_not_begins fun _ _ => not_begins_unnamed
    obtain ⟨ps, rfl, hclose⟩ := hopen.of_not_begins (hdollar (by decide))
    obtain ⟨ps, rfl, hcs⟩ := hclose.of_not_begins (hdollar (by decide))
    have := (ih hcs).1
    simp only [List.length_cons]
    omega
  | lone =>
    obtain ⟨ps, rfl, hbrace⟩ := hr.of_not_begins fun _ _ => not_begins_unclosed List.not_mem_nil
    obtain ⟨ps, rfl, _⟩ := hbrace.of_not_begins (hdollar (by decide))
    simp

theorem Reads.scans (hr : Reads cs ps) (h : ¬Strays cs) : Scans cs ps := by
  induction hr with
  | nil => exact .nil
  | reference hbegins _ ih => exact .reference hbegins (ih fun hs => h (.reference hbegins hs))
  | char hnone _ ih =>
    refine .char hnone ?_ (ih fun hs => h (.char hnone hs))
    rintro rfl hbrace
    obtain ⟨_, rfl⟩ := List.head?_eq_some_iff.1 hbrace
    exact h (.here hnone)

/-- A text is expanded as it is read if and only if it has no stray braces. -/
theorem Reads.eq_pieces_iff (hr : Reads cs ps) : pieces cs = ps ↔ ¬Strays cs := by
  constructor
  · rintro rfl hs
    exact Nat.lt_irrefl _ (((scans_pieces cs).length_le hr).2 hs)
  · intro h
    exact (hr.scans h).eq_pieces.symm

/-! ### Expanding -/

def firstUnset? (value? : String → Option String) (ps : List Piece) : Option String :=
  (ps.filterMap Piece.name?).find? fun name => (value? name).isNone

/-- Every piece is replaced, or the first name without a value is the failure. -/
structure Expands (value? : String → Option String) (fail : String → ε) (ps : List Piece)
    (result : Except ε String) : Prop where
  ok_iff : ∀ t, result = .ok t ↔ ∃ ts, ps.mapM (Piece.text? value?) = some ts ∧ t = String.join ts
  error_iff : ∀ e, result = .error e ↔ ∃ name, firstUnset? value? ps = some name ∧ e = fail name

theorem map_append_eq_ok_iff {result : Except ε String} {s t : String} :
    result.map (s ++ ·) = .ok t ↔ ∃ u, result = .ok u ∧ t = s ++ u := by
  cases result <;> simp [Except.map, eq_comm]

theorem map_append_eq_error_iff {result : Except ε String} {s : String} {e : ε} :
    result.map (s ++ ·) = .error e ↔ result = .error e := by
  cases result <;> simp [Except.map]

theorem join_cons_iff {α : Type} {p : α} {ps : List α} {text? : α → Option String} {s t : String}
    (hp : text? p = some s) :
    (∃ ts, (p :: ps).mapM text? = some ts ∧ t = String.join ts) ↔
      ∃ u, (∃ ts, ps.mapM text? = some ts ∧ u = String.join ts) ∧ t = s ++ u := by
  simp only [List.mapM_cons, hp, Option.pure_def, Option.bind_eq_bind, Option.bind_some,
    Option.bind_eq_some_iff, Option.some.injEq]
  constructor
  · rintro ⟨_, ⟨ts, hts, rfl⟩, rfl⟩
    exact ⟨_, ⟨ts, hts, rfl⟩, String.join_cons⟩
  · rintro ⟨_, ⟨ts, hts, rfl⟩, rfl⟩
    exact ⟨_, ⟨ts, hts, rfl⟩, String.join_cons.symm⟩

variable {value? : String → Option String}

theorem substitute_eq_ok_iff {t : String} : substitute value? ps = .ok t ↔
    ∃ ts, ps.mapM (Piece.text? value?) = some ts ∧ t = String.join ts := by
  induction ps generalizing t with
  | nil => simp [substitute, eq_comm]
  | cons p ps ih =>
    cases p with
    | char c =>
      have hp : Piece.text? value? (.char c) = some c.toString := rfl
      rw [substitute, map_append_eq_ok_iff, join_cons_iff hp]
      simp only [ih]
    | reference name =>
      rw [substitute]
      cases hvalue : value? name with
      | none => simp [Piece.text?, hvalue]
      | some s =>
        have hp : Piece.text? value? (.reference name) = some s := hvalue
        rw [map_append_eq_ok_iff, join_cons_iff hp]
        simp only [ih]

theorem substitute_eq_error_iff {name : String} :
    substitute value? ps = .error name ↔ firstUnset? value? ps = some name := by
  induction ps with
  | nil => simp [substitute, firstUnset?]
  | cons p ps ih =>
    cases p with
    | char c =>
      rw [substitute, map_append_eq_error_iff, ih]
      rfl
    | reference name' =>
      rw [substitute]
      cases hvalue : value? name' with
      | none => simp [firstUnset?, Piece.name?, hvalue]
      | some s =>
        rw [map_append_eq_error_iff, ih]
        simp [firstUnset?, Piece.name?, hvalue]

theorem expands_substitute (value? : String → Option String) (ps : List Piece) :
    Expands value? id ps (substitute value? ps) :=
  ⟨fun _ => substitute_eq_ok_iff, fun _ => by simp [substitute_eq_error_iff]⟩

theorem Expands.mapError {result : Except String String} (h : Expands value? id ps result)
    (fail : String → ε) : Expands value? fail ps (result.mapError fail) := by
  cases result with
  | ok t =>
    refine ⟨fun u => ?_, fun e => ?_⟩
    · simpa [Except.mapError] using h.ok_iff u
    · have hnone := fun name => (h.error_iff name).not.1 nofun
      simpa [Except.mapError] using fun name hname => absurd ⟨name, hname, rfl⟩ (hnone name)
  | error name =>
    refine ⟨fun u => ?_, fun e => ?_⟩
    · simpa [Except.mapError] using h.ok_iff u
    · obtain ⟨_, hname, rfl⟩ := (h.error_iff name).1 rfl
      simp [Except.mapError, hname, eq_comm]

/--
A text is read in one way and expanded in one way, and the two are the same if and only if it has no
stray braces. An expansion replaces every reference by its value and copies every character, or else
it fails with the first name without a value, and the path of a database is expanded alike.
-/
theorem expand_scanned (value? : String → Option String) (s : String) :
    ∃ ps qs, (∀ ps', Reads s.toList ps' ↔ ps' = ps) ∧ (∀ qs', Scans s.toList qs' ↔ qs' = qs) ∧
      (qs = ps ↔ ¬Strays s.toList) ∧ Expands value? id qs (expand value? s) ∧
      ∀ settings : Settings,
        Expands value? .unsetVariable qs ({ settings with path := s }.databasePath value?) := by
  obtain ⟨ps, hps⟩ := exists_reads s.toList
  have hexpand : Expands value? id (pieces s.toList) (expand value? s) := expands_substitute _ _
  refine ⟨ps, pieces s.toList, fun ps' => ⟨fun h => h.unique hps, ?_⟩,
    fun qs' => ⟨Scans.eq_pieces, ?_⟩, hps.eq_pieces_iff, hexpand, fun _ => hexpand.mapError _⟩
  · rintro rfl
    exact hps
  · rintro rfl
    exact scans_pieces _

theorem reads_braces : Reads ['$', '\x7b', '\x7d'] [.char '$', .char '\x7b', .char '\x7d'] :=
  .char (fun _ _ => not_begins_unnamed) (.char (fun _ _ h => by cases h)
    (.char (fun _ _ h => by cases h) .nil))

/-- Of a dollar sign with empty braces only the sign is left. -/
theorem not_expands_braces :
    ¬∀ (value? : String → Option String) (s : String) (ps : List Piece),
      Reads s.toList ps → Expands value? id ps (expand value? s) := by
  intro h
  have hread := h (fun _ => none) "$\x7b\x7d" _ reads_braces
  have hcopied : expand (fun _ => none) "$\x7b\x7d" = .ok "$\x7b\x7d" :=
    (hread.ok_iff _).2 ⟨["$", "\x7b", "\x7d"], rfl, rfl⟩
  have hdropped : expand (fun _ => none) "$\x7b\x7d" = .ok "$" := by
    have hpieces : pieces "$\x7b\x7d".toList = [.char '$'] := (Scans.unnamed .nil).eq_pieces.symm
    rw [expand, hpieces]
    rfl
  rw [hdropped] at hcopied
  simp at hcopied

end Template
end Vacancy.Text
