import CheckIn.Text.Parts
import Mathlib.Data.List.Basic
import Mathlib.Data.List.TakeWhile

/-! Filling in templates. A word in braces stands for a value, and a single pass from the left puts
all values in their places. Two passes, some words in the first and the others in the second, come to
the same unless the first makes a word of the second: a value and the text around it, between braces
of the template, may spell one. -/

namespace CheckIn.Text

/-- Words with their values. -/
abbrev Values : Type := List (List Char × List Char)

def braced (word : List Char) : List Char := '{' :: (word ++ ['}'])

/-- Puts the values of words in place of the words in braces, in a single pass from the left. The
first `skip` characters belong to a word that has got its value. -/
def fillIn (values : Values) : (skip : Nat) → List Char → List Char
  | _, [] => []
  | skip + 1, _ :: rest => fillIn values skip rest
  | 0, c :: rest =>
    match values.find? fun v => (braced v.1).isPrefixOf (c :: rest) with
    | some (word, value) => value ++ fillIn values ((braced word).length - 1) rest
    | none => c :: fillIn values 0 rest

/-- Braces of a template come to stand around a word of `later`, once the words of `first` between
them have got their values. -/
def Spliced (first later : Values) (template : List Char) : Prop :=
  ∃ before inner after, template = before ++ '{' :: (inner ++ '}' :: after) ∧
    (∃ v ∈ first, braced v.1 <:+: inner) ∧ (later.lookup (fillIn first 0 inner)).isSome

/-- Replacing a word in braces is a pass with this word alone. -/
theorem replace_braced (word value cs : List Char) (skip : Nat) :
    replace (braced word) value skip cs = fillIn [(word, value)] skip cs := by
  induction cs generalizing skip with
  | nil => cases skip <;> rfl
  | cons c cs ih =>
    cases skip with
    | succ skip => exact ih skip
    | zero =>
      unfold replace fillIn
      by_cases h : (braced word).isPrefixOf (c :: cs) = true <;> simp [h, ih]

/-! ### Texts without braces -/

def isBrace (c : Char) : Bool := c == '{' || c == '}'

def Plain (cs : List Char) : Prop := ∀ c ∈ cs, isBrace c = false

variable {values first later : Values} {cs cs' rest rest' w u : List Char} {c : Char}

theorem plain_append : Plain (cs ++ cs') ↔ Plain cs ∧ Plain cs' := List.forall_mem_append

theorem Plain.not_mem (h : Plain cs) : '{' ∉ cs ∧ '}' ∉ cs :=
  ⟨fun hc => Bool.noConfusion (h _ hc), fun hc => Bool.noConfusion (h _ hc)⟩

/-- What comes before the first brace is plain. -/
theorem takeWhile_plain (cs : List Char) : Plain (cs.takeWhile (!isBrace ·)) := fun c hc => by
  simpa using List.mem_takeWhile_imp hc

/-- The stretches before the first braces of equal texts are equal, and so is what follows. -/
theorem append_inj_of_plain (hw : Plain w) (hu : Plain u) (hrest : ∀ c ∈ rest.head?, isBrace c)
    (hrest' : ∀ c ∈ rest'.head?, isBrace c) (h : w ++ rest = u ++ rest') :
    w = u ∧ rest = rest' := by
  have hstretch : ∀ {w rest : List Char}, Plain w → (∀ c ∈ rest.head?, isBrace c) →
      (w ++ rest).takeWhile (!isBrace ·) = w := by
    intro w rest hw hrest
    rw [List.takeWhile_append_of_pos fun c hc => by simp [hw c hc]]
    cases rest with
    | nil => simp
    | cons c rest => simp [hrest c rfl]
  have heq : w = u := by rw [← hstretch hw hrest, h, hstretch hu hrest']
  subst heq
  exact ⟨rfl, List.append_cancel_left h⟩

/-- A word in braces at the front of a text is the only one. -/
theorem braced_prefix_iff (hw : Plain w) (hu : Plain u) :
    braced u <+: braced w ++ rest ↔ u = w := by
  constructor
  · rintro ⟨more, h⟩
    simp only [braced, List.cons_append, List.append_assoc, List.cons.injEq, true_and,
      List.nil_append] at h
    exact (append_inj_of_plain hu hw (by simp [isBrace]) (by simp [isBrace]) h).1
  · rintro rfl
    exact List.prefix_append ..

/-- No word in braces stands at an opening brace that another one, or the end, comes after. -/
theorem not_braced_prefix (hw : Plain w) (hu : Plain u) (hrest : ∀ c ∈ rest.head?, c = '{') :
    ¬braced u <+: '{' :: (w ++ rest) := by
  rintro ⟨more, h⟩
  simp only [braced, List.cons_append, List.append_assoc, List.cons.injEq, true_and,
    List.nil_append] at h
  obtain ⟨-, rfl⟩ := append_inj_of_plain hu hw (by simp [isBrace])
    (fun c hc => by simp [isBrace, hrest c hc]) h
  simpa using hrest '}' rfl

/-- A text goes on with a character that opens nothing, a word in braces, or an opening brace that
is not closed before the next one. -/
theorem braces_induction {P : List Char → Prop} (nil : P [])
    (char : ∀ c rest, c ≠ '{' → P rest → P (c :: rest))
    (word : ∀ w rest, Plain w → P rest → P (braced w ++ rest))
    (lone : ∀ w rest, Plain w → (∀ c ∈ rest.head?, c = '{') → P rest → P ('{' :: (w ++ rest)))
    (cs : List Char) : P cs := by
  induction hn : cs.length using Nat.strong_induction_on generalizing cs with
  | _ n ih =>
  subst hn
  cases cs with
  | nil => exact nil
  | cons c cs =>
    by_cases hc : c = '{'
    case neg => exact char c cs hc (ih cs.length (by simp) cs rfl)
    subst hc
    have hw := takeWhile_plain cs
    have hcs := (cs.takeWhile_append_dropWhile : cs.takeWhile (!isBrace ·) ++ _ = cs)
    have hlength := congrArg List.length hcs
    rw [List.length_append] at hlength
    generalize cs.takeWhile (!isBrace ·) = w at *
    cases hrest : cs.dropWhile (!isBrace ·) with
    | nil =>
      rw [hrest] at hcs
      exact hcs ▸ lone w [] hw (by simp) nil
    | cons d rest =>
      have hd : isBrace d := by
        have := List.head?_dropWhile_not (!isBrace ·) cs
        simpa [hrest] using this
      rw [hrest] at hcs hlength
      simp only [isBrace, Bool.or_eq_true, beq_iff_eq] at hd
      rcases hd with rfl | rfl
      · refine hcs ▸ lone w ('{' :: rest) hw (by simp) (ih _ ?_ _ rfl)
        simp at hlength ⊢
        omega
      · have hword := word w rest hw (ih rest.length (by simp at hlength ⊢; omega) rest rfl)
        simpa [braced, ← hcs] using hword

/-! ### A single pass -/

/-- The words of a table are plain. -/
def Values.WordsPlain (values : Values) : Prop := ∀ v ∈ values, Plain v.1

@[simp] theorem fillIn_nil (skip : Nat) : fillIn values skip [] = [] := by cases skip <;> rfl

theorem fillIn_length_append (cs rest : List Char) :
    fillIn values cs.length (cs ++ rest) = fillIn values 0 rest := by
  induction cs with
  | nil => rfl
  | cons c cs ih => exact ih

theorem fillIn_of_unmarked (h : ∀ v ∈ values, ¬braced v.1 <+: c :: rest) :
    fillIn values 0 (c :: rest) = c :: fillIn values 0 rest := by
  have hnone : values.find? (fun v => (braced v.1).isPrefixOf (c :: rest)) = none :=
    List.find?_eq_none.mpr fun v hv => by simpa [List.isPrefixOf_iff_prefix] using h v hv
  rw [fillIn, hnone]

theorem fillIn_cons (hc : c ≠ '{') : fillIn values 0 (c :: rest) = c :: fillIn values 0 rest := by
  refine fillIn_of_unmarked fun v _ h => hc ?_
  obtain ⟨more, hmore⟩ := h
  exact (List.cons.inj hmore).1.symm

/-- Characters that open nothing stay. -/
theorem fillIn_append (hcs : '{' ∉ cs) :
    fillIn values 0 (cs ++ rest) = cs ++ fillIn values 0 rest := by
  induction cs with
  | nil => rfl
  | cons c cs ih =>
    obtain ⟨hc, hcs⟩ := not_or.mp (List.mem_cons.not.mp hcs)
    rw [List.cons_append, fillIn_cons (Ne.symm hc), ih hcs, List.cons_append]

theorem find?_braced (hvalues : values.WordsPlain) (hw : Plain w) (rest : List Char) :
    values.find? (fun v => (braced v.1).isPrefixOf (braced w ++ rest)) =
      (values.lookup w).map (w, ·) := by
  induction values with
  | nil => rfl
  | cons v values ih =>
    obtain ⟨hv, hvalues⟩ := List.forall_mem_cons.mp hvalues
    rw [List.find?_cons, List.lookup_cons]
    by_cases h : v.1 = w
    · subst h
      have hstarts : (braced v.1).isPrefixOf (braced v.1 ++ rest) = true :=
        List.isPrefixOf_iff_prefix.mpr (List.prefix_append ..)
      simp [hstarts]
    · have hstarts : (braced v.1).isPrefixOf (braced w ++ rest) = false := by
        rw [← Bool.not_eq_true, List.isPrefixOf_iff_prefix, braced_prefix_iff hw hv]
        exact h
      simp [hstarts, ih hvalues, beq_eq_false_iff_ne.mpr (Ne.symm h)]

theorem braced_append (w rest : List Char) :
    braced w ++ rest = '{' :: (w ++ ['}'] ++ rest) := rfl

/-- A word in braces gives place to its value, if it has one. -/
theorem fillIn_braced (hvalues : values.WordsPlain) (hw : Plain w) (rest : List Char) :
    fillIn values 0 (braced w ++ rest) =
      (values.lookup w).getD (braced w) ++ fillIn values 0 rest := by
  have hfind := find?_braced hvalues hw rest
  cases hvalue : values.lookup w with
  | some value =>
    rw [hvalue] at hfind
    calc fillIn values 0 (braced w ++ rest)
        = value ++ fillIn values (w ++ ['}']).length (w ++ ['}'] ++ rest) := by
          rw [braced_append, fillIn, ← braced_append, hfind]
          rfl
      _ = value ++ fillIn values 0 rest := by rw [fillIn_length_append]
  | none =>
    rw [hvalue] at hfind
    have hnone : ∀ v ∈ values, ¬braced v.1 <+: braced w ++ rest := fun v hv => by
      simpa [List.isPrefixOf_iff_prefix] using List.find?_eq_none.mp hfind v hv
    have hplain : '{' ∉ w ++ ['}'] := by simpa using hw.not_mem.1
    calc fillIn values 0 (braced w ++ rest)
        = '{' :: fillIn values 0 (w ++ ['}'] ++ rest) := fillIn_of_unmarked hnone
      _ = braced w ++ fillIn values 0 rest := by rw [fillIn_append hplain]; rfl

/-- A brace that opens nothing stays, and so does the stretch after it. -/
theorem fillIn_lone (hvalues : values.WordsPlain) (hw : Plain w)
    (hrest : ∀ c ∈ rest.head?, c = '{') :
    fillIn values 0 ('{' :: (w ++ rest)) = '{' :: (w ++ fillIn values 0 rest) := by
  rw [fillIn_of_unmarked fun v hv => not_braced_prefix hw (hvalues v hv) hrest,
    fillIn_append hw.not_mem.1]

/-- What comes before an opening brace is filled in for itself. -/
theorem fillIn_append_open (hvalues : values.WordsPlain) (cs rest : List Char) :
    fillIn values 0 (cs ++ '{' :: rest) = fillIn values 0 cs ++ fillIn values 0 ('{' :: rest) := by
  induction cs using braces_induction with
  | nil => rfl
  | char c cs hc ih => rw [List.cons_append, fillIn_cons hc, fillIn_cons hc, ih, List.cons_append]
  | word w cs hw ih =>
    rw [List.append_assoc, fillIn_braced hvalues hw, fillIn_braced hvalues hw, ih,
      List.append_assoc]
  | lone w cs hw hcs ih =>
    have hmore : ∀ c ∈ (cs ++ '{' :: rest).head?, c = '{' := by
      cases cs with
      | nil => simp
      | cons c cs => simpa using hcs
    rw [List.cons_append, List.append_assoc, fillIn_lone hvalues hw hmore,
      fillIn_lone hvalues hw hcs, ih]
    simp

/-! ### Two passes -/

/-- The values of a table are plain. -/
def Values.ValuesPlain (values : Values) : Prop := ∀ v ∈ values, Plain v.2

/-- After an opening brace and the characters `u`, which the first pass has left, a text closes a
word of the second. -/
def Closes (first later : Values) (pending cs : List Char) : Prop :=
  ∃ u inner after, pending = '{' :: u ∧ cs = inner ++ '}' :: after ∧
    (later.lookup (u ++ fillIn first 0 inner)).isSome

/-- How a second pass over what is left of a text compares with a single pass over all, if the first
has left an opening brace with plain characters, or nothing, that is still to be gone through. -/
structure Compares (first later : Values) (pending cs : List Char) : Prop where
  same_or : fillIn later 0 (pending ++ fillIn first 0 cs) =
      pending ++ fillIn (first ++ later) 0 cs ∨
    Closes first later pending cs ∨ Spliced first later cs
  count_le : (fillIn later 0 (pending ++ fillIn first 0 cs)).count '{' ≤
    (pending ++ fillIn (first ++ later) 0 cs).count '{'

def Pending (pending : List Char) : Prop := pending = [] ∨ ∃ u, Plain u ∧ pending = '{' :: u

variable {pending pending' : List Char}

theorem Spliced.append_left (h : Spliced first later rest) (cs : List Char) :
    Spliced first later (cs ++ rest) := by
  obtain ⟨before, inner, after, rfl, h⟩ := h
  exact ⟨cs ++ before, inner, after, by simp, h⟩

theorem not_closes_nil : ¬Closes first later [] cs := by
  rintro ⟨u, inner, after, h, -⟩
  cases h

/-- Both go on alike. -/
theorem Compares.step (out : List Char) (h : Compares first later pending' rest)
    (htwice : fillIn later 0 (pending ++ fillIn first 0 cs) =
      out ++ fillIn later 0 (pending' ++ fillIn first 0 rest))
    (honce : pending ++ fillIn (first ++ later) 0 cs =
      out ++ (pending' ++ fillIn (first ++ later) 0 rest))
    (hcloses : Closes first later pending' rest →
      Closes first later pending cs ∨ Spliced first later cs)
    (hspliced : Spliced first later rest → Spliced first later cs) :
    Compares first later pending cs := by
  constructor
  · rw [htwice, honce]
    rcases h.same_or with hsame | hcl | hsp
    · exact .inl (congrArg (out ++ ·) hsame)
    · exact .inr (hcloses hcl)
    · exact .inr (.inr (hspliced hsp))
  · rw [htwice, honce, List.count_append, List.count_append]
    exact Nat.add_le_add_left h.count_le _

theorem mem_of_lookup {value : List Char} (h : values.lookup w = some value) :
    (w, value) ∈ values := by
  obtain ⟨before, after, rfl, -⟩ := List.lookup_eq_some_iff.mp h
  exact List.mem_append_right _ (List.mem_cons_self ..)

theorem Values.WordsPlain.of_lookup (hvalues : values.WordsPlain)
    (h : (values.lookup w).isSome) : Plain w := by
  obtain ⟨value, hvalue⟩ := Option.isSome_iff_exists.mp h
  exact hvalues _ (mem_of_lookup hvalue)

section Twice

variable (hfirst : first.WordsPlain) (hlater : later.WordsPlain) (hvalues : first.ValuesPlain)
  (hvalues' : later.ValuesPlain)

include hfirst hlater in
theorem wordsPlain_append : Values.WordsPlain (first ++ later) :=
  List.forall_mem_append.mpr ⟨hfirst, hlater⟩

include hlater in
/-- A pass over what is pending changes nothing. -/
theorem fillIn_pending (h : Pending pending) : fillIn later 0 pending = pending := by
  obtain rfl | ⟨u, hu, rfl⟩ := h
  · rfl
  · have hlone : fillIn later 0 ('{' :: (u ++ [])) = '{' :: (u ++ fillIn later 0 []) :=
      fillIn_lone hlater hu (by simp)
    simpa using hlone

include hlater in
/-- What is pending at an opening brace stays. -/
theorem fillIn_pending_open (h : Pending pending) (rest : List Char) :
    fillIn later 0 (pending ++ '{' :: rest) = pending ++ fillIn later 0 ('{' :: rest) := by
  rw [fillIn_append_open hlater, fillIn_pending hlater h]

include hlater hvalues' in
/-- A character that opens nothing: it stays, or joins those that are pending, or closes them. -/
theorem compares_char {c : Char} (hc : c ≠ '{')
    (ih : ∀ pending, Pending pending → Compares first later pending rest)
    (hpending : Pending pending) : Compares first later pending (c :: rest) := by
  have hfill : fillIn first 0 (c :: rest) = c :: fillIn first 0 rest := fillIn_cons hc
  have hfill' : fillIn (first ++ later) 0 (c :: rest) = c :: fillIn (first ++ later) 0 rest :=
    fillIn_cons hc
  obtain rfl | ⟨u, hu, rfl⟩ := hpending
  · refine (ih _ (.inl rfl)).step [c] ?_ ?_ (fun h => absurd h not_closes_nil)
      (Spliced.append_left · [c])
    · rw [hfill]
      exact fillIn_cons hc
    · rw [hfill']
      rfl
  by_cases hclose : c = '}'
  case neg =>
    have hplain : Plain (u ++ [c]) := plain_append.mpr ⟨hu, by simp [Plain, isBrace, hc, hclose]⟩
    refine (ih _ (.inr ⟨_, hplain, rfl⟩)).step [] ?_ ?_ ?_ (Spliced.append_left · [c])
    · simp [hfill]
    · simp [hfill']
    · rintro ⟨v, inner, after, hv, rfl, hlookup⟩
      cases hv
      refine .inl ⟨u, c :: inner, after, rfl, rfl, ?_⟩
      rw [fillIn_cons hc]
      simpa using hlookup
  subst hclose
  have htwice : fillIn later 0 ('{' :: u ++ fillIn first 0 ('}' :: rest)) =
      (later.lookup u).getD (braced u) ++ fillIn later 0 ([] ++ fillIn first 0 rest) := by
    rw [hfill]
    simpa [braced] using fillIn_braced hlater hu (fillIn first 0 rest)
  cases hlookup : later.lookup u with
  | none =>
    rw [hlookup] at htwice
    refine (ih _ (.inl rfl)).step (braced u) htwice ?_ (fun h => absurd h not_closes_nil)
      (Spliced.append_left · ['}'])
    simp [hfill', braced]
  | some value =>
    rw [hlookup] at htwice
    refine ⟨.inr (.inl ⟨u, [], rest, rfl, rfl, by simp [hlookup]⟩), ?_⟩
    have hnone : value.count '{' = 0 :=
      List.count_eq_zero.mpr (hvalues' _ (mem_of_lookup hlookup)).not_mem.1
    have hle := (ih _ (.inl rfl)).count_le
    rw [htwice, hfill', Option.getD_some, List.count_append, hnone]
    simp only [List.nil_append, List.cons_append, List.count_cons, List.count_append] at hle ⊢
    omega

include hfirst hlater hvalues in
/-- A word in braces: its value joins the characters that are pending, or they stay, and the second
pass may know the word. -/
theorem compares_word (hw : Plain w)
    (ih : ∀ pending, Pending pending → Compares first later pending rest)
    (hpending : Pending pending) : Compares first later pending (braced w ++ rest) := by
  have hfill := fillIn_braced hfirst hw rest
  have hfill' := fillIn_braced (wordsPlain_append hfirst hlater) hw rest
  rw [List.lookup_append] at hfill'
  cases hlookup : first.lookup w with
  | none =>
    rw [hlookup] at hfill hfill'
    simp only [Option.getD_none, Option.none_or] at hfill hfill'
    refine (ih _ (.inl rfl)).step (pending ++ (later.lookup w).getD (braced w)) ?_ ?_
      (fun h => absurd h not_closes_nil) (Spliced.append_left · _)
    · rw [hfill, braced_append, fillIn_pending_open hlater hpending, ← braced_append,
        fillIn_braced hlater hw]
      simp
    · rw [hfill']
      simp
  | some value =>
    have hvalue := hvalues _ (mem_of_lookup hlookup)
    rw [hlookup] at hfill hfill'
    simp only [Option.getD_some, Option.some_or] at hfill hfill'
    obtain rfl | ⟨u, hu, rfl⟩ := hpending
    · refine (ih _ (.inl rfl)).step value ?_ ?_ (fun h => absurd h not_closes_nil)
        (Spliced.append_left · _)
      · rw [hfill]
        exact fillIn_append hvalue.not_mem.1
      · rw [hfill']
        rfl
    · refine (ih _ (.inr ⟨_, plain_append.mpr ⟨hu, hvalue⟩, rfl⟩)).step [] ?_ ?_ ?_
        (Spliced.append_left · _)
      · simp [hfill]
      · simp [hfill']
      · rintro ⟨v, inner, after, hv, rfl, hclosed⟩
        cases hv
        refine .inl ⟨u, braced w ++ inner, after, rfl, by simp, ?_⟩
        rw [fillIn_braced hfirst hw, hlookup]
        simpa using hclosed

include hfirst hlater in
/-- An opening brace: what was pending stays, and the characters after it are pending now. If a word
is closed later, the first pass must have put in a value before that. -/
theorem compares_lone (hw : Plain w) (hrest : ∀ c ∈ rest.head?, c = '{')
    (ih : ∀ pending, Pending pending → Compares first later pending rest)
    (hpending : Pending pending) : Compares first later pending ('{' :: (w ++ rest)) := by
  have hfill := fillIn_lone hfirst hw hrest
  refine (ih _ (.inr ⟨w, hw, rfl⟩)).step pending ?_ ?_ ?_ fun h => by
    simpa using h.append_left ('{' :: w)
  · rw [hfill, fillIn_pending_open hlater hpending]
    rfl
  · rw [fillIn_lone (wordsPlain_append hfirst hlater) hw hrest]
    rfl
  · rintro ⟨v, inner, after, hv, rfl, hclosed⟩
    cases hv
    refine .inr ⟨[], w ++ inner, after, by simp, ?_, by rwa [fillIn_append hw.not_mem.1]⟩
    have hplain : Plain (fillIn first 0 inner) := (plain_append.mp (hlater.of_lookup hclosed)).2
    cases inner with
    | nil => exact absurd (hrest '}' rfl) (by decide)
    | cons c inner =>
      obtain rfl : c = '{' := hrest c rfl
      by_contra hnone
      rw [fillIn_of_unmarked fun v hv h => hnone ⟨v, hv, ?_⟩] at hplain
      · exact hplain.not_mem.1 (List.mem_cons_self ..)
      · exact h.isInfix.trans (List.suffix_append ..).isInfix

include hfirst hlater hvalues hvalues' in
theorem compares (cs : List Char) :
    ∀ pending, Pending pending → Compares first later pending cs := by
  induction cs using braces_induction with
  | nil =>
    intro pending hpending
    have hsame := fillIn_pending hlater hpending
    exact ⟨.inl (by simpa using hsame), by simp [hsame]⟩
  | char c rest hc ih => exact fun _ => compares_char hlater hvalues' hc ih
  | word w rest hw ih => exact fun _ => compares_word hfirst hlater hvalues hw ih
  | lone w rest hw hrest ih => exact fun _ => compares_lone hfirst hlater hw hrest ih

/-! ### Spliced words -/

include hfirst hlater in
/-- What the first pass leaves without an opening brace it has filled in for itself, and a single
pass with more words comes to the same there. -/
theorem fillIn_append_of_filled (cs rest : List Char) (h : '{' ∉ fillIn first 0 cs) :
    fillIn (first ++ later) 0 (cs ++ rest) = fillIn first 0 cs ++ fillIn (first ++ later) 0 rest := by
  have hboth := wordsPlain_append hfirst hlater
  induction cs using braces_induction with
  | nil => simp
  | char c cs hc ih =>
    rw [fillIn_cons hc] at h ⊢
    rw [List.cons_append, fillIn_cons hc, ih (fun hmem => h (List.mem_cons_of_mem _ hmem)),
      List.cons_append]
  | word w cs hw ih =>
    rw [fillIn_braced hfirst hw] at h ⊢
    rw [List.append_assoc, fillIn_braced hboth hw, List.lookup_append,
      ih fun hmem => h (List.mem_append_right _ hmem)]
    cases hlookup : first.lookup w with
    | some value => simp
    | none => simp [hlookup, braced] at h
  | lone w cs hw hcs _ =>
    rw [fillIn_lone hfirst hw hcs] at h
    exact absurd (List.mem_cons_self ..) h

/-- A text that the first pass leaves plain, though it has an opening brace, begins with plain
characters up to that brace. -/
theorem exists_open (hmem : '{' ∈ cs) (hplain : Plain (fillIn first 0 cs)) :
    ∃ w rest, Plain w ∧ cs = w ++ '{' :: rest := by
  induction cs with
  | nil => cases hmem
  | cons c cs ih =>
    by_cases hc : c = '{'
    · exact ⟨[], cs, List.forall_mem_nil _, by simp [hc]⟩
    · rw [fillIn_cons hc] at hplain
      obtain ⟨hbrace, hplain⟩ := List.forall_mem_cons.mp hplain
      obtain ⟨w, rest, hw, rfl⟩ :=
        ih ((List.mem_cons.mp hmem).resolve_left (Ne.symm hc)) hplain
      exact ⟨c :: w, rest, List.forall_mem_cons.mpr ⟨hbrace, hw⟩, rfl⟩

include hfirst hlater in
/-- The braces around a text that the first pass leaves plain stay, if the text has braces itself. -/
theorem fillIn_enclosed {inner : List Char} (hmem : '{' ∈ inner)
    (hplain : Plain (fillIn first 0 inner)) (after : List Char) :
    fillIn (first ++ later) 0 ('{' :: (inner ++ '}' :: after)) =
      braced (fillIn first 0 inner) ++ fillIn (first ++ later) 0 after := by
  obtain ⟨w, rest, hw, heq⟩ := exists_open hmem hplain
  have hhead : ∀ c ∈ ('{' :: rest ++ '}' :: after).head?, c = '{' := by simp
  have hlone := fillIn_lone (wordsPlain_append hfirst hlater) hw hhead
  calc fillIn (first ++ later) 0 ('{' :: (inner ++ '}' :: after))
      = '{' :: fillIn (first ++ later) 0 (inner ++ '}' :: after) := by
        rw [← fillIn_append hw.not_mem.1, ← List.append_assoc, ← heq] at hlone
        exact hlone
    _ = '{' :: (fillIn first 0 inner ++ '}' :: fillIn (first ++ later) 0 after) := by
        rw [fillIn_append_of_filled hfirst hlater inner _ hplain.not_mem.1, fillIn_cons (by decide)]
    _ = braced (fillIn first 0 inner) ++ fillIn (first ++ later) 0 after := by simp [braced]

include hfirst hlater hvalues hvalues' in
/-- Where a word is spliced, the second pass takes an opening brace away that a single pass
leaves. -/
theorem count_lt_of_spliced (h : Spliced first later cs) :
    (fillIn later 0 (fillIn first 0 cs)).count '{' < (fillIn (first ++ later) 0 cs).count '{' := by
  obtain ⟨before, inner, after, rfl, ⟨v, -, hinfix⟩, hlookup⟩ := h
  have hmem : '{' ∈ inner := hinfix.subset (List.mem_cons_self ..)
  have hplain := hlater.of_lookup hlookup
  obtain ⟨value, hvalue⟩ := Option.isSome_iff_exists.mp hlookup
  have hnone : value.count '{' = 0 :=
    List.count_eq_zero.mpr (hvalues' _ (mem_of_lookup hvalue)).not_mem.1
  have hcount (cs : List Char) := (compares hfirst hlater hvalues hvalues' cs [] (.inl rfl)).count_le
  have hbefore := hcount before
  have hafter := hcount after
  have henclosed := fillIn_enclosed hfirst hlater hmem hplain after
  have henclosed_first : fillIn (first ++ []) 0 ('{' :: (inner ++ '}' :: after)) = _ :=
    fillIn_enclosed hfirst (List.forall_mem_nil _) hmem hplain after
  rw [List.append_nil] at henclosed_first
  rw [fillIn_append_open (wordsPlain_append hfirst hlater), henclosed, fillIn_append_open hfirst,
    henclosed_first, braced_append, fillIn_append_open hlater, ← braced_append,
    fillIn_braced hlater hplain, hvalue]
  simp only [Option.getD_some, List.count_append, hnone, List.nil_append, braced,
    List.count_cons_self] at *
  omega

include hfirst hlater hvalues hvalues' in
/-- Two passes come to the same as one exactly if the first splices no word of the second. -/
theorem fillIn_fillIn_eq_iff :
    fillIn later 0 (fillIn first 0 cs) = fillIn (first ++ later) 0 cs ↔
      ¬Spliced first later cs := by
  constructor
  · intro heq hspliced
    have hlt := count_lt_of_spliced hfirst hlater hvalues hvalues' hspliced
    rw [heq] at hlt
    exact absurd hlt (Nat.lt_irrefl _)
  · intro hnone
    rcases (compares hfirst hlater hvalues hvalues' cs [] (.inl rfl)).same_or with h | h | h
    · exact h
    · exact absurd h not_closes_nil
    · exact absurd h hnone

end Twice

end CheckIn.Text
