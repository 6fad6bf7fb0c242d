import CheckIn.Selector.Parser

/-! The grammar of selectors. A selector is written as terms joined by `&&`, with blanks wherever
they do no harm. The rules say which characters write a term or a list of terms, and `Joins` says
which selector a list of terms makes. Nothing in them tells how a text is read. -/

namespace CheckIn.Selector

/-- A run of blanks, which may be empty. -/
def Blanks (ws : List Char) : Prop := ∀ c ∈ ws, Text.isBlank c = true

instance (ws : List Char) : Decidable (Blanks ws) :=
  decidable_of_iff (ws.all Text.isBlank = true) List.all_eq_true

/-- The characters between the quotes of a literal, and the text that they stand for. -/
inductive Quoted : (body value : List Char) → Prop
  | nil : Quoted [] []
  | plain {c : Char} {body value : List Char} :
      c ≠ '"' → c ≠ '\\' → Quoted body value → Quoted (c :: body) (c :: value)
  | escaped {c : Char} {body value : List Char} :
      Quoted body value → Quoted ('\\' :: c :: body) (c :: value)

inductive Literal : List Char → String → Prop
  | quotes {body value : List Char} :
      Quoted body value → Literal ('"' :: body ++ ['"']) (String.ofList value)

/-- Blanks and a closing parenthesis come first. -/
def Closing (cs : List Char) : Prop := ∃ ws rest, Blanks ws ∧ cs = ws ++ ')' :: rest

/-- No slash of a pattern source is followed by blanks and a closing parenthesis. Such a slash
would be the one that ends the source. -/
def Unbroken (source : List Char) : Prop := ∀ rest, '/' :: rest <:+ source → ¬Closing rest

section Rules

variable [Pattern.Library]

/-- The argument of a name, and the term that both make. The source of a pattern has to be one that
can be read. -/
inductive Argument : (name : String) → List Char → Term → Prop
  | text {cs : List Char} {value : String} :
      Literal cs value → Argument "text" cs (.atom (.text value))
  | id {cs : List Char} {value : String} :
      Literal cs value → Argument "id" cs (.atom (.id value))
  | description {cs : List Char} {value : String} :
      Literal cs value → Argument "desc" cs (.atom (.description value))
  | pattern {p : DescPattern} :
      Unbroken p.source.toList → Argument "desc" ('/' :: p.source.toList ++ ['/'])
        (.atom (.pattern p))
  | clickable {value : Bool} :
      Argument "clickable" (toString value).toList (.clickable value)

/-- A term. A literal alone is short for a text. -/
inductive Written : List Char → Term → Prop
  | literal {cs : List Char} {value : String} :
      Literal cs value → Written cs (.atom (.text value))
  | named {name : String} {ws₁ ws₂ argument ws₃ : List Char} {term : Term} :
      Blanks ws₁ → Blanks ws₂ → Argument name argument term → Blanks ws₃ →
      Written (name.toList ++ ws₁ ++ '(' :: ws₂ ++ argument ++ ws₃ ++ [')']) term

/-- Terms joined by `&&`. -/
inductive Conjunction : List Char → List Term → Prop
  | one {ws₁ cs ws₂ : List Char} {term : Term} :
      Blanks ws₁ → Written cs term → Blanks ws₂ → Conjunction (ws₁ ++ cs ++ ws₂) [term]
  | and {ws₁ cs ws₂ rest : List Char} {term : Term} {terms : List Term} :
      Blanks ws₁ → Written cs term → Blanks ws₂ → Conjunction rest terms →
      Conjunction (ws₁ ++ cs ++ ws₂ ++ '&' :: '&' :: rest) (term :: terms)

/-- What the element's `clickable` has to be, if that matters. -/
def clickable? : Selector → Option Bool
  | one _ => none
  | all _ clickable => clickable

/-- The selector is what a list of terms makes. -/
structure Joins (s : Selector) (terms : List Term) : Prop where
  /-- The atoms keep their order. -/
  atoms : s.atoms = terms.filterMap Term.atom?
  atoms_ne_nil : s.atoms ≠ []
  /-- Of several conditions on `clickable` the last counts. -/
  clickable : s.clickable? = (terms.filterMap Term.clickable?).getLast?
  bare : (∃ atom, s = one atom) ↔ terms.length = 1

end Rules

/-! ### Blanks -/

theorem blanks_nil : Blanks [] := nofun

theorem Blanks.append {ws₁ ws₂ : List Char} (h₁ : Blanks ws₁) (h₂ : Blanks ws₂) :
    Blanks (ws₁ ++ ws₂) :=
  fun c hc => (List.mem_append.mp hc).elim (h₁ c) (h₂ c)

theorem Blanks.skip_append {ws : List Char} (h : Blanks ws) (cs : List Char) :
    Text.skipBlanks (ws ++ cs) = Text.skipBlanks cs :=
  List.dropWhile_append_of_pos h

theorem Blanks.skip {ws : List Char} (h : Blanks ws) : Text.skipBlanks ws = [] := by
  have hskip := h.skip_append []
  rwa [List.append_nil] at hskip

theorem skipBlanks_cons {c : Char} (h : Text.isBlank c = false) (cs : List Char) :
    Text.skipBlanks (c :: cs) = c :: cs :=
  List.dropWhile_cons_of_neg (by simp [h])

theorem isBlank_of_skipBlanks {c : Char} {cs rest : List Char}
    (h : Text.skipBlanks cs = c :: rest) : Text.isBlank c = false := by
  have hhead := List.head?_dropWhile_not Text.isBlank cs
  rw [show cs.dropWhile Text.isBlank = c :: rest from h] at hhead
  exact hhead

theorem blanks_takeWhile (cs : List Char) : Blanks (cs.takeWhile Text.isBlank) := fun c hc => by
  have h := List.all_takeWhile (p := Text.isBlank) (l := cs)
  exact List.all_eq_true.mp h c hc

/-- What is left without its leading blanks is what follows them. -/
theorem exists_blanks (cs : List Char) : ∃ ws, Blanks ws ∧ cs = ws ++ Text.skipBlanks cs :=
  ⟨_, blanks_takeWhile cs, List.takeWhile_append_dropWhile.symm⟩

theorem closing_iff {cs : List Char} :
    Closing cs ↔ (Text.skipBlanks cs).head? = some ')' := by
  constructor
  · rintro ⟨ws, rest, hws, rfl⟩
    rw [hws.skip_append, skipBlanks_cons (by decide)]
    rfl
  · intro h
    obtain ⟨ws, hws, hcs⟩ := exists_blanks cs
    obtain ⟨rest, hrest⟩ := List.head?_eq_some_iff.mp h
    exact ⟨ws, rest, hws, hrest ▸ hcs⟩

theorem closing_cons {c : Char} {cs : List Char} :
    Closing (c :: cs) ↔ c = ')' ∨ Text.isBlank c = true ∧ Closing cs := by
  rw [closing_iff, closing_iff]
  by_cases hc : Text.isBlank c = true
  · have hne : c ≠ ')' := by
      rintro rfl
      exact absurd hc (by decide)
    have hskip : Text.skipBlanks (c :: cs) = Text.skipBlanks cs := List.dropWhile_cons_of_pos hc
    simp [hskip, hc, hne]
  · simp [skipBlanks_cons (Bool.eq_false_iff.mpr hc), hc]

/-! ### Sources of patterns -/

/-- A slash ends what may close, so what follows it does not count. -/
theorem closing_append_slash {cs rest : List Char} : Closing (cs ++ '/' :: rest) ↔ Closing cs := by
  rw [closing_iff, closing_iff]
  obtain ⟨ws, hws, hcs⟩ := exists_blanks cs
  cases htail : Text.skipBlanks cs with
  | nil =>
    rw [htail, List.append_nil] at hcs
    rw [hcs, hws.skip_append, skipBlanks_cons (by decide)]
    simp
  | cons c tail =>
    rw [hcs, htail, List.append_assoc, hws.skip_append, List.cons_append,
      skipBlanks_cons (isBlank_of_skipBlanks htail)]
    rfl

theorem unbroken_nil : Unbroken [] := fun rest h => by simp at h

theorem unbroken_cons {c : Char} {cs : List Char} :
    Unbroken (c :: cs) ↔ (c = '/' → ¬Closing cs) ∧ Unbroken cs := by
  constructor
  · intro h
    refine ⟨?_, fun rest hrest => h rest (hrest.trans (List.suffix_cons ..))⟩
    rintro rfl
    exact h cs (List.suffix_refl _)
  · rintro ⟨hslash, hcs⟩ rest hrest
    rcases List.suffix_cons_iff.mp hrest with heq | hrest
    · obtain ⟨rfl, rfl⟩ := List.cons.inj heq
      exact hslash rfl
    · exact hcs rest hrest

theorem Unbroken.append {start cs : List Char} (hstart : '/' ∉ start) (hcs : Unbroken cs) :
    Unbroken (start ++ cs) := by
  induction start with
  | nil => exact hcs
  | cons c start ih =>
    obtain ⟨hc, hstart⟩ := not_or.mp (mt List.mem_cons.mpr hstart)
    exact unbroken_cons.mpr ⟨fun heq => absurd heq.symm hc, ih hstart⟩

/-! ### Terms -/

theorem Literal.exists_cons {cs : List Char} {value : String} (h : Literal cs value) :
    ∃ rest, cs = '"' :: rest := by
  obtain ⟨_⟩ := h
  exact ⟨_, rfl⟩

section Terms

variable [Pattern.Library]

/-- Neither a term nor the argument of a name begins with a blank. -/
theorem Argument.skip_append {name : String} {cs : List Char} {term : Term}
    (h : Argument name cs term) (rest : List Char) :
    Text.skipBlanks (cs ++ rest) = cs ++ rest := by
  cases h with
  | text h | id h | description h =>
    obtain ⟨cs, rfl⟩ := h.exists_cons
    exact skipBlanks_cons (by decide) _
  | pattern => exact skipBlanks_cons (by decide) _
  | @clickable value => cases value <;> exact skipBlanks_cons (by decide) _

theorem Written.skip_append {cs : List Char} {term : Term} (h : Written cs term)
    (rest : List Char) : Text.skipBlanks (cs ++ rest) = cs ++ rest := by
  cases h with
  | literal h =>
    obtain ⟨cs, rfl⟩ := h.exists_cons
    exact skipBlanks_cons (by decide) _
  | named _ _ h _ => cases h <;> exact skipBlanks_cons (by decide) _

theorem Written.ne_nil {cs : List Char} {term : Term} (h : Written cs term) : cs ≠ [] := by
  cases h with
  | literal h =>
    obtain ⟨cs, rfl⟩ := h.exists_cons
    exact List.cons_ne_nil _ _
  | named => simp

/-- Only a source without a break can be written as a pattern. -/
theorem Written.unbroken {cs : List Char} {p : DescPattern}
    (h : Written cs (.atom (.pattern p))) : Unbroken p.source.toList := by
  cases h with
  | named _ _ h _ =>
    cases h with
    | pattern h => exact h

/-! ### Conjunctions -/

/-- A conjunction begins with a term. Behind it the text ends, or `&&` and a conjunction follow. -/
theorem conjunction_iff {cs : List Char} {terms : List Term} :
    Conjunction cs terms ↔ ∃ ws body term rest, Blanks ws ∧ Written body term ∧
      cs = ws ++ body ++ rest ∧
      (Text.skipBlanks rest = [] ∧ terms = [term] ∨ ∃ rest' terms',
        Text.skipBlanks rest = '&' :: '&' :: rest' ∧ Conjunction rest' terms' ∧
          terms = term :: terms') := by
  constructor
  · intro h
    cases h with
    | @one ws₁ body ws₂ term hws₁ hterm hws₂ =>
      exact ⟨ws₁, body, term, ws₂, hws₁, hterm, rfl, .inl ⟨hws₂.skip, rfl⟩⟩
    | @and ws₁ body ws₂ rest term terms hws₁ hterm hws₂ hrest =>
      refine ⟨ws₁, body, term, ws₂ ++ '&' :: '&' :: rest, hws₁, hterm, by simp, .inr ?_⟩
      exact ⟨rest, terms, by rw [hws₂.skip_append, skipBlanks_cons (by decide)], hrest, rfl⟩
  · rintro ⟨ws, body, term, rest, hws, hterm, rfl, hrest⟩
    obtain ⟨ws', hws', hsplit⟩ := exists_blanks rest
    rcases hrest with ⟨hend, rfl⟩ | ⟨rest', terms', hand, hconj, rfl⟩
    · rw [hend, List.append_nil] at hsplit
      exact .one hws hterm (hsplit ▸ hws')
    · rw [hand] at hsplit
      rw [hsplit, ← List.append_assoc]
      exact .and hws hterm hws' hconj

/-- Leading blanks do not matter. -/
theorem Conjunction.blanks_append {ws cs : List Char} {terms : List Term} (hws : Blanks ws) :
    Conjunction (ws ++ cs) terms ↔ Conjunction cs terms := by
  rw [conjunction_iff, conjunction_iff]
  constructor
  · rintro ⟨ws', body, term, rest, hws', hterm, hcs, hrest⟩
    have hskip : Text.skipBlanks cs = body ++ rest := by
      rw [← hws.skip_append cs, hcs, List.append_assoc, hws'.skip_append, hterm.skip_append]
    obtain ⟨ws'', hws'', hsplit⟩ := exists_blanks cs
    rw [hskip, ← List.append_assoc] at hsplit
    exact ⟨ws'', body, term, rest, hws'', hterm, hsplit, hrest⟩
  · rintro ⟨ws', body, term, rest, hws', hterm, rfl, hrest⟩
    exact ⟨ws ++ ws', body, term, rest, hws.append hws', hterm, by simp, hrest⟩

theorem Conjunction.written {cs : List Char} {terms : List Term} (h : Conjunction cs terms) :
    ∀ term ∈ terms, ∃ body, Written body term := by
  induction h with
  | one _ hterm _ =>
    intro t ht
    rw [List.mem_singleton.mp ht]
    exact ⟨_, hterm⟩
  | and _ hterm _ _ ih =>
    intro t ht
    rcases List.mem_cons.mp ht with rfl | ht
    · exact ⟨_, hterm⟩
    · exact ih t ht

end Terms

end CheckIn.Selector
