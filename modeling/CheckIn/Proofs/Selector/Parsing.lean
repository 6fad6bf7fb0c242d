import CheckIn.Proofs.Selector.Grammar

/-! Reading selectors by the grammar. Each reader takes from the characters what one rule of the
grammar writes, and leaves the rest; and it takes whatever the rule writes, whatever comes behind.
So the terms of a text are determined by it, and `parse` accepts the conjunctions that have an
atom, and nothing else. -/

namespace CheckIn.Selector

theorem bind_eq_ok {ε α β : Type} {x : Except ε α} {f : α → Except ε β} {b : β} :
    (x >>= f) = .ok b ↔ ∃ a, x = .ok a ∧ f a = .ok b := by
  cases x with
  | ok a =>
    constructor
    · exact fun h => ⟨a, rfl, h⟩
    · rintro ⟨_, ⟨⟩, h⟩
      exact h
  | error e =>
    constructor
    · intro h
      cases h
    · rintro ⟨_, ⟨⟩, _⟩

/-! ### Literals -/

theorem readQuoted_eq_some {cs value rest : List Char} :
    readQuoted cs = some (value, rest) ↔ ∃ body, Quoted body value ∧ cs = body ++ '"' :: rest := by
  constructor
  · intro h
    fun_induction readQuoted cs generalizing value rest with
    | case1 cs =>
      cases h
      exact ⟨[], .nil, rfl⟩
    | case2 c cs ih =>
      obtain ⟨⟨_, _⟩, hread, heq⟩ := Option.map_eq_some_iff.mp h
      cases heq
      obtain ⟨body, hbody, rfl⟩ := ih hread
      exact ⟨'\\' :: c :: body, .escaped hbody, rfl⟩
    | case3 => cases h
    | case4 c cs hquote hescape _ ih =>
      obtain ⟨⟨_, _⟩, hread, heq⟩ := Option.map_eq_some_iff.mp h
      cases heq
      obtain ⟨body, hbody, rfl⟩ := ih hread
      refine ⟨c :: body, .plain hquote ?_ hbody, rfl⟩
      rintro rfl
      cases body <;> exact hescape _ _ rfl rfl
    | case5 => cases h
  · rintro ⟨body, hbody, rfl⟩
    induction hbody with
    | nil => simp [readQuoted]
    | plain hquote hbackslash _ ih =>
      rw [List.cons_append, readQuoted]
      · rw [ih]
        rfl
      · exact hquote
      · intro _ _ h _
        exact hbackslash h
      · intro h _
        exact hbackslash h
    | escaped _ ih =>
      simp only [List.cons_append, readQuoted, ih]
      rfl

theorem readLiteral_eq_ok {name value : String} {cs rest : List Char} :
    readLiteral name cs = .ok (value, rest) ↔ ∃ body, Literal body value ∧ cs = body ++ rest := by
  constructor
  · intro h
    unfold readLiteral at h
    split at h
    · next cs =>
      split at h
      · next body rest hread =>
        cases h
        obtain ⟨body, hbody, rfl⟩ := readQuoted_eq_some.mp hread
        exact ⟨_, .quotes hbody, by simp⟩
      · cases h
    · cases h
  · rintro ⟨_, ⟨hbody⟩, rfl⟩
    simp only [List.cons_append, List.append_assoc, List.nil_append, readLiteral,
      readQuoted_eq_some.mpr ⟨_, hbody, rfl⟩]

/-! ### Patterns -/

/-- A source goes up to the first slash that blanks and a closing parenthesis follow. -/
theorem readSource_eq_some {cs source rest : List Char} :
    readSource cs = some (source, rest) ↔
      cs = source ++ '/' :: rest ∧ Closing rest ∧ Unbroken source := by
  induction cs generalizing source with
  | nil => simp [readSource]
  | cons c cs ih =>
    rw [readSource]
    split
    · next hend =>
      obtain ⟨rfl, hcs⟩ := hend
      rw [← closing_iff] at hcs
      constructor
      · intro h
        cases h
        exact ⟨rfl, hcs, unbroken_nil⟩
      · rintro ⟨heq, hrest, hsource⟩
        cases source with
        | nil =>
          obtain ⟨-, rfl⟩ := List.cons.inj heq
          rfl
        | cons d source =>
          -- This slash would break the source.
          obtain ⟨rfl, rfl⟩ := List.cons.inj heq
          exact absurd (closing_append_slash.mp hcs) ((unbroken_cons.mp hsource).1 rfl)
    · next hend =>
      rw [← closing_iff] at hend
      constructor
      · intro h
        obtain ⟨⟨_, _⟩, hread, heq⟩ := Option.map_eq_some_iff.mp h
        cases heq
        obtain ⟨rfl, hrest, hsource⟩ := ih.mp hread
        refine ⟨rfl, hrest, unbroken_cons.mpr ⟨fun hc hclosing => ?_, hsource⟩⟩
        exact hend ⟨hc, closing_append_slash.mpr hclosing⟩
      · rintro ⟨heq, hrest, hsource⟩
        cases source with
        | nil =>
          obtain ⟨rfl, rfl⟩ := List.cons.inj heq
          exact absurd ⟨rfl, hrest⟩ hend
        | cons d source =>
          obtain ⟨rfl, rfl⟩ := List.cons.inj heq
          rw [ih.mpr ⟨rfl, hrest, (unbroken_cons.mp hsource).2⟩]
          rfl

theorem ofSource_eq_ok [Pattern.Library] {source : String} {p : DescPattern} :
    DescPattern.ofSource source = .ok p ↔ p.source = source := by
  constructor
  · intro h
    unfold DescPattern.ofSource at h
    split at h
    · cases h
      rfl
    · cases h
  · rintro rfl
    unfold DescPattern.ofSource
    split
    · exact congrArg Except.ok (DescPattern.ext rfl)
    · next herror => cases p.reads.symm.trans herror

theorem readPattern_eq_ok [Pattern.Library] {cs rest : List Char} {p : DescPattern} :
    readPattern cs = .ok (p, rest) ↔
      cs = p.source.toList ++ '/' :: rest ∧ Closing rest ∧ Unbroken p.source.toList := by
  rw [← readSource_eq_some]
  constructor
  · intro h
    unfold readPattern at h
    split at h
    · cases h
    · next source rest hread =>
      split at h
      · next p hp =>
        cases h
        rw [ofSource_eq_ok.mp hp, String.toList_ofList]
        exact hread
      · cases h
  · intro h
    have hp : DescPattern.ofSource (String.ofList p.source.toList) = .ok p :=
      ofSource_eq_ok.mpr String.ofList_toList.symm
    simp only [readPattern, h, hp]

/-! ### Conditions on `clickable` -/

/-- What is stripped from a text are blanks. -/
theorem exists_blanks_strip (cs : List Char) : ∃ ws₁ ws₂, Blanks ws₁ ∧ Blanks ws₂ ∧
    cs = ws₁ ++ Text.stripWhile Text.isBlank cs ++ ws₂ := by
  obtain ⟨ws₁, hws₁, hcs⟩ := exists_blanks cs
  let kept := Text.skipBlanks cs
  let ws := kept.reverse.takeWhile Text.isBlank
  have hkept : kept = Text.stripWhile Text.isBlank cs ++ ws.reverse := by
    have h := List.takeWhile_append_dropWhile (p := Text.isBlank) (l := kept.reverse)
    rw [← List.reverse_reverse kept, ← h, List.reverse_append]
    rfl
  refine ⟨ws₁, ws.reverse, hws₁, fun c hc => ?_, ?_⟩
  · exact blanks_takeWhile kept.reverse c (List.mem_reverse.mp hc)
  · rw [List.append_assoc, ← hkept]
    exact hcs

theorem stripWhile_value {value : Bool} {ws : List Char} (hws : Blanks ws) :
    Text.stripWhile Text.isBlank ((toString value).toList ++ ws) = (toString value).toList := by
  have hreverse : Blanks ws.reverse := fun c hc => hws c (List.mem_reverse.mp hc)
  have hfront : ((toString value).toList ++ ws).dropWhile Text.isBlank =
      (toString value).toList ++ ws := by
    cases value <;> exact skipBlanks_cons (by decide) _
  rw [Text.stripWhile, hfront, Text.dropEndWhile, List.reverse_append]
  rw [show List.dropWhile _ _ = _ from hreverse.skip_append _]
  cases value <;> decide

/-- A truth value is read with the blanks behind it. -/
theorem readClickable_append {value : Bool} {ws rest : List Char} (hws : Blanks ws) :
    readClickable ((toString value).toList ++ ws ++ ')' :: rest) = .ok (value, ')' :: rest) := by
  have hparen : ∀ c ∈ (toString value).toList ++ ws, decide (c ≠ ')') = true := by
    intro c hc
    rw [decide_eq_true_iff]
    rintro rfl
    rcases List.mem_append.mp hc with hc | hc
    · cases value <;> revert hc <;> decide
    · exact absurd (hws _ hc) (by decide)
  have htake : ((toString value).toList ++ ws ++ ')' :: rest).takeWhile (· ≠ ')') =
      (toString value).toList ++ ws := by
    rw [List.takeWhile_append_of_pos hparen]
    simp
  have hdrop : ((toString value).toList ++ ws ++ ')' :: rest).dropWhile (· ≠ ')') =
      ')' :: rest := by
    rw [List.dropWhile_append_of_pos hparen]
    simp
  rw [readClickable, htake, hdrop, stripWhile_value hws, String.ofList_toList]
  cases value <;> rfl

theorem exists_of_readClickable {cs rest : List Char} {value : Bool}
    (h : readClickable cs = .ok (value, rest)) : ∃ ws₁ ws₂, Blanks ws₁ ∧ Blanks ws₂ ∧
      cs = ws₁ ++ (toString value).toList ++ ws₂ ++ rest := by
  obtain ⟨ws₁, ws₂, hws₁, hws₂, hword⟩ := exists_blanks_strip (cs.takeWhile (· ≠ ')'))
  have hread : Text.stripWhile Text.isBlank (cs.takeWhile (· ≠ ')')) = (toString value).toList ∧
      rest = cs.dropWhile (· ≠ ')') := by
    unfold readClickable at h
    split at h
    · next hvalue =>
      cases h
      exact ⟨String.toList_ofList.symm.trans (congrArg String.toList hvalue), rfl⟩
    · next hvalue =>
      cases h
      exact ⟨String.toList_ofList.symm.trans (congrArg String.toList hvalue), rfl⟩
    · cases h
  obtain ⟨hvalue, rfl⟩ := hread
  refine ⟨ws₁, ws₂, hws₁, hws₂, ?_⟩
  rw [← hvalue, ← hword]
  exact List.takeWhile_append_dropWhile.symm

/-! ### Names -/

theorem isNameChar_of_isBlank {c : Char} (h : Text.isBlank c = true) : isNameChar c = false := by
  rw [Bool.eq_false_iff]
  intro hname
  have hcode : (decide (65 ≤ c.val ∧ c.val ≤ 90) || decide (97 ≤ c.val) && decide (c.val ≤ 122) ||
      decide (48 ≤ c.val) && decide (c.val ≤ 57) || c == '_') = true := hname
  simp only [Text.isBlank, Char.toNat, Bool.or_eq_true, Bool.and_eq_true, decide_eq_true_eq,
    beq_iff_eq] at h
  simp only [Bool.or_eq_true, Bool.and_eq_true, decide_eq_true_eq, beq_iff_eq,
    UInt32.le_iff_toNat_le] at hcode
  rcases hcode with hcode | rfl
  · have hranges : (65 ≤ c.val.toNat ∧ c.val.toNat ≤ 90 ∨ 97 ≤ c.val.toNat ∧ c.val.toNat ≤ 122) ∨
        48 ≤ c.val.toNat ∧ c.val.toNat ≤ 57 := hcode
    omega
  · revert h
    decide

/-- A name ends at the blanks or the parenthesis behind it. -/
theorem takeWhile_name {name ws : List Char} (hname : ∀ c ∈ name, isNameChar c = true)
    (hws : Blanks ws) (rest : List Char) :
    (name ++ ws ++ '(' :: rest).takeWhile isNameChar = name ∧
      (name ++ ws ++ '(' :: rest).dropWhile isNameChar = ws ++ '(' :: rest := by
  rw [List.append_assoc, List.takeWhile_append_of_pos hname, List.dropWhile_append_of_pos hname]
  cases ws with
  | nil => exact ⟨List.append_nil _, rfl⟩
  | cons c ws =>
    have hc : isNameChar c = false := isNameChar_of_isBlank (hws c (List.mem_cons_self ..))
    simp [hc]

/-! ### Arguments -/

section Terms

variable [Pattern.Library]

/-- An argument is read with the blanks behind it, or without them. -/
theorem readArgument_append {name : String} {argument ws : List Char} {term : Term}
    (h : Argument name argument term) (hws : Blanks ws) (rest : List Char) :
    ∃ rest', readArgument name (argument ++ ws ++ ')' :: rest) = .ok (term, rest') ∧
      Text.skipBlanks rest' = ')' :: rest := by
  have hclose : Text.skipBlanks (ws ++ ')' :: rest) = ')' :: rest := by
    rw [hws.skip_append, skipBlanks_cons (by decide)]
  have hread {name value : String} {argument : List Char} (h : Literal argument value) :
      readLiteral name (argument ++ ws ++ ')' :: rest) = .ok (value, ws ++ ')' :: rest) :=
    readLiteral_eq_ok.mpr ⟨argument, h, List.append_assoc ..⟩
  cases h with
  | text h => exact ⟨_, by simp only [readArgument, hread h]; rfl, hclose⟩
  | id h => exact ⟨_, by simp only [readArgument, hread h]; rfl, hclose⟩
  | description h =>
    refine ⟨_, ?_, hclose⟩
    have hliteral : readLiteral "desc" _ = _ := hread h
    obtain ⟨cs, rfl⟩ := h.exists_cons
    -- The argument begins with a quote, so it is not taken for a pattern.
    change (readLiteral "desc" ('"' :: cs ++ ws ++ ')' :: rest) >>= fun read =>
      pure (Term.atom (.description read.1), read.2)) = _
    rw [hliteral]
    rfl
  | @pattern p h =>
    have hread : readPattern (p.source.toList ++ '/' :: (ws ++ ')' :: rest)) =
        .ok (p, ws ++ ')' :: rest) :=
      readPattern_eq_ok.mpr ⟨rfl, ⟨ws, rest, hws, rfl⟩, h⟩
    refine ⟨_, ?_, hclose⟩
    simp only [List.cons_append, List.append_assoc, List.nil_append, readArgument, hread]
    rfl
  | clickable =>
    refine ⟨_, ?_, skipBlanks_cons (by decide) _⟩
    simp only [readArgument, readClickable_append hws]
    rfl

theorem exists_of_readArgument {name : String} {cs rest : List Char} {term : Term}
    (h : readArgument name cs = .ok (term, rest)) :
    ∃ ws₁ argument ws₂, Blanks ws₁ ∧ Argument name argument term ∧ Blanks ws₂ ∧
      cs = ws₁ ++ argument ++ ws₂ ++ rest := by
  unfold readArgument at h
  split at h
  · obtain ⟨⟨value, rest⟩, hread, heq⟩ := bind_eq_ok.mp h
    cases heq
    obtain ⟨body, hbody, rfl⟩ := readLiteral_eq_ok.mp hread
    exact ⟨[], body, [], blanks_nil, .text hbody, blanks_nil, by simp⟩
  · obtain ⟨⟨value, rest⟩, hread, heq⟩ := bind_eq_ok.mp h
    cases heq
    obtain ⟨body, hbody, rfl⟩ := readLiteral_eq_ok.mp hread
    exact ⟨[], body, [], blanks_nil, .id hbody, blanks_nil, by simp⟩
  · obtain ⟨⟨p, rest⟩, hread, heq⟩ := bind_eq_ok.mp h
    cases heq
    obtain ⟨rfl, -, hsource⟩ := readPattern_eq_ok.mp hread
    exact ⟨[], _, [], blanks_nil, .pattern hsource, blanks_nil, by simp⟩
  · obtain ⟨⟨value, rest⟩, hread, heq⟩ := bind_eq_ok.mp h
    cases heq
    obtain ⟨body, hbody, rfl⟩ := readLiteral_eq_ok.mp hread
    exact ⟨[], body, [], blanks_nil, .description hbody, blanks_nil, by simp⟩
  · obtain ⟨⟨value, rest⟩, hread, heq⟩ := bind_eq_ok.mp h
    cases heq
    obtain ⟨ws₁, ws₂, hws₁, hws₂, rfl⟩ := exists_of_readClickable hread
    exact ⟨ws₁, _, ws₂, hws₁, .clickable, hws₂, rfl⟩
  · cases h

/-! ### Terms -/

theorem Argument.name {name : String} {argument : List Char} {term : Term}
    (h : Argument name argument term) :
    name.toList ≠ [] ∧ ∀ c ∈ name.toList, isNameChar c = true := by
  have hplain : name.toList ≠ [] ∧ name.toList.all isNameChar = true := by
    cases h <;> decide
  exact ⟨hplain.1, List.all_eq_true.mp hplain.2⟩

/-- Behind a name and a parenthesis its argument is read, and then the other parenthesis. -/
theorem readTerm_name {name cs ws inner behind rest : List Char} {term : Term} (hne : name ≠ [])
    (hname : ∀ c ∈ name, isNameChar c = true) (hws : Blanks ws)
    (hcs : Text.skipBlanks cs = name ++ ws ++ '(' :: inner)
    (hread : readArgument (String.ofList name) (Text.skipBlanks inner) = .ok (term, behind))
    (hclose : Text.skipBlanks behind = ')' :: rest) : readTerm cs = .ok (term, rest) := by
  obtain ⟨htake, hdrop⟩ := takeWhile_name hname hws inner
  have hopen : Text.skipBlanks (ws ++ '(' :: inner) = '(' :: inner := by
    rw [hws.skip_append, skipBlanks_cons (by decide)]
  obtain ⟨c, chars, rfl⟩ := List.exists_cons_of_ne_nil hne
  have hc : isNameChar c = true := hname c (List.mem_cons_self ..)
  unfold readTerm
  rw [hcs]
  split
  · next heq =>
    cases heq
    contradiction
  · simp only [htake, hdrop, hopen, hread, bind, Except.bind, hclose, pure, Except.pure]

theorem readTerm_append {ws body rest : List Char} {term : Term} (hws : Blanks ws)
    (h : Written body term) : readTerm (ws ++ body ++ rest) = .ok (term, rest) := by
  have hskip : Text.skipBlanks (ws ++ body ++ rest) = body ++ rest := by
    rw [List.append_assoc, hws.skip_append, h.skip_append]
  cases h with
  | @literal _ value h =>
    have hread : readLiteral "" (body ++ rest) = .ok (value, rest) :=
      readLiteral_eq_ok.mpr ⟨body, h, rfl⟩
    obtain ⟨cs, rfl⟩ := h.exists_cons
    unfold readTerm
    rw [hskip]
    change (readLiteral "" ('"' :: cs ++ rest) >>= fun read =>
      pure (Term.atom (.text read.1), read.2)) = _
    rw [hread]
    rfl
  | @named name ws₁ ws₂ argument ws₃ _ hws₁ hws₂ h hws₃ =>
    obtain ⟨hne, hname⟩ := h.name
    obtain ⟨rest', hread, hclose⟩ := readArgument_append h hws₃ rest
    have hparts : name.toList ++ ws₁ ++ '(' :: ws₂ ++ argument ++ ws₃ ++ [')'] ++ rest =
        name.toList ++ ws₁ ++ '(' :: (ws₂ ++ (argument ++ ws₃ ++ ')' :: rest)) := by simp
    refine readTerm_name hne hname hws₁ (hskip.trans hparts) ?_ hclose
    rw [String.ofList_toList, hws₂.skip_append, List.append_assoc argument, h.skip_append,
      ← List.append_assoc, hread]

theorem exists_of_readTerm {cs rest : List Char} {term : Term}
    (h : readTerm cs = .ok (term, rest)) :
    ∃ ws body, Blanks ws ∧ Written body term ∧ cs = ws ++ body ++ rest := by
  obtain ⟨ws, hws, hcs⟩ := exists_blanks cs
  unfold readTerm at h
  generalize Text.skipBlanks cs = skipped at h hcs
  subst hcs
  split at h
  · obtain ⟨⟨value, rest⟩, hread, heq⟩ := bind_eq_ok.mp h
    cases heq
    obtain ⟨body, hbody, hsplit⟩ := readLiteral_eq_ok.mp hread
    exact ⟨ws, body, hws, .literal hbody, by rw [hsplit, List.append_assoc]⟩
  · dsimp only at h
    split at h
    · next inner _ hinner =>
      obtain ⟨⟨read, behind⟩, hread, hclose⟩ := bind_eq_ok.mp h
      split at hclose
      · next hend =>
        cases hclose
        obtain ⟨ws₁, hws₁, hname⟩ := exists_blanks (skipped.dropWhile isNameChar)
        obtain ⟨ws₂, hws₂, hopen⟩ := exists_blanks inner
        obtain ⟨ws₃, argument, ws₄, hws₃, hargument, hws₄, hsplit⟩ := exists_of_readArgument hread
        obtain ⟨ws₅, hws₅, hbehind⟩ := exists_blanks behind
        refine ⟨ws, _, hws, .named hws₁ (hws₂.append hws₃) hargument (hws₄.append hws₅), ?_⟩
        have hskipped : skipped = skipped.takeWhile isNameChar ++ skipped.dropWhile isNameChar :=
          List.takeWhile_append_dropWhile.symm
        rw [hinner] at hname
        rw [hsplit] at hopen
        rw [show Text.skipBlanks behind = ')' :: rest from hend] at hbehind
        rw [hname, hopen, hbehind] at hskipped
        rw [String.toList_ofList]
        conv => lhs; rw [hskipped]
        simp
      · cases hclose
    · cases h

/-- A reader of terms takes blanks and a term. -/
theorem readTerm_eq_ok {cs rest : List Char} {term : Term} :
    readTerm cs = .ok (term, rest) ↔
      ∃ ws body, Blanks ws ∧ Written body term ∧ cs = ws ++ body ++ rest := by
  constructor
  · exact exists_of_readTerm
  · rintro ⟨ws, body, hws, hbody, rfl⟩
    exact readTerm_append hws hbody

/-! ### Conjunctions -/

/-- Fuel beyond the length of the text is enough to read every term of it. -/
theorem readTerms_eq_ok {fuel : Nat} {cs : List Char} {terms : List Term}
    (hfuel : cs.length < fuel) : readTerms fuel cs = .ok terms ↔ Conjunction cs terms := by
  induction fuel generalizing cs terms with
  | zero => omega
  | succ fuel ih =>
    rw [readTerms, bind_eq_ok, conjunction_iff]
    constructor
    · rintro ⟨⟨term, rest⟩, hread, h⟩
      obtain ⟨ws, body, hws, hbody, rfl⟩ := readTerm_eq_ok.mp hread
      refine ⟨ws, body, term, rest, hws, hbody, rfl, ?_⟩
      dsimp only at h
      split at h
      · next hend =>
        cases h
        exact .inl ⟨hend, rfl⟩
      · next rest' hand =>
        obtain ⟨terms', hterms, heq⟩ := bind_eq_ok.mp h
        cases heq
        have hshort := Text.skipBlanks_length_le rest
        rw [hand] at hshort
        simp only [List.length_append, List.length_cons] at hfuel hshort
        exact .inr ⟨rest', terms', hand, (ih (by omega)).mp hterms, rfl⟩
      · cases h
    · rintro ⟨ws, body, term, rest, hws, hbody, rfl, hrest⟩
      refine ⟨(term, rest), readTerm_eq_ok.mpr ⟨ws, body, hws, hbody, rfl⟩, ?_⟩
      dsimp only
      rcases hrest with ⟨hend, rfl⟩ | ⟨rest', terms', hand, hconj, rfl⟩
      · rw [hend]
        rfl
      · have hshort := Text.skipBlanks_length_le rest
        rw [hand] at hshort ⊢
        simp only [List.length_append, List.length_cons] at hfuel hshort
        change (readTerms fuel rest' >>= fun terms => pure (term :: terms)) = _
        rw [(ih (by omega)).mpr hconj]
        rfl

/-! ### Selectors -/

/-- Every term is an atom or a condition on `clickable`. -/
theorem length_terms (terms : List Term) : terms.length =
    (terms.filterMap Term.atom?).length + (terms.filterMap Term.clickable?).length := by
  induction terms with
  | nil => rfl
  | cons term terms ih =>
    cases term <;> simp [List.filterMap_cons, Term.atom?, Term.clickable?, ih] <;> omega

theorem ofTerms_eq_ok {terms : List Term} {s : Selector} :
    ofTerms terms = .ok s ↔ s.Joins terms := by
  have hlength := length_terms terms
  have hlast : terms.reverse.findSome? Term.clickable? =
      (terms.filterMap Term.clickable?).getLast? := by
    rw [← List.head?_filterMap, List.filterMap_reverse, List.getLast?_eq_head?_reverse]
  unfold ofTerms
  rw [hlast]
  constructor
  · intro h
    split at h
    · cases h
    · next atom hatoms hnone =>
      cases h
      have hone : terms.length = 1 := by
        rw [hlength, hatoms, List.getLast?_eq_none_iff.mp hnone]
        rfl
      exact ⟨hatoms.symm, List.cons_ne_nil _ _, hnone.symm, fun _ => hone, fun _ => ⟨_, rfl⟩⟩
    · next hne hmany =>
      cases h
      refine ⟨rfl, hne, rfl, nofun, fun hone => ?_⟩
      have hpos := List.length_pos_iff.mpr hne
      obtain ⟨atom, hatoms⟩ := List.length_eq_one_iff.mp
        (show (terms.filterMap Term.atom?).length = 1 by omega)
      have hnone : terms.filterMap Term.clickable? = [] := List.length_eq_zero_iff.mp (by omega)
      exact absurd (List.getLast?_eq_none_iff.mpr hnone) (hmany atom hatoms)
  · rintro ⟨hatoms, hne, hclickable, hbare⟩
    rw [← hatoms] at hlength ⊢
    rw [← hclickable]
    cases s with
    | one atom => rfl
    | all parts clickable =>
      dsimp only [Selector.atoms, clickable?]
      split
      · exact absurd rfl hne
      · -- A single atom with nothing beside it would be a single term.
        rw [List.getLast?_eq_none_iff.mp hclickable.symm] at hlength
        obtain ⟨_, ⟨⟩⟩ := hbare.mpr hlength
      · rfl

theorem exists_ofTerms {terms : List Term} {atom : Atom} (h : .atom atom ∈ terms) :
    ∃ s, ofTerms terms = .ok s := by
  have hne : terms.filterMap Term.atom? ≠ [] :=
    List.ne_nil_of_mem (List.mem_filterMap.mpr ⟨_, h, rfl⟩)
  unfold ofTerms
  split
  · next heq => exact absurd heq hne
  · exact ⟨_, rfl⟩
  · exact ⟨_, rfl⟩

/-- A text has no other terms than those that are read. -/
theorem parse_eq_ofTerms {input : String} {terms : List Term}
    (h : Conjunction input.toList terms) : parse input = ofTerms terms := by
  obtain ⟨ws, hws, hcs⟩ := exists_blanks input.toList
  rw [hcs, Conjunction.blanks_append hws] at h
  unfold parse
  split
  · next hempty =>
    obtain ⟨_, body, _, _, -, hbody, hsplit, -⟩ := conjunction_iff.mp h
    rw [hempty] at hsplit
    simp [hbody.ne_nil] at hsplit
  · rw [(readTerms_eq_ok (Nat.lt_succ_self _)).mpr h]
    rfl

theorem exists_of_parse {input : String} {s : Selector} (h : parse input = .ok s) :
    ∃ terms, Conjunction input.toList terms := by
  obtain ⟨ws, hws, hcs⟩ := exists_blanks input.toList
  unfold parse at h
  split at h
  · cases h
  · obtain ⟨terms, hterms, -⟩ := bind_eq_ok.mp h
    refine ⟨terms, ?_⟩
    rw [hcs, Conjunction.blanks_append hws]
    exact (readTerms_eq_ok (Nat.lt_succ_self _)).mp hterms

theorem parse_eq_ok {input : String} {s : Selector} :
    parse input = .ok s ↔ ∃ terms, Conjunction input.toList terms ∧ s.Joins terms := by
  constructor
  · intro h
    obtain ⟨terms, hterms⟩ := exists_of_parse h
    exact ⟨terms, hterms, ofTerms_eq_ok.mp (parse_eq_ofTerms hterms ▸ h)⟩
  · rintro ⟨terms, hterms, hs⟩
    rw [parse_eq_ofTerms hterms]
    exact ofTerms_eq_ok.mpr hs

theorem atoms_ne_nil_of_parse {input : String} {s : Selector} (h : parse input = .ok s) :
    s.atoms ≠ [] := by
  obtain ⟨terms, -, hjoins⟩ := parse_eq_ok.mp h
  exact hjoins.atoms_ne_nil

theorem mem_atoms {terms : List Term} {atom : Atom} :
    atom ∈ terms.filterMap Term.atom? ↔ .atom atom ∈ terms := by
  rw [List.mem_filterMap]
  constructor
  · rintro ⟨term, hterm, heq⟩
    cases term <;> cases heq
    exact hterm
  · exact fun h => ⟨_, h, rfl⟩

theorem mem_clickables {terms : List Term} {value : Bool} :
    value ∈ terms.filterMap Term.clickable? ↔ .clickable value ∈ terms := by
  rw [List.mem_filterMap]
  constructor
  · rintro ⟨term, hterm, heq⟩
    cases term <;> cases heq
    exact hterm
  · exact fun h => ⟨_, h, rfl⟩

namespace Joins

variable {s : Selector} {terms : List Term}

theorem clickable_eq_none (h : s.Joins terms) (hnone : ∀ value, .clickable value ∉ terms) :
    s.clickable? = none := by
  rw [h.clickable, List.getLast?_eq_none_iff, List.eq_nil_iff_forall_not_mem]
  exact fun value hvalue => hnone value (mem_clickables.mp hvalue)

theorem mem_of_clickable (h : s.Joins terms) {value : Bool} (hvalue : s.clickable? = some value) :
    .clickable value ∈ terms :=
  mem_clickables.mp (List.mem_of_getLast? (h.clickable ▸ hvalue))

theorem clickable_eq_some (h : s.Joins terms) {value : Bool} (hmem : .clickable value ∈ terms)
    (hall : ∀ other, .clickable other ∈ terms → other = value) : s.clickable? = some value := by
  cases hlast : s.clickable? with
  | none =>
    rw [h.clickable, List.getLast?_eq_none_iff] at hlast
    exact absurd (mem_clickables.mpr hmem) (hlast ▸ List.not_mem_nil)
  | some last => rw [hall last (h.mem_of_clickable hlast)]

end Joins

/-- A text is a selector if it is a conjunction in which some term is an atom, and only then. The
selector holds the atoms of the terms in their order, and what they say about `clickable`; a single
term is the selector itself. Every other text is refused. -/
theorem parse_accepts_conjunctions (input : String) :
    ((∃ s, parse input = .ok s) ↔
      ∃ terms, Conjunction input.toList terms ∧ ∃ atom, .atom atom ∈ terms) ∧
    (∀ s terms, parse input = .ok s → Conjunction input.toList terms →
      s.Joins terms ∧
        ((∀ value, .clickable value ∉ terms) → s.clickable? = none) ∧
        ∀ value, .clickable value ∈ terms → (∀ other, .clickable other ∈ terms → other = value) →
          s.clickable? = some value) ∧
    ((¬∃ terms, Conjunction input.toList terms ∧ ∃ atom, .atom atom ∈ terms) →
      ∃ e, parse input = .error e) := by
  have haccepts : (∃ s, parse input = .ok s) ↔
      ∃ terms, Conjunction input.toList terms ∧ ∃ atom, .atom atom ∈ terms := by
    constructor
    · rintro ⟨s, hs⟩
      obtain ⟨terms, hterms, hjoins⟩ := parse_eq_ok.mp hs
      obtain ⟨atom, hatom⟩ := List.exists_mem_of_ne_nil _ hjoins.atoms_ne_nil
      exact ⟨terms, hterms, atom, mem_atoms.mp (hjoins.atoms ▸ hatom)⟩
    · rintro ⟨terms, hterms, atom, hatom⟩
      rw [parse_eq_ofTerms hterms]
      exact exists_ofTerms hatom
  refine ⟨haccepts, fun s terms hs hterms => ?_, fun hnone => ?_⟩
  · rw [parse_eq_ofTerms hterms] at hs
    have hjoins := ofTerms_eq_ok.mp hs
    exact ⟨hjoins, hjoins.clickable_eq_none, fun _ => hjoins.clickable_eq_some⟩
  · cases hparse : parse input with
    | ok s => exact absurd (haccepts.mp ⟨s, hparse⟩) hnone
    | error e => exact ⟨e, rfl⟩

end Terms

/-- A text with quotes in it, and blanks wherever they may stand. -/
theorem parse_accepts_conjunctions_signIn :
    ∃ terms, Conjunction "  text( \"Sign \\\"In\\\"\" )&&clickable ( true )\t".toList terms ∧
      (Selector.all [.text "Sign \"In\""] (some true)).Joins terms := by
  have hparse : parse "  text( \"Sign \\\"In\\\"\" )&&clickable ( true )\t" =
      .ok (.all [.text "Sign \"In\""] (some true)) := by rfl
  obtain ⟨haccepts, hjoins, -⟩ := parse_accepts_conjunctions _
  obtain ⟨terms, hterms, -⟩ := haccepts.mp ⟨_, hparse⟩
  exact ⟨terms, hterms, (hjoins _ terms hparse hterms).1⟩

end CheckIn.Selector
