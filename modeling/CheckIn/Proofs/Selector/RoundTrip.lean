import CheckIn.Proofs.Selector.Parsing
import CheckIn.Selector.Printer

/-! Selectors that are printed and read again. The printed form of a selector is the conjunction of
the terms that make it, so reading gives them back. Only a pattern whose source has a slash before
a closing parenthesis could not be read again; no text writes one, and the sources of patterns that
look for a text in a description escape every parenthesis. -/

namespace CheckIn.Selector

/-! ### Literals -/

theorem quoted_escape (value : List Char) :
    Quoted (value.flatMap fun c => if c == '"' || c == '\\' then ['\\', c] else [c]) value := by
  induction value with
  | nil => exact .nil
  | cons c value ih =>
    rw [List.flatMap_cons]
    split
    · exact .escaped ih
    · next hplain =>
      simp only [Bool.or_eq_true, beq_iff_eq, not_or] at hplain
      exact .plain hplain.1 hplain.2 ih

theorem literal_quote (value : String) : Literal (quote value).toList value := by
  have h := Literal.quotes (quoted_escape value.toList)
  rw [String.ofList_toList] at h
  simpa [quote] using h

/-! ### Printing -/

section Printing

variable [Pattern.Library]

def Term.print : Term → String
  | atom a => a.print
  | clickable value => s!"clickable({value})"

/-- The terms that a selector is printed as. -/
def terms (s : Selector) : List Term :=
  s.atoms.map .atom ++ s.clickable?.toList.map .clickable

/-- A pattern of the term can be told from what is written behind it. -/
def Term.IsPrintable : Term → Prop
  | atom (.pattern p) => Unbroken p.source.toList
  | _ => True

theorem written_print {term : Term} (h : term.IsPrintable) : Written term.print.toList term := by
  have hnamed {name : String} {argument : List Char} {term : Term}
      (h : Argument name argument term) :
      Written (name.toList ++ '(' :: argument ++ [')']) term := by
    simpa using Written.named blanks_nil blanks_nil h blanks_nil
  cases term with
  | atom a =>
    cases a with
    | text value => simpa [Term.print, Atom.print] using hnamed (.text (literal_quote value))
    | description value =>
      simpa [Term.print, Atom.print] using hnamed (.description (literal_quote value))
    | pattern p => simpa [Term.print, Atom.print] using hnamed (.pattern h)
    | id value => simpa [Term.print, Atom.print] using hnamed (.id (literal_quote value))
  | clickable value =>
    have hargument : Argument "clickable" (toString value).toList (.clickable value) := .clickable
    simpa [Term.print, toString] using hnamed hargument

theorem conjunction_print {terms : List Term} (hne : terms ≠ [])
    (h : ∀ term ∈ terms, term.IsPrintable) :
    Conjunction (" && ".intercalate (terms.map Term.print)).toList terms := by
  induction terms with
  | nil => exact absurd rfl hne
  | cons term terms ih =>
    have hterm := written_print (h term (List.mem_cons_self ..))
    cases terms with
    | nil => simpa using Conjunction.one blanks_nil hterm blanks_nil
    | cons next terms =>
      have hrest := ih (List.cons_ne_nil _ _) fun t ht => h t (List.mem_cons_of_mem _ ht)
      have hblank : Blanks [' '] := by decide
      have hconj := Conjunction.and blanks_nil hterm hblank
        ((Conjunction.blanks_append hblank).mpr hrest)
      simpa [String.intercalate_cons_cons] using hconj

theorem print_eq_intercalate {s : Selector} (h : s.atoms ≠ []) :
    s.print = " && ".intercalate (s.terms.map Term.print) := by
  have hatoms (atoms : List Atom) : (atoms.map Term.atom).map Term.print = atoms.map Atom.print :=
    List.map_map
  rw [terms, List.map_append, hatoms]
  rcases s with atom | ⟨parts, _ | value⟩
  · exact String.intercalate_singleton.symm
  · simp [Selector.print, Selector.atoms, clickable?]
  · have hparts : parts.map Atom.print ≠ [] := fun hnil => h (List.map_eq_nil_iff.mp hnil)
    have hprint : s!" && clickable({value})" = " && " ++ s!"clickable({value})" := by
      cases value <;> rfl
    calc
      (all parts (some value)).print
        = " && ".intercalate (parts.map Atom.print) ++ (" && " ++ s!"clickable({value})") :=
          congrArg (" && ".intercalate (parts.map Atom.print) ++ ·) hprint
      _ = " && ".intercalate (parts.map Atom.print ++ [s!"clickable({value})"]) := by
          rw [String.intercalate_append_of_ne_nil hparts (List.cons_ne_nil _ _),
            String.intercalate_singleton, ← String.append_assoc]

/-! ### Reading again -/

theorem filterMap_atom? (s : Selector) : s.terms.filterMap Term.atom? = s.atoms := by
  have hatoms : (s.atoms.map Term.atom).filterMap Term.atom? = s.atoms := by
    rw [List.filterMap_map]
    exact List.filterMap_some
  have hclickable : (s.clickable?.toList.map Term.clickable).filterMap Term.atom? = [] := by
    cases s.clickable? <;> rfl
  rw [terms, List.filterMap_append, hatoms, hclickable, List.append_nil]

theorem filterMap_clickable? (s : Selector) :
    s.terms.filterMap Term.clickable? = s.clickable?.toList := by
  have hatoms : (s.atoms.map Term.atom).filterMap Term.clickable? = [] := by
    rw [List.filterMap_map, List.filterMap_eq_nil_iff]
    exact fun _ _ => rfl
  have hclickable :
      (s.clickable?.toList.map Term.clickable).filterMap Term.clickable? = s.clickable?.toList := by
    cases s.clickable? <;> rfl
  rw [terms, List.filterMap_append, hatoms, hclickable, List.nil_append]

/-- What a list of terms makes is also made by its own terms. -/
theorem Joins.terms {s : Selector} {terms : List Term} (h : s.Joins terms) : s.Joins s.terms := by
  refine ⟨(filterMap_atom? s).symm, h.atoms_ne_nil, ?_, ?_⟩
  · rw [filterMap_clickable?]
    cases s.clickable? <;> rfl
  · constructor
    · rintro ⟨atom, rfl⟩
      rfl
    · intro hone
      have hpos := List.length_pos_iff.mpr h.atoms_ne_nil
      rw [length_terms, filterMap_atom?, filterMap_clickable?] at hone
      have hnone : s.clickable? = none := by
        rw [← Option.toList_eq_nil_iff, ← List.length_eq_zero_iff]
        omega
      have hclickable := List.getLast?_eq_none_iff.mp (h.clickable.symm.trans hnone)
      rw [h.bare, length_terms, ← h.atoms, hclickable, List.length_nil]
      omega

/-- A selector whose atoms can be printed is read again as it is. -/
theorem parse_print {s : Selector} {terms : List Term} (h : s.Joins terms)
    (hprintable : ∀ term ∈ terms, term.IsPrintable) : parse s.print = .ok s := by
  have hne : s.terms ≠ [] := by
    rw [Selector.terms, ne_eq, List.append_eq_nil_iff, List.map_eq_nil_iff]
    exact fun hnil => h.atoms_ne_nil hnil.1
  have hterms : ∀ term ∈ s.terms, term.IsPrintable := by
    intro term hterm
    rcases List.mem_append.mp hterm with hterm | hterm
    · obtain ⟨atom, hatom, rfl⟩ := List.mem_map.mp hterm
      rw [h.atoms] at hatom
      exact hprintable _ (mem_atoms.mp hatom)
    · obtain ⟨value, -, rfl⟩ := List.mem_map.mp hterm
      trivial
  rw [parse_eq_ok, print_eq_intercalate h.atoms_ne_nil]
  exact ⟨s.terms, conjunction_print hne hterms, h.terms⟩

theorem Conjunction.isPrintable {cs : List Char} {terms : List Term} (h : Conjunction cs terms) :
    ∀ term ∈ terms, term.IsPrintable := by
  intro term hterm
  obtain ⟨body, hbody⟩ := h.written term hterm
  match term, hbody with
  | .atom (.pattern p), hbody => exact hbody.unbroken
  | .atom (.text _), _ | .atom (.description _), _ | .atom (.id _), _ | .clickable _, _ => trivial

theorem joins_one (atom : Atom) : (one atom).Joins [.atom atom] :=
  ⟨rfl, List.cons_ne_nil _ _, rfl, fun _ => rfl, fun _ => ⟨atom, rfl⟩⟩

theorem parse_print_one {atom : Atom} (h : (Term.atom atom).IsPrintable) :
    parse (one atom).print = .ok (one atom) := by
  refine parse_print (joins_one atom) fun term hterm => ?_
  rw [List.mem_singleton.mp hterm]
  exact h

end Printing

/-! ### Patterns that look for a text -/

theorem escapePattern_cons (c : Char) (cs : List Char) : escapePattern (c :: cs) =
    (if Pattern.isMeta c then ['\\', c] else [c]) ++ escapePattern cs :=
  List.flatMap_cons ..

/-- A parenthesis of the text stands behind a backslash. -/
theorem not_closing_escapePattern (needle : List Char) :
    ¬Closing (escapePattern needle ++ ".*".toList) := by
  induction needle with
  | nil =>
    rw [closing_iff]
    decide
  | cons c needle ih =>
    rw [escapePattern_cons]
    split
    · rw [List.cons_append, List.cons_append, closing_cons]
      rintro (h | ⟨h, -⟩) <;> revert h <;> decide
    · next hplain =>
      rw [List.singleton_append, List.cons_append, closing_cons]
      rintro (rfl | ⟨-, h⟩)
      · exact hplain (by decide)
      · exact ih h

theorem unbroken_escapePattern (needle : List Char) :
    Unbroken (escapePattern needle ++ ".*".toList) := by
  induction needle with
  | nil =>
    have h : Unbroken (".*".toList ++ []) := unbroken_nil.append (by decide)
    exact h
  | cons c needle ih =>
    rw [escapePattern_cons, List.append_assoc]
    split
    · next hmeta =>
      have hslash : c ≠ '/' := by
        rintro rfl
        exact absurd hmeta (by decide)
      exact ih.append (by simp [hslash.symm])
    · exact unbroken_cons.mpr ⟨fun _ => not_closing_escapePattern needle, ih⟩

/-- Printing keeps what a selector is: every selector that a text writes, and every one that looks
for a text in the description, is read from its printed form as it was, and so is every literal. -/
theorem print_parses_back [Pattern.Library] :
    (∀ input s, parse input = .ok s → parse s.print = .ok s) ∧
      (∀ needle, parse (descContains needle).print = .ok (descContains needle)) ∧
      ∀ value, ∀ atom ∈ [Atom.text value, .description value, .id value],
        parse (one atom).print = .ok (one atom) := by
  refine ⟨fun input s h => ?_, fun needle => ?_, fun value atom hatom => ?_⟩
  · obtain ⟨terms, hterms, hs⟩ := parse_eq_ok.mp h
    exact parse_print hs hterms.isPrintable
  · unfold descContains
    dsimp only
    split
    · next p hp =>
      refine parse_print_one (show Unbroken p.source.toList from ?_)
      simp only [ofSource_eq_ok.mp hp, String.toList_append, String.toList_ofList,
        List.append_assoc]
      exact (unbroken_escapePattern needle.toList).append (by decide)
    · exact parse_print_one trivial
  · simp only [List.mem_cons, List.not_mem_nil, or_false] at hatom
    rcases hatom with rfl | rfl | rfl <;> exact parse_print_one trivial

/-- A pattern with an escaped slash, which blanks but no parenthesis follow, and a literal with
quotes and backslashes. -/
theorem print_parses_back_slashes :
    ∃ s, parse "desc( /a\\/ b/c/ ) && \"say \\\"x\\\" \\\\\"&&clickable( false )" = .ok s ∧
      parse s.print = .ok s := by
  have hok :
      (parse "desc( /a\\/ b/c/ ) && \"say \\\"x\\\" \\\\\"&&clickable( false )").isOk = true := by
    rfl
  cases hparse : parse "desc( /a\\/ b/c/ ) && \"say \\\"x\\\" \\\\\"&&clickable( false )" with
  | ok s => exact ⟨s, rfl, print_parses_back.1 _ s hparse⟩
  | error e =>
    rw [hparse] at hok
    cases hok

end CheckIn.Selector
