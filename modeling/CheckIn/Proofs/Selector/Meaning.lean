import CheckIn.Proofs.Selector.Parsing

/-! What a conjunction says of an element. Its selector keeps every atom, but of its conditions on
`clickable` only the last one, so it may hold of elements for which one of the others does not. -/

namespace CheckIn.Selector

section Terms

variable [Pattern.Library]

def Term.holds : Term → Screen.Element → Bool
  | atom a, e => a.holds e
  | clickable value, e => e.clickable == value

/-- All terms that are conditions on `clickable` say the same. -/
def Consistent (terms : List Term) : Prop :=
  ∀ a b, .clickable a ∈ terms → .clickable b ∈ terms → a = b

variable {s : Selector} {terms : List Term} {e : Screen.Element}

theorem holds_iff : s.holds e = true ↔
    (∀ atom ∈ s.atoms, atom.holds e = true) ∧
      ∀ value, s.clickable? = some value → e.clickable = value := by
  cases s with
  | one atom => simp [Selector.holds, Selector.atoms, clickable?]
  | all parts clickable => cases clickable <;> simp [Selector.holds, Selector.atoms, clickable?]

theorem terms_hold_iff : (∀ term ∈ terms, term.holds e = true) ↔
    (∀ atom, .atom atom ∈ terms → atom.holds e = true) ∧
      ∀ value, .clickable value ∈ terms → e.clickable = value := by
  constructor
  · intro h
    exact ⟨fun atom hatom => h _ hatom, fun value hvalue => beq_iff_eq.mp (h _ hvalue)⟩
  · rintro ⟨hatoms, hclickables⟩ term hterm
    cases term with
    | atom a => exact hatoms a hterm
    | clickable value => exact beq_iff_eq.mpr (hclickables value hterm)

namespace Joins

theorem holds_iff (h : s.Joins terms) : s.holds e = true ↔
    (∀ atom, .atom atom ∈ terms → atom.holds e = true) ∧
      ∀ value, (terms.filterMap Term.clickable?).getLast? = some value → e.clickable = value := by
  rw [Selector.holds_iff, h.atoms, h.clickable]
  exact and_congr_left fun _ => forall_congr' fun _ => imp_congr_left mem_atoms

/-- A selector holds wherever all of its terms do. -/
theorem holds (h : s.Joins terms) (hterms : ∀ term ∈ terms, term.holds e = true) :
    s.holds e = true := by
  obtain ⟨hatoms, hclickables⟩ := terms_hold_iff.mp hterms
  refine h.holds_iff.mpr ⟨hatoms, fun value hvalue => hclickables value ?_⟩
  exact mem_clickables.mp (List.mem_of_getLast? hvalue)

/-- Where a selector holds, only a contradiction about `clickable` keeps a term from holding. -/
theorem terms_hold_iff (h : s.Joins terms) (hs : s.holds e = true) :
    (∀ term ∈ terms, term.holds e = true) ↔ Consistent terms := by
  rw [Selector.terms_hold_iff]
  constructor
  · rintro ⟨-, hclickables⟩ a b ha hb
    exact (hclickables a ha).symm.trans (hclickables b hb)
  · intro hconsistent
    refine ⟨(h.holds_iff.mp hs).1, fun value hvalue => ?_⟩
    have hkept : s.clickable? = some value :=
      h.clickable_eq_some hvalue fun other hother => hconsistent other value hother hvalue
    exact (Selector.holds_iff.mp hs).2 value hkept

end Joins

/-- The order of the atoms makes no difference. -/
theorem holds_perm {parts parts' : List Atom} (h : parts.Perm parts') {clickable : Option Bool} :
    (all parts' clickable).holds = (all parts clickable).holds :=
  funext fun e => congrArg (· && clickable.all (e.clickable == ·)) h.symm.all_eq

/-- A selector holds of an element if all atoms of its conjunction and the last condition on
`clickable` do. So it holds wherever all of the terms do, and nowhere else as long as they do not
contradict each other about `clickable`. -/
theorem conjunction_holds {input : String} (hs : parse input = .ok s)
    (hterms : Conjunction input.toList terms) (e : Screen.Element) :
    (s.holds e = true ↔ (∀ atom, .atom atom ∈ terms → atom.holds e = true) ∧
      ∀ value, (terms.filterMap Term.clickable?).getLast? = some value → e.clickable = value) ∧
    ((∀ term ∈ terms, term.holds e = true) → s.holds e = true) ∧
    (s.holds e = true → ((∀ term ∈ terms, term.holds e = true) ↔ Consistent terms)) := by
  have hjoins : s.Joins terms := ofTerms_eq_ok.mp (parse_eq_ofTerms hterms ▸ hs)
  exact ⟨hjoins.holds_iff, hjoins.holds, hjoins.terms_hold_iff⟩

end Terms

/-- A condition on `clickable` that stands on both sides of a text. -/
theorem conjunction_holds_twice :
    parse "clickable(true) && \"Go\" && clickable(true)" = .ok (.all [.text "Go"] (some true)) ∧
      ∃ terms, Conjunction "clickable(true) && \"Go\" && clickable(true)".toList terms ∧
        ((∀ term ∈ terms,
            term.holds { Screen.Element.blank with text := "Go", clickable := true } = true) ↔
          Consistent terms) := by
  have hs : parse "clickable(true) && \"Go\" && clickable(true)" =
      .ok (.all [.text "Go"] (some true)) := by rfl
  obtain ⟨terms, hterms⟩ := exists_of_parse hs
  exact ⟨hs, terms, hterms, (conjunction_holds hs hterms _).2.2 rfl⟩

/-- An element that is not clickable is found although one of the terms asks for one that is. -/
theorem holds_despite_contradiction :
    ∃ terms, parse "text(\"Go\") && clickable(true) && clickable(false)" =
        .ok (.all [.text "Go"] (some false)) ∧
      Conjunction "text(\"Go\") && clickable(true) && clickable(false)".toList terms ∧
      (all [.text "Go"] (some false)).holds { Screen.Element.blank with text := "Go" } = true ∧
      ¬∀ term ∈ terms, term.holds { Screen.Element.blank with text := "Go" } = true := by
  have hread : readTerms 100 "text(\"Go\") && clickable(true) && clickable(false)".toList =
      .ok [.atom (.text "Go"), .clickable true, .clickable false] := by rfl
  refine ⟨_, by rfl, (readTerms_eq_ok (by decide)).mp hread, rfl, fun h => ?_⟩
  exact absurd (h (.clickable true) (by simp)) (by decide)

end CheckIn.Selector
