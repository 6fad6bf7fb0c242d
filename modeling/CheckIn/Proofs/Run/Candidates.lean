import CheckIn.Proofs.Run.Polling
import CheckIn.Proofs.Selector.Meaning

/-! What a single look finds. It asks for the elements for which the atoms of a selector hold, one
atom after the other, and keeps the elements that were in every answer so far. On a screen that does
not change the first of them is the first element for which the selector holds, in whatever order
the atoms are. -/

namespace CheckIn.Run

open Process

/-- If the exchange asks for the elements for which an atom holds, then the answer has those of the
screen, in their order. -/
def Exchange.Shows (screen : List Screen.Element) : Exchange → Prop
  | ⟨_, .query (.findAll (.one atom)) _ _, answer, _⟩ =>
    answer = .answered (.ok (screen.filter atom.holds))
  | _ => True

/-- The exchange asks for the elements for which an atom holds, and the answer has `e` among
them. -/
def Exchange.Offers (e : Screen.Element) (atom : Atom) (x : Exchange) : Prop :=
  ∃ made heed deadline found met,
    x = ⟨made, .query (.findAll (.one atom)) heed deadline, .answered (.ok found), met⟩ ∧ e ∈ found

variable {α : Type} {stop : Option Nat} {heed : Bool} {before after deadline : Nat} {log : Log}
  {screen : List Screen.Element} {e : Screen.Element} {atom : Atom} {atoms : List Atom}
  {kept : List Screen.Element} {selector : Selector}

/-- The phone can show any screen to a lookup that nobody stops. -/
theorem exists_shows {q : Request} (hq : q.OfLookup heed) (screen : List Screen.Element)
    (before : Nat) : ∃ answer after, Meets none before q answer after ∧
      Exchange.Shows screen ⟨before, q, answer, after⟩ := by
  have hother (hshows : ∀ answer after, Exchange.Shows screen ⟨before, q, answer, after⟩) :
      ∃ answer after, Meets none before q answer after ∧
        Exchange.Shows screen ⟨before, q, answer, after⟩ := by
    have hmet : q ≠ .overrun := by
      rintro rfl
      exact hq
    obtain ⟨answer, after, hmeets⟩ := exists_meets hmet
    exact ⟨answer, after, hmeets, hshows answer after⟩
  cases q with
  | query c heed deadline =>
    cases c with
    | findAll selector =>
      cases selector with
      | one atom =>
        have hmeets : Meets none before (.query (.findAll (.one atom)) heed deadline)
            (.answered (.ok (screen.filter atom.holds))) before :=
          ⟨Nat.le_refl _, fun _ _ => Nat.le_max_left .., by simp⟩
        exact ⟨_, before, hmeets, rfl⟩
      | all => exact hother fun _ _ => trivial
    | _ => exact hother fun _ _ => trivial
  | _ => exact hother fun _ _ => trivial

namespace Lookup

/-! ### One atom -/

theorem goes_candidates {r : Except StepError (Option (List Screen.Element))}
    (h : Goes stop (candidates heed deadline atom).run before log r after) :
    ∃ answer, log = [⟨before, .query (.findAll (.one atom)) heed (some deadline), answer, after⟩] ∧
      r = match answer with
        | .answered (.ok found) => .ok (some found)
        | .answered (.error _) => .ok (some [])
        | .timedOut => .ok none
        | .stopped => .error .stopped := by
  unfold candidates at h
  rcases goes_bind_run.mp h with ⟨e, rfl, hquery⟩ | ⟨_, found, _, _, rfl, hquery, hrest⟩
  · obtain ⟨answer, rfl, -, hanswer⟩ := goes_query.mp hquery
    refine ⟨answer, rfl, ?_⟩
    cases answer with
    | answered _ | timedOut => cases hanswer
    | stopped =>
      cases hanswer
      rfl
  · obtain ⟨answer, rfl, -, hanswer⟩ := goes_query.mp hquery
    rcases answer with (_ | _) | _ | _
    case stopped => cases hanswer
    all_goals
      cases hanswer
      obtain ⟨rfl, rfl, rfl⟩ := hrest
      exact ⟨_, rfl, rfl⟩

/-- On an unchanging screen the elements for which the atom holds are found. -/
theorem goes_candidates_bind {f : Option (List Screen.Element) → Attempt α} {r : Except StepError α}
    (h : Goes stop (candidates heed deadline atom >>= f).run before log r after)
    (hshows : ∀ x ∈ log, x.Shows screen) :
    ∃ between log', (∀ x ∈ log', x.Shows screen) ∧
      Goes stop (f (some (screen.filter atom.holds))).run between log' r after := by
  have hanswer {before after : Nat} {answer : Request.Answer (.query (.findAll (.one atom)) heed _)}
      (hshow : Exchange.Shows screen
        ⟨before, .query (.findAll (.one atom)) heed (some deadline), answer, after⟩) :
      answer = .answered (.ok (screen.filter atom.holds)) := hshow
  rcases goes_bind_run.mp h with ⟨_, rfl, hfirst⟩ | ⟨log₁, _, between, log₂, rfl, hfirst, hrest⟩
  · obtain ⟨answer, rfl, hr⟩ := goes_candidates hfirst
    rw [hanswer (hshows _ (List.mem_singleton_self _))] at hr
    cases hr
  · obtain ⟨answer, rfl, hr⟩ := goes_candidates hfirst
    rw [hanswer (hshows _ (List.mem_append_left _ (List.mem_singleton_self _)))] at hr
    cases hr
    exact ⟨between, log₂, fun x hx => hshows x (List.mem_append_right _ hx), hrest⟩

theorem candidates_offers {found : List Screen.Element}
    (h : Goes stop (candidates heed deadline atom).run before log (.ok (some found)) after)
    (he : e ∈ found) : ∃ x, calls log = [x] ∧ x.Offers e atom := by
  obtain ⟨answer, rfl, hr⟩ := goes_candidates h
  split at hr <;> cases hr
  · exact ⟨_, rfl, _, _, _, _, _, rfl, he⟩
  · exact absurd he List.not_mem_nil

/-! ### Several atoms -/

/-- Of elements of the screen those are kept for which the atoms hold. -/
theorem narrow_shows {r : Except StepError (List Screen.Element)}
    (h : Goes stop (narrow heed deadline atoms kept).run before log r after)
    (hshows : ∀ x ∈ log, x.Shows screen) (hkept : ∀ e ∈ kept, e ∈ screen) :
    r = .ok (kept.filter fun e => atoms.all (·.holds e)) := by
  induction atoms generalizing kept before log with
  | nil =>
    obtain ⟨-, rfl, -⟩ := h
    simp
  | cons atom atoms ih =>
    unfold narrow at h
    obtain ⟨between, log', hshows', hrest⟩ := goes_candidates_bind h hshows
    -- What is kept is on the screen, so it is in the answer exactly if the atom holds of it.
    have hfilter : (kept.filter fun e => (screen.filter atom.holds).contains e) =
        kept.filter atom.holds := by
      refine List.filter_congr fun e he => ?_
      rw [Bool.eq_iff_iff, List.contains_iff_mem, List.mem_filter]
      exact and_iff_right (hkept e he)
    have hall : (kept.filter fun e => (atom :: atoms).all (·.holds e)) =
        (kept.filter atom.holds).filter fun e => atoms.all (·.holds e) := by
      rw [List.filter_filter]
      simp only [List.all_cons, Bool.and_comm]
    dsimp only at hrest
    rw [hfilter] at hrest
    rw [hall]
    split at hrest
    · next hnil =>
      -- The other atoms are not asked about.
      obtain ⟨-, rfl, -⟩ := hrest
      rw [hnil]
      rfl
    · exact ih hrest hshows' fun e he => hkept e (List.mem_filter.mp he).1

/-- Whatever the phone answers, what is kept was in every answer. -/
theorem narrow_offers {kept' : List Screen.Element}
    (h : Goes stop (narrow heed deadline atoms kept).run before log (.ok kept') after)
    (he : e ∈ kept') :
    e ∈ kept ∧ List.Forall₂ (fun atom x => x.Offers e atom) atoms (calls log) := by
  induction atoms generalizing kept before log with
  | nil =>
    obtain ⟨rfl, ⟨⟩, -⟩ := h
    exact ⟨he, .nil⟩
  | cons atom atoms ih =>
    unfold narrow at h
    obtain ⟨log₁, found, between, log₂, rfl, hfirst, hrest⟩ := goes_bind_ok.mp h
    cases found with
    | none =>
      obtain ⟨-, ⟨⟩, -⟩ := hrest
      cases he
    | some found =>
      dsimp only at hrest
      split at hrest
      · obtain ⟨-, ⟨⟩, -⟩ := hrest
        cases he
      · obtain ⟨hmem, hoffers⟩ := ih hrest
        obtain ⟨hkept, hfound⟩ := List.mem_filter.mp hmem
        obtain ⟨x, hx, hoffer⟩ := candidates_offers hfirst (List.contains_iff_mem.mp hfound)
        rw [calls_append, hx]
        exact ⟨hkept, .cons hoffer hoffers⟩

/-! ### A look -/

/-- Among the elements that are kept, the first with the right `clickable` is the first on the
screen for which the selector holds. -/
theorem find?_filter (screen : List Screen.Element) (atom : Atom) (atoms : List Atom)
    (clickable : Option Bool) :
    ((screen.filter atom.holds).filter fun e => atoms.all (·.holds e)).find?
        (fun e => clickable.all (e.clickable == ·)) =
      screen.find? (Selector.all (atom :: atoms) clickable).holds := by
  rw [List.filter_filter, List.find?_filter]
  refine congrArg (screen.find? ·) (funext fun e => ?_)
  rw [Bool.eq_iff_iff, decide_eq_true_iff]
  simp only [Selector.holds, List.all_cons, Bool.and_eq_true, and_comm]

theorem look_shows {r : Except StepError (Option Screen.Element)}
    (h : Goes stop (look heed deadline selector).run before log r after)
    (hshows : ∀ x ∈ log, x.Shows screen) (hne : selector.atoms ≠ []) :
    r = .ok (screen.find? selector.holds) := by
  unfold look at h
  split at h
  · next atom =>
    obtain ⟨_, _, -, ⟨-, rfl, -⟩⟩ := goes_candidates_bind h hshows
    exact congrArg Except.ok List.head?_filter
  · exact absurd rfl hne
  · next atom atoms clickable =>
    obtain ⟨between, log', hshows', hrest⟩ := goes_candidates_bind h hshows
    rw [← find?_filter]
    split at hrest
    · next heq => cases heq
    · next heq =>
      obtain ⟨-, rfl, -⟩ := hrest
      rw [Option.some.inj heq]
      rfl
    · next found _ heq =>
      cases heq
      have hkept : ∀ e ∈ screen.filter atom.holds, e ∈ screen := fun e he =>
        (List.mem_filter.mp he).1
      rcases goes_bind_run.mp hrest with
        ⟨_, rfl, hnarrow⟩ | ⟨log₁, _, _, log₂, rfl, hnarrow, hend⟩
      · cases narrow_shows hnarrow hshows' hkept
      · cases narrow_shows hnarrow (fun x hx => hshows' x (List.mem_append_left _ hx)) hkept
        obtain ⟨-, rfl, -⟩ := hend
        rfl

/-- Whatever the phone answers, what a look finds was in the answer for every atom. -/
theorem look_offers
    (h : Goes stop (look heed deadline selector).run before log (.ok (some e)) after) :
    List.Forall₂ (fun atom x => x.Offers e atom) selector.atoms (calls log) ∧
      ∀ value, selector.clickable? = some value → e.clickable = value := by
  unfold look at h
  split at h
  · next atom =>
    obtain ⟨log₁, found, _, log₂, rfl, hfirst, hrest⟩ := goes_bind_ok.mp h
    obtain ⟨rfl, hfound, -⟩ := hrest
    obtain ⟨found, rfl, hhead⟩ := Option.bind_eq_some_iff.mp (Except.ok.inj hfound).symm
    obtain ⟨x, hx, hoffer⟩ := candidates_offers hfirst (List.mem_of_head? hhead)
    rw [List.append_nil, hx]
    exact ⟨.cons hoffer .nil, nofun⟩
  · obtain ⟨-, ⟨⟩, -⟩ := h
  · next atom atoms clickable =>
    obtain ⟨log₁, found, _, log₂, rfl, hfirst, hrest⟩ := goes_bind_ok.mp h
    split at hrest
    · obtain ⟨-, ⟨⟩, -⟩ := hrest
    · obtain ⟨-, ⟨⟩, -⟩ := hrest
    · next found hne =>
      obtain ⟨log₃, kept, _, log₄, rfl, hnarrow, hend⟩ := goes_bind_ok.mp hrest
      obtain ⟨rfl, hfind, -⟩ := hend
      have hfind := (Except.ok.inj hfind).symm
      obtain ⟨hmem, hoffers⟩ := narrow_offers hnarrow (List.mem_of_find?_eq_some hfind)
      obtain ⟨x, hx, hoffer⟩ := candidates_offers hfirst hmem
      rw [calls_append, List.append_nil, hx]
      refine ⟨.cons hoffer hoffers, ?_⟩
      rintro value rfl
      have hclickable := List.find?_some hfind
      exact beq_iff_eq.mp hclickable

/-! ### A single look -/

/-- Unless the stop is there already, a single look is all that happens. -/
theorem goes_findOnce {l : Lookup} {timeout : Nat} {r : Except StepError (Option Screen.Element)}
    (h : Goes stop (l.findOnce selector timeout heed).run before log r after) :
    (heed ∧ raised stop before ∧ r = .error .stopped) ∨
      ∃ log', log' ⊆ log ∧ calls log = calls log' ∧
        Goes stop (look heed (before + max timeout l.interval) selector).run before log' r
          after := by
  rcases goes_bind_run.mp h with ⟨e, rfl, hcheck⟩ | ⟨log₁, _, _, log₂, rfl, hcheck, hrest⟩
  · obtain ⟨-, -, hok | ⟨hheed, hraised, hstopped⟩⟩ := goes_check_cases hcheck
    · cases hok
    · cases hstopped
      exact .inl ⟨hheed, hraised, rfl⟩
  · obtain ⟨hcalls, rfl, -⟩ := goes_check_cases hcheck
    obtain ⟨log', rfl, hlook⟩ := goes_now_bind_run.mp hrest
    refine .inr ⟨log', fun x hx => List.mem_append_right _ (List.mem_cons_of_mem _ hx), ?_, hlook⟩
    rw [calls_append, hcalls, calls_cons_of_quiet (by trivial), List.nil_append]

theorem findOnce_shows {l : Lookup} {timeout : Nat} {r : Except StepError (Option Screen.Element)}
    (h : Goes stop (l.findOnce selector timeout heed).run before log r after)
    (hstop : ¬(heed ∧ raised stop before)) (hshows : ∀ x ∈ log, x.Shows screen)
    (hne : selector.atoms ≠ []) : r = .ok (screen.find? selector.holds) := by
  rcases goes_findOnce h with ⟨hheed, hraised, -⟩ | ⟨log', hsub, -, hlook⟩
  · exact absurd ⟨hheed, hraised⟩ hstop
  · exact look_shows hlook (fun x hx => hshows x (hsub hx)) hne

/-- Whatever the phone does, a single look for a selector that a text writes comes to an end. While
nobody stops it and the screen that the phone shows does not change, it finds the first element for
which the selector holds, and nothing if there is none; the order of the atoms makes no difference.
And whatever the phone answers, an element that is found was in the answers for all atoms. -/
theorem findOnce_first {input : String} (hparse : Selector.parse input = .ok selector) (l : Lookup)
    (timeout : Nat) (heed : Bool) :
    (∀ stop started, Surely stop (fun _ => True) (l.findOnce selector timeout heed).run started) ∧
    (∀ screen started, ∃ log after,
      Goes none (l.findOnce selector timeout heed).run started log
          (.ok (screen.find? selector.holds)) after ∧ ∀ x ∈ log, x.Shows screen) ∧
    (∀ screen stop started log r after,
      Goes stop (l.findOnce selector timeout heed).run started log r after →
      ¬(heed ∧ raised stop started) → (∀ x ∈ log, x.Shows screen) →
      r = .ok (screen.find? selector.holds)) ∧
    (∀ parts parts' clickable, selector = .all parts clickable → parts.Perm parts' →
      ∀ screen stop started log r after,
        Goes stop (l.findOnce (.all parts' clickable) timeout heed).run started log r after →
        ¬(heed ∧ raised stop started) → (∀ x ∈ log, x.Shows screen) →
        r = .ok (screen.find? selector.holds)) ∧
    ∀ stop started log e after,
      Goes stop (l.findOnce selector timeout heed).run started log (.ok (some e)) after →
      List.Forall₂ (fun atom x => x.Offers e atom) selector.atoms (calls log) ∧
        ∀ value, selector.clickable? = some value → e.clickable = value := by
  have hne := Selector.atoms_ne_nil_of_parse hparse
  refine ⟨fun stop started => ?_, fun screen started => ?_, ?_, ?_, ?_⟩
  · have hasks : (l.findOnce selector timeout heed).run.Asks (Meets stop)
        fun _ => Request.OfLookup heed := findOnce_asks l selector timeout
    refine surely_of_no_overrun (hasks.mono ?_) fun _ _ _ _ => trivial
    rintro now q hq rfl
    exact hq.elim
  · have hasks : (l.findOnce selector timeout heed).run.Asks (Meets none)
        fun _ => Request.OfLookup heed := findOnce_asks l selector timeout
    obtain ⟨log, r, after, hgoes, hshows⟩ :=
      exists_goes_of_asks (hasks started) fun now q hq => exists_shows hq screen now
    have hr := findOnce_shows hgoes (by simp) hshows hne
    exact ⟨log, after, hr ▸ hgoes, hshows⟩
  · intro screen stop started log r after hgoes hstop hshows
    exact findOnce_shows hgoes hstop hshows hne
  · rintro parts parts' clickable rfl hperm screen stop started log r after hgoes hstop hshows
    rw [← Selector.holds_perm hperm]
    refine findOnce_shows hgoes hstop hshows fun hnil => hne ?_
    exact (hnil ▸ hperm : parts.Perm []).eq_nil
  · intro stop started log e after hgoes
    rcases goes_findOnce hgoes with ⟨-, -, hr⟩ | ⟨log', -, hcalls, hlook⟩
    · cases hr
    · rw [hcalls]
      exact look_offers hlook

/-- Of two buttons that look alike behind a text that is no button, the first is found. -/
theorem findOnce_first_alike :
    let label : Screen.Element := { Screen.Element.blank with text := "Go" }
    let button : Screen.Element := { label with clickable := true }
    let selector : Selector := .all [.text "Go"] (some true)
    Selector.parse "clickable(true) && \"Go\"" = .ok selector ∧
      ∃ log after,
        Goes none ((Lookup.ofInterval 200).findOnce selector 500 true).run 0 log (.ok (some button))
            after ∧
          ∀ x ∈ log, x.Shows [label, button, button] := by
  intro label button selector
  have hparse : Selector.parse "clickable(true) && \"Go\"" = .ok selector := by rfl
  have hfind : [label, button, button].find? selector.holds = some button := by rfl
  obtain ⟨-, hgoes, -⟩ := findOnce_first hparse (Lookup.ofInterval 200) 500 true
  exact ⟨hparse, hfind ▸ hgoes [label, button, button] 0⟩

end Lookup

end CheckIn.Run
