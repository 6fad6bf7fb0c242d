import CheckIn.Proofs.Pattern.Reading

/-! Reading a source inside of a group. Until the source closes the group that it stands in, it is
read there as it is read alone. -/

namespace CheckIn.Pattern

variable {s s' s₁ : Progress} {cs rest : List Char} {base : Level}

/-- The progress with one more group open around everything. -/
def Progress.within (s : Progress) (base : Level) : Progress :=
  { s with outer := s.outer ++ [base] }

/-- The same progress in the text with one more group open around everything. -/
def inside (base : Level) (x : Progress × List Char) : Progress × List Char :=
  (x.1.within base, x.2)

theorem Progress.within_outer_ne_nil (s : Progress) (base : Level) : (s.within base).outer ≠ [] :=
  List.append_ne_nil_of_right_ne_nil s.outer (List.cons_ne_nil base [])

theorem repeatLast_within (s : Progress) (base : Level) (least : Nat) (most : Option Nat) :
    (s.within base).repeatLast least most = (s.repeatLast least most).map (·.within base) := by
  obtain ⟨flags, branches, parts, outer, names⟩ := s
  cases parts with
  | nil => rfl
  | cons part parts =>
    show (part.repeated least most).map _ = Option.map _ ((part.repeated least most).map _)
    cases part.repeated least most <;> rfl

theorem closeGroup_within (h : s.outer ≠ []) (base : Level) :
    (s.within base).closeGroup = s.closeGroup.map (·.within base) := by
  obtain ⟨flags, branches, parts, outer, names⟩ := s
  cases outer with
  | nil => exact absurd rfl h
  | cons level outer => rfl

theorem readNamed_within (s : Progress) (base : Level) (cs : List Char) :
    readNamed (s.within base) cs = (readNamed s cs).map (inside base) := by
  unfold readNamed
  rcases readGroupName cs with _ | ⟨name, rest⟩
  · rfl
  · simp only [Option.bind_eq_bind, Option.bind_some]
    show ((guard (!s.names.contains name) : Option Unit).bind _) = _
    cases (guard (!s.names.contains name) : Option Unit) <;> rfl

theorem readFlagged_within (s : Progress) (base : Level) (cs : List Char) :
    readFlagged (s.within base) cs = (readFlagged s cs).map (inside base) := by
  unfold readFlagged
  show (readFlags s.flags [] cs >>= _) = _
  rcases readFlags s.flags [] cs with _ | ⟨flags, ending, seen, rest⟩
  · rfl
  · cases ending with
    | colon => rfl
    | parenthesis =>
      simp only [Option.bind_eq_bind, Option.bind_some]
      cases (guard (seen ≠ []) : Option Unit) <;> rfl

theorem readGroup_within (s : Progress) (base : Level) (cs : List Char) :
    readGroup (s.within base) cs = (readGroup s cs).map (inside base) := by
  rw [readGroup_eq, readGroup_eq]
  show readGroupRest (s.within base) (s.flags.skip cs) = _
  unfold readGroupRest
  split
  iterate 4 rfl
  · exact readNamed_within s base _
  · exact readNamed_within s base _
  · exact readFlagged_within s base _
  · rfl

theorem closeCount_within (s : Progress) (base : Level) (least : Nat) (most : Option Nat)
    (cs : List Char) :
    closeCount (s.within base) least most cs = (closeCount s least most cs).map (inside base) := by
  unfold closeCount
  split
  · rw [repeatLast_within]
    cases s.repeatLast least most <;> rfl
  · rfl

theorem readCounted_within (s : Progress) (base : Level) (cs : List Char) :
    readCounted (s.within base) cs = (readCounted s cs).map (inside base) := by
  rw [readCounted_eq, readCounted_eq]
  show (readCount s.flags (s.flags.skip cs) >>= fun x => x.1 >>= fun least =>
    readMost s.flags least x.2 >>= fun y => closeCount (s.within base) least y.1 y.2) = _
  rcases readCount s.flags (s.flags.skip cs) with _ | ⟨_ | least, rest⟩
  · rfl
  · rfl
  · simp only [Option.bind_eq_bind, Option.bind_some]
    rcases readMost s.flags least rest with _ | ⟨most, rest⟩
    · rfl
    · exact closeCount_within s base least most rest

/-- A part does the same inside of a group, unless it closes this group. -/
theorem readPart_within [Library] (h : s.outer = [] → ∀ rest, cs ≠ ')' :: rest) (base : Level) :
    readPart (s.within base) cs = (readPart s cs).map (inside base) := by
  rcases cs with _ | ⟨c, cs⟩
  · rfl
  have hrepeated (least : Nat) (most : Option Nat) :
      ((s.within base).repeatLast least most).map (·, skipLazy cs) =
        ((s.repeatLast least most).map (·, skipLazy cs)).map (inside base) := by
    rw [repeatLast_within]
    cases s.repeatLast least most <;> rfl
  simp only [readPart]
  split
  · exact readGroup_within s base cs
  · have houter : s.outer ≠ [] := fun houter => h houter cs rfl
    rw [closeGroup_within houter]
    cases s.closeGroup <;> rfl
  · rfl
  · show (readBracket s.flags cs).map _ = _
    cases readBracket s.flags cs <;> rfl
  · exact hrepeated 0 (some 1)
  · exact hrepeated 0 none
  · exact hrepeated 1 none
  · exact readCounted_within s base cs
  · show (readEscape s.flags cs >>= _) = _
    rcases readEscape s.flags cs with _ | ⟨escaped, rest⟩
    · rfl
    · show (escaped.part s.flags >>= _) = Option.map _ (escaped.part s.flags >>= _)
      cases escaped.part s.flags <;> rfl
  · show s.flags.dot.map _ = _
    cases s.flags.dot <;> rfl
  all_goals rfl

/-! ### Runs -/

/-- What is read alone is read the same inside of a group. -/
theorem Reads.within [Library] (h : Reads s cs s' rest) (base : Level) :
    Reads (s.within base) cs (s'.within base) rest := by
  induction h with
  | here => exact .here
  | @part s cs s₁ rest s' rest' hpart _ ih =>
    have hopen : s.outer = [] → ∀ after, s.flags.skip cs ≠ ')' :: after := by
      intro houter after heq
      rw [heq, readPart, Progress.closeGroup, houter] at hpart
      cases hpart
    refine .part ?_ ih
    show readPart (s.within base) (s.flags.skip cs) = some (s₁.within base, rest)
    rw [readPart_within hopen, hpart]
    rfl

/-- What is read alone is read the same in front of the closing, but a comment at its end goes on to
the end of the closing. -/
theorem Reads.before_closing [Library] (h : Reads s cs s' rest) :
    Reads s (cs ++ closing) s' (rest ++ closing) ∨
      rest = [] ∧ Reads s (cs ++ closing) s' [] := by
  induction h with
  | here => exact .inl .here
  | @part s cs s₁ rest s' rest' hpart hreads ih =>
    rcases skip_closing s.flags cs with hkept | ⟨hnil, -⟩
    · have htailed := readPart_tailed s (s.flags.skip cs)
      rw [hpart, ← hkept] at htailed
      generalize htail : readPart s (s.flags.skip (cs ++ closing)) = tailed at htailed
      cases htailed with
      | kept =>
        refine ih.imp (.part htail) fun ⟨hnil, hrest⟩ => ⟨hnil, .part htail hrest⟩
      | swallowed =>
        cases hreads with
        | here => exact .inr ⟨rfl, .part htail .here⟩
        | part hnext _ => exact absurd (skip_nil _) (readPart_skip_ne_nil hnext)
    · exact absurd hnil (readPart_skip_ne_nil hpart)

/-- Where a run leads depends on what stands behind blanks and comments only. -/
theorem finishes_congr [Library] {cs' : List Char} (h : s.flags.skip cs = s.flags.skip cs') :
    Finishes s cs s' ↔ Finishes s cs' s' := by
  cases hpart : readPart s (s.flags.skip cs) with
  | none =>
    by_cases hend : s.flags.skip cs = []
    · rw [finishes_end hend, finishes_end (h ▸ hend)]
    · exact iff_of_false (not_finishes hend hpart) (not_finishes (h ▸ hend) (h ▸ hpart))
  | some x =>
    obtain ⟨s₁, rest⟩ := x
    exact (finishes_part hpart).trans (finishes_part (h ▸ hpart)).symm

theorem readCounted_closing (hskip : s.flags.skip cs = closing) : readCounted s cs = none := by
  have hcount : readCount s.flags closing = some (none, closing) := rfl
  rw [readCounted_eq, hskip, hcount]
  rfl

/-- Past the closing, or before a stray brace, no group is closed any more. -/
theorem lost_outer [Library] (hlost : Cut cs ∨ Stray s.flags cs) (h : Finishes s cs s') :
    s'.outer = s.outer := by
  rcases hlost with (rfl | rfl) | ⟨skipped, rfl, hskip⟩
  · rw [(finishes_end (skip_nil s.flags)).mp h]
  · have hpart : readPart s (s.flags.skip ['$']) = some (s.push (.ofLook s.flags.endLook), []) := by
      rw [skip_cons (by decide)]
      rfl
    rw [finishes_part hpart, finishes_end (skip_nil _)] at h
    rw [h]
    rfl
  · have hpart : readPart s (s.flags.skip ('{' :: (skipped ++ closing))) = none := by
      rw [skip_brace]
      exact readCounted_closing hskip
    refine absurd h (not_finishes ?_ hpart)
    rw [skip_brace]
    exact List.cons_ne_nil _ _

/-- Read alone, the source comes to a parenthesis that closes a group with none open. -/
def ClosesEarly [Library] (s : Progress) (cs : List Char) : Prop :=
  ∃ s₁ rest after, Reads s cs s₁ rest ∧ s₁.flags.skip rest = ')' :: after ∧ s₁.outer = []

theorem ClosesEarly.part [Library] (hpart : readPart s (s.flags.skip cs) = some (s₁, rest))
    (h : ClosesEarly s₁ rest) : ClosesEarly s cs := by
  obtain ⟨s₂, rest₂, after, hreads, hskip, houter⟩ := h
  exact ⟨s₂, rest₂, after, .part hpart hreads, hskip, houter⟩

/-- One part on the way to a closed group: the source closes the group here, or has come to its end,
or goes on with a part that it reads alone as well. -/
theorem finishes_wrapped_step [Library] (h : Finishes (s.within base) (cs ++ closing) s')
    (houter : s'.outer = []) :
    (s.outer = [] ∧ ∃ after, s.flags.skip cs = ')' :: after) ∨
      (s.outer = [] ∧ s.flags.skip cs = [] ∧ Finishes (s.within base) closing s') ∨
        ∃ s₁ rest, readPart s (s.flags.skip cs) = some (s₁, rest) ∧
          Finishes (s₁.within base) (rest ++ closing) s' := by
  have hopen (s₁ : Progress) : s' ≠ s₁.within base := fun heq =>
    s₁.within_outer_ne_nil base (heq ▸ houter)
  rcases skip_closing s.flags cs with hkept | ⟨-, hnil⟩
  swap
  -- A comment has taken in the closing, so nothing is left to close the group.
  · exact absurd ((finishes_end (s := s.within base) hnil).mp h) (hopen s)
  by_cases hlast : s.outer = [] ∧ s.flags.skip cs = []
  · obtain ⟨hnone, hend⟩ := hlast
    refine .inr (.inl ⟨hnone, hend, (finishes_congr ?_).mp h⟩)
    show s.flags.skip (cs ++ closing) = s.flags.skip closing
    rw [hkept, hend, List.nil_append, closing, skip_cons (by decide)]
  by_cases hclose : s.outer = [] ∧ ∃ after, s.flags.skip cs = ')' :: after
  · exact .inl hclose
  have hinside : readPart (s.within base) (s.flags.skip (cs ++ closing)) =
      (readPart s (s.flags.skip cs ++ closing)).map (inside base) := by
    rw [hkept]
    refine readPart_within (fun hnone after heq => ?_) base
    rcases hskip : s.flags.skip cs with _ | ⟨c, rest⟩
    · exact hlast ⟨hnone, hskip⟩
    · rw [hskip] at heq
      obtain ⟨rfl, -⟩ := List.cons.inj heq
      exact hclose ⟨hnone, rest, hskip⟩
  -- The part is read in front of the closing; only what is read alone as well leaves it there.
  have htailed := readPart_tailed s (s.flags.skip cs)
  generalize readPart s (s.flags.skip cs) = alone at htailed
  generalize readPart s (s.flags.skip cs ++ closing) = tailed at htailed hinside
  cases htailed with
  | fails =>
    refine absurd h (not_finishes ?_ hinside)
    exact hkept ▸ List.append_ne_nil_of_right_ne_nil _ (by decide)
  | @kept s₁ rest => exact .inr (.inr ⟨s₁, rest, rfl, (finishes_part hinside).mp h⟩)
  | @swallowed s₁ =>
    have h₁ : Finishes (s₁.within base) [] s' := (finishes_part hinside).mp h
    exact absurd ((finishes_end (skip_nil _)).mp h₁) (hopen s₁)
  | @lost s₁ rest hlost =>
    have h₁ : Finishes (s₁.within base) rest s' := (finishes_part hinside).mp h
    have houter₁ : s'.outer = (s₁.within base).outer := lost_outer hlost h₁
    exact absurd (houter₁.symm.trans houter) (s₁.within_outer_ne_nil base)

/-- If the closing closes the group around the source, the source is read to its end before it,
unless it has closed the group itself. -/
theorem finishes_wrapped [Library] (h : Finishes (s.within base) (cs ++ closing) s')
    (houter : s'.outer = []) :
    ClosesEarly s cs ∨
      ∃ s₁, Finishes s cs s₁ ∧ s₁.outer = [] ∧ Finishes (s₁.within base) closing s' := by
  induction hn : cs.length using Nat.strongRecOn generalizing s cs with
  | ind n ih =>
    rcases finishes_wrapped_step h houter with
      ⟨hnone, after, hafter⟩ | ⟨hnone, hend, hclosing⟩ | ⟨s₁, rest, hpart, hrest⟩
    · exact .inl ⟨s, cs, after, .here, hafter, hnone⟩
    · exact .inr ⟨s, (finishes_end hend).mpr rfl, hnone, hclosing⟩
    · have hlength : rest.length < n := hn ▸ readPart_skip_length hpart
      rcases ih rest.length hlength hrest rfl with hearly | ⟨s₂, hfinishes, hclosing⟩
      · exact .inl (hearly.part hpart)
      · exact .inr ⟨s₂, (finishes_part hpart).mpr hfinishes, hclosing⟩

end CheckIn.Pattern
