import CheckIn.Proofs.Pattern.Wrapped
import CheckIn.Proofs.Selector.Parsing

/-! Patterns of descriptions. A source is matched as the text of a group between two anchors, so it
matches all of a description or nothing of it, unless it closes the group itself. A comment at its
end takes the closing with it. All this is so for any library that reads patterns. -/

namespace CheckIn.Pattern

variable {s s' s₁ : Progress} {cs rest : List Char} {source : String} {part : Part} {p : Pattern}
  {text : List Char} {i j : Nat}

/-! ### Sources -/

section Sources

variable [Library]

/-- Alone, the characters write a part, however deep it is and whatever room it takes. -/
def Writes (cs : List Char) (part : Part) : Prop :=
  ∃ s, readAll (cs.length + 1) .initial cs = some s ∧ s.outer = [] ∧ part = s.contents

/-- A comment at the end takes in the closing: with that behind them the characters write the same
part still, though the closing would close a group that is not open. -/
def EndsInComment (cs : List Char) : Prop :=
  ∃ part, Writes cs part ∧ Writes (cs ++ closing) part

theorem writes_iff :
    Writes cs part ↔ ∃ s, Finishes .initial cs s ∧ s.outer = [] ∧ part = s.contents := by
  simp only [Writes, readAll_eq_some (Nat.lt_succ_self cs.length)]

theorem read_eq_ok_iff_writes :
    read cs = .ok p ↔ ∃ part, Writes cs part ∧ part.height ≤ heightLimit ∧
      Library.fits cs part.pattern = true ∧ p = part.pattern := by
  simp only [read_eq_ok, writes_iff]
  constructor
  · rintro ⟨s, hfinishes, houter, hlimits⟩
    exact ⟨s.contents, ⟨s, hfinishes, houter, rfl⟩, hlimits⟩
  · rintro ⟨_, ⟨s, hfinishes, houter, rfl⟩, hlimits⟩
    exact ⟨s, hfinishes, houter, hlimits⟩

/-- The bounds of the repetitions of a part that is written are in order. -/
theorem Writes.ordered (h : Writes cs part) : part.pattern.Ordered := by
  obtain ⟨s, ⟨rest, hreads, -⟩, -, rfl⟩ := writes_iff.mp h
  exact (hreads.ordered Progress.ordered_initial).contents

end Sources

/-! ### Reading between the anchors -/

/-- The group that the source stands in. -/
def wrapper : Level := ⟨.initial, [], [.ofLook .textStart]⟩

/-- A part between the two anchors. -/
def Part.anchored (part : Part) : Part :=
  ⟨.seq (.look .textStart) (.seq part.pattern (.seq (.look .textEnd) .empty)),
    part.height + 2, true⟩

/-- The end of reading, once the source has been read. -/
def Progress.anchored (s : Progress) : Progress :=
  { s with flags := .initial, branches := [], outer := [],
           parts := [.ofLook .textEnd, .group s.contents, .ofLook .textStart] }

theorem contents_anchored (s : Progress) : s.anchored.contents = s.contents.anchored := by
  have hheight : max (max (max 0 0) (s.contents.height + 1)) 0 + 1 = s.contents.height + 2 := by
    omega
  rw [Part.anchored, ← hheight]
  rfl

section Anchors

variable [Library]

theorem finishes_anchored :
    Finishes .initial (anchored source) s' ↔
      Finishes (Progress.initial.within wrapper) (source.toList ++ closing) s' := by
  have hanchored : anchored source = '^' :: '(' :: '?' :: ':' :: (source.toList ++ closing) :=
    List.append_assoc _ _ _
  have hstart : readPart .initial (Flags.initial.skip (anchored source)) =
      some (Progress.initial.push (.ofLook .textStart),
        '(' :: '?' :: ':' :: (source.toList ++ closing)) := by
    rw [hanchored]
    rfl
  have hopen : readPart (Progress.initial.push (.ofLook .textStart))
      (Flags.initial.skip ('(' :: '?' :: ':' :: (source.toList ++ closing))) =
        some (Progress.initial.within wrapper, source.toList ++ closing) := rfl
  exact (finishes_part hstart).trans (finishes_part hopen)

theorem finishes_closing (h : s.outer = []) :
    Finishes (s.within wrapper) closing s' ↔ s' = s.anchored := by
  have houter : (s.within wrapper).outer = [wrapper] := congrArg (· ++ [wrapper]) h
  let closed : Progress := { s with flags := .initial, branches := [], outer := [],
                                    parts := [.group s.contents, .ofLook .textStart] }
  have hclose : readPart (s.within wrapper) (s.flags.skip closing) = some (closed, ['$']) := by
    rw [closing, skip_cons (by decide), readPart, Progress.closeGroup, houter]
    rfl
  have hdollar : readPart closed (closed.flags.skip ['$']) = some (s.anchored, []) := rfl
  exact (finishes_part hclose).trans ((finishes_part hdollar).trans (finishes_end rfl))

/-- A source that is read to its end leaves the closing, or has a comment there that takes it in. -/
theorem Finishes.before_closing (h : Finishes s cs s') :
    (∃ rest, Reads s (cs ++ closing) s' rest ∧ s'.flags.skip rest = closing) ∨
      Finishes s (cs ++ closing) s' := by
  obtain ⟨rest, hreads, hend⟩ := h
  rcases hreads.before_closing with hkept | ⟨-, hswallowed⟩
  · rcases skip_closing s'.flags rest with hskip | ⟨-, hskip⟩
    · exact .inl ⟨_, hkept, by rw [hskip, hend, List.nil_append]⟩
    · exact .inr ⟨_, hkept, hskip⟩
  · exact .inr ⟨[], hswallowed, skip_nil _⟩

theorem Finishes.unique (h : Finishes s cs s₁) (h' : Finishes s cs s') : s' = s₁ := by
  obtain ⟨rest, hreads, hend⟩ := h
  exact (finishes_end hend).mp (hreads.finishes_iff.mp h')

theorem Finishes.within (h : Finishes s cs s') (base : Level) :
    Finishes (s.within base) cs (s'.within base) := by
  obtain ⟨rest, hreads, hend⟩ := h
  exact ⟨rest, hreads.within base, hend⟩

/-- A source that leaves the closing is read between the anchors as it is read alone. -/
theorem read_anchored (hreads : Reads .initial (source.toList ++ closing) s rest)
    (hrest : s.flags.skip rest = closing) (houter : s.outer = []) :
    read (anchored source) = .ok p ↔
      s.contents.height + 2 ≤ heightLimit ∧
        Library.fits (anchored source) s.contents.anchored.pattern = true ∧
        p = s.contents.anchored.pattern := by
  have hskip : (s.within wrapper).flags.skip rest = (s.within wrapper).flags.skip closing := by
    rw [closing, skip_cons (by decide)]
    exact hrest
  have hfinishes (s' : Progress) : Finishes .initial (anchored source) s' ↔ s' = s.anchored := by
    rw [finishes_anchored, (hreads.within wrapper).finishes_iff, finishes_congr hskip,
      finishes_closing houter]
  simp only [read_eq_ok, hfinishes, exists_eq_left, contents_anchored]
  exact and_iff_right rfl

/-- If a comment takes the closing in, the group around the source stays open. -/
theorem read_anchored_ne_ok (h : Finishes .initial (source.toList ++ closing) s) :
    read (anchored source) ≠ .ok p := by
  intro hread
  obtain ⟨s', hfinishes, houter, -⟩ := read_eq_ok.mp hread
  have heq := (h.within wrapper).unique (finishes_anchored.mp hfinishes)
  exact s.within_outer_ne_nil wrapper (heq ▸ houter)

/-- What is read between the anchors has been read alone, unless it closes the group around it. -/
theorem writes_of_read_anchored (h : read (anchored source) = .ok p) :
    ClosesEarly .initial source.toList ∨
      ∃ part, Writes source.toList part ∧ part.height + 2 ≤ heightLimit ∧
        p = part.anchored.pattern := by
  obtain ⟨s', hfinishes, houter, hheight, -, rfl⟩ := read_eq_ok.mp h
  refine (finishes_wrapped (finishes_anchored.mp hfinishes) houter).imp_right ?_
  rintro ⟨s, hsource, hnone, hclosing⟩
  obtain rfl := (finishes_closing hnone).mp hclosing
  rw [contents_anchored] at hheight ⊢
  exact ⟨s.contents, writes_iff.mpr ⟨s, hsource, hnone, rfl⟩, hheight, rfl⟩

end Anchors

/-! ### Matching between the anchors -/

theorem at_textStart (h : i ≤ text.length) : Look.At .textStart text i ↔ i = 0 := by
  unfold Look.At
  split
  next hi => simp [Look.holds, hi]
  next hi =>
    have hlt : i - 1 < text.length := by omega
    simp [Look.holds, hi, hlt]

theorem at_textEnd (h : i ≤ text.length) : Look.At .textEnd text i ↔ i = text.length := by
  simp only [Look.At, Look.holds, Option.isNone_iff_eq_none, List.getElem?_eq_none_iff]
  omega

theorem spans_anchored :
    Spans part.anchored.pattern text i j ↔
      i = 0 ∧ j = text.length ∧ Spans part.pattern text 0 text.length := by
  simp only [Part.anchored, spans_seq, spans_look]
  constructor
  · rintro ⟨_, ⟨rfl, hi, hstart⟩, k, hspans, _, ⟨rfl, hk, hend⟩, hempty⟩
    cases hempty
    obtain rfl := (at_textStart hi).mp hstart
    obtain rfl := (at_textEnd hk).mp hend
    exact ⟨rfl, rfl, hspans⟩
  · rintro ⟨rfl, rfl, hspans⟩
    have hle := Nat.le_refl text.length
    have hstart := (at_textStart (Nat.zero_le text.length)).mpr rfl
    have hend := (at_textEnd hle).mpr rfl
    exact ⟨0, ⟨rfl, Nat.zero_le _, hstart⟩, _, hspans, _, ⟨rfl, hle, hend⟩, .empty hle⟩

/-- Between the anchors a pattern matches all of a text or nothing of it. -/
theorem isMatch_anchored (h : part.pattern.Ordered) :
    part.anchored.pattern.isMatch text = true ↔ Spans part.pattern text 0 text.length := by
  have hordered : part.anchored.pattern.Ordered := ⟨trivial, h, trivial, trivial⟩
  rw [isMatch_iff hordered]
  simp only [spans_anchored]
  constructor
  · rintro ⟨i, j, -, -, hspans⟩
    exact hspans
  · intro hspans
    exact ⟨_, _, rfl, rfl, hspans⟩

section Acceptance

variable [Library]

/-- No reading goes past a parenthesis that closes a group with none open. -/
theorem not_finishes_unopened {after : List Char} (hskip : s.flags.skip cs = ')' :: after)
    (houter : s.outer = []) : ¬Finishes s cs s' := by
  have hclose : s.closeGroup = none := by rw [Progress.closeGroup, houter]
  refine not_finishes (hskip ▸ List.cons_ne_nil _ _) ?_
  rw [hskip, readPart, hclose]
  rfl

theorem ClosesEarly.not_writes (h : ClosesEarly .initial cs) (part : Part) : ¬Writes cs part := by
  obtain ⟨s₁, rest, after, hreads, hskip, houter⟩ := h
  intro hwrites
  obtain ⟨s, hfinishes, -⟩ := writes_iff.mp hwrites
  exact not_finishes_unopened hskip houter (hreads.finishes_iff.mp hfinishes)

/-- Whether a source that writes a part by itself is accepted between the anchors. -/
theorem Writes.exists_read_anchored (h : Writes source.toList part) :
    (∃ p, read (anchored source) = .ok p) ↔
      ¬EndsInComment source.toList ∧ part.height + 2 ≤ heightLimit ∧
        Library.fits (anchored source) part.anchored.pattern = true := by
  obtain ⟨s, hfinishes, houter, rfl⟩ := writes_iff.mp h
  rcases hfinishes.before_closing with ⟨rest, hreads, hrest⟩ | hswallowed
  · have hcomment : ¬EndsInComment source.toList := by
      rintro ⟨part, -, hpart⟩
      obtain ⟨s', hs', -⟩ := writes_iff.mp hpart
      exact not_finishes_unopened hrest houter (hreads.finishes_iff.mp hs')
    simp only [read_anchored hreads hrest houter, exists_and_left, exists_eq, and_true]
    exact (and_iff_right hcomment).symm
  · refine iff_of_false (fun ⟨p, hp⟩ => read_anchored_ne_ok hswallowed hp) ?_
    rintro ⟨hcomment, -⟩
    exact hcomment ⟨s.contents, h, writes_iff.mpr ⟨s, hswallowed, houter, rfl⟩⟩

end Acceptance

end CheckIn.Pattern

namespace CheckIn.DescPattern

open Pattern

theorem exists_ofSource_eq_ok [Library] {source : String} :
    (∃ p, ofSource source = .ok p) ↔ ∃ pattern, read (anchored source) = .ok pattern := by
  constructor
  · rintro ⟨p, hp⟩
    obtain rfl := Selector.ofSource_eq_ok.mp hp
    exact ⟨p.pattern, p.reads⟩
  · rintro ⟨pattern, hread⟩
    exact ⟨⟨source, pattern, hread⟩, Selector.ofSource_eq_ok.mpr rfl⟩

/-- What a source is accepted as, when it is accepted, and when it is no pattern by itself. One that
closes the group around it is none; one that does not is accepted as the pattern that it writes by
itself, if no comment at its end takes the closing in and the library has room for the anchors, and
it matches all of a description or nothing of it. -/
theorem ofSource_anchors [Library] (source : String) :
    (∀ p, ofSource source = .ok p →
      ClosesEarly .initial source.toList ∨
        ∃ part, Writes source.toList part ∧ ∀ desc : String, p.isMatch desc = true ↔
          Spans part.pattern desc.toList 0 desc.toList.length) ∧
    (∀ part, Writes source.toList part →
      ((∃ p, ofSource source = .ok p) ↔
        ¬EndsInComment source.toList ∧ part.height + 2 ≤ heightLimit ∧
          Library.fits (anchored source) part.anchored.pattern = true)) ∧
    (ClosesEarly .initial source.toList → ∀ part, ¬Writes source.toList part) ∧
    ∀ q, Pattern.read source.toList = .ok q ↔
      ∃ part, Writes source.toList part ∧ part.height ≤ heightLimit ∧
        Library.fits source.toList part.pattern = true ∧ q = part.pattern := by
  refine ⟨fun p hp => ?_, fun part hpart => ?_, ClosesEarly.not_writes,
    fun q => read_eq_ok_iff_writes⟩
  · obtain rfl := Selector.ofSource_eq_ok.mp hp
    refine (writes_of_read_anchored p.reads).imp_right ?_
    rintro ⟨part, hwrites, -, hpattern⟩
    refine ⟨part, hwrites, fun desc => ?_⟩
    rw [isMatch, hpattern]
    exact isMatch_anchored hwrites.ordered
  · exact exists_ofSource_eq_ok.trans hpart.exists_read_anchored

/-- A source that is a pattern by itself is not accepted if a comment at its end takes the closing
in. -/
theorem ofSource_anchors_comment :
    ∃ part, Writes "(?x)a # c".toList part ∧ part.height + 2 ≤ heightLimit ∧
      Library.fits (anchored "(?x)a # c") part.anchored.pattern = true ∧
      ¬∃ p, ofSource "(?x)a # c" = .ok p := by
  let part : Part := .concat [.ofSet (.char 'a') 0, .flagged]
  have hwrites : Writes "(?x)a # c".toList part :=
    ⟨⟨{ Flags.initial with extended := true }, [], [.ofSet (.char 'a') 0, .flagged], [], []⟩,
      by rfl, rfl, rfl⟩
  have hcomment : EndsInComment "(?x)a # c".toList :=
    ⟨part, hwrites, ⟨⟨{ Flags.initial with extended := true }, [],
      [.ofSet (.char 'a') 0, .flagged], [], []⟩, by rfl, rfl, rfl⟩⟩
  refine ⟨part, hwrites, by decide, by decide, fun haccepted => ?_⟩
  exact (((ofSource_anchors "(?x)a # c").2.1 _ hwrites).mp haccepted).1 hcomment

/-- A source that is no pattern by itself is accepted and found in a mere part of a description. -/
theorem isMatch_despite_rest :
    ∃ p, ofSource "a)|(?:b" = .ok p ∧ p.isMatch "ax" = true ∧
      ∀ q, Pattern.read "a)|(?:b".toList ≠ .ok q := by
  have hread : Pattern.read (anchored "a)|(?:b") =
      .ok (.either (.seq (.look .textStart) (.seq (.set (.char 'a')) .empty))
        (.seq (.set (.char 'b')) (.seq (.look .textEnd) .empty))) := by rfl
  have halone : Pattern.read "a)|(?:b".toList = .error .malformed := by rfl
  refine ⟨⟨_, _, hread⟩, Selector.ofSource_eq_ok.mpr rfl, by rfl, fun q hq => ?_⟩
  cases halone.symm.trans hq

end CheckIn.DescPattern
