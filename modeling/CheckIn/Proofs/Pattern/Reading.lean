import CheckIn.Proofs.Pattern.Matching
import CheckIn.Proofs.Pattern.PartClosing

/-! Reading as a run from part to part. The fuel of `readAll` always lasts, as every part takes at
least one character, so what a text writes is where its run comes to an end. -/

namespace CheckIn.Pattern

/-- Reading goes from one place to a later one, part by part. -/
inductive Reads [Library] : Progress → List Char → Progress → List Char → Prop
  | here {s cs} : Reads s cs s cs
  | part {s cs s₁ rest s' rest'} : readPart s (s.flags.skip cs) = some (s₁, rest) →
      Reads s₁ rest s' rest' → Reads s cs s' rest'

variable {s s₁ s' : Progress} {cs rest : List Char} {n : Nat} {p : Pattern}

section Runs

variable [Library]

/-- Reading comes to the end of the text. -/
def Finishes (s : Progress) (cs : List Char) (s' : Progress) : Prop :=
  ∃ rest, Reads s cs s' rest ∧ s'.flags.skip rest = []

theorem readPart_skip_ne_nil (h : readPart s (s.flags.skip cs) = some (s₁, rest)) :
    s.flags.skip cs ≠ [] := by
  intro hnil
  rw [hnil] at h
  cases h

theorem readPart_skip_length (h : readPart s (s.flags.skip cs) = some (s₁, rest)) :
    rest.length < cs.length := by
  have hlength := skip_length s.flags cs
  generalize s.flags.skip cs = skipped at h hlength
  cases skipped with
  | nil => cases h
  | cons c after =>
    have hrest := (readPart_suffix h).length_le
    rw [List.length_cons] at hlength
    omega

theorem finishes_part (h : readPart s (s.flags.skip cs) = some (s₁, rest)) :
    Finishes s cs s' ↔ Finishes s₁ rest s' := by
  constructor
  · rintro ⟨last, hreads, hend⟩
    cases hreads with
    | here => exact absurd hend (readPart_skip_ne_nil h)
    | part hpart hreads =>
      cases h.symm.trans hpart
      exact ⟨last, hreads, hend⟩
  · rintro ⟨last, hreads, hend⟩
    exact ⟨last, .part h hreads, hend⟩

theorem finishes_end (h : s.flags.skip cs = []) : Finishes s cs s' ↔ s' = s := by
  constructor
  · rintro ⟨last, hreads, -⟩
    cases hreads with
    | here => rfl
    | part hpart _ => exact absurd h (readPart_skip_ne_nil hpart)
  · rintro rfl
    exact ⟨cs, .here, h⟩

theorem not_finishes (hmore : s.flags.skip cs ≠ []) (h : readPart s (s.flags.skip cs) = none) :
    ¬Finishes s cs s' := by
  rintro ⟨last, hreads, hend⟩
  cases hreads with
  | here => exact hmore hend
  | part hpart _ => cases h.symm.trans hpart

/-- Reading comes to the end from any place on the way, and to no other end. -/
theorem Reads.finishes_iff (h : Reads s cs s₁ rest) :
    Finishes s cs s' ↔ Finishes s₁ rest s' := by
  induction h with
  | here => exact Iff.rfl
  | part hpart _ ih => exact (finishes_part hpart).trans ih

theorem readAll_end (h : s.flags.skip cs = []) : readAll (n + 1) s cs = some s := by
  rw [readAll, h]

theorem readAll_part (hmore : s.flags.skip cs ≠ []) :
    readAll (n + 1) s cs = readPart s (s.flags.skip cs) >>= fun x => readAll n x.1 x.2 := by
  rw [readAll]
  split
  next hnil => exact absurd hnil hmore
  next => rfl

theorem readAll_eq_some (h : cs.length < n) : readAll n s cs = some s' ↔ Finishes s cs s' := by
  induction n generalizing s cs with
  | zero => cases h
  | succ n ih =>
    by_cases hskip : s.flags.skip cs = []
    · rw [readAll_end hskip, finishes_end hskip]
      exact Option.some_inj.trans eq_comm
    rw [readAll_part hskip]
    cases hpart : readPart s (s.flags.skip cs) with
    | none => exact iff_of_false nofun (not_finishes hskip hpart)
    | some x =>
      obtain ⟨s₁, rest⟩ := x
      have hrest : rest.length < cs.length := readPart_skip_length hpart
      have hfuel : rest.length < n := by omega
      rw [finishes_part hpart]
      exact ih hfuel

theorem read_eq_ok {source : List Char} :
    read source = .ok p ↔ ∃ s, Finishes .initial source s ∧ s.outer = [] ∧
      s.contents.height ≤ heightLimit ∧ Library.fits source s.contents.pattern = true ∧
        p = s.contents.pattern := by
  have hread (s : Progress) : readAll (source.length + 1) .initial source = some s ↔
      Finishes .initial source s := readAll_eq_some (Nat.lt_succ_self _)
  simp only [← hread, read]
  cases readAll (source.length + 1) .initial source with
  | none => simp
  | some s =>
    simp only [Option.some.injEq, exists_eq_left']
    split
    next hopen =>
      simp only [Bool.or_eq_true, Bool.not_eq_true', List.isEmpty_eq_false_iff, ne_eq,
        decide_eq_true_eq] at hopen
      refine iff_of_false nofun ?_
      rintro ⟨houter, hheight, -⟩
      rcases hopen with h | h
      · exact h houter
      · omega
    next hclosed =>
      simp only [Bool.or_eq_true, Bool.not_eq_true', List.isEmpty_eq_false_iff, ne_eq,
        decide_eq_true_eq, not_or, Decidable.not_not] at hclosed
      cases hfits : Library.fits source s.contents.pattern with
      | false => simp
      | true =>
        simp only [Bool.not_true, Bool.false_eq_true, if_false, Except.ok.injEq, eq_comm (a := p)]
        exact ⟨fun heq => ⟨hclosed.1, by omega, trivial, heq⟩, fun h => h.2.2.2⟩

end Runs

/-! ### What a part changes -/

/-- What one part, operator, or start or end of a group makes of the progress. -/
inductive Progress.Step (s : Progress) : Progress → Prop
  | pushes {part : Part} : part.pattern.Ordered → Step s (s.push part)
  | sets {flags : Flags} : Step s { s.push .flagged with flags }
  | branches : Step s s.branch
  | opens {flags : Flags} {names : List (List Char)} :
      Step s { s.openGroup flags with names }
  | closes {s' : Progress} : s.closeGroup = some s' → Step s s'
  | repeats {least : Nat} {most : Option Nat} {s' : Progress} :
      (∀ m, most = some m → least ≤ m) → s.repeatLast least most = some s' → Step s s'

theorem readNamed_step (h : readNamed s cs = some (s', rest)) : s.Step s' := by
  obtain ⟨⟨name, after⟩, -, h⟩ := Option.bind_eq_some_iff.mp h
  obtain ⟨_, -, h⟩ := Option.bind_eq_some_iff.mp h
  cases h
  exact .opens

theorem readFlagged_step (h : readFlagged s cs = some (s', rest)) : s.Step s' := by
  obtain ⟨⟨flags, ending, seen, after⟩, -, h⟩ := Option.bind_eq_some_iff.mp h
  cases ending with
  | colon =>
    cases h
    exact .opens
  | parenthesis =>
    obtain ⟨_, -, h⟩ := Option.bind_eq_some_iff.mp h
    cases h
    exact .sets

theorem readGroup_step (h : readGroup s cs = some (s', rest)) : s.Step s' := by
  rw [readGroup_eq] at h
  unfold readGroupRest at h
  split at h
  iterate 4 cases h
  · exact readNamed_step h
  · exact readNamed_step h
  · exact readFlagged_step h
  · cases h
    exact .opens

theorem readMost_le {least : Nat} {most : Option Nat}
    (h : readMost flags least cs = some (most, rest)) : ∀ m, most = some m → least ≤ m := by
  unfold readMost at h
  split at h
  next after =>
    unfold readUpper at h
    split at h
    · cases h
      exact nofun
    · obtain ⟨⟨count, after⟩, -, h⟩ := Option.bind_eq_some_iff.mp h
      obtain ⟨m, -, h⟩ := Option.bind_eq_some_iff.mp h
      obtain ⟨_, hle, h⟩ := Option.bind_eq_some_iff.mp h
      cases h
      rintro _ ⟨⟩
      exact (Option.guard_eq_some' _).mp hle
  next =>
    cases h
    rintro _ ⟨⟩
    exact Nat.le_refl _

theorem readCounted_step (h : readCounted s cs = some (s', rest)) : s.Step s' := by
  rw [readCounted_eq] at h
  obtain ⟨⟨count, after⟩, -, h⟩ := Option.bind_eq_some_iff.mp h
  obtain ⟨least, -, h⟩ := Option.bind_eq_some_iff.mp h
  obtain ⟨⟨most, after⟩, hmost, h⟩ := Option.bind_eq_some_iff.mp h
  unfold closeCount at h
  split at h
  · obtain ⟨repeated, hrepeated, h⟩ := Option.bind_eq_some_iff.mp h
    cases h
    exact .repeats (readMost_le hmost) hrepeated
  · cases h

theorem escapedPart_ordered {escaped : Escaped} {flags : Flags} {part : Part}
    (h : escaped.part flags = some part) : part.pattern.Ordered := by
  cases escaped with
  | byte c =>
    rw [Escaped.part] at h
    split at h
    · cases h
      trivial
    · cases h
  | char | set | look =>
    cases h
    trivial

theorem readPart_step [Library] (h : readPart s cs = some (s', rest)) : s.Step s' := by
  rcases cs with _ | ⟨c, cs⟩
  · cases h
  have hrepeated {least : Nat} {most : Option Nat} (hle : ∀ m, most = some m → least ≤ m)
      (h : (s.repeatLast least most).map (·, skipLazy cs) = some (s', rest)) : s.Step s' := by
    obtain ⟨repeated, hrepeated, heq⟩ := Option.map_eq_some_iff.mp h
    cases heq
    exact .repeats hle hrepeated
  simp only [readPart] at h
  split at h
  · exact readGroup_step h
  · obtain ⟨closed, hclosed, heq⟩ := Option.map_eq_some_iff.mp h
    cases heq
    exact .closes hclosed
  · cases h
    exact .branches
  · obtain ⟨read, -, heq⟩ := Option.map_eq_some_iff.mp h
    cases heq
    exact .pushes trivial
  · exact hrepeated (by simp) h
  · exact hrepeated (by simp) h
  · exact hrepeated (by simp) h
  · exact readCounted_step h
  · obtain ⟨⟨escaped, after⟩, -, h⟩ := Option.bind_eq_some_iff.mp h
    obtain ⟨part, hpart, h⟩ := Option.bind_eq_some_iff.mp h
    cases h
    exact .pushes (escapedPart_ordered hpart)
  · obtain ⟨set, -, heq⟩ := Option.map_eq_some_iff.mp h
    cases heq
    exact .pushes trivial
  all_goals
    cases h
    exact .pushes trivial

/-! ### The bounds of repetitions -/

/-- The parts that have been read so far. -/
def Progress.held (s : Progress) : List Part :=
  s.parts ++ s.branches ++ s.outer.flatMap fun level => level.parts ++ level.branches

/-- The bounds of all repetitions that have been read are in order. -/
def Progress.Ordered (s : Progress) : Prop := ∀ part ∈ s.held, part.pattern.Ordered

theorem Part.foldl_ordered {join : Pattern → Part → Pattern} {parts : List Part} {first : Pattern}
    (hjoin : ∀ {p part}, p.Ordered → part.pattern.Ordered → (join p part).Ordered)
    (hfirst : first.Ordered) (hparts : ∀ part ∈ parts, part.pattern.Ordered) :
    (parts.foldl join first).Ordered := by
  induction parts generalizing first with
  | nil => exact hfirst
  | cons part parts ih =>
    obtain ⟨hpart, hparts⟩ := List.forall_mem_cons.mp hparts
    exact ih (hjoin hfirst hpart) hparts

theorem Part.concat_ordered {parts : List Part} (h : ∀ part ∈ parts, part.pattern.Ordered) :
    (Part.concat parts).pattern.Ordered := by
  unfold Part.concat
  split
  next part => exact h part List.mem_cons_self
  next => exact foldl_ordered (fun hp hpart => ⟨hpart, hp⟩) trivial h

theorem Part.alternatives_ordered {parts : List Part} (h : ∀ part ∈ parts, part.pattern.Ordered) :
    (Part.alternatives parts).pattern.Ordered := by
  unfold Part.alternatives
  split
  next => trivial
  next part => exact h part List.mem_cons_self
  next last parts _ =>
    obtain ⟨hlast, hparts⟩ := List.forall_mem_cons.mp h
    exact foldl_ordered (fun hp hpart => ⟨hpart, hp⟩) hlast hparts

namespace Progress

theorem ordered_initial : initial.Ordered := nofun

theorem ordered_iff : s.Ordered ↔ (∀ part ∈ s.parts, part.pattern.Ordered) ∧
    (∀ part ∈ s.branches, part.pattern.Ordered) ∧
      ∀ part ∈ s.outer.flatMap fun level => level.parts ++ level.branches,
        part.pattern.Ordered := by
  simp only [Ordered, held, List.forall_mem_append, and_assoc]

theorem Ordered.contents (h : s.Ordered) : s.contents.pattern.Ordered := by
  obtain ⟨hparts, hbranches, -⟩ := ordered_iff.mp h
  exact Part.alternatives_ordered (List.forall_mem_cons.mpr
    ⟨Part.concat_ordered hparts, hbranches⟩)

theorem Ordered.push {part : Part} (h : s.Ordered) (hpart : part.pattern.Ordered) :
    (s.push part).Ordered :=
  List.forall_mem_cons.mpr ⟨hpart, h⟩

theorem Ordered.branch (h : s.Ordered) : s.branch.Ordered := by
  obtain ⟨hparts, hbranches, houter⟩ := ordered_iff.mp h
  refine ordered_iff.mpr ⟨nofun, ?_, houter⟩
  exact List.forall_mem_cons.mpr ⟨Part.concat_ordered hparts, hbranches⟩

theorem Ordered.openGroup (h : s.Ordered) (flags : Flags) : (s.openGroup flags).Ordered := h

theorem Ordered.closeGroup (h : s.Ordered) (hclose : s.closeGroup = some s') : s'.Ordered := by
  obtain ⟨-, -, houter⟩ := ordered_iff.mp h
  unfold Progress.closeGroup at hclose
  split at hclose
  · cases hclose
  next level outer heq =>
    cases hclose
    rw [heq, List.flatMap_cons, List.forall_mem_append, List.forall_mem_append] at houter
    obtain ⟨⟨hparts, hbranches⟩, houter⟩ := houter
    refine ordered_iff.mpr ⟨?_, hbranches, houter⟩
    exact List.forall_mem_cons.mpr ⟨h.contents, hparts⟩

theorem Ordered.repeatLast {least : Nat} {most : Option Nat} (h : s.Ordered)
    (hle : ∀ m, most = some m → least ≤ m) (hrepeat : s.repeatLast least most = some s') :
    s'.Ordered := by
  obtain ⟨hparts, hbranches, houter⟩ := ordered_iff.mp h
  unfold Progress.repeatLast at hrepeat
  split at hrepeat
  · cases hrepeat
  next part parts heq =>
    obtain ⟨repeated, hrepeated, rfl⟩ := Option.map_eq_some_iff.mp hrepeat
    obtain ⟨hpart, hparts⟩ := List.forall_mem_cons.mp (heq ▸ hparts)
    refine ordered_iff.mpr ⟨List.forall_mem_cons.mpr ⟨?_, hparts⟩, hbranches, houter⟩
    unfold Part.repeated at hrepeated
    split at hrepeated
    · cases hrepeated
    · cases hrepeated
      exact ⟨hpart, hle⟩

theorem Ordered.step (h : s.Ordered) (hstep : s.Step s') : s'.Ordered := by
  cases hstep with
  | pushes hpart => exact h.push hpart
  | sets =>
    have hflagged : Part.flagged.pattern.Ordered := trivial
    exact h.push hflagged
  | branches => exact h.branch
  | @opens flags _ => exact h.openGroup flags
  | closes hclose => exact h.closeGroup hclose
  | repeats hle hrepeat => exact h.repeatLast hle hrepeat

end Progress

theorem Reads.ordered [Library] (h : Reads s cs s' rest) (hs : s.Ordered) : s'.Ordered := by
  induction h with
  | here => exact hs
  | part hpart _ ih => exact ih (hs.step (readPart_step hpart))

/-- The bounds of the repetitions of a pattern that has been read are in order. -/
theorem read_ordered [Library] {source : List Char} (h : read source = .ok p) : p.Ordered := by
  obtain ⟨s, ⟨rest, hreads, -⟩, -, -, -, rfl⟩ := read_eq_ok.mp h
  exact (hreads.ordered Progress.ordered_initial).contents

end CheckIn.Pattern
