import CheckIn.Pattern.Reader
import CheckIn.Proofs.Pattern.BracketClosing

/-! Groups, repetitions and whole parts in front of the closing. -/

namespace CheckIn.Pattern

variable {α : Type} {flags : Flags} {cs rest : List Char} {n : Nat} {s : Progress}

/-! ### Groups -/

/-- What is read of a run of flag letters, apart from what is left. -/
def regroup (x : Flags × FlagsEnd × List Char × List Char) :
    (Flags × FlagsEnd × List Char) × List Char :=
  ((x.1, x.2.1, x.2.2.1), x.2.2.2)

theorem readFlags_tailed (flags : Flags) (seen cs : List Char) :
    Tailed (fun _ => Cut) cs ((readFlags flags seen cs).map regroup)
      ((readFlags flags seen (cs ++ closing)).map regroup) := by
  induction cs generalizing flags seen with
  | nil =>
    refine .of_none fun a rest ha => ?_
    obtain ⟨x, hx, hrest⟩ := Option.map_eq_some_iff.mp ha
    rw [List.nil_append, closing, readFlags, if_pos (.inr rfl)] at hx
    split at hx
    · cases hx
    · cases hx
      cases hrest
      exact .inr rfl
  | cons c cs ih =>
    simp only [List.cons_append, readFlags]
    refine Tailed.mono ?_ (List.suffix_cons c cs)
    split
    · split
      · exact .fails
      · exact .kept List.suffix_rfl
    · split
      · exact .fails
      · split
        · exact ih _ _
        · split
          · exact ih _ _
          · exact .fails

theorem readGroupName_local : Local readGroupName := by
  intro cs
  unfold readGroupName
  rcases dropWhile_closing (p := (· ≠ '>')) cs rfl rfl with ⟨h, h'⟩ | ⟨h, h', hne⟩
  · rw [h, h']
    cases cs.takeWhile (· ≠ '>') <;> cases (cs ++ closing).takeWhile (· ≠ '>') <;> exact .fails
  · rw [h, h']
    have hsuffix : cs.dropWhile (· ≠ '>') <:+ cs := List.dropWhile_suffix _
    generalize cs.dropWhile (· ≠ '>') = found at hne hsuffix
    rcases found with _ | ⟨d, rest⟩
    · exact absurd rfl hne
    rcases cs.takeWhile (· ≠ '>') with _ | ⟨c, name⟩
    · exact .fails
    · simp only [List.cons_append]
      split
      · exact .kept ((List.suffix_cons d rest).trans hsuffix)
      · exact .fails

/-- A group with a name. -/
def readNamed (s : Progress) (cs : List Char) : Option (Progress × List Char) := do
  let (name, rest) ← readGroupName cs
  guard (!s.names.contains name)
  pure ({ s.openGroup s.flags with names := name :: s.names }, rest)

/-- A group that begins with flags, or flags alone. -/
def readFlagged (s : Progress) (cs : List Char) : Option (Progress × List Char) := do
  let (flags, ending, seen, rest) ← readFlags s.flags [] cs
  match ending with
  | .colon => pure (s.openGroup flags, rest)
  | .parenthesis =>
    guard (seen ≠ [])
    pure ({ s.push .flagged with flags }, rest)

def readGroupRest (s : Progress) : List Char → Option (Progress × List Char)
  | '?' :: '=' :: _ | '?' :: '!' :: _ | '?' :: '<' :: '=' :: _ | '?' :: '<' :: '!' :: _ => none
  | '?' :: 'P' :: '<' :: rest => readNamed s rest
  | '?' :: '<' :: rest => readNamed s rest
  | '?' :: rest => readFlagged s rest
  | rest => some (s.openGroup s.flags, rest)

theorem readGroup_eq (s : Progress) (cs : List Char) :
    readGroup s cs = readGroupRest s (s.flags.skip cs) := rfl

theorem readNamed_local (s : Progress) : Local (readNamed s) := fun cs =>
  (readGroupName_local cs).bind_local fun _ rest => .const fun _ => local_some _ rest

/-- What flags that have been read begin: a group, or the rest of the one that they stand in. -/
def applyFlags (s : Progress) (x : (Flags × FlagsEnd × List Char) × List Char) :
    Option (Progress × List Char) :=
  match x.1.2.1 with
  | .colon => pure (s.openGroup x.1.1, x.2)
  | .parenthesis => do
    guard (x.1.2.2 ≠ [])
    pure ({ s.push .flagged with flags := x.1.1 }, x.2)

theorem readFlagged_eq (s : Progress) (cs : List Char) :
    readFlagged s cs = (readFlags s.flags [] cs).map regroup >>= applyFlags s := by
  unfold readFlagged
  rcases readFlags s.flags [] cs with _ | ⟨flags, ending, seen, rest⟩
  · rfl
  · cases ending <;> rfl

theorem readFlagged_local (s : Progress) : Local (readFlagged s) := by
  intro cs
  rw [readFlagged_eq, readFlagged_eq]
  refine (readFlags_tailed s.flags [] cs).bind_local fun x rest => ?_
  obtain ⟨flags, ending, seen⟩ := x
  cases ending with
  | colon => exact local_some _ rest
  | parenthesis => exact .const fun _ => local_some _ rest

theorem readGroupRest_plain (hcs : ∀ rest, cs ≠ '?' :: rest) :
    readGroupRest s cs = some (s.openGroup s.flags, cs) := by
  unfold readGroupRest
  split
  case h_8 => rfl
  all_goals exact absurd rfl (hcs _)

theorem readGroupRest_local (s : Progress) : Local (readGroupRest s) := by
  intro cs
  by_cases hcs : ∀ rest, cs ≠ '?' :: rest
  · rw [readGroupRest_plain hcs, readGroupRest_plain (append_closing_ne hcs (by decide))]
    exact .kept List.suffix_rfl
  unfold readGroupRest
  split
  next => exact .fails
  next => exact .fails
  next => exact .fails
  next => exact .fails
  next rest =>
    have hsuffix : rest <:+ 'P' :: '<' :: rest := suffix_cons₂ _ _ _
    exact (readNamed_local s rest).mono (hsuffix.trans (List.suffix_cons _ _))
  next rest hequal hnot =>
    have hequal' := append_closing_ne hequal (by decide)
    have hnot' := append_closing_ne hnot (by decide)
    have hsuffix : rest <:+ '<' :: rest := List.suffix_cons _ _
    simp only [List.cons_append]
    exact (readNamed_local s rest).mono (hsuffix.trans (List.suffix_cons _ _))
  next rest hequal hnot hbehind hbehindNot hnamed hangle =>
    have hequal' := append_closing_ne hequal (by decide)
    have hnot' := append_closing_ne hnot (by decide)
    have hbehind' := append_closing_ne₂ hbehind (by decide) (by decide)
    have hbehindNot' := append_closing_ne₂ hbehindNot (by decide) (by decide)
    have hnamed' := append_closing_ne₂ hnamed (by decide) (by decide)
    have hangle' := append_closing_ne hangle (by decide)
    simp only [List.cons_append]
    exact (readFlagged_local s rest).mono (List.suffix_cons _ _)
  next hplain => exact absurd hplain hcs

theorem readGroup_local (s : Progress) : Local (readGroup s) := fun cs =>
  (readGroupRest_local s).skip s.flags cs

/-! ### Repetitions -/

theorem readDigits_eq (flags : Flags) (n : Nat) (cs : List Char) :
    readDigits flags n cs = readBoundary.letters flags Char.isDigit n cs := by
  induction n generalizing cs with
  | zero => rfl
  | succ n ih =>
    cases cs with
    | nil => rfl
    | cons c cs => simp only [readDigits, readBoundary.letters, ih]

theorem readDigits_local (flags : Flags) : Local fun cs => some (readDigits flags cs.length cs) := by
  refine .of_stable (g := fun n cs => some (readDigits flags n cs)) ?_ ?_
  · intro n m cs hn hm
    simp only [readDigits_eq]
    exact congrArg some (letters_stable _ hn hm)
  · intro n
    simp only [readDigits_eq]
    exact letters_local rfl n

theorem skipLoose_local (flags : Flags) (a : α) :
    Local fun cs => some (a, skipLoose flags cs.length cs) := by
  refine .of_stable (g := fun n cs => some (a, skipLoose flags n cs)) ?_ fun n => ?_
  · refine Stable.of_step (g := fun n cs => some (a, skipLoose flags n cs))
      (fun n m => by cases n <;> cases m <;> rfl) fun {n m} c cs ih => ?_
    have hrest := ih _ (skip_length flags cs)
    dsimp only [skipLoose] at hrest ⊢
    split
    · exact hrest
    · rfl
  · induction n with
    | zero => exact local_some a
    | succ n ih =>
      intro cs
      cases cs with
      | nil => exact .kept List.suffix_rfl
      | cons c cs =>
        simp only [List.cons_append, skipLoose]
        split
        · exact (ih.skip flags cs).mono (List.suffix_cons c cs)
        · exact .kept List.suffix_rfl

/-- The count that digits write. -/
def countOf (digits : List Char) : Option (Option Nat) :=
  if digits.isEmpty then some none
  else
    let n := digits.foldl (fun n c => 10 * n + (c.toNat - 48)) 0
    if n < UInt32.size then some (some n) else none

theorem readCount_eq (flags : Flags) (cs : List Char) :
    readCount flags cs =
      some (readDigits flags (Text.skipBlanks cs).length (Text.skipBlanks cs)) >>= fun x =>
        some (x.1, skipLoose flags x.2.length x.2) >>= fun y =>
          countOf y.1 >>= fun count => some (count, y.2) := by
  simp only [readCount, countOf, Option.bind_eq_bind, Option.bind_some]
  split
  · rfl
  · split <;> rfl

theorem readCount_local (flags : Flags) : Local (readCount flags) := by
  intro cs
  rw [readCount_eq, readCount_eq, skipBlanks_closing]
  have hsuffix : Text.skipBlanks cs <:+ cs := List.dropWhile_suffix _
  refine Tailed.mono ?_ hsuffix
  refine (readDigits_local flags (Text.skipBlanks cs)).bind_local fun digits rest => ?_
  refine (skipLoose_local flags digits rest).bind_local fun digits rest => ?_
  exact .const fun count => local_some count rest

theorem skipLazy_plain (hcs : ∀ rest, cs ≠ '?' :: rest) : skipLazy cs = cs := by
  unfold skipLazy
  split
  next rest => exact absurd rfl (hcs rest)
  next => rfl

theorem skipLazy_local (a : α) : Local fun cs => some (a, skipLazy cs) := by
  refine tailed_of_head (c := '?') (by decide) (local_some a)
    (fun hcs => congrArg (fun rest => some (a, rest)) (skipLazy_plain hcs)) fun rest => ?_
  exact .kept (List.suffix_cons _ _)

/-- The greater count of a repetition, behind the comma. -/
def readUpper (flags : Flags) (least : Nat) : List Char → Option (Option Nat × List Char)
  | '}' :: rest => some (none, '}' :: rest)
  | cs => do
    let (most, rest) ← readCount flags cs
    let most ← most
    guard (least ≤ most)
    pure (some most, rest)

/-- What follows the least count of a repetition. -/
def readMost (flags : Flags) (least : Nat) : List Char → Option (Option Nat × List Char)
  | ',' :: rest => readUpper flags least (flags.skip rest)
  | rest => some (some least, rest)

/-- The end of a repetition with counts. -/
def closeCount (s : Progress) (least : Nat) (most : Option Nat) :
    List Char → Option (Progress × List Char)
  | '}' :: rest => do pure (← s.repeatLast least most, skipLazy (s.flags.skip rest))
  | _ => none

theorem readUpper_plain {least : Nat} (hcs : ∀ rest, cs ≠ '}' :: rest) :
    readUpper flags least cs =
      readCount flags cs >>= fun x => x.1 >>= fun most =>
        (guard (least ≤ most) : Option Unit) >>= fun _ => some (some most, x.2) := by
  unfold readUpper
  split
  next rest => exact absurd rfl (hcs rest)
  next => rfl

theorem readUpper_local (flags : Flags) (least : Nat) : Local (readUpper flags least) := by
  refine tailed_of_head (c := '}') (by decide) (fun cs => ?_) readUpper_plain fun rest => ?_
  · refine (readCount_local flags cs).bind_local fun most rest => ?_
    exact .const fun most => .const fun _ => local_some _ rest
  · exact .kept List.suffix_rfl

theorem readMost_plain {least : Nat} (hcs : ∀ rest, cs ≠ ',' :: rest) :
    readMost flags least cs = some (some least, cs) := by
  unfold readMost
  split
  next rest => exact absurd rfl (hcs rest)
  next => rfl

theorem readMost_comma {least : Nat} :
    readMost flags least (',' :: rest) = readUpper flags least (flags.skip rest) := rfl

theorem readMost_local (flags : Flags) (least : Nat) : Local (readMost flags least) := by
  refine tailed_of_head (c := ',') (by decide) (local_some _) readMost_plain fun rest => ?_
  exact ((readUpper_local flags least).skip flags rest).mono (List.suffix_cons _ _)

theorem closeCount_plain {least : Nat} {most : Option Nat} (hcs : ∀ rest, cs ≠ '}' :: rest) :
    closeCount s least most cs = none := by
  unfold closeCount
  split
  next rest => exact absurd rfl (hcs rest)
  next => rfl

theorem closeCount_local (s : Progress) (least : Nat) (most : Option Nat) :
    Local (closeCount s least most) := by
  refine tailed_of_head (c := '}') (by decide) local_none closeCount_plain fun rest => ?_
  refine Tailed.mono ?_ (List.suffix_cons _ _)
  exact .const fun repeated => (skipLazy_local repeated).skip s.flags rest

theorem readCounted_eq (s : Progress) (cs : List Char) :
    readCounted s cs =
      readCount s.flags (s.flags.skip cs) >>= fun x => x.1 >>= fun least =>
        readMost s.flags least x.2 >>= fun y => closeCount s least y.1 y.2 := by
  unfold readCounted
  rcases readCount s.flags (s.flags.skip cs) with _ | ⟨_ | least, rest⟩
  · rfl
  · rfl
  · simp only [Option.bind_eq_bind, Option.bind_some]
    split
    next rest =>
      rw [readMost_comma]
      split
      next after heq =>
        rw [heq]
        rfl
      next hplain =>
        rw [readUpper_plain hplain]
        rcases readCount s.flags (s.flags.skip rest) with _ | ⟨_ | most, after⟩
        · rfl
        · rfl
        · simp only [Option.bind_eq_bind, Option.bind_some]
          cases (guard (least ≤ most) : Option Unit) <;> rfl
    next hplain =>
      rw [readMost_plain hplain]
      rfl

theorem readCounted_local (s : Progress) : Local (readCounted s) := by
  intro cs
  rw [readCounted_eq, readCounted_eq]
  have hleast := (readCount_local s.flags).skip s.flags cs
  refine hleast.bind_local fun least rest => .const fun least => ?_
  refine (readMost_local s.flags least rest).bind_local fun most rest => ?_
  exact closeCount_local s least most rest

theorem readPart_cons_tailed [Library] (s : Progress) (c : Char) (cs : List Char) :
    Tailed (fun s' rest => Cut rest ∨ Stray s'.flags rest) cs (readPart s (c :: cs))
      (readPart s (c :: (cs ++ closing))) := by
  have hlocal {f : List Char → Option (Progress × List Char)} (hf : Local f) (cs : List Char) :
      Tailed (fun s' rest => Cut rest ∨ Stray s'.flags rest) cs (f cs) (f (cs ++ closing)) :=
    (hf cs).imp fun _ _ => .inl
  have hrepeated (least : Nat) (most : Option Nat) : Local fun rest =>
      (s.repeatLast least most).map (·, skipLazy rest) := by
    intro rest
    cases s.repeatLast least most with
    | none => exact .fails
    | some repeated => exact skipLazy_local repeated rest
  simp only [readPart]
  split
  · exact hlocal (readGroup_local s) cs
  · cases s.closeGroup with
    | none => exact .fails
    | some closed => exact .kept List.suffix_rfl
  · exact .kept List.suffix_rfl
  · have hbracket := readBracket_local s.flags cs
    exact (hbracket.map_local (k := fun read => s.push (.ofSet read.set read.height))
      fun _ _ => rfl).imp fun _ _ => .inl
  · exact hlocal (hrepeated 0 (some 1)) cs
  · exact hlocal (hrepeated 0 none) cs
  · exact hlocal (hrepeated 1 none) cs
  · exact hlocal (readCounted_local s) cs
  · refine (readEscape_tailed s.flags cs).bind (fun escaped rest => ?_) ?_
    · exact .const fun part => .kept List.suffix_rfl
    · intro escaped rest s' rest' hlost hread
      obtain ⟨part, -, heq⟩ := Option.bind_eq_some_iff.mp hread
      cases heq
      exact hlost.imp_right And.right
  · cases s.flags.dot with
    | none => exact .fails
    | some set => exact .kept List.suffix_rfl
  all_goals exact .kept List.suffix_rfl

theorem readPart_suffix [Library] {c : Char} {s' : Progress}
    (h : readPart s (c :: cs) = some (s', rest)) : rest <:+ cs :=
  (readPart_cons_tailed s c cs).suffix h

/-- A part in front of the closing is read as it is alone, except where the closing is read with
it, or a brace is left that has only the closing behind it. -/
theorem readPart_tailed [Library] (s : Progress) (cs : List Char) :
    Tailed (fun s' rest => Cut rest ∨ Stray s'.flags rest) cs (readPart s cs)
      (readPart s (cs ++ closing)) := by
  rcases cs with _ | ⟨c, cs⟩
  · refine .of_none fun a rest ha => ?_
    obtain ⟨_, -, heq⟩ := Option.map_eq_some_iff.mp ha
    cases heq
    exact .inl (.inr rfl)
  · exact (readPart_cons_tailed s c cs).mono (List.suffix_cons c cs)

end CheckIn.Pattern
