import CheckIn.Pattern.Reader
import Mathlib.Data.Option.Basic

/-! Readers and what stands behind. An anchored source has a closing behind it. A reader that is
`Local` reads the source in front of the closing as it reads the source alone, and leaves the
closing, with two exceptions: a comment that reaches the end of the source goes on to the end of the
closing, and a reader that would fail for want of more may go on into the closing. -/

namespace CheckIn.Pattern

/-- What stands behind an anchored source. -/
def closing : List Char := [')', '$']

/-- What a reader can leave that has gone into the closing. -/
def Cut (rest : List Char) : Prop := rest = [] ∨ rest = ['$']

variable {α β γ : Type}

/-- What a reader makes of `cs` alone and of `cs` in front of the closing. If it fails alone, it
may leave something that is lost. -/
inductive Tailed (Lost : α → List Char → Prop) (cs : List Char) :
    (alone tailed : Option (α × List Char)) → Prop
  | fails : Tailed Lost cs none none
  | kept {a : α} {rest : List Char} : rest <:+ cs →
      Tailed Lost cs (some (a, rest)) (some (a, rest ++ closing))
  | swallowed {a : α} : Tailed Lost cs (some (a, [])) (some (a, []))
  | lost {a : α} {rest : List Char} : Lost a rest → Tailed Lost cs none (some (a, rest))

/-- The reader reads what stands before the closing as it reads it alone. -/
def Local (f : List Char → Option (α × List Char)) : Prop :=
  ∀ cs, Tailed (fun _ => Cut) cs (f cs) (f (cs ++ closing))

variable {Lost : α → List Char → Prop} {Lost' : β → List Char → Prop} {cs cs' rest : List Char}
  {x y : Option (α × List Char)} {f : List Char → Option (α × List Char)}

theorem suffix_cons₂ (c d : Char) (cs : List Char) : cs <:+ c :: d :: cs :=
  (List.suffix_cons d cs).trans (List.suffix_cons c (d :: cs))

theorem Tailed.mono (h : Tailed Lost cs x y) (hcs : cs <:+ cs') : Tailed Lost cs' x y := by
  cases h with
  | fails => exact .fails
  | kept hrest => exact .kept (hrest.trans hcs)
  | swallowed => exact .swallowed
  | lost hlost => exact .lost hlost

theorem Tailed.imp {Lost' : α → List Char → Prop} (h : Tailed Lost cs x y)
    (hlost : ∀ a rest, Lost a rest → Lost' a rest) : Tailed Lost' cs x y := by
  cases h with
  | fails => exact .fails
  | kept hrest => exact .kept hrest
  | swallowed => exact .swallowed
  | lost hrest => exact .lost (hlost _ _ hrest)

theorem Tailed.suffix {a : α} (h : Tailed Lost cs x y) (hx : x = some (a, rest)) : rest <:+ cs := by
  cases h with
  | fails | lost => cases hx
  | kept hrest =>
    cases hx
    exact hrest
  | swallowed =>
    cases hx
    exact List.nil_suffix

theorem Local.suffix {a : α} (h : Local f) (hf : f cs = some (a, rest)) : rest <:+ cs :=
  (h cs).suffix hf

theorem Cut.suffix (h : Cut cs) (hrest : rest <:+ cs) : Cut rest := by
  rcases h with rfl | rfl
  · exact .inl (List.suffix_nil.mp hrest)
  · rcases List.suffix_cons_iff.mp hrest with h | h
    · exact .inr h
    · exact .inl (List.suffix_nil.mp h)

/-- What a comment has swallowed the closing of is read like the source alone. -/
theorem Tailed.refl (h : ∀ a rest, x = some (a, rest) → rest = []) : Tailed Lost cs x x := by
  rcases x with _ | ⟨a, rest⟩
  · exact .fails
  · obtain rfl := h a rest rfl
    exact .swallowed

/-- A reader that succeeds both times reads the same. -/
theorem Tailed.of_some {p p' : α × List Char} (h : Tailed Lost cs (some p) (some p')) :
    p.2 <:+ cs ∧ p'.1 = p.1 ∧ (p'.2 = p.2 ++ closing ∨ p.2 = [] ∧ p'.2 = []) := by
  cases h with
  | kept hrest => exact ⟨hrest, rfl, .inl rfl⟩
  | swallowed => exact ⟨List.nil_suffix, rfl, .inr ⟨rfl, rfl⟩⟩

/-- What fails alone may leave what is lost. -/
theorem Tailed.of_none (h : ∀ a rest, y = some (a, rest) → Lost a rest) :
    Tailed Lost cs none y := by
  rcases y with _ | ⟨a, rest⟩
  · exact .fails
  · exact .lost (h a rest rfl)

/-- Readers in turn. -/
theorem Tailed.bind {g : α × List Char → Option (β × List Char)} (h : Tailed Lost cs x y)
    (hg : ∀ a rest, Tailed Lost' rest (g (a, rest)) (g (a, rest ++ closing)))
    (hlost : ∀ a rest b rest', Lost a rest → g (a, rest) = some (b, rest') → Lost' b rest') :
    Tailed Lost' cs (x >>= g) (y >>= g) := by
  cases h with
  | fails => exact .fails
  | @kept a rest hrest => exact (hg a rest).mono hrest
  | @swallowed a =>
    refine Tailed.refl fun b rest hb => ?_
    exact List.suffix_nil.mp ((hg a []).suffix hb)
  | @lost a rest hrest =>
    show Tailed Lost' cs none (g (a, rest))
    cases hb : g (a, rest) with
    | none => exact .fails
    | some b => exact .lost (hlost a rest b.1 b.2 hrest hb)

theorem Tailed.bind_local {g : α × List Char → Option (β × List Char)}
    (h : Tailed (fun _ => Cut) cs x y) (hg : ∀ a, Local fun rest => g (a, rest)) :
    Tailed (fun _ => Cut) cs (x >>= g) (y >>= g) :=
  h.bind hg fun a _ _ _ hcut hb => hcut.suffix ((hg a).suffix hb)

theorem Tailed.map {g : α × List Char → β × List Char} {k : α → β} (h : Tailed Lost cs x y)
    (hg : ∀ a rest, g (a, rest) = (k a, rest)) (hlost : ∀ a rest, Lost a rest → Lost' (k a) rest) :
    Tailed Lost' cs (x.map g) (y.map g) := by
  cases h with
  | fails => exact .fails
  | kept hrest =>
    simp only [Option.map_some, hg]
    exact .kept hrest
  | swallowed =>
    simp only [Option.map_some, hg]
    exact .swallowed
  | lost hrest =>
    simp only [Option.map_some, Option.map_none, hg]
    exact .lost (hlost _ _ hrest)

theorem local_some (a : α) : Local fun rest => some (a, rest) :=
  fun _ => .kept List.suffix_rfl

theorem local_none : Local fun _ => (none : Option (α × List Char)) :=
  fun _ => .fails

theorem Tailed.map_local {g : α × List Char → β × List Char} {k : α → β}
    (h : Tailed (fun _ => Cut) cs x y) (hg : ∀ a rest, g (a, rest) = (k a, rest)) :
    Tailed (fun _ => Cut) cs (x.map g) (y.map g) :=
  h.map hg fun _ _ hcut => hcut

/-- A condition that does not depend on what is left. -/
theorem Tailed.const {o : Option γ} {k k' : γ → Option (α × List Char)}
    (h : ∀ c, Tailed Lost cs (k c) (k' c)) : Tailed Lost cs (o >>= k) (o >>= k') := by
  cases o with
  | none => exact .fails
  | some c => exact h c

/-! ### Skipping -/

theorem skipComments_suffix (inComment : Bool) (cs : List Char) :
    skipComments inComment cs <:+ cs := by
  induction cs generalizing inComment with
  | nil => cases inComment <;> exact List.suffix_rfl
  | cons c cs ih =>
    have hcons (b : Bool) : skipComments b cs <:+ c :: cs := (ih b).trans (List.suffix_cons c cs)
    cases inComment with
    | true => exact hcons _
    | false =>
      unfold skipComments
      split
      · exact hcons _
      · split
        · exact hcons _
        · exact List.suffix_rfl

theorem skip_suffix (flags : Flags) (cs : List Char) : flags.skip cs <:+ cs := by
  unfold Flags.skip
  split
  · exact skipComments_suffix _ _
  · exact List.suffix_rfl

theorem skip_nil (flags : Flags) : flags.skip [] = [] := List.suffix_nil.mp (skip_suffix flags [])

theorem skip_cons {c : Char} (hc : Text.isBlank c = false ∧ c ≠ '#') (flags : Flags)
    (cs : List Char) : flags.skip (c :: cs) = c :: cs := by
  unfold Flags.skip
  split
  · rw [skipComments, if_neg (by simp [hc.1]), if_neg hc.2]
  · rfl

theorem skip_brace (flags : Flags) (cs : List Char) : flags.skip ('{' :: cs) = '{' :: cs :=
  skip_cons (by decide) flags cs

theorem skipComments_closing (inComment : Bool) (cs : List Char) :
    skipComments inComment (cs ++ closing) = skipComments inComment cs ++ closing ∨
      skipComments inComment cs = [] ∧ skipComments inComment (cs ++ closing) = [] := by
  induction cs generalizing inComment with
  | nil =>
    cases inComment with
    | true => exact .inr ⟨rfl, by decide⟩
    | false => exact .inl (by decide)
  | cons c cs ih =>
    cases inComment with
    | true => exact ih _
    | false =>
      simp only [List.cons_append, skipComments]
      split
      · exact ih _
      · split
        · exact ih _
        · exact .inl rfl

theorem skip_closing (flags : Flags) (cs : List Char) :
    flags.skip (cs ++ closing) = flags.skip cs ++ closing ∨
      flags.skip cs = [] ∧ flags.skip (cs ++ closing) = [] := by
  unfold Flags.skip
  split
  · exact skipComments_closing _ _
  · exact .inl rfl

/-- A reader after what is skipped. -/
theorem tailed_skip (h : ∀ cs, Tailed Lost cs (f cs) (f (cs ++ closing))) (flags : Flags)
    (cs : List Char) : Tailed Lost cs (f (flags.skip cs)) (f (flags.skip (cs ++ closing))) := by
  have hsuffix := skip_suffix flags cs
  rcases skip_closing flags cs with hkept | ⟨hnil, hnil'⟩
  · rw [hkept]
    exact (h _).mono hsuffix
  · rw [hnil, hnil']
    exact .refl fun a rest ha => List.suffix_nil.mp ((h []).suffix ha)

theorem Local.skip (h : Local f) (flags : Flags) : Local fun cs => f (flags.skip cs) :=
  tailed_skip h flags

/-- With as much fuel as there are characters, more changes nothing. -/
def Stable (g : Nat → List Char → α) : Prop :=
  ∀ {n m : Nat} {cs : List Char}, cs.length ≤ n → cs.length ≤ m → g n cs = g m cs

theorem Stable.of_step {g : Nat → List Char → α} (hnil : ∀ n m, g n [] = g m [])
    (hstep : ∀ {n m} c cs, (∀ rest, rest.length ≤ cs.length → g n rest = g m rest) →
      g (n + 1) (c :: cs) = g (m + 1) (c :: cs)) : Stable g := by
  intro n m cs hn hm
  induction n generalizing m cs with
  | zero =>
    obtain rfl := List.length_eq_zero_iff.mp (Nat.le_zero.mp hn)
    exact hnil 0 m
  | succ n ih =>
    cases cs with
    | nil => exact hnil (n + 1) m
    | cons c cs =>
      cases m with
      | zero => cases hm
      | succ m =>
        rw [List.length_cons] at hn hm
        exact hstep c cs fun rest hrest => ih (by omega) (by omega)

/-- A reader with as much fuel as there are characters. -/
theorem Local.of_stable {g : Nat → List Char → Option (α × List Char)} (hstable : Stable g)
    (hlocal : ∀ n, Local (g n)) : Local fun cs => g cs.length cs := by
  intro cs
  have hle : cs.length ≤ (cs ++ closing).length := by simp
  dsimp only
  rw [hstable (Nat.le_refl cs.length) hle]
  exact hlocal _ cs

theorem skip_length (flags : Flags) (cs : List Char) : (flags.skip cs).length ≤ cs.length :=
  (skip_suffix flags cs).length_le

theorem stable_skip {g : Nat → List Char → α} (h : Stable g) (flags : Flags) :
    Stable fun n cs => g n (flags.skip cs) := by
  intro n m cs hn hm
  have hlength := skip_length flags cs
  exact h (by omega) (by omega)

/-! ### Escapes -/

variable {flags : Flags} {n : Nat}

theorem readHexDigits_local (flags : Flags) (n : Nat) : Local (readHexDigits flags n) := by
  induction n with
  | zero => exact local_some []
  | succ n ih =>
    intro cs
    cases cs with
    | nil => exact .fails
    | cons c cs =>
      simp only [List.cons_append, readHexDigits]
      split
      · exact ((ih.skip flags cs).map_local fun _ _ => rfl).mono (List.suffix_cons c cs)
      · exact .fails

theorem readHexBraced_local (flags : Flags) (n : Nat) : Local (readHexBraced flags n) := by
  induction n with
  | zero => exact local_none
  | succ n ih =>
    intro cs
    cases cs with
    | nil => exact .fails
    | cons c cs =>
      simp only [List.cons_append, readHexBraced]
      split
      · exact ((local_some []).skip flags cs).mono (List.suffix_cons c cs)
      · split
        · exact ((ih.skip flags cs).map_local fun _ _ => rfl).mono (List.suffix_cons c cs)
        · exact .fails

theorem readHexBraced_stable (flags : Flags) : Stable fun n => readHexBraced flags (n + 1) := by
  refine Stable.of_step (g := fun n => readHexBraced flags (n + 1)) (fun _ _ => rfl)
    fun {n m} c cs ih => ?_
  have hrest := ih _ (skip_length flags cs)
  rw [readHexBraced, readHexBraced, hrest]

theorem skip_cases (flags : Flags) (cs : List Char) :
    (∃ rest, rest <:+ cs ∧ flags.skip cs = rest ∧ flags.skip (cs ++ closing) = rest ++ closing) ∨
      flags.skip cs = [] ∧ flags.skip (cs ++ closing) = [] :=
  (skip_closing flags cs).imp_left fun h => ⟨_, skip_suffix flags cs, rfl, h⟩

/-- The closing begins no differently than with a parenthesis. -/
theorem append_closing_ne {c : Char} {rest : List Char} (hne : ∀ r, rest ≠ c :: r) (hc : c ≠ ')')
    (r : List Char) : rest ++ closing ≠ c :: r := by
  intro heq
  cases rest with
  | nil => exact hc (List.cons.inj heq).1.symm
  | cons d rest =>
    obtain ⟨rfl, -⟩ := List.cons.inj heq
    exact hne rest rfl

/-- A reader that looks whether one character comes first. Where it does not, the closing does not
change that. -/
theorem tailed_of_head {c : Char} {g : List Char → Option (α × List Char)} (hc : c ≠ ')')
    (hg : ∀ cs, Tailed Lost cs (g cs) (g (cs ++ closing)))
    (hplain : ∀ {cs}, (∀ rest, cs ≠ c :: rest) → f cs = g cs)
    (hhead : ∀ rest, Tailed Lost (c :: rest) (f (c :: rest)) (f (c :: (rest ++ closing))))
    (cs : List Char) : Tailed Lost cs (f cs) (f (cs ++ closing)) := by
  by_cases hcs : ∀ rest, cs ≠ c :: rest
  · rw [hplain hcs, hplain (append_closing_ne hcs hc)]
    exact hg cs
  · obtain ⟨rest, rfl⟩ := Classical.not_forall_not.mp hcs
    exact hhead rest

theorem readHex_local (flags : Flags) (letter : Char) : Local (readHex flags letter) := by
  have hbraced : Local fun rest => readHexBraced flags (rest.length + 1) (flags.skip rest) :=
    .of_stable (stable_skip (readHexBraced_stable flags) flags) fun n =>
      (readHexBraced_local flags (n + 1)).skip flags
  intro cs
  unfold readHex
  generalize (if letter = 'x' then 2 else if letter = 'u' then 4 else 8) = width
  have hplain (rest : List Char) : Tailed (fun _ => Cut) rest
      (readHexDigits flags width rest >>= fun x => charOfHex x.1 >>= fun c =>
        pure (if width = 2 then Escaped.byte c else Escaped.char c, x.2))
      (readHexDigits flags width (rest ++ closing) >>= fun x => charOfHex x.1 >>= fun c =>
        pure (if width = 2 then Escaped.byte c else Escaped.char c, x.2)) := by
    refine (readHexDigits_local flags width rest).bind_local fun digits rest => ?_
    exact .const fun c => local_some _ rest
  obtain ⟨rest, hsuffix, hskip, hskip'⟩ | ⟨hskip, hskip'⟩ := skip_cases flags cs
  · rw [hskip, hskip']
    refine Tailed.mono ?_ hsuffix
    split
    next rest =>
      refine ((hbraced rest).bind_local fun digits rest => ?_).mono (List.suffix_cons _ _)
      exact .const fun _ => .const fun c => local_some _ rest
    next hne =>
      split
      next r heq => exact (append_closing_ne hne (by decide) r heq).elim
      next => exact hplain rest
  · rw [hskip, hskip']
    exact Tailed.refl fun a rest ha => List.suffix_nil.mp ((hplain []).suffix ha)

theorem readBraced_eq_none (h : '}' ∉ cs) : readBraced flags n cs = none := by
  induction n generalizing cs with
  | zero => rfl
  | succ n ih =>
    cases cs with
    | nil => rfl
    | cons c cs =>
      have hrest : '}' ∉ flags.skip cs := fun hmem =>
        h (List.mem_cons_of_mem c ((skip_suffix flags cs).subset hmem))
      have hc : c ≠ '}' := fun hc => h (hc ▸ List.mem_cons_self)
      rw [readBraced, if_neg hc, ih hrest]
      rfl

theorem readBraced_local (flags : Flags) (n : Nat) : Local (readBraced flags n) := by
  induction n with
  | zero => exact local_none
  | succ n ih =>
    intro cs
    cases cs with
    | nil =>
      have hnone : readBraced flags (n + 1) closing = none := readBraced_eq_none (by decide)
      exact hnone ▸ .fails
    | cons c cs =>
      simp only [List.cons_append, readBraced]
      refine Tailed.mono ?_ (List.suffix_cons c cs)
      split
      · exact local_some [] cs
      · exact (ih.skip flags cs).map_local fun _ _ => rfl

theorem readBraced_stable (flags : Flags) : Stable fun n => readBraced flags (n + 1) := by
  refine Stable.of_step (g := fun n => readBraced flags (n + 1)) (fun _ _ => rfl)
    fun {n m} c cs ih => ?_
  have hrest := ih _ (skip_length flags cs)
  rw [readBraced, readBraced, hrest]

theorem readProperty_local [Library] (flags : Flags) (negated : Bool) :
    Local (readProperty flags negated) := by
  have hbraced : Local fun rest => readBraced flags (rest.length + 1) (flags.skip rest) :=
    .of_stable (stable_skip (readBraced_stable flags) flags) fun n =>
      (readBraced_local flags (n + 1)).skip flags
  intro cs
  refine .const fun _ => ?_
  obtain ⟨rest, hsuffix, hskip, hskip'⟩ | ⟨hskip, hskip'⟩ := skip_cases flags cs
  · rw [hskip, hskip']
    refine Tailed.mono ?_ hsuffix
    rcases rest with _ | ⟨c, rest⟩
    · refine Tailed.of_none fun a rest ha => ?_
      obtain ⟨_, -, hread⟩ := Option.bind_eq_some_iff.mp ha
      obtain ⟨_, -, heq⟩ := Option.bind_eq_some_iff.mp hread
      cases heq
      exact Cut.suffix (.inr rfl) (skip_suffix _ _)
    refine Tailed.mono ?_ (List.suffix_cons c rest)
    by_cases hc : c = '{'
    · subst hc
      simp only [List.cons_append]
      refine (hbraced rest).bind_local fun body rest => ?_
      dsimp only
      split
      next => exact .const fun name => local_some _ rest
      next => exact .const fun name => local_some _ rest
    · simp only [List.cons_append]
      exact .const fun _ => .const fun name => (local_some _).skip flags rest
  · rw [hskip, hskip']
    exact .fails

theorem letters_local {isName : Char → Bool} (hname : isName ')' = false) (n : Nat) :
    Local fun cs => some (readBoundary.letters flags isName n cs) := by
  induction n with
  | zero => exact local_some []
  | succ n ih =>
    intro cs
    cases cs with
    | nil =>
      have hclosing : readBoundary.letters flags isName (n + 1) closing = ([], closing) := by
        simp [closing, readBoundary.letters, hname]
      show Tailed _ [] (some ([], [])) (some (readBoundary.letters flags isName (n + 1) closing))
      rw [hclosing]
      exact .kept List.suffix_rfl
    | cons c cs =>
      simp only [List.cons_append, readBoundary.letters]
      split
      · have hrest := (ih.skip flags cs).mono (List.suffix_cons c cs)
        exact hrest.map_local (k := (c :: ·)) (g := fun x => (c :: x.1, x.2)) fun _ _ => rfl
      · exact .kept List.suffix_rfl

theorem letters_stable (isName : Char → Bool) :
    Stable fun n => readBoundary.letters flags isName n := by
  refine Stable.of_step (fun n m => by cases n <;> cases m <;> rfl) fun {n m} c cs ih => ?_
  have hrest := ih _ (skip_length flags cs)
  rw [readBoundary.letters, readBoundary.letters, hrest]

/-- What is left if a brace after a boundary has nothing behind it but the closing. -/
def Stray (flags : Flags) (rest : List Char) : Prop :=
  ∃ skipped, rest = '{' :: (skipped ++ closing) ∧ flags.skip (skipped ++ closing) = closing

theorem readBoundary_plain (hcs : ∀ rest, cs ≠ '{' :: rest) :
    readBoundary flags cs = some (none, cs) := by
  unfold readBoundary
  split
  next rest => exact absurd rfl (hcs rest)
  next => rfl

/-- The name in the braces behind a boundary, and what is left. -/
def boundaryName (flags : Flags) (cs : List Char) : List Char × List Char :=
  readBoundary.letters flags (fun c => c.isAlpha || c == '-') (cs.length + 1) cs

/-- What follows this name. -/
def readNamedBoundary (flags : Flags) (name : List Char) :
    List Char → Option (Option Look × List Char)
  | '}' :: rest =>
    match String.ofList name with
    | "start" => some (some (.wordStart flags.wordClass), rest)
    | "end" => some (some (.wordEnd flags.wordClass), rest)
    | "start-half" => some (some (.wordStartHalf flags.wordClass), rest)
    | "end-half" => some (some (.wordEndHalf flags.wordClass), rest)
    | _ => none
  | _ => none

theorem readBoundary_empty (hskip : flags.skip cs = []) : readBoundary flags ('{' :: cs) = none := by
  simp only [readBoundary, hskip]

theorem readNamedBoundary_plain {name : List Char} (hcs : ∀ rest, cs ≠ '}' :: rest) :
    readNamedBoundary flags name cs = none := by
  unfold readNamedBoundary
  split
  next rest => exact absurd rfl (hcs rest)
  next => rfl

theorem readBoundary_brace (hskip : flags.skip cs ≠ []) :
    readBoundary flags ('{' :: cs) =
      if (boundaryName flags (flags.skip cs)).1 = [] then some (none, '{' :: cs)
      else readNamedBoundary flags (boundaryName flags (flags.skip cs)).1
        (boundaryName flags (flags.skip cs)).2 := by
  rcases hinner : flags.skip cs with _ | ⟨d, inner⟩
  · exact absurd hinner hskip
  simp only [readBoundary, hinner]
  split
  next rest heq =>
    have hname : boundaryName flags (d :: inner) = ([], rest) := heq
    rw [hname]
    rfl
  next name rest hne heq =>
    have hname : boundaryName flags (d :: inner) = (name, '}' :: rest) := heq
    rw [hname, if_neg hne]
    rfl
  next hne hplain =>
    have hcons : (boundaryName flags (d :: inner)).1 ≠ [] := fun h => hne _ (Prod.ext h rfl)
    rw [if_neg hcons]
    exact (readNamedBoundary_plain fun after h => hplain _ after (Prod.ext rfl h)).symm

theorem boundaryName_local (flags : Flags) : Local fun cs => some (boundaryName flags cs) := by
  refine .of_stable (g := fun n cs => some (readBoundary.letters flags _ (n + 1) cs)) ?_ ?_
  · intro n m cs hn hm
    exact congrArg some (letters_stable _ (Nat.le_succ_of_le hn) (Nat.le_succ_of_le hm))
  · exact fun n => letters_local rfl _

theorem readNamedBoundary_tailed {Lost : Option Look → List Char → Prop} (flags : Flags)
    (name cs : List Char) :
    Tailed Lost cs (readNamedBoundary flags name cs)
      (readNamedBoundary flags name (cs ++ closing)) := by
  refine tailed_of_head (c := '}') (by decide) (fun _ => .fails) readNamedBoundary_plain
    (fun rest => ?_) cs
  simp only [readNamedBoundary]
  split
  case h_5 => exact .fails
  all_goals exact .kept (List.suffix_cons _ _)

theorem readBoundary_tailed (flags : Flags) (cs : List Char) :
    Tailed (fun _ => Stray flags) cs (readBoundary flags cs) (readBoundary flags (cs ++ closing)) := by
  refine tailed_of_head (c := '{') (by decide) (fun _ => .kept List.suffix_rfl)
    readBoundary_plain (fun cs => ?_) cs
  obtain ⟨inner, hsuffix, hskip, hskip'⟩ | ⟨hskip, hskip'⟩ := skip_cases flags cs
  swap
  · rw [readBoundary_empty hskip, readBoundary_empty hskip']
    exact .fails
  have hclosing : flags.skip (cs ++ closing) ≠ [] :=
    hskip' ▸ List.append_ne_nil_of_right_ne_nil inner (by decide)
  by_cases hinner : inner = []
  · subst hinner
    rw [readBoundary_empty hskip, readBoundary_brace hclosing, hskip']
    exact .lost ⟨cs, rfl, hskip'⟩
  rw [readBoundary_brace (hskip ▸ hinner), readBoundary_brace hclosing, hskip, hskip']
  have hname := boundaryName_local flags inner
  have hequal := hname.of_some.2.1
  by_cases hnone : (boundaryName flags inner).1 = []
  · rw [if_pos hnone, if_pos (hequal.trans hnone)]
    exact .kept List.suffix_rfl
  · rw [if_neg hnone, if_neg fun h => hnone (hequal.symm.trans h)]
    refine Tailed.mono (hname.bind (g := fun x => readNamedBoundary flags x.1 x.2)
      (readNamedBoundary_tailed flags) ?_) (hsuffix.trans (List.suffix_cons _ _))
    rintro name rest look rest' (rfl | rfl) hread
    · cases hread
    · cases hread

/-- What an escape leaves if it fails without the closing. -/
def LostEscape (flags : Flags) (escaped : Escaped) (rest : List Char) : Prop :=
  Cut rest ∨ (∃ l, escaped = .look l) ∧ Stray flags rest

theorem readEscape_tailed [Library] (flags : Flags) (cs : List Char) :
    Tailed (LostEscape flags) cs (readEscape flags cs) (readEscape flags (cs ++ closing)) := by
  rcases cs with _ | ⟨c, cs⟩
  · exact .lost (.inl (.inr rfl))
  refine Tailed.mono ?_ (List.suffix_cons c cs)
  simp only [List.cons_append, readEscape]
  split
  · exact .fails
  split
  · exact (readHex_local flags c cs).imp fun _ _ => .inl
  split
  · exact (readProperty_local flags _ cs).imp fun _ _ => .inl
  split
  · cases perlClass flags c with
    | none => exact .fails
    | some set => exact .kept List.suffix_rfl
  split
  case h_9 =>
    exact (readBoundary_tailed flags cs).map (k := fun found =>
      .look (found.getD (.wordBoundary flags.wordClass))) (fun _ _ => rfl) fun _ _ hstray =>
        .inr ⟨⟨_, rfl⟩, hstray⟩
  case h_13 =>
    split
    · exact .kept List.suffix_rfl
    · exact .fails
  all_goals exact .kept List.suffix_rfl

end CheckIn.Pattern
