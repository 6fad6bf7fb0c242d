import CheckIn.Proofs.Pattern.Closing

/-! Brackets in front of the closing. A bracket that is not closed before it is not closed at all,
as the closing has no bracket. -/

namespace CheckIn.Pattern

variable {flags : Flags} {cs rest : List Char} {n : Nat} {b : Bracket} {outer : List Bracket}

/-! ### Classes -/

theorem dropWhile_closing {p : Char → Bool} (cs : List Char) (hparen : p ')' = true)
    (hdollar : p '$' = true) :
    (cs ++ closing).dropWhile p = [] ∧ cs.dropWhile p = [] ∨
      (cs ++ closing).dropWhile p = cs.dropWhile p ++ closing ∧
        (cs ++ closing).takeWhile p = cs.takeWhile p ∧ cs.dropWhile p ≠ [] := by
  induction cs with
  | nil => exact .inl ⟨by simp [closing, List.dropWhile, hparen, hdollar], rfl⟩
  | cons c cs ih =>
    cases hc : p c with
    | false => simp [hc]
    | true => simpa [hc] using ih

/-- What follows the colon of a class, and the caret if there is one. -/
def readClassName (negated : Bool) (cs : List Char) :
    Option (Bool × List (Char × Char) × List Char) :=
  match cs.dropWhile (· ≠ ':') with
  | ':' :: ']' :: after =>
    (asciiClass (String.ofList (cs.takeWhile (· ≠ ':')))).map (negated, ·, after)
  | _ => none

theorem readAsciiClass_colon (cs : List Char) :
    readAsciiClass (':' :: cs) =
      readClassName (cs.head? == some '^') (if cs.head? == some '^' then cs.tail else cs) := rfl

theorem readAsciiClass_plain (hcs : ∀ rest, cs ≠ ':' :: rest) : readAsciiClass cs = none := by
  unfold readAsciiClass
  split
  next rest => exact absurd rfl (hcs rest)
  next => rfl

theorem readClassName_eq_none {negated : Bool}
    (hcs : ∀ after, cs.dropWhile (· ≠ ':') ≠ ':' :: ']' :: after) :
    readClassName negated cs = none := by
  unfold readClassName
  split
  next after heq => exact absurd heq (hcs after)
  next => rfl

theorem readClassName_closing (negated : Bool) (cs : List Char) :
    readClassName negated (cs ++ closing) =
      (readClassName negated cs).map fun x => (x.1, x.2.1, x.2.2 ++ closing) := by
  have hsplit := dropWhile_closing (p := (· ≠ ':')) cs rfl rfl
  by_cases hcs : ∀ after, cs.dropWhile (· ≠ ':') ≠ ':' :: ']' :: after
  · have hcs' (after : List Char) : (cs ++ closing).dropWhile (· ≠ ':') ≠ ':' :: ']' :: after := by
      rcases hsplit with ⟨h, -⟩ | ⟨h, -, hne⟩
      · rw [h]
        exact nofun
      · rw [h]
        generalize cs.dropWhile (· ≠ ':') = found at hne hcs
        rintro heq
        rcases found with _ | ⟨c, _ | ⟨d, rest⟩⟩
        · exact hne rfl
        · cases heq
        · cases heq
          exact hcs rest rfl
    rw [readClassName_eq_none hcs, readClassName_eq_none hcs']
    rfl
  · obtain ⟨after, hafter⟩ := Classical.not_forall_not.mp hcs
    rcases hsplit with ⟨-, h⟩ | ⟨h, h', -⟩
    · rw [hafter] at h
      cases h
    · unfold readClassName
      rw [h, h', hafter]
      cases asciiClass (String.ofList (cs.takeWhile (· ≠ ':'))) <;> rfl

theorem readAsciiClass_closing (cs : List Char) :
    readAsciiClass (cs ++ closing) =
      (readAsciiClass cs).map fun x => (x.1, x.2.1, x.2.2 ++ closing) := by
  by_cases hcs : ∀ rest, cs ≠ ':' :: rest
  · rw [readAsciiClass_plain hcs, readAsciiClass_plain (append_closing_ne hcs (by decide))]
    rfl
  obtain ⟨rest, rfl⟩ := Classical.not_forall_not.mp hcs
  rw [List.cons_append, readAsciiClass_colon, readAsciiClass_colon]
  rcases rest with _ | ⟨c, rest⟩
  · exact readClassName_closing false []
  · by_cases hc : c = '^'
    · subst hc
      exact readClassName_closing true rest
    · have hcaret : (some c == some '^') = false := by simpa using hc
      simp only [List.cons_append, List.head?_cons, hcaret]
      exact readClassName_closing false (c :: rest)

theorem readClassName_suffix {negated : Bool} {x : Bool × List (Char × Char) × List Char}
    (h : readClassName negated cs = some x) : x.2.2 <:+ cs ∧ ']' ∈ cs := by
  unfold readClassName at h
  split at h
  next after heq =>
    have hsuffix : ':' :: ']' :: after <:+ cs := heq ▸ List.dropWhile_suffix _
    obtain ⟨ranges, -, rfl⟩ := Option.map_eq_some_iff.mp h
    have hafter : after <:+ ':' :: ']' :: after := suffix_cons₂ _ _ _
    exact ⟨hafter.trans hsuffix, hsuffix.subset (by simp)⟩
  next => cases h

theorem readAsciiClass_suffix {x : Bool × List (Char × Char) × List Char}
    (h : readAsciiClass cs = some x) : x.2.2 <:+ cs ∧ ']' ∈ cs := by
  by_cases hcs : ∀ rest, cs ≠ ':' :: rest
  · rw [readAsciiClass_plain hcs] at h
    cases h
  obtain ⟨rest, rfl⟩ := Classical.not_forall_not.mp hcs
  rw [readAsciiClass_colon] at h
  obtain ⟨hsuffix, hmem⟩ := readClassName_suffix h
  have hrest : (if rest.head? == some '^' then rest.tail else rest) <:+ ':' :: rest := by
    split
    · exact (List.tail_suffix rest).trans (List.suffix_cons _ _)
    · exact List.suffix_cons _ _
  exact ⟨hsuffix.trans hrest, hrest.subset hmem⟩

/-! ### Openings -/

theorem readHyphens_plain (hcs : ∀ rest, cs ≠ '-' :: rest) :
    readHyphens flags n b cs = (b, cs) := by
  unfold readHyphens
  split
  next rest => exact absurd rfl (hcs rest)
  next => rfl

theorem readHyphens_local (n : Nat) (b : Bracket) :
    Local fun cs => some (readHyphens flags n b cs) := by
  induction n generalizing b with
  | zero => exact local_some b
  | succ n ih =>
    refine tailed_of_head (c := '-') (by decide) (local_some b)
      (fun hcs => congrArg some (readHyphens_plain hcs)) fun rest => ?_
    exact ((ih _).skip flags rest).mono (List.suffix_cons _ _)

theorem readHyphens_stable (flags : Flags) :
    Stable fun n cs b => readHyphens flags n b cs := by
  refine Stable.of_step (g := fun n cs b => readHyphens flags n b cs)
    (fun n m => by cases n <;> cases m <;> rfl) fun {n m} c cs ih => ?_
  funext b
  by_cases hc : c = '-'
  · subst hc
    exact congrFun (ih _ (skip_length flags cs)) _
  · have hplain : ∀ rest, c :: cs ≠ '-' :: rest := fun rest heq => hc (List.cons.inj heq).1
    exact (readHyphens_plain hplain).trans (readHyphens_plain hplain).symm

/-- A closing bracket that comes first stands for itself. -/
def takeFirst (flags : Flags) : Bracket × List Char → Bracket × List Char
  | (b, ']' :: rest) =>
    if b.items.isEmpty then (b.push (.char ']') 0, flags.skip rest) else (b, ']' :: rest)
  | opened => opened

theorem takeFirst_plain (hcs : ∀ rest, cs ≠ ']' :: rest) : takeFirst flags (b, cs) = (b, cs) := by
  unfold takeFirst
  split
  next heq =>
    cases heq
    exact absurd rfl (hcs _)
  next => rfl

theorem takeFirst_local (b : Bracket) : Local fun rest => some (takeFirst flags (b, rest)) := by
  refine tailed_of_head (c := ']') (by decide) (local_some b)
    (fun hcs => congrArg some (takeFirst_plain hcs)) fun rest => ?_
  simp only [takeFirst]
  split
  · exact ((local_some _).skip flags rest).mono (List.suffix_cons _ _)
  · exact .kept List.suffix_rfl

/-- What follows an opening bracket, and the caret if there is one. -/
def readFirst (flags : Flags) (negated : Bool) (cs : List Char) : Bracket × List Char :=
  takeFirst flags (readHyphens flags cs.length ⟨negated, none, []⟩ cs)

theorem readFirst_local (negated : Bool) : Local fun cs => some (readFirst flags negated cs) := by
  have hhyphens : Local fun cs => some (readHyphens flags cs.length ⟨negated, none, []⟩ cs) := by
    refine .of_stable (g := fun n cs => some (readHyphens flags n _ cs)) ?_ ?_
    · intro n m cs hn hm
      exact congrArg some (congrFun (readHyphens_stable flags hn hm) _)
    · exact fun n => readHyphens_local n _
  exact fun cs => (hhyphens cs).bind_local (g := fun x => some (takeFirst flags x)) takeFirst_local

theorem readOpening_eq (flags : Flags) (cs : List Char) :
    readOpening flags cs =
      readFirst flags ((flags.skip cs).head? == some '^')
        (if (flags.skip cs).head? == some '^' then flags.skip (flags.skip cs).tail
          else flags.skip cs) := rfl

theorem readOpening_local (flags : Flags) : Local fun cs => some (readOpening flags cs) := by
  intro cs
  dsimp only
  rw [readOpening_eq, readOpening_eq]
  obtain ⟨rest, hsuffix, hskip, hskip'⟩ | ⟨hskip, hskip'⟩ := skip_cases flags cs
  · rw [hskip, hskip']
    refine Tailed.mono ?_ hsuffix
    rcases rest with _ | ⟨c, rest⟩
    · exact readFirst_local false []
    · by_cases hc : c = '^'
      · subst hc
        exact ((readFirst_local true).skip flags rest).mono (List.suffix_cons _ _)
      · have hcaret : (some c == some '^') = false := by simpa using hc
        simp only [List.cons_append, List.head?_cons, hcaret]
        exact readFirst_local false (c :: rest)
  · rw [hskip, hskip']
    exact .refl fun a rest ha => List.suffix_nil.mp ((readFirst_local false).suffix ha)

theorem readOpening_suffix (flags : Flags) (cs : List Char) : (readOpening flags cs).2 <:+ cs :=
  (readOpening_local flags cs).of_some.1

/-! ### Members -/

theorem readMember_tailed [Library] (flags : Flags) (cs : List Char) :
    Tailed (LostEscape flags) cs (readMember flags cs) (readMember flags (cs ++ closing)) := by
  rcases cs with _ | ⟨c, cs⟩
  · exact .lost (.inl (.inr rfl))
  refine Tailed.mono ?_ (List.suffix_cons c cs)
  by_cases hc : c = '\\'
  · subst hc
    exact readEscape_tailed flags cs
  · simp only [List.cons_append, readMember]
    exact .kept List.suffix_rfl

theorem skipBlanks_closing (cs : List Char) :
    Text.skipBlanks (cs ++ closing) = Text.skipBlanks cs ++ closing := by
  induction cs with
  | nil => rfl
  | cons c cs ih =>
    by_cases hc : Text.isBlank c
    · simpa [Text.skipBlanks, hc] using ih
    · simp [Text.skipBlanks, hc]

/-- Whether a hyphen in front of these characters makes no range. -/
def endsRange (flags : Flags) (cs : List Char) : Bool :=
  peek flags cs == some ']' || peek flags cs == some '-'

/-- The first character past blanks and one `#` among them. -/
def beyond (cs : List Char) : Option Char :=
  match Text.skipBlanks cs with
  | '#' :: rest => (Text.skipBlanks rest).head?
  | rest => rest.head?

theorem beyond_hash (h : Text.skipBlanks cs = '#' :: rest) :
    beyond cs = (Text.skipBlanks rest).head? := by
  unfold beyond
  rw [h]
  rfl

theorem beyond_plain (h : ∀ rest, Text.skipBlanks cs ≠ '#' :: rest) :
    beyond cs = (Text.skipBlanks cs).head? := by
  unfold beyond
  split
  next rest heq => exact absurd heq (h rest)
  next => rfl

theorem peek_extended (h : flags.extended = true) (cs : List Char) :
    peek flags cs = (beyond cs).or cs.head? := by
  unfold peek
  rw [if_neg (by simp [h])]
  split
  next heq => rw [beyond_hash heq]
  next hplain => rw [beyond_plain hplain]

theorem beyond_closing (cs : List Char) : beyond (cs ++ closing) = (beyond cs).or (some ')') := by
  have hhead (rest : List Char) : (rest ++ closing).head? = rest.head?.or (some ')') := by
    cases rest <;> rfl
  have hskip := skipBlanks_closing cs
  by_cases hcs : ∀ rest, Text.skipBlanks cs ≠ '#' :: rest
  · rw [beyond_plain hcs, beyond_plain (hskip ▸ append_closing_ne hcs (by decide)), hskip, hhead]
  · obtain ⟨rest, hrest⟩ := Classical.not_forall_not.mp hcs
    rw [hrest, List.cons_append] at hskip
    rw [beyond_hash hrest, beyond_hash hskip, skipBlanks_closing, hhead]

/-- A text with nothing beyond blanks and one `#` begins with one of them. -/
theorem head_of_beyond {c : Char} (h : beyond (c :: cs) = none) :
    c = '#' ∨ Text.isBlank c = true := by
  cases hc : Text.isBlank c with
  | true => exact .inr rfl
  | false =>
    have hskip : Text.skipBlanks (c :: cs) = c :: cs := by simp [Text.skipBlanks, hc]
    refine .inl (Decidable.byContradiction fun hne => ?_)
    have hplain (rest : List Char) : Text.skipBlanks (c :: cs) ≠ '#' :: rest := by
      rw [hskip]
      exact fun heq => hne (List.cons.inj heq).1
    rw [beyond_plain hplain, hskip] at h
    cases h

theorem endsRange_of_peek {c : Char} (h : peek flags cs = some c) (hbracket : c ≠ ']')
    (hhyphen : c ≠ '-') : endsRange flags cs = false := by
  simp [endsRange, h, hbracket, hhyphen]

theorem endsRange_closing (flags : Flags) (cs : List Char) :
    endsRange flags (cs ++ closing) = endsRange flags cs := by
  cases hextended : flags.extended with
  | false => rcases cs with _ | ⟨c, cs⟩ <;> simp [endsRange, peek, hextended, closing]
  | true =>
    have hpeek := peek_extended hextended cs
    have hpeek' := peek_extended hextended (cs ++ closing)
    rw [beyond_closing] at hpeek'
    cases hbeyond : beyond cs with
    | some c =>
      rw [hbeyond] at hpeek hpeek'
      simp [endsRange, hpeek, hpeek']
    | none =>
      rw [hbeyond] at hpeek hpeek'
      rw [endsRange_of_peek hpeek' (by decide) (by decide)]
      rcases cs with _ | ⟨c, cs⟩
      · simp [endsRange, hpeek]
      · symm
        rcases head_of_beyond hbeyond with rfl | hblank
        · exact endsRange_of_peek hpeek (by decide) (by decide)
        · refine endsRange_of_peek hpeek ?_ ?_ <;>
          · rintro rfl
            cases hblank

/-- What follows a hyphen that stands after a member. -/
def readRangeEnd [Library] (flags : Flags) (first : Escaped) (after : List Char) :
    Option (CharSet × List Char) :=
  if endsRange flags after then
    first.memberSet? flags >>= fun set => pure (set, '-' :: after)
  else do
    let (last, rest) ← readMember flags (flags.skip after)
    let first ← first.memberChar? flags
    let last ← last.memberChar? flags
    guard (first ≤ last)
    pure (.range first last, rest)

/-- What follows a member. -/
def readRangeRest [Library] (flags : Flags) (first : Escaped) :
    List Char → Option (CharSet × List Char)
  | '-' :: after => readRangeEnd flags first after
  | rest => first.memberSet? flags >>= fun set => pure (set, rest)

theorem readRange_eq [Library] (flags : Flags) (cs : List Char) :
    readRange flags cs =
      readMember flags cs >>= fun x => readRangeRest flags x.1 (flags.skip x.2) := rfl

theorem readRangeEnd_tailed [Library] (first : Escaped) (after : List Char) :
    Tailed (fun _ => Cut) ('-' :: after) (readRangeEnd flags first after)
      (readRangeEnd flags first (after ++ closing)) := by
  unfold readRangeEnd
  rw [endsRange_closing]
  split
  · exact .const fun set => .kept List.suffix_rfl
  · refine Tailed.mono ?_ (List.suffix_cons '-' after)
    refine (tailed_skip (readMember_tailed flags) flags after).bind (fun last rest => ?_) ?_
    · exact .const fun _ => .const fun _ => .const fun _ => .kept List.suffix_rfl
    · intro last rest set rest' hlost hread
      obtain ⟨_, -, hread⟩ := Option.bind_eq_some_iff.mp hread
      obtain ⟨_, hlast, hread⟩ := Option.bind_eq_some_iff.mp hread
      obtain ⟨_, -, hread⟩ := Option.bind_eq_some_iff.mp hread
      cases hread
      rcases hlost with hcut | ⟨⟨l, rfl⟩, -⟩
      · exact hcut
      · cases hlast

theorem readRangeRest_plain [Library] (first : Escaped) (hcs : ∀ after, cs ≠ '-' :: after) :
    readRangeRest flags first cs = first.memberSet? flags >>= fun set => pure (set, cs) := by
  unfold readRangeRest
  split
  next after => exact absurd rfl (hcs after)
  next => rfl

theorem readRangeRest_local [Library] (first : Escaped) : Local (readRangeRest flags first) := by
  refine tailed_of_head (c := '-') (by decide) (fun cs => ?_) (readRangeRest_plain first)
    (readRangeEnd_tailed first)
  exact .const fun set => local_some set cs

theorem readRange_local [Library] (flags : Flags) : Local (readRange flags) := by
  intro cs
  rw [readRange_eq, readRange_eq]
  refine (readMember_tailed flags cs).bind
    (fun first rest => (readRangeRest_local first).skip flags rest) ?_
  intro first rest set rest' hlost hread
  rcases hlost with hcut | ⟨⟨l, rfl⟩, skipped, rfl, -⟩
  · exact hcut.suffix (((readRangeRest_local first).skip flags).suffix hread)
  · -- An assertion is no member.
    dsimp only at hread
    rw [skip_brace] at hread
    cases hread

theorem readMember_length [Library] {x : Escaped × List Char} (h : readMember flags cs = some x) :
    x.2.length < cs.length := by
  rcases cs with _ | ⟨c, cs⟩
  · cases h
  have hsuffix : x.2 <:+ cs := by
    by_cases hc : c = '\\'
    · subst hc
      exact (readEscape_tailed flags cs).suffix h
    · simp only [readMember] at h
      cases h
      exact List.suffix_rfl
  exact Nat.lt_succ_of_le hsuffix.length_le

theorem readRange_length [Library] {x : CharSet × List Char} (h : readRange flags cs = some x) :
    x.2.length < cs.length := by
  rw [readRange_eq] at h
  obtain ⟨member, hmember, hrest⟩ := Option.bind_eq_some_iff.mp h
  have hlength := readMember_length hmember
  have hsuffix : x.2 <:+ member.2 := ((readRangeRest_local member.1).skip flags).suffix hrest
  exact Nat.lt_of_le_of_lt hsuffix.length_le hlength

/-! ### Items -/

theorem append_closing_ne₂ {c d : Char} (hne : ∀ r, rest ≠ c :: d :: r) (hc : c ≠ ')') (hd : d ≠ ')')
    (r : List Char) : rest ++ closing ≠ c :: d :: r := by
  intro heq
  rcases rest with _ | ⟨e, _ | ⟨f, rest⟩⟩
  · exact hc (List.cons.inj heq).1.symm
  · cases heq
    exact hd rfl
  · cases heq
    exact hne rest rfl

/-- A bracket that is not closed is malformed. -/
theorem readItems_eq_none [Library] (hcs : ']' ∉ flags.skip cs) :
    readItems flags n b outer cs = none := by
  induction n generalizing b outer cs with
  | zero => rfl
  | succ n ih =>
    have hih {b : Bracket} {outer : List Bracket} {rest : List Char}
        (hrest : rest <:+ flags.skip cs) : readItems flags n b outer rest = none :=
      ih fun hmem => hcs (hrest.subset ((skip_suffix flags rest).subset hmem))
    unfold readItems
    generalize flags.skip cs = cs at hcs hih
    split
    next => rfl
    next rest =>
      have hrest : rest <:+ '[' :: rest := List.suffix_cons _ _
      split
      next heq =>
        exact absurd (hrest.subset (readAsciiClass_suffix heq).2) hcs
      next => exact hih ((readOpening_suffix flags rest).trans hrest)
    next => exact absurd List.mem_cons_self hcs
    next => exact hih (suffix_cons₂ _ _ _)
    next => exact hih (suffix_cons₂ _ _ _)
    next => exact hih (suffix_cons₂ _ _ _)
    next =>
      cases hread : readRange flags cs with
      | none => rfl
      | some x => exact hih ((readRange_local flags).suffix hread)

theorem readItems_local [Library] (flags : Flags) (n : Nat) (b : Bracket) (outer : List Bracket) :
    Local (readItems flags n b outer) := by
  induction n generalizing b outer with
  | zero => exact local_none
  | succ n ih =>
    intro cs
    obtain ⟨rest, hsuffix, hskip, hskip'⟩ | ⟨hskip, hskip'⟩ := skip_cases flags cs
    · by_cases hrest : rest = []
      · subst hrest
        have hnone : ']' ∉ flags.skip (cs ++ closing) := hskip' ▸ by decide
        rw [readItems_eq_none (hskip ▸ List.not_mem_nil), readItems_eq_none hnone]
        exact .fails
      unfold readItems
      rw [hskip, hskip']
      refine Tailed.mono ?_ hsuffix
      split
      next => exact absurd rfl hrest
      next rest =>
        simp only [List.cons_append]
        rw [readAsciiClass_closing]
        refine Tailed.mono ?_ (List.suffix_cons _ _)
        cases hclass : readAsciiClass rest with
        | none =>
          exact (readOpening_local flags rest).bind_local
            (g := fun x => readItems flags n x.1 (b :: outer) x.2) fun inner => ih inner (b :: outer)
        | some x =>
          obtain ⟨negated, ranges, after⟩ := x
          exact .const fun set => (ih _ _ after).mono (readAsciiClass_suffix hclass).1
      next rest =>
        refine .const fun read => ?_
        refine Tailed.mono ?_ (List.suffix_cons _ _)
        cases outer with
        | nil => exact .kept List.suffix_rfl
        | cons parent outer => exact ih _ _ rest
      next rest => exact (ih _ _ rest).mono (suffix_cons₂ _ _ _)
      next rest => exact (ih _ _ rest).mono (suffix_cons₂ _ _ _)
      next rest => exact (ih _ _ rest).mono (suffix_cons₂ _ _ _)
      next hnil hopen hclose hand hdash htilde =>
        have hopen' := append_closing_ne hopen (by decide)
        have hclose' := append_closing_ne hclose (by decide)
        have hand' := append_closing_ne₂ hand (by decide) (by decide)
        have hdash' := append_closing_ne₂ hdash (by decide) (by decide)
        have htilde' := append_closing_ne₂ htilde (by decide) (by decide)
        split
        next heq => exact absurd (List.append_eq_nil_iff.mp heq).1 hnil
        next heq => exact absurd heq (hopen' _)
        next heq => exact absurd heq (hclose' _)
        next heq => exact absurd heq (hand' _)
        next heq => exact absurd heq (hdash' _)
        next heq => exact absurd heq (htilde' _)
        next => exact (readRange_local flags rest).bind_local fun set => ih _ _
    · unfold readItems
      rw [hskip, hskip']
      exact .fails

theorem readItems_nil [Library] : readItems flags n b outer [] = none :=
  readItems_eq_none fun hmem => List.not_mem_nil ((skip_suffix flags []).subset hmem)

theorem readItems_stable [Library] (flags : Flags) (b : Bracket) (outer : List Bracket) :
    Stable fun n => readItems flags (n + 1) b outer := by
  intro n m cs hn hm
  dsimp only
  induction n generalizing m b outer cs with
  | zero =>
    obtain rfl := List.length_eq_zero_iff.mp (Nat.le_zero.mp hn)
    rw [readItems_nil, readItems_nil]
  | succ n ih =>
    cases m with
    | zero =>
      obtain rfl := List.length_eq_zero_iff.mp (Nat.le_zero.mp hm)
      rw [readItems_nil, readItems_nil]
    | succ m =>
      have hih {b : Bracket} {outer : List Bracket} {rest : List Char}
          (hrest : rest.length < cs.length) :
          readItems flags (n + 1) b outer rest = readItems flags (m + 1) b outer rest :=
        ih _ _ (by omega) (by omega)
      have hlength := skip_length flags cs
      rw [readItems.eq_def flags (n + 1 + 1), readItems.eq_def flags (m + 1 + 1)]
      dsimp only
      generalize flags.skip cs = cs at hlength hih
      have hrest {rest : List Char} (h : rest <:+ cs.tail) (hcs : cs ≠ []) :
          rest.length < cs.length := by
        have hle := h.length_le
        have hpos := List.length_pos_iff.mpr hcs
        rw [List.length_tail] at hle
        omega
      split
      next => rfl
      next rest =>
        cases hclass : readAsciiClass rest with
        | none =>
          exact hih (Nat.lt_of_lt_of_le (hrest (readOpening_suffix flags rest) nofun) hlength)
        | some x =>
          have hlt := Nat.lt_of_lt_of_le (hrest (readAsciiClass_suffix hclass).1 nofun) hlength
          dsimp only
          exact congrArg (Option.bind _) (funext fun set => hih hlt)
      next rest =>
        refine congrArg (Option.bind _) (funext fun read => ?_)
        cases outer with
        | nil => rfl
        | cons parent outer => exact hih (Nat.lt_of_lt_of_le (Nat.lt_succ_self _) hlength)
      next rest => exact hih (Nat.lt_of_lt_of_le (hrest (List.suffix_cons _ _) nofun) hlength)
      next rest => exact hih (Nat.lt_of_lt_of_le (hrest (List.suffix_cons _ _) nofun) hlength)
      next rest => exact hih (Nat.lt_of_lt_of_le (hrest (List.suffix_cons _ _) nofun) hlength)
      next =>
        cases hread : readRange flags cs with
        | none => rfl
        | some x => exact hih (Nat.lt_of_lt_of_le (readRange_length hread) hlength)

theorem readBracket_local [Library] (flags : Flags) : Local (readBracket flags) := by
  refine .of_stable (g := fun n cs =>
    readItems flags (n + 1) (readOpening flags cs).1 [] (readOpening flags cs).2) ?_ ?_
  · intro n m cs hn hm
    have hlength := (readOpening_suffix flags cs).length_le
    exact readItems_stable flags _ _ (by omega) (by omega)
  · intro n cs
    exact (readOpening_local flags cs).bind_local
      (g := fun x => readItems flags (n + 1) x.1 [] x.2) fun b => readItems_local flags _ b []

end CheckIn.Pattern
