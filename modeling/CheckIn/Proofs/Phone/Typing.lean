import CheckIn.Phone.Typing

/-! Typed texts on their way back. The shell takes a text apart, and the keyboard reads what it
hands on. Of the characters that are active in the shell, tabs and newlines alone reach it without a
backslash, and each `%s` that a text holds comes out as a space. -/

namespace CheckIn.Phone

/-! ### The shell and the keyboard -/

/-- A character of a command, as the shell takes it. -/
inductive ShellChar where
  | plain (c : Char)
  /-- It stands for itself: a backslash was before it. -/
  | quoted (c : Char)

namespace ShellChar

def char : ShellChar → Char
  | plain c | quoted c => c

/-- The characters that mean something to the shell wherever they stand: blanks, quotes, operators,
and what begins an expansion. -/
def active : List Char :=
  [' ', '\t', '\n', '\'', '"', '&', '<', '>', '|', ';', '(', ')', '$', '`']

def isActive : ShellChar → Bool
  | plain c => active.contains c
  | quoted _ => false

/-- The shell takes a backslash away from before any character, and a newline with it. -/
def ofChars : List Char → List ShellChar
  | '\\' :: '\n' :: cs => ofChars cs
  | '\\' :: c :: cs => quoted c :: ofChars cs
  | c :: cs => plain c :: ofChars cs
  | [] => []

end ShellChar

/-- Nothing in the text means anything to the shell, so that it is a single word. -/
def IsWord (cs : List Char) : Prop := ∀ x ∈ ShellChar.ofChars cs, x.isActive = false

/-- The text that the shell hands on for a word. -/
def shellRead (cs : List Char) : List Char := (ShellChar.ofChars cs).map ShellChar.char

/-- The text that the keyboard types. -/
def keyboardRead : List Char → List Char
  | '%' :: 's' :: cs => ' ' :: keyboardRead cs
  | c :: cs => c :: keyboardRead cs
  | [] => []

theorem keyboardRead_cons {c : Char} (h : c ≠ '%') (cs : List Char) :
    keyboardRead (c :: cs) = c :: keyboardRead cs := by
  rw [keyboardRead]
  rintro _ rfl
  exact absurd rfl h

theorem keyboardRead_percent {c : Char} (h : c ≠ 's') (cs : List Char) :
    keyboardRead ('%' :: c :: cs) = '%' :: keyboardRead (c :: cs) := by
  rw [keyboardRead]
  rintro _ - ⟨⟩
  exact h rfl

/-! ### What the shell hands on -/

/-- A character as the keyboard is to read it. -/
def spellChar (c : Char) : List Char := if c == ' ' then ['%', 's'] else [c]

/-- A text with `%s` for every space. -/
def spell (cs : List Char) : List Char := cs.flatMap spellChar

/-- A character as the shell is to read it. -/
def guardChar (c : Char) : List Char := if shellSpecials.contains c then ['\\', c] else [c]

def shellChar (c : Char) : ShellChar := if shellSpecials.contains c then .quoted c else .plain c

theorem typedChar_eq (c : Char) : typedChar c = (spellChar c).flatMap guardChar := by
  unfold typedChar spellChar
  split
  · rfl
  · simp [guardChar]

theorem toList_typed (s : String) : (typed s).toList = (spell s.toList).flatMap guardChar := by
  rw [typed, String.toList_ofList, spell, List.flatMap_assoc]
  exact congrArg s.toList.flatMap (funext typedChar_eq)

theorem ofChars_guardChar (c : Char) (cs : List Char) :
    ShellChar.ofChars (guardChar c ++ cs) = shellChar c :: ShellChar.ofChars cs := by
  unfold guardChar shellChar
  by_cases hspecial : shellSpecials.contains c = true
  · rw [if_pos hspecial, if_pos hspecial]
    show ShellChar.ofChars ('\\' :: c :: cs) = _
    rw [ShellChar.ofChars]
    rintro rfl
    exact absurd hspecial (by decide)
  · rw [if_neg hspecial, if_neg hspecial]
    have hplain : c ≠ '\\' := by
      rintro rfl
      exact hspecial (by decide)
    show ShellChar.ofChars (c :: cs) = _
    rw [ShellChar.ofChars]
    · rintro _ rfl
      exact absurd rfl hplain
    · rintro _ _ rfl
      exact absurd rfl hplain

theorem ofChars_guarded (cs : List Char) :
    ShellChar.ofChars (cs.flatMap guardChar) = cs.map shellChar := by
  induction cs with
  | nil => rfl
  | cons c cs ih => rw [List.flatMap_cons, ofChars_guardChar, ih, List.map_cons]

theorem char_shellChar (c : Char) : (shellChar c).char = c := by
  unfold shellChar
  split <;> rfl

/-- All active characters are special, but for those that end a word. -/
theorem mem_active {c : Char} (h : c ∈ ShellChar.active) :
    shellSpecials.contains c = true ∨ c = ' ' ∨ c = '\t' ∨ c = '\n' := by
  have hall : ShellChar.active.all (fun c => shellSpecials.contains c || c == ' ' || c == '\t' ||
      c == '\n') = true := by decide
  simpa [or_assoc] using List.all_eq_true.mp hall c h

theorem isActive_shellChar {c : Char} :
    (shellChar c).isActive = true ↔ c = ' ' ∨ c = '\t' ∨ c = '\n' := by
  unfold shellChar
  by_cases hspecial : shellSpecials.contains c = true
  · rw [if_pos hspecial]
    refine iff_of_false nofun ?_
    rintro (rfl | rfl | rfl) <;> exact absurd hspecial (by decide)
  · rw [if_neg hspecial]
    constructor
    · intro hactive
      exact (mem_active (List.contains_iff_mem.mp hactive)).resolve_left hspecial
    · rintro (rfl | rfl | rfl) <;> rfl

theorem shellRead_typed (s : String) : shellRead (typed s).toList = spell s.toList := by
  rw [shellRead, toList_typed, ofChars_guarded, List.map_map]
  exact (List.map_congr_left fun c _ => char_shellChar c).trans (List.map_id _)

theorem mem_spell (cs : List Char) {c : Char} (hspace : c ≠ ' ') (hpercent : c ≠ '%')
    (hs : c ≠ 's') : c ∈ spell cs ↔ c ∈ cs := by
  have hchar (d : Char) : c ∈ spellChar d ↔ c = d := by
    unfold spellChar
    split
    · next hd => simp_all
    · exact List.mem_singleton
  simp [spell, hchar]

theorem space_not_mem_spell (cs : List Char) : ' ' ∉ spell cs := by
  intro h
  obtain ⟨c, -, hc⟩ := List.mem_flatMap.mp h
  unfold spellChar at hc
  split at hc
  · exact absurd hc (by decide)
  · next hne => exact hne (beq_of_eq (List.mem_singleton.mp hc).symm)

/-- Every tab and newline of a text, and nothing else, ends the word. -/
theorem isWord_typed {s : String} :
    IsWord (typed s).toList ↔ '\t' ∉ s.toList ∧ '\n' ∉ s.toList := by
  rw [IsWord, toList_typed, ofChars_guarded, List.forall_mem_map,
    ← mem_spell s.toList (c := '\t') (by decide) (by decide) (by decide),
    ← mem_spell s.toList (c := '\n') (by decide) (by decide) (by decide)]
  constructor
  · intro h
    exact ⟨fun ht => Bool.noConfusion (h _ ht), fun hn => Bool.noConfusion (h _ hn)⟩
  · rintro ⟨htab, hnewline⟩ c hc
    rw [← Bool.not_eq_true, isActive_shellChar]
    rintro (rfl | rfl | rfl)
    · exact space_not_mem_spell _ hc
    · exact htab hc
    · exact hnewline hc

/-! ### What the keyboard types -/

theorem spell_cons (c : Char) (cs : List Char) :
    spell (c :: cs) = spellChar c ++ spell cs := rfl

theorem spellChar_of_ne {c : Char} (h : c ≠ ' ') : spellChar c = [c] := by
  simp [spellChar, h]

/-- Between a percent sign and what is not an `s`, no `s` comes in. -/
theorem keyboardRead_percent_spell {cs : List Char} (h : ∀ later, cs ≠ 's' :: later) :
    keyboardRead ('%' :: spell cs) = '%' :: keyboardRead (spell cs) := by
  cases cs with
  | nil => rfl
  | cons c cs =>
    by_cases hspace : c = ' '
    · subst hspace
      exact keyboardRead_percent (by decide) _
    · rw [spell_cons, spellChar_of_ne hspace]
      refine keyboardRead_percent ?_ _
      rintro rfl
      exact h cs rfl

theorem keyboardRead_spell (cs : List Char) : keyboardRead (spell cs) = keyboardRead cs := by
  induction cs using keyboardRead.induct with
  | case1 cs ih => exact congrArg (' ' :: ·) ih
  | case2 c cs hne ih =>
    by_cases hspace : c = ' '
    · subst hspace
      rw [keyboardRead_cons (by decide)]
      exact congrArg (' ' :: ·) ih
    rw [spell_cons, spellChar_of_ne hspace, List.singleton_append]
    by_cases hpercent : c = '%'
    · subst hpercent
      have hlater : ∀ later, cs ≠ 's' :: later := fun later hcs => hne later rfl hcs
      rw [keyboardRead_percent_spell hlater, ih]
      cases cs with
      | nil => rfl
      | cons d cs => exact (keyboardRead_percent (fun hd => hlater cs (hd ▸ rfl)) cs).symm
    · rw [keyboardRead_cons hpercent, keyboardRead_cons hpercent, ih]
  | case3 => rfl

theorem spell_keyboardRead (cs : List Char) : spell (keyboardRead cs) = spell cs := by
  induction cs using keyboardRead.induct with
  | case1 cs ih => exact congrArg (['%', 's'] ++ ·) ih
  | case2 c cs hne ih =>
    rw [keyboardRead, spell_cons, spell_cons, ih]
    exact hne
  | case3 => rfl

/-- Only `%s` does not come back. -/
theorem keyboardRead_eq_self {cs : List Char} :
    keyboardRead cs = cs ↔ ¬['%', 's'] <:+: cs := by
  induction cs using keyboardRead.induct with
  | case1 cs ih =>
    refine iff_of_false nofun fun h => h ?_
    exact ⟨[], cs, rfl⟩
  | case2 c cs hne ih =>
    have hbegin : ¬['%', 's'] <+: c :: cs := by
      rintro ⟨later, h⟩
      cases h
      exact hne later rfl rfl
    have hrest : keyboardRead (c :: cs) = c :: keyboardRead cs := by
      rw [keyboardRead]
      exact hne
    rw [hrest, List.cons_inj_right, ih, List.infix_cons_iff]
    simp [hbegin]
  | case3 => exact iff_of_true rfl (by decide)

/-! ### The text that comes out -/

/-- What is read of a typed text: each `%s` of it as a space, and all else as it was. The shell finds
a word in it exactly if there is no tab and no newline, the keyboard types it as it was exactly if
there is no `%s`, and two texts are typed alike exactly if the keyboard reads them alike. -/
theorem typed_survives_iff (s : String) :
    (IsWord (typed s).toList ∧ keyboardRead (shellRead (typed s).toList) = s.toList ↔
      '\t' ∉ s.toList ∧ '\n' ∉ s.toList ∧ ¬['%', 's'] <:+: s.toList) ∧
    (IsWord (typed s).toList ↔ '\t' ∉ s.toList ∧ '\n' ∉ s.toList) ∧
    keyboardRead (shellRead (typed s).toList) = keyboardRead s.toList ∧
    (keyboardRead s.toList = s.toList ↔ ¬['%', 's'] <:+: s.toList) ∧
    ∀ t, typed s = typed t ↔ keyboardRead s.toList = keyboardRead t.toList := by
  have hread (t : String) : keyboardRead (shellRead (typed t).toList) = keyboardRead t.toList := by
    rw [shellRead_typed, keyboardRead_spell]
  refine ⟨?_, isWord_typed, hread s, keyboardRead_eq_self, fun t => ⟨fun h => ?_, fun h => ?_⟩⟩
  · rw [isWord_typed, hread, keyboardRead_eq_self, and_assoc]
  · rw [← hread s, ← hread t, h]
  · rw [← String.toList_inj, toList_typed, toList_typed, ← spell_keyboardRead, h,
      spell_keyboardRead]

/-- A tab and a newline come to the shell as they are, and `%s` comes to the keyboard as it is. -/
theorem typed_not_survives :
    ¬IsWord (typed "a\tb").toList ∧ ¬IsWord (typed "a\nb").toList ∧ typed "a%sb" = typed "a b" := by
  refine ⟨?_, ?_, rfl⟩
  · rw [isWord_typed]
    decide
  · rw [isWord_typed]
    decide

end CheckIn.Phone
