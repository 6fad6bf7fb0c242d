import CheckIn.Proofs.Screen.Layout
import Mathlib.Data.List.Induction

/-! Replacing references. A text is gone through once from left to right, and where a reference
begins, its character takes its place. The numbers of references may have a plus sign when they are
read; a text in which no such number stands is replaced as if there were none. -/

namespace CheckIn.Screen

/-! ### References and texts with references -/

/-- What stands between the ampersand and the semicolon of a reference: a name, or a number after
one of some signs. -/
inductive Refers (signs : List (List Char)) : List Char → Char → Prop
  | named {name : List Char} {c : Char} : (name, c) ∈ entityNames → Refers signs name c
  | decimal {sign digits : List Char} {c : Char} :
      sign ∈ signs → Numeral 10 digits c.toNat → Refers signs ('#' :: sign ++ digits) c
  | hexadecimal {sign digits : List Char} {c : Char} :
      sign ∈ signs → Numeral 16 digits c.toNat → Refers signs ('#' :: 'x' :: sign ++ digits) c

/-- A reference to a character. -/
def Reference (signs : List (List Char)) (cs : List Char) (c : Char) : Prop :=
  ∃ name, cs = '&' :: name ++ [';'] ∧ Refers signs name c

/-- The numbers of well-formed references have no sign. -/
abbrev WellFormed : List Char → Char → Prop := Reference [[]]

/-- The references that are read. -/
abbrev Accepted : List Char → Char → Prop := Reference [[], ['+']]

/-- A text and what it becomes when the references of a kind are replaced, from left to right and
without going back. -/
inductive Replaced (R : List Char → Char → Prop) : List Char → List Char → Prop
  | nil : Replaced R [] []
  | reference {cs rest out : List Char} {c : Char} :
      R cs c → Replaced R rest out → Replaced R (cs ++ rest) (c :: out)
  | other {rest out : List Char} {c : Char} :
      (∀ cs d, R cs d → ¬cs <+: c :: rest) → Replaced R rest out →
      Replaced R (c :: rest) (c :: out)

theorem WellFormed.accepted {cs : List Char} {c : Char} (h : WellFormed cs c) : Accepted cs c := by
  obtain ⟨name, rfl, h⟩ := h
  refine ⟨name, rfl, ?_⟩
  have hsigns {sign : List Char} (hsign : sign ∈ [[]]) : sign ∈ [[], ['+']] :=
    List.mem_singleton.mp hsign ▸ List.mem_cons_self ..
  cases h with
  | named hname => exact .named hname
  | decimal hsign hdigits => exact .decimal (hsigns hsign) hdigits
  | hexadecimal hsign hdigits => exact .hexadecimal (hsigns hsign) hdigits

/-! ### Numerals that are read -/

theorem toNat_of_value {c : Char} {d : Nat} (h : Text.digitValue? c = some d) : c.toNat < 103 := by
  unfold Text.digitValue? at h
  split at h
  · next hdigit =>
    simp only [Char.isDigit, Bool.and_eq_true, decide_eq_true_iff, UInt32.le_iff_toNat_le] at hdigit
    exact Nat.lt_of_le_of_lt hdigit.2 (by decide)
  · split at h
    · next hsmall =>
      simp only [Bool.and_eq_true, decide_eq_true_iff, Char.le_def, UInt32.le_iff_toNat_le] at hsmall
      exact Nat.lt_of_le_of_lt hsmall.2 (by decide)
    · split at h
      · next hcapital =>
        simp only [Bool.and_eq_true, decide_eq_true_iff, Char.le_def,
          UInt32.le_iff_toNat_le] at hcapital
        exact Nat.lt_of_le_of_lt hcapital.2 (by decide)
      · cases h

theorem Digit.of_value {base d : Nat} {c : Char} (h : Text.digitValue? c = some d)
    (hbase : d < base) : Digit base c d := by
  have hall : ∀ n : Fin 103, ∀ d ∈ Text.digitValue? (Char.ofNat n),
      Char.ofNat n = d.digitChar ∨ Char.ofNat n = d.digitChar.toUpper := by decide
  have hc := hall ⟨c.toNat, toNat_of_value h⟩ d
  rw [Char.ofNat_toNat] at hc
  exact ⟨hbase, hc h⟩

theorem Numeral.of_digits {base : Nat} {cs : List Char} {n : Nat}
    (h : Text.digits? base cs = some n) : Numeral base cs n := by
  induction cs using List.reverseRecOn generalizing n with
  | nil => cases h
  | append_singleton cs c ih =>
    rw [Text.digits?, if_neg (by simp), List.foldlM_append] at h
    obtain ⟨m, hm, h⟩ := Option.bind_eq_some_iff.mp h
    obtain ⟨n', hc, ⟨⟩⟩ := Option.bind_eq_some_iff.mp h
    obtain ⟨d, hd, hc⟩ := Option.bind_eq_some_iff.mp hc
    split at hc
    case isFalse => cases hc
    case isTrue hbase =>
      cases hc
      have hdigit := Digit.of_value hd hbase
      cases cs with
      | nil =>
        cases hm
        simpa using Numeral.one hdigit
      | cons c' cs => exact .more (ih hm) hdigit

theorem Numeral.of_nat {base : Nat} {cs : List Char} {n : Nat} (h : Text.nat? base cs = some n) :
    ∃ sign ∈ [[], ['+']], ∃ digits, cs = sign ++ digits ∧ Numeral base digits n := by
  unfold Text.nat? at h
  split at h
  · next digits => exact ⟨['+'], by decide, digits, rfl, .of_digits h⟩
  · exact ⟨[], by decide, cs, rfl, .of_digits h⟩

theorem Numeral.nat_of_sign {base : Nat} {sign digits : List Char} {n : Nat}
    (hsign : sign ∈ [[], ['+']]) (h : Numeral base digits n) (hbase : base ≤ 16) :
    Text.nat? base (sign ++ digits) = some n := by
  simp only [List.mem_cons, List.not_mem_nil, or_false] at hsign
  rcases hsign with rfl | rfl
  · exact h.nat_eq hbase
  · exact h.digits_eq hbase

/-- A character other than a plus sign and without a value is in no number. -/
theorem Numeral.not_mem_of_sign {base : Nat} {sign digits : List Char} {n : Nat}
    (hsign : sign ∈ [[], ['+']]) (h : Numeral base digits n) (hbase : base ≤ 16) {c : Char}
    (hplus : c ≠ '+') (hc : Text.digitValue? c = none) : c ∉ sign ++ digits := by
  have hdigits := h.not_mem hbase hc
  simp only [List.mem_cons, List.not_mem_nil, or_false] at hsign
  rcases hsign with rfl | rfl <;> simp [hplus, hdigits]

/-! ### References that are read -/

theorem bind_charOf_eq_some {n : Option Nat} {c : Char} :
    n.bind (fun n => if n.isValidChar then some (Char.ofNat n) else none) = some c ↔
      n = some c.toNat := by
  constructor
  · intro h
    obtain ⟨m, rfl, hm⟩ := Option.bind_eq_some_iff.mp h
    split at hm
    case isFalse => cases hm
    case isTrue hvalid =>
      cases hm
      unfold Char.ofNat
      rw [dif_pos hvalid]
      rfl
  · rintro rfl
    exact bind_charOf c

/-- A name without a hash is read only if it is one of the five. -/
theorem named_of_entity {name : List Char} {c : Char} (h : entity? name = some c)
    (hhash : ∀ cs, name ≠ '#' :: cs) : (name, c) ∈ entityNames := by
  have hname {s : String} (hs : String.ofList name = s) : name = s.toList := by
    rw [← hs, String.toList_ofList]
  unfold entity? at h
  split at h
  case h_6 =>
    split at h
    · exact absurd rfl (hhash _)
    · exact absurd rfl (hhash _)
    · cases h
  all_goals
    next heq =>
      cases h
      rw [hname heq]
      decide

theorem entity_eq_some {name : List Char} {c : Char} :
    entity? name = some c ↔ Refers [[], ['+']] name c := by
  constructor
  · intro h
    by_cases hhash : ∃ cs, name = '#' :: cs
    · obtain ⟨cs, rfl⟩ := hhash
      rw [entity_hash, bind_charOf_eq_some] at h
      split at h <;>
      · obtain ⟨sign, hsign, digits, rfl, hdigits⟩ := Numeral.of_nat h
        first | exact .hexadecimal hsign hdigits | exact .decimal hsign hdigits
    · exact .named (named_of_entity h fun cs hcs => hhash ⟨cs, hcs⟩)
  · rintro (hname | ⟨hsign, hdigits⟩ | ⟨hsign, hdigits⟩)
    · exact (entity_of_named hname).1
    · rw [List.cons_append, entity_hash, bind_charOf_eq_some]
      split
      · next heq =>
        have hx := hdigits.not_mem_of_sign hsign (c := 'x') (by decide) (by decide) (by decide)
        exact absurd (heq ▸ List.mem_cons_self ..) hx
      · exact hdigits.nat_of_sign hsign (by decide)
    · rw [List.cons_append, entity_hash, bind_charOf_eq_some]
      exact hdigits.nat_of_sign hsign (by decide)

theorem Refers.not_mem {name : List Char} {c : Char} (h : Refers [[], ['+']] name c) :
    '&' ∉ name ∧ ';' ∉ name := by
  rcases h with hname | ⟨hsign, hdigits⟩ | ⟨hsign, hdigits⟩
  · have hall : ∀ x ∈ entityNames, '&' ∉ x.1 ∧ ';' ∉ x.1 := by decide
    exact hall _ hname
  · have hamp := hdigits.not_mem_of_sign hsign (c := '&') (by decide) (by decide) (by decide)
    have hend := hdigits.not_mem_of_sign hsign (c := ';') (by decide) (by decide) (by decide)
    exact ⟨by simpa using hamp, by simpa using hend⟩
  · have hamp := hdigits.not_mem_of_sign hsign (c := '&') (by decide) (by decide) (by decide)
    have hend := hdigits.not_mem_of_sign hsign (c := ';') (by decide) (by decide) (by decide)
    exact ⟨by simpa using hamp, by simpa using hend⟩

/-- What is read after an ampersand is a reference. -/
theorem readEntity_eq_some {cs rest : List Char} {c : Char} :
    readEntity cs = some (c, rest) ↔
      ∃ name, cs = name ++ ';' :: rest ∧ Refers [[], ['+']] name c := by
  constructor
  · intro h
    have hcs : cs = cs.takeWhile (· ≠ ';') ++ cs.dropWhile (· ≠ ';') :=
      List.takeWhile_append_dropWhile.symm
    unfold readEntity at h
    split at h
    · cases h
    · next d after hdrop =>
      obtain ⟨c', hentity, ⟨⟩⟩ := Option.map_eq_some_iff.mp h
      have hend : d = ';' := by
        have hhead := List.head?_dropWhile_not (· ≠ ';') cs
        rw [hdrop] at hhead
        simpa using hhead
      rw [hdrop, hend] at hcs
      exact ⟨_, hcs, entity_eq_some.mp hentity⟩
  · rintro ⟨name, rfl, hname⟩
    exact readEntity_append rest ⟨entity_eq_some.mpr hname, hname.not_mem.2⟩

theorem Accepted.readEntity_eq {cs rest tail : List Char} {c : Char} (h : Accepted cs c)
    (heq : '&' :: tail = cs ++ rest) : readEntity tail = some (c, rest) := by
  obtain ⟨name, rfl, hname⟩ := h
  cases heq
  exact readEntity_eq_some.mpr ⟨name, by simp, hname⟩

/-- Every text begins with at most one reference. -/
theorem Accepted.unique {cs cs' rest rest' : List Char} {c c' : Char} (h : Accepted cs c)
    (h' : Accepted cs' c') (heq : cs ++ rest = cs' ++ rest') :
    cs = cs' ∧ c = c' ∧ rest = rest' := by
  obtain ⟨name, rfl, hname⟩ := h
  have hread : readEntity (name ++ [';'] ++ rest) = some (c, rest) :=
    Accepted.readEntity_eq ⟨name, rfl, hname⟩ rfl
  have hread' := h'.readEntity_eq heq
  cases hread.symm.trans hread'
  exact ⟨List.append_cancel_right heq, rfl, rfl⟩

/-! ### Replacing -/

theorem not_prefix_of_readEntity {tail cs : List Char} {c : Char} (h : readEntity tail = none)
    (hcs : Accepted cs c) : ¬cs <+: '&' :: tail := by
  rintro ⟨rest, heq⟩
  cases h.symm.trans (hcs.readEntity_eq heq.symm)

theorem not_prefix_of_ne {tail cs : List Char} {c d : Char} (h : d ≠ '&') (hcs : Accepted cs c) :
    ¬cs <+: d :: tail := by
  obtain ⟨name, rfl, -⟩ := hcs
  rintro ⟨rest, heq⟩
  cases heq
  exact h rfl

/-- Reading replaces the references that are read. -/
theorem replaced_unescapeChars (cs : List Char) : Replaced Accepted cs (unescapeChars cs) := by
  induction cs using unescapeChars.induct with
  | case1 => simpa [unescapeChars] using .nil
  | case2 rest c after hread ih =>
    obtain ⟨name, rfl, hname⟩ := readEntity_eq_some.mp hread
    have hreplaced := Replaced.reference ⟨name, rfl, hname⟩ ih
    rw [unescapeChars]
    split
    · next heq =>
      cases hread.symm.trans heq
      simpa using hreplaced
    · next heq => cases hread.symm.trans heq
  | case3 rest hread ih =>
    rw [unescapeChars]
    split
    · next heq => cases hread.symm.trans heq
    · exact .other (fun cs d hcs => not_prefix_of_readEntity hread hcs) ih
  | case4 c rest hne ih =>
    rw [unescapeChars]
    · exact .other (fun cs d hcs => not_prefix_of_ne hne hcs) ih
    · exact hne

namespace Replaced

variable {R : List Char → Char → Prop} {cs rest out : List Char} {c : Char}

/-- A reference with which a text begins is replaced. -/
theorem of_reference (h : Replaced R (cs ++ rest) out) (hR : ∀ cs c, R cs c → Accepted cs c)
    (hcs : R cs c) : ∃ out', out = c :: out' ∧ Replaced R rest out' := by
  generalize htext : cs ++ rest = text at h
  cases h with
  | nil =>
    obtain ⟨name, rfl, -⟩ := hR cs c hcs
    cases htext
  | reference hcs' hrest =>
    obtain ⟨-, rfl, rfl⟩ := (hR _ _ hcs).unique (hR _ _ hcs') htext
    exact ⟨_, rfl, hrest⟩
  | other hnot _ => exact absurd ⟨rest, htext⟩ (hnot cs c hcs)

/-- Where no reference begins, a character stays. -/
theorem of_no_reference (h : Replaced R (c :: rest) out)
    (hnot : ∀ cs d, R cs d → ¬cs <+: c :: rest) : ∃ out', out = c :: out' ∧ Replaced R rest out' := by
  generalize htext : c :: rest = text at h
  cases h with
  | nil => cases htext
  | reference hcs _ => exact absurd ⟨_, htext.symm⟩ (hnot _ _ hcs)
  | other _ hrest =>
    cases htext
    exact ⟨_, rfl, hrest⟩

theorem eq_nil (h : Replaced R [] out) (hR : ∀ cs c, R cs c → Accepted cs c) : out = [] := by
  generalize htext : [] = text at h
  cases h with
  | nil => rfl
  | @reference cs _ _ c hcs _ =>
    obtain ⟨name, rfl, -⟩ := hR cs c hcs
    cases htext
  | other => cases htext

theorem unique {out' : List Char} (h : Replaced Accepted cs out) (h' : Replaced Accepted cs out') :
    out = out' := by
  induction h generalizing out' with
  | nil => exact (h'.eq_nil fun _ _ => id).symm
  | reference hcs _ ih =>
    obtain ⟨out'', rfl, hrest⟩ := h'.of_reference (fun _ _ => id) hcs
    rw [ih hrest]
  | other hnot _ ih =>
    obtain ⟨out'', rfl, hrest⟩ := h'.of_no_reference hnot
    rw [ih hrest]

/-- Characters that are no ampersands stay. -/
theorem of_append (h : Replaced WellFormed (cs ++ rest) out) (hcs : '&' ∉ cs) :
    ∃ out', out = cs ++ out' ∧ Replaced WellFormed rest out' := by
  induction cs generalizing out with
  | nil => exact ⟨out, rfl, h⟩
  | cons c cs ih =>
    have hc := List.ne_of_not_mem_cons hcs
    obtain ⟨out', rfl, hrest⟩ :=
      of_no_reference h fun _ _ hwf => not_prefix_of_ne hc.symm hwf.accepted
    obtain ⟨out'', rfl, hlater⟩ := ih hrest (List.not_mem_of_not_mem_cons hcs)
    exact ⟨out'', rfl, hlater⟩

/-- A reference that is read, but is not well-formed, stays. -/
theorem of_accepted (h : Replaced WellFormed (cs ++ rest) out) (hcs : Accepted cs c)
    (hnot : ¬WellFormed cs c) : ∃ out', out = cs ++ out' ∧ Replaced WellFormed rest out' := by
  have hbegin : ∀ cs' d, WellFormed cs' d → ¬cs' <+: cs ++ rest := by
    rintro cs' d hwf ⟨rest', heq⟩
    obtain ⟨rfl, rfl, -⟩ := hwf.accepted.unique hcs heq
    exact hnot hwf
  obtain ⟨name, rfl, hname⟩ := hcs
  obtain ⟨out', rfl, hrest⟩ := of_no_reference h hbegin
  have hbody : Replaced WellFormed (name ++ [';'] ++ rest) out' := hrest
  obtain ⟨out'', rfl, hlater⟩ := hbody.of_append (by simpa using hname.not_mem.1)
  exact ⟨out'', rfl, hlater⟩

end Replaced

/-- A reference that occurs behind characters that are no ampersands occurs in the rest. -/
theorem Accepted.infix_of_append {cs before rest : List Char} {c : Char} (h : Accepted cs c)
    (hbefore : '&' ∉ before) (hcs : cs <:+: before ++ rest) : cs <:+: rest := by
  induction before with
  | nil => exact hcs
  | cons d before ih =>
    rcases List.infix_cons_iff.mp hcs with hbegin | hcs
    · exact absurd hbegin (not_prefix_of_ne (List.ne_of_not_mem_cons hbefore).symm h)
    · exact ih (List.not_mem_of_not_mem_cons hbefore) hcs

/-- Two references do not overlap. -/
theorem Accepted.eq_or_infix {cs cs' rest : List Char} {c c' : Char} (h : Accepted cs c)
    (h' : Accepted cs' c') (hcs : cs <:+: cs' ++ rest) : cs = cs' ∧ c = c' ∨ cs <:+: rest := by
  obtain ⟨name, rfl, hname⟩ := h'
  rcases List.infix_cons_iff.mp hcs with ⟨later, heq⟩ | hcs
  · obtain ⟨rfl, rfl, -⟩ := h.unique ⟨name, rfl, hname⟩ heq
    exact .inl ⟨rfl, rfl⟩
  · exact .inr (h.infix_of_append (by simpa using hname.not_mem.1) hcs)

/-- Replacing fewer references leaves a longer text, unless the others do not occur. -/
theorem Replaced.length_le {cs out out' : List Char} (h : Replaced Accepted cs out)
    (h' : Replaced WellFormed cs out') : out.length ≤ out'.length ∧
      (out'.length ≤ out.length → ∀ l d, Accepted l d → l <:+: cs → WellFormed l d) := by
  induction h generalizing out' with
  | nil =>
    rw [h'.eq_nil fun _ _ => WellFormed.accepted]
    refine ⟨Nat.le_refl _, fun _ l d hl hoccurs => ?_⟩
    obtain ⟨name, rfl, -⟩ := hl
    cases List.infix_nil.mp hoccurs
  | @reference cs rest _ c hcs _ ih =>
    by_cases hwf : WellFormed cs c
    · obtain ⟨out'', rfl, hrest⟩ := h'.of_reference (fun _ _ => WellFormed.accepted) hwf
      obtain ⟨hle, hall⟩ := ih hrest
      refine ⟨by simpa using hle, fun hge l d hl hoccurs => ?_⟩
      rcases hl.eq_or_infix hcs hoccurs with ⟨rfl, rfl⟩ | hoccurs
      · exact hwf
      · exact hall (by simpa using hge) l d hl hoccurs
    · obtain ⟨out'', rfl, hrest⟩ := h'.of_accepted hcs hwf
      obtain ⟨name, rfl, -⟩ := hcs
      have hle := (ih hrest).1
      simp only [List.length_append, List.length_cons, List.length_nil]
      exact ⟨by omega, fun hge => by omega⟩
  | other hnot _ ih =>
    obtain ⟨out'', rfl, hrest⟩ := h'.of_no_reference fun l d hl => hnot l d hl.accepted
    obtain ⟨hle, hall⟩ := ih hrest
    refine ⟨by simpa using hle, fun hge l d hl hoccurs => ?_⟩
    rcases List.infix_cons_iff.mp hoccurs with hbegin | hoccurs
    · exact absurd hbegin (hnot l d hl)
    · exact hall (by simpa using hge) l d hl hoccurs

/-- If all references that occur are well-formed, it does not matter which others are read. -/
theorem Replaced.wellFormed {cs out : List Char} (h : Replaced Accepted cs out)
    (hall : ∀ l d, Accepted l d → l <:+: cs → WellFormed l d) : Replaced WellFormed cs out := by
  induction h with
  | nil => exact .nil
  | reference hcs _ ih =>
    refine .reference (hall _ _ hcs (List.prefix_append ..).isInfix) (ih fun l d hl hoccurs => ?_)
    exact hall l d hl (hoccurs.trans (List.suffix_append ..).isInfix)
  | other hnot _ ih =>
    refine .other (fun l d hl => hnot l d hl.accepted) (ih fun l d hl hoccurs => ?_)
    exact hall l d hl (hoccurs.trans (List.suffix_cons ..).isInfix)

/-- A text becomes what replacing its references makes of it, each once and from left to right. The
numbers of these may have a plus sign; only well-formed references are replaced exactly if no such
number is in the text. -/
theorem unescape_replaces (s : String) :
    (∀ out, Replaced Accepted s.toList out ↔ out = (unescape s).toList) ∧
    (Replaced WellFormed s.toList (unescape s).toList ↔
      ∀ cs c, Accepted cs c → cs <:+: s.toList → WellFormed cs c) := by
  have hreplaced : Replaced Accepted s.toList (unescape s).toList := by
    rw [unescape, String.toList_ofList]
    exact replaced_unescapeChars s.toList
  refine ⟨fun out => ⟨fun h => h.unique hreplaced, fun h => h ▸ hreplaced⟩, fun h => ?_, fun h => ?_⟩
  · exact (hreplaced.length_le h).2 (Nat.le_refl _)
  · exact hreplaced.wellFormed h

theorem WellFormed.plus_not_mem {cs : List Char} {c : Char} (h : WellFormed cs c) : '+' ∉ cs := by
  obtain ⟨name, rfl, hname⟩ := h
  rcases hname with hname | ⟨hsign, hdigits⟩ | ⟨hsign, hdigits⟩
  · have hall : ∀ x ∈ entityNames, '+' ∉ '&' :: x.1 ++ [';'] := by decide
    exact hall _ hname
  · have hplus := hdigits.not_mem (c := '+') (by decide) (by decide)
    simpa [List.mem_singleton.mp hsign] using hplus
  · have hplus := hdigits.not_mem (c := '+') (by decide) (by decide)
    simpa [List.mem_singleton.mp hsign] using hplus

/-- A number with a plus sign is replaced. -/
theorem unescape_signed :
    unescape "&#+65;" = "A" ∧ ¬Replaced WellFormed "&#+65;".toList "A".toList := by
  have hdigits : Numeral 10 ['6', '5'] 'A'.toNat :=
    .more (.one (d := 6) ⟨by decide, by decide⟩) (d := 5) ⟨by decide, by decide⟩
  have hsign : ['+'] ∈ [[], ['+']] := by decide
  have hsigned : Accepted "&#+65;".toList 'A' := ⟨_, rfl, .decimal hsign hdigits⟩
  have hread : unescapeChars "&#+65;".toList = ['A'] :=
    (replaced_unescapeChars _).unique (.reference hsigned .nil)
  refine ⟨by rw [unescape, hread], fun h => ?_⟩
  obtain ⟨_, heq, -⟩ := Replaced.of_no_reference h (by
    rintro cs d hwf ⟨rest, heq⟩
    obtain ⟨rfl, -⟩ := hwf.accepted.unique hsigned (heq.trans (List.append_nil _).symm)
    exact hwf.plus_not_mem (by decide))
  cases heq

end CheckIn.Screen
