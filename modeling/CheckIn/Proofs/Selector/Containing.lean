import CheckIn.Proofs.Selector.Anchoring
import CheckIn.Proofs.Selector.RoundTrip

/-! Selectors that search the description for a text. The source that they are built from is the
text, escaped, between two runs of any characters. Reading it gives the characters of the text one
by one, and matching it between the anchors finds them in a row. -/

namespace CheckIn.Pattern

variable {s : Progress} {c : Char} {cs rest text : List Char} {flags : Flags} {last : Pattern}
  {parts : List Part} {i j n : Nat}

/-! ### Reading an escaped text -/

/-- The flags behind the flag group that makes `.` stand for line breaks too. -/
def Flags.dotAll : Flags := { Flags.initial with dotNewline := true }

/-- One character. -/
def Part.char (c : Char) : Part := .ofSet (.char c) 0

/-- Any number of any characters. -/
def Part.anything : Part := ⟨.repeat (.set (.named .any)) 0 none, 1, true⟩

theorem skip_dotAll (cs : List Char) : Flags.dotAll.skip cs = cs := rfl

theorem readEscape_meta [Library] (hc : isMeta c = true) :
    readEscape flags (c :: rest) = some (.char c, rest) := by
  have hmem : c ∈ ['\\', '.', '+', '*', '?', '(', ')', '|', '[', ']', '{', '}', '^', '$', '#', '&',
      '-', '~'] := List.contains_iff_mem.mp hc
  simp only [List.mem_cons, List.not_mem_nil, or_false] at hmem
  obtain rfl | rfl | rfl | rfl | rfl | rfl | rfl | rfl | rfl | rfl | rfl | rfl | rfl | rfl | rfl |
    rfl | rfl | rfl := hmem
  all_goals rfl

theorem readPart_plain [Library] (hc : isMeta c = false) :
    readPart s (c :: rest) = some (s.push (.ofSet (s.flags.literal c) 0), rest) := by
  simp only [readPart]
  split
  case h_13 => rfl
  all_goals exact absurd hc (by decide)

theorem readPart_escaped [Library] (hs : s.flags = .dotAll) :
    readPart s ((if isMeta c then ['\\', c] else [c]) ++ rest) = some (s.push (.char c), rest) := by
  split
  next hc =>
    show readEscape s.flags (c :: rest) >>= _ = _
    rw [readEscape_meta hc, hs]
    rfl
  next hc =>
    rw [List.singleton_append, readPart_plain (by simpa using hc), hs]
    rfl

/-- An escaped text is read character by character. -/
theorem reads_escapePattern [Library] (hs : s.flags = .dotAll) :
    Reads s (Selector.escapePattern cs ++ rest)
      { s with parts := (cs.map Part.char).reverse ++ s.parts } rest := by
  induction cs generalizing s with
  | nil => exact .here
  | cons c cs ih =>
    have hpart : readPart s (s.flags.skip (Selector.escapePattern (c :: cs) ++ rest)) =
        some (s.push (.char c), Selector.escapePattern cs ++ rest) := by
      rw [hs, skip_dotAll, Selector.escapePattern_cons, List.append_assoc]
      exact readPart_escaped hs
    have hparts : ((c :: cs).map Part.char).reverse ++ s.parts =
        (cs.map Part.char).reverse ++ (s.push (.char c)).parts := by
      simp [Progress.push]
    rw [hparts]
    exact .part hpart (ih hs)

/-- No escaped text begins with the mark that asks for the shortest match. -/
theorem skipLazy_escapePattern (cs rest : List Char) :
    skipLazy (Selector.escapePattern cs ++ '.' :: rest) =
      Selector.escapePattern cs ++ '.' :: rest := by
  refine skipLazy_plain fun after heq => ?_
  cases cs with
  | nil => cases heq
  | cons c cs =>
    rw [Selector.escapePattern_cons] at heq
    split at heq
    next => cases heq
    next hc =>
      cases heq
      exact hc (by decide)

/-! ### Reading the source of a search -/

/-- The parts of the source that searches for a text. -/
def searchParts (needle : List Char) : List Part :=
  .flagged :: .anything :: (needle.map Part.char ++ [.anything])

/-- The end of reading this source. -/
def searched (needle : List Char) : Progress :=
  ⟨.dotAll, [], (searchParts needle).reverse, [], []⟩

theorem Reads.trans [Library] {s' s₂ : Progress} {cs' cs₂ : List Char} (h : Reads s cs s' cs')
    (h' : Reads s' cs' s₂ cs₂) : Reads s cs s₂ cs₂ := by
  induction h with
  | here => exact h'
  | part hpart _ ih => exact .part hpart (ih h')

theorem reads_anything [Library] (hs : s.flags = .dotAll) (hrest : skipLazy rest = rest) :
    Reads s ('.' :: '*' :: rest) (s.push .anything) rest := by
  have hdot : readPart s (s.flags.skip ('.' :: '*' :: rest)) =
      some (s.push (.ofSet (.named .any) 0), '*' :: rest) := by
    rw [hs, skip_dotAll, readPart, hs]
    rfl
  have hstar : readPart (s.push (.ofSet (.named .any) 0)) (s.flags.skip ('*' :: rest)) =
      some (s.push .anything, rest) := by
    rw [hs, skip_dotAll, readPart, hrest]
    rfl
  exact .part hdot (.part hstar .here)

theorem reads_search [Library] (needle : List Char) (hrest : skipLazy rest = rest) :
    Reads .initial ("(?s).*".toList ++ Selector.escapePattern needle ++ ".*".toList ++ rest)
      (searched needle) rest := by
  have hsource : "(?s).*".toList ++ Selector.escapePattern needle ++ ".*".toList ++ rest =
      '(' :: '?' :: 's' :: ')' :: '.' :: '*' ::
        (Selector.escapePattern needle ++ '.' :: '*' :: rest) := by simp
  have hparts : (searchParts needle).reverse =
      .anything :: ((needle.map Part.char).reverse ++ [.anything, .flagged]) := by
    simp [searchParts]
  rw [hsource, searched, hparts]
  let started : Progress := { Progress.initial.push .flagged with flags := .dotAll }
  have hfirst : Reads started _ _ _ :=
    reads_anything rfl (skipLazy_escapePattern needle ('*' :: rest))
  have hlast : Reads { started with
      parts := (needle.map Part.char).reverse ++ [.anything, .flagged] } _ _ _ :=
    reads_anything rfl hrest
  have hrest := hfirst.trans ((reads_escapePattern rfl).trans hlast)
  have hstarted : readPart .initial (Flags.initial.skip ('(' :: '?' :: 's' :: ')' :: '.' :: '*' ::
      (Selector.escapePattern needle ++ '.' :: '*' :: rest))) = some (started, _) := rfl
  exact .part hstarted hrest

/-! ### The size of a search -/

theorem concat_reverse (h : 1 < parts.reverse.length) :
    Part.concat parts.reverse =
      ⟨parts.foldr (fun part later => .seq part.pattern later) .empty,
        parts.foldr (fun part height => max height part.height) 0 + 1, true⟩ := by
  simp only [← List.foldl_reverse]
  generalize parts.reverse = parts at h
  rcases parts with _ | ⟨first, _ | ⟨second, parts⟩⟩
  · cases h
  · simp at h
  · rfl

theorem foldr_height_chars (cs : List Char) (n : Nat) :
    (cs.map Part.char).foldr (fun part height => max height part.height) n = n := by
  induction cs with
  | nil => rfl
  | cons c cs ih => rw [List.map_cons, List.foldr_cons, ih, Part.char, Part.ofSet, Nat.max_zero]

theorem searched_contents (needle : List Char) :
    (searched needle).contents =
      ⟨(searchParts needle).foldr (fun part later => .seq part.pattern later) .empty, 2, true⟩ := by
  have hlength : 1 < (searchParts needle).reverse.length := by simp [searchParts]
  have hheight : (searchParts needle).foldr (fun part height => max height part.height) 0 = 1 := by
    simp only [searchParts, List.foldr_cons, List.foldr_append, List.foldr_nil,
      foldr_height_chars]
    rfl
  show Part.concat (searchParts needle).reverse = _
  rw [concat_reverse hlength, hheight]

/-! ### Matching a search -/

theorem spans_char : Spans (.set (.char c)) text i j ↔ j = i + 1 ∧ text[i]? = some c := by
  have hcontains (d : Char) : (CharSet.char c).contains d = true ↔ d = c := by
    simp only [CharSet.char, CharSet.contains, Bool.and_eq_true, decide_eq_true_eq]
    refine ⟨fun ⟨hle, hge⟩ => Char.le_antisymm hge hle, ?_⟩
    rintro rfl
    exact ⟨Char.le_refl d, Char.le_refl d⟩
  simp only [spans_set, hcontains, exists_eq_right]

theorem spansTimes_any (h : i + n ≤ text.length) :
    SpansTimes (.set (.named .any)) n text i (i + n) := by
  induction n with
  | zero => exact .zero h
  | succ n ih =>
    have hlt : i + n < text.length := by omega
    exact .succ (ih (by omega)) (.set (List.getElem?_eq_getElem hlt) rfl)

theorem spans_anything : Spans Part.anything.pattern text i j ↔ i ≤ j ∧ j ≤ text.length := by
  refine ⟨Spans.le, fun ⟨hle, hend⟩ => ?_⟩
  obtain ⟨n, rfl⟩ := Nat.exists_eq_add_of_le hle
  exact .repeat (spansTimes_any hend) (Nat.zero_le n) nofun

theorem cons_prefix_drop :
    c :: cs <+: text.drop i ↔ text[i]? = some c ∧ cs <+: text.drop (i + 1) := by
  rw [← List.head?_drop, ← List.tail_drop]
  cases text.drop i with
  | nil => simp
  | cons d rest => simp [List.cons_prefix_cons, eq_comm]

/-- One character after another is matched where they stand in a row. -/
theorem spans_chars :
    Spans ((cs.map Part.char).foldr (fun part later => .seq part.pattern later) last) text i j ↔
      cs <+: text.drop i ∧ Spans last text (i + cs.length) j := by
  induction cs generalizing i with
  | nil => simp
  | cons c cs ih =>
    have hlength : i + 1 + cs.length = i + (c :: cs).length := by
      rw [List.length_cons]
      omega
    rw [List.map_cons, List.foldr_cons, spans_seq, cons_prefix_drop, ← hlength, and_assoc, ← ih]
    constructor
    · rintro ⟨k, hchar, hspans⟩
      obtain ⟨rfl, hc⟩ := spans_char.mp hchar
      exact ⟨hc, hspans⟩
    · rintro ⟨hc, hspans⟩
      exact ⟨i + 1, spans_char.mpr ⟨rfl, hc⟩, hspans⟩

theorem infix_iff_prefix_drop : cs <:+: text ↔ ∃ k ≤ text.length, cs <+: text.drop k := by
  rw [List.infix_iff_prefix_suffix]
  constructor
  · rintro ⟨tail, hfound, hsuffix⟩
    rw [List.suffix_iff_eq_drop.mp hsuffix] at hfound
    exact ⟨_, Nat.sub_le _ _, hfound⟩
  · rintro ⟨k, -, hfound⟩
    exact ⟨_, hfound, List.drop_suffix k text⟩

/-- A search matches all of a text exactly if the text contains what is searched for. -/
theorem spans_search {needle : List Char} :
    Spans (searched needle).contents.pattern text 0 text.length ↔ needle <:+: text := by
  rw [searched_contents, infix_iff_prefix_drop]
  simp only [searchParts, List.foldr_cons, List.foldr_append, List.foldr_nil]
  constructor
  · intro h
    obtain ⟨_, hflags, h⟩ := spans_seq.mp h
    obtain ⟨k, hbefore, h⟩ := spans_seq.mp h
    exact ⟨k, hbefore.le.2, (spans_chars.mp h).1⟩
  · rintro ⟨k, hk, hfound⟩
    have hlength := hfound.length_le
    rw [List.length_drop] at hlength
    have hend : Spans .empty text text.length text.length := .empty (Nat.le_refl _)
    have hafter : Spans Part.anything.pattern text (k + needle.length) text.length :=
      spans_anything.mpr ⟨by omega, Nat.le_refl _⟩
    have hbefore : Spans Part.anything.pattern text 0 k := spans_anything.mpr ⟨Nat.zero_le k, hk⟩
    exact .seq (.empty (Nat.zero_le _)) (.seq hbefore (spans_chars.mpr ⟨hfound, .seq hafter hend⟩))

end CheckIn.Pattern

namespace CheckIn.Selector

open Pattern

section Search

variable [Library]

/-- The source of the pattern that searches a description for a text. -/
def searchSource (needle : String) : String :=
  "(?s).*" ++ String.ofList (escapePattern needle.toList) ++ ".*"

theorem read_search {needle : String} {p : Pattern} :
    read (anchored (searchSource needle)) = .ok p ↔
      Library.fits (anchored (searchSource needle))
          (searched needle.toList).contents.anchored.pattern = true ∧
        p = (searched needle.toList).contents.anchored.pattern := by
  have hreads : Reads .initial ((searchSource needle).toList ++ closing)
      (searched needle.toList) closing := by
    simp only [searchSource, String.toList_append, String.toList_ofList]
    exact reads_search needle.toList rfl
  have hheight : (searched needle.toList).contents.height + 2 ≤ heightLimit := by
    rw [searched_contents]
    show 2 + 2 ≤ heightLimit
    decide
  rw [read_anchored hreads rfl rfl]
  exact and_iff_right hheight

theorem searched_ordered (needle : List Char) : (searched needle).contents.pattern.Ordered := by
  have hreads : Reads .initial _ (searched needle) [] := reads_search needle rfl
  exact (hreads.ordered Progress.ordered_initial).contents

theorem isMatch_search {needle : String} {p : DescPattern} (hp : p.source = searchSource needle)
    (desc : String) : p.isMatch desc = true ↔ needle.toList <:+: desc.toList := by
  have hpattern := (read_search.mp (hp ▸ p.reads)).2
  rw [DescPattern.isMatch, hpattern, isMatch_anchored (searched_ordered _), spans_search]

theorem descContains_eq {needle : String} {p : DescPattern}
    (hp : DescPattern.ofSource (searchSource needle) = .ok p) :
    descContains needle = .one (.pattern p) := by
  unfold descContains
  dsimp only
  split
  next q hq =>
    cases hp.symm.trans hq
    rfl
  next e he => cases hp.symm.trans he

/-- A text that is too long to be searched for is compared with the whole description, so in any
case the description contains it. -/
theorem infix_of_holds_descContains {needle : String} {e : Screen.Element}
    (h : (descContains needle).holds e = true) : needle.toList <:+: e.desc.toList := by
  unfold descContains at h
  dsimp only at h
  split at h
  next p hp => exact (isMatch_search (ofSource_eq_ok.mp hp) e.desc).mp h
  next =>
    have hdesc : e.desc = needle := beq_iff_eq.mp h
    exact hdesc ▸ List.infix_rfl

/-- The source that searches for a text is compiled by every library that has room for it, and then
the search holds of the elements whose description contains the text. -/
theorem descContains_holds (needle : String) :
    ((∃ p, DescPattern.ofSource (searchSource needle) = .ok p) ↔
      Library.fits (anchored (searchSource needle))
        (searched needle.toList).contents.anchored.pattern = true) ∧
    ∀ p, DescPattern.ofSource (searchSource needle) = .ok p →
      ∀ e, (descContains needle).holds e = true ↔ needle.toList <:+: e.desc.toList := by
  constructor
  · rw [DescPattern.exists_ofSource_eq_ok]
    simp only [read_search, exists_and_left, exists_eq, and_true]
  · intro p hp e
    rw [descContains_eq hp]
    exact isMatch_search (ofSource_eq_ok.mp hp) e.desc

end Search

/-- The characters that mean something in patterns are found as they stand. -/
theorem descContains_holds_meta :
    (descContains ".*(").holds { Screen.Element.blank with desc := "a\n.*(" } = true ∧
      (descContains ".*(").holds { Screen.Element.blank with desc := "a(" } = false := by
  obtain ⟨p, hp⟩ := (descContains_holds ".*(").1.mpr (by decide)
  have hholds := (descContains_holds ".*(").2 p hp
  refine ⟨(hholds _).mpr (by decide), ?_⟩
  rw [Bool.eq_false_iff, ne_eq, hholds]
  decide

end CheckIn.Selector
