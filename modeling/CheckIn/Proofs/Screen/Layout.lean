import CheckIn.Proofs.Screen.Markup

/-! Reading a layout. Each reader takes what its part of the layout writes, whatever comes behind
it: references, coordinates, attributes, tags. The order of the attributes of a tag does not matter,
as those that count have different names. Between two tags nothing is read. From this the elements
of a layout come back as they were written. -/

namespace CheckIn.Screen

/-! ### Numerals -/

theorem Digit.value {base d : Nat} {c : Char} (h : Digit base c d) (hbase : base ≤ 16) :
    Text.digitValue? c = some d := by
  have hall : ∀ d : Fin 16, Text.digitValue? (Nat.digitChar d) = some d.val ∧
      Text.digitValue? (Nat.digitChar d).toUpper = some d.val := by
    decide
  obtain ⟨hd, rfl | rfl⟩ := h
  · exact (hall ⟨d, by omega⟩).1
  · exact (hall ⟨d, by omega⟩).2

theorem Digit.isDigit {d : Nat} {c : Char} (h : Digit 10 c d) : c.isDigit = true := by
  have hall : ∀ d : Fin 10, (Nat.digitChar d).isDigit = true ∧
      (Nat.digitChar d).toUpper.isDigit = true := by
    decide
  obtain ⟨hd, rfl | rfl⟩ := h
  · exact (hall ⟨d, hd⟩).1
  · exact (hall ⟨d, hd⟩).2

namespace Numeral

variable {base n : Nat} {cs : List Char}

theorem ne_nil (h : Numeral base cs n) : cs ≠ [] := by
  cases h <;> simp

theorem digit_of_mem (h : Numeral base cs n) : ∀ c ∈ cs, ∃ d, Digit base c d := by
  induction h with
  | one hc =>
    intro c' hc'
    exact List.mem_singleton.mp hc' ▸ ⟨_, hc⟩
  | more _ hc ih =>
    intro c' hc'
    rcases List.mem_append.mp hc' with hc' | hc'
    · exact ih c' hc'
    · exact List.mem_singleton.mp hc' ▸ ⟨_, hc⟩

/-- A character without a value is in no numeral. -/
theorem not_mem (h : Numeral base cs n) (hbase : base ≤ 16) {c : Char}
    (hc : Text.digitValue? c = none) : c ∉ cs := by
  intro hmem
  obtain ⟨d, hd⟩ := h.digit_of_mem c hmem
  cases hc.symm.trans (hd.value hbase)

theorem digits_eq (h : Numeral base cs n) (hbase : base ≤ 16) : Text.digits? base cs = some n := by
  rw [Text.digits?, List.isEmpty_eq_false_iff.mpr h.ne_nil, if_neg Bool.false_ne_true]
  induction h with
  | one hc => simp [List.foldlM, hc.value hbase, hc.1]
  | more _ hc ih =>
    rw [List.foldlM_append, ih]
    simp [List.foldlM, hc.value hbase, hc.1]

theorem nat_eq (h : Numeral base cs n) (hbase : base ≤ 16) : Text.nat? base cs = some n := by
  unfold Text.nat?
  split
  · exact absurd (List.mem_cons_self ..) (h.not_mem hbase (by decide))
  · exact h.digits_eq hbase

end Numeral

/-! ### References -/

theorem entity_of_named {name : List Char} {c : Char} (h : (name, c) ∈ entityNames) :
    entity? name = some c ∧ ';' ∉ name := by
  have hall : ∀ x ∈ entityNames, entity? x.1 = some x.2 ∧ ';' ∉ x.1 := by decide
  exact hall _ h

/-- A name that begins with a hash is a number. -/
theorem entity_hash (cs : List Char) : entity? ('#' :: cs) =
    (match cs with
      | 'x' :: digits => Text.nat? 16 digits
      | digits => Text.nat? 10 digits).bind
        fun n => if n.isValidChar then some (Char.ofNat n) else none := by
  have hname (s : String) (hs : s.toList.head? ≠ some '#') : String.ofList ('#' :: cs) ≠ s := by
    rintro rfl
    simp at hs
  unfold entity?
  split
  case h_6 =>
    split
    · next heq =>
      cases heq
      rfl
    · next hx heq =>
      cases heq
      have hcs (digits : List Char) : cs ≠ 'x' :: digits := fun h => hx digits (h ▸ rfl)
      split
      · exact absurd rfl (hcs _)
      · rfl
    · next hnot => exact absurd rfl (hnot cs)
  all_goals
    next heq => exact absurd heq (hname _ (by decide))

theorem bind_charOf (c : Char) : (some c.toNat).bind
    (fun n => if n.isValidChar then some (Char.ofNat n) else none) = some c := by
  have hvalid : c.toNat.isValidChar := c.valid
  rw [Option.bind_some, if_pos hvalid, Char.ofNat_toNat]

theorem readEntity_append {name : List Char} {c : Char} (rest : List Char)
    (h : entity? name = some c ∧ ';' ∉ name) :
    readEntity (name ++ ';' :: rest) = some (c, rest) := by
  obtain ⟨hentity, hname⟩ := h
  have hall : ∀ d ∈ name, decide (d ≠ ';') = true := fun d hd =>
    decide_eq_true fun heq => hname (heq ▸ hd)
  rw [readEntity, List.dropWhile_append_of_pos hall, List.takeWhile_append_of_pos hall]
  simp [hentity]

/-- What stands for a character is read as that character. -/
theorem unescapeChars_append {cs : List Char} {c : Char} (h : Spells cs c) (rest : List Char) :
    unescapeChars (cs ++ rest) = c :: unescapeChars rest := by
  have hread {name : List Char} (hname : entity? name = some c ∧ ';' ∉ name) :
      unescapeChars ('&' :: name ++ [';'] ++ rest) = c :: unescapeChars rest := by
    have hentity := readEntity_append rest hname
    rw [List.append_assoc, List.cons_append, unescapeChars]
    split
    · next heq =>
      cases hentity.symm.trans heq
      rfl
    · next heq => cases hentity.symm.trans heq
  cases h with
  | raw hc =>
    have hamp : c ≠ '&' := fun heq => hc (heq ▸ by decide)
    show unescapeChars (c :: rest) = _
    rw [unescapeChars]
    exact hamp
  | named hname => exact hread (entity_of_named hname)
  | @decimal digits _ hdigits =>
    refine hread ⟨?_, ?_⟩
    · have hx : 'x' ∉ digits := hdigits.not_mem (by decide) (by decide)
      rw [entity_hash]
      split
      · exact absurd (List.mem_cons_self ..) hx
      · rw [hdigits.nat_eq (by decide), bind_charOf]
    · simpa using hdigits.not_mem (by decide) (by decide)
  | @hexadecimal digits _ hdigits =>
    refine hread ⟨?_, ?_⟩
    · rw [entity_hash]
      show (Text.nat? 16 digits).bind _ = some c
      rw [hdigits.nat_eq (by decide), bind_charOf]
    · simpa using hdigits.not_mem (by decide) (by decide)

theorem unescapeChars_of_spells {cs value : List Char} (h : SpellsText cs value) :
    unescapeChars cs = value := by
  induction h with
  | nil => simp [unescapeChars]
  | cons hc _ ih => rw [unescapeChars_append hc, ih]

/-- Nothing that stands for a character ends the value or the tag. -/
theorem Spells.not_mem {cs : List Char} {c : Char} (h : Spells cs c) : '"' ∉ cs ∧ '>' ∉ cs := by
  cases h with
  | raw hc =>
    have hne (d : Char) (hd : d ∈ reserved) : d ∉ [c] := fun hmem =>
      hc (List.mem_singleton.mp hmem ▸ hd)
    exact ⟨hne _ (by decide), hne _ (by decide)⟩
  | named hname =>
    have hall : ∀ x ∈ entityNames, '"' ∉ '&' :: x.1 ++ [';'] ∧ '>' ∉ '&' :: x.1 ++ [';'] := by
      decide
    exact hall _ hname
  | decimal hdigits | hexadecimal hdigits =>
    have hquote := hdigits.not_mem (c := '"') (by decide) (by decide)
    have hend := hdigits.not_mem (c := '>') (by decide) (by decide)
    simp [hquote, hend]

theorem SpellsText.not_mem {cs value : List Char} (h : SpellsText cs value) :
    '"' ∉ cs ∧ '>' ∉ cs := by
  induction h with
  | nil => exact ⟨List.not_mem_nil, List.not_mem_nil⟩
  | cons hc _ ih => simp [hc.not_mem, ih]

/-! ### Rectangles -/

theorem int32_toInt (c : Int32) : Text.int32? c.toInt = some c := by
  rw [Text.int32?, if_pos ⟨c.minValue_le_toInt, c.toInt_le⟩, Int32.ofInt_toInt]

theorem readCoordinate_append (c : Int32) {d : Char} (hd : d.isDigit = false) (rest : List Char) :
    readCoordinate (coordinateText c ++ d :: rest) = some (c, d :: rest) := by
  have hdigits {digits : List Char} {n : Nat} (h : Numeral 10 digits n) :
      (digits ++ d :: rest).takeWhile Char.isDigit = digits ∧
        (digits ++ d :: rest).dropWhile Char.isDigit = d :: rest := by
    have hall : ∀ x ∈ digits, x.isDigit = true := fun x hx =>
      let ⟨_, hx⟩ := h.digit_of_mem x hx
      hx.isDigit
    rw [List.takeWhile_append_of_pos hall, List.dropWhile_append_of_pos hall]
    simp [hd]
  rcases coordinateText_cases c with ⟨n, hn, h⟩ | ⟨n, digits, hn, htext, h⟩
  · obtain ⟨htake, hdrop⟩ := hdigits h
    have hsign : ((coordinateText c ++ d :: rest).head? == some '-') = false := by
      have hminus : '-' ∉ coordinateText c := h.not_mem (by decide) (by decide)
      cases hcs : coordinateText c with
      | nil => exact absurd hcs h.ne_nil
      | cons x xs =>
        have hx : x ≠ '-' := fun heq => hminus (hcs ▸ heq ▸ List.mem_cons_self ..)
        simp [hx]
    have hvalue : Text.int32? n = some c := hn ▸ int32_toInt c
    simp only [readCoordinate, hsign, Bool.false_eq_true, if_false, htake, hdrop,
      h.digits_eq (by decide), Option.bind_eq_bind, Option.bind_some, hvalue]
    rfl
  · obtain ⟨htake, hdrop⟩ := hdigits h
    simp [readCoordinate, htext, htake, hdrop, h.digits_eq, ← hn, int32_toInt]

theorem readCorner_append (x y : Int32) (rest : List Char) :
    readCorner ('[' :: coordinateText x ++ ',' :: coordinateText y ++ ']' :: rest) =
      some (x, y, rest) := by
  simp [readCorner, readCoordinate_append]

theorem stripWhile_of_ends {p : Char → Bool} {c d : Char} (hc : p c = false) (hd : p d = false)
    (cs : List Char) : Text.stripWhile p (c :: cs ++ [d]) = c :: cs ++ [d] := by
  simp [Text.stripWhile, Text.dropEndWhile, hc, hd]

theorem ofText_text (r : Rect) : Rect.ofText? r.text = some r := by
  have hstrip : Text.stripWhile Text.isBlank r.text = r.text := by
    have hends := stripWhile_of_ends (p := Text.isBlank) (c := '[') (d := ']') rfl rfl
      (coordinateText r.left ++ ',' :: coordinateText r.top ++ ']' ::
        '[' :: coordinateText r.right ++ ',' :: coordinateText r.bottom)
    simpa [Rect.text] using hends
  have hfirst : readCorner r.text = some (r.left, r.top,
      '[' :: coordinateText r.right ++ ',' :: coordinateText r.bottom ++ [']']) := by
    rw [Rect.text, ← readCorner_append]
    simp
  have hsecond := readCorner_append r.right r.bottom []
  rw [Rect.ofText?, hstrip, hfirst]
  show (readCorner ('[' :: coordinateText r.right ++ ',' :: coordinateText r.bottom ++ [']'])).bind
    _ = some r
  rw [hsecond]
  rfl

/-! ### Attributes -/

theorem isSpace_not_name {c : Char} (h : isSpace c = true) :
    isAttributeName c = false ∧ c ≠ '>' := by
  simp only [isSpace, Bool.or_eq_true, beq_iff_eq] at h
  rcases h with ((rfl | rfl) | rfl) | rfl <;> decide

/-- An attribute is read with its value as written. -/
theorem attributes_append (fuel : Nat) (a : Attribute) (rest : List Char) :
    attributes (fuel + 1) (a.text ++ rest) = (a.name, a.written) :: attributes fuel rest := by
  have hspace : ∀ c ∈ a.space, (!isAttributeName c) = true := fun c hc => by
    simp [(isSpace_not_name (a.spaced c hc)).1]
  have hequals : isAttributeName '=' = false := by decide
  have hwritten : ∀ c ∈ a.written, decide (c ≠ '"') = true := fun c hc =>
    decide_eq_true fun heq => a.spelled.not_mem.1 (heq ▸ hc)
  have htext : a.text ++ rest =
      a.space ++ (a.name.toList ++ '=' :: '"' :: (a.written ++ '"' :: rest)) := by
    simp [Attribute.text]
  have hstart : (a.name.toList ++ '=' :: '"' :: (a.written ++ '"' :: rest)).dropWhile
      (!isAttributeName ·) = a.name.toList ++ '=' :: '"' :: (a.written ++ '"' :: rest) := by
    cases hname : a.name.toList with
    | nil => exact absurd hname a.name_ne_nil
    | cons c cs =>
      have hc : isAttributeName c = true := a.named c (hname ▸ List.mem_cons_self ..)
      simp [hc]
  rw [htext, attributes, List.dropWhile_append_of_pos hspace, hstart]
  split
  · next heq => simp at heq
  · rw [List.takeWhile_append_of_pos a.named, List.dropWhile_append_of_pos a.named]
    simp only [List.takeWhile_cons, List.dropWhile_cons, hequals, Bool.false_eq_true, if_false,
      List.append_nil, String.ofList_toList]
    rw [List.takeWhile_append_of_pos hwritten, List.dropWhile_append_of_pos hwritten]
    simp

theorem attributes_flatMap {fuel : Nat} {tail : List Char} (as : List Attribute)
    (htail : ∀ c ∈ tail, isAttributeName c = false) (hfuel : as.length ≤ fuel) :
    attributes fuel (as.flatMap Attribute.text ++ tail) = as.map fun a => (a.name, a.written) := by
  induction as generalizing fuel with
  | nil =>
    cases fuel with
    | zero => rfl
    | succ fuel =>
      have hnone : (tail ++ []).dropWhile (!isAttributeName ·) = [] :=
        List.dropWhile_append_of_pos fun c hc => by simp [htail c hc]
      rw [List.append_nil] at hnone
      simp [attributes, hnone]
  | cons a as ih =>
    cases fuel with
    | zero => cases hfuel
    | succ fuel =>
      rw [List.flatMap_cons, List.append_assoc, attributes_append,
        ih (Nat.le_of_succ_le_succ hfuel), List.map_cons]

theorem length_le_flatMap_text (as : List Attribute) :
    as.length ≤ (as.flatMap Attribute.text).length := by
  induction as with
  | nil => exact Nat.le_refl _
  | cons a as ih =>
    have htext : 0 < a.text.length := by
      simp only [Attribute.text, List.length_append, List.length_cons]
      omega
    rw [List.flatMap_cons, List.length_append, List.length_cons]
    omega

namespace Tag

variable (t : Tag)

theorem ending_not_name : ∀ c ∈ t.ending, isAttributeName c = false ∧ c ≠ '>' := by
  intro c hc
  rcases List.mem_append.mp hc with hc | hc
  · exact isSpace_not_name (t.spaced c hc)
  · split at hc
    · rw [List.mem_singleton.mp hc]
      decide
    · cases hc

theorem attributes_body :
    Screen.attributes (t.body.length + 1) t.body =
      t.attributes.map fun a => (a.name, a.written) := by
  refine attributes_flatMap t.attributes (fun c hc => (t.ending_not_name c hc).1) ?_
  have hlength := length_le_flatMap_text t.attributes
  rw [body, List.length_append]
  omega

end Tag

/-! ### Properties -/

/-- Sets the property that an attribute gives, by its value as it is meant. -/
def Element.withProperty (e : Element) (p : String × String) : Element :=
  match p.1 with
  | "text" => { e with text := p.2 }
  | "content-desc" => { e with desc := p.2 }
  | "resource-id" => { e with id := p.2 }
  | "class" => { e with className := p.2 }
  | "clickable" => { e with clickable := p.2 == "true" }
  | "bounds" => { e with bounds := (Rect.ofText? p.2.toList).getD .zero }
  | _ => e

namespace Element

variable (e : Element) (value : String)

@[simp] theorem withProperty_text :
    e.withProperty ("text", value) = { e with text := value } := rfl

@[simp] theorem withProperty_desc :
    e.withProperty ("content-desc", value) = { e with desc := value } := rfl

@[simp] theorem withProperty_id :
    e.withProperty ("resource-id", value) = { e with id := value } := rfl

@[simp] theorem withProperty_class :
    e.withProperty ("class", value) = { e with className := value } := rfl

@[simp] theorem withProperty_clickable :
    e.withProperty ("clickable", value) = { e with clickable := value == "true" } := rfl

@[simp] theorem withProperty_bounds : e.withProperty ("bounds", value) =
    { e with bounds := (Rect.ofText? value.toList).getD .zero } := rfl

end Element

theorem Attribute.withAttribute_eq (a : Attribute) (e : Element) :
    e.withAttribute a.name a.written = e.withProperty a.property := by
  unfold Element.withAttribute Element.withProperty
  simp only [unescapeChars_of_spells a.spelled, String.ofList_toList]
  rfl

theorem withProperty_of_not_mem {p : String × String} (h : p.1 ∉ propertyNames) (e : Element) :
    e.withProperty p = e := by
  unfold Element.withProperty
  split
  case h_7 => rfl
  all_goals
    next heq =>
      rw [heq] at h
      exact absurd (by decide) h

/-- Only the attributes that give properties count. -/
theorem foldl_withAttribute (as : List Attribute) (e : Element) :
    (as.map fun a => (a.name, a.written)).foldl (fun e x => e.withAttribute x.1 x.2) e =
      ((as.filter (·.IsProperty)).map Attribute.property).foldl Element.withProperty e := by
  induction as generalizing e with
  | nil => rfl
  | cons a as ih =>
    rw [List.map_cons, List.foldl_cons, a.withAttribute_eq, ih, List.filter_cons]
    by_cases ha : a.IsProperty
    · simp [ha]
    · simp [ha, withProperty_of_not_mem (p := a.property) ha]

/-- The properties of an element can be set in any order. -/
theorem withProperty_comm {e : Element} {p q : String × String} (hp : p ∈ e.properties)
    (hq : q ∈ e.properties) (d : Element) :
    (d.withProperty p).withProperty q = (d.withProperty q).withProperty p := by
  simp only [Element.properties, List.mem_cons, List.not_mem_nil, or_false] at hp hq
  rcases hp with rfl | rfl | rfl | rfl | rfl | rfl <;>
    rcases hq with rfl | rfl | rfl | rfl | rfl | rfl <;> simp

theorem foldl_properties (e : Element) : e.properties.foldl Element.withProperty .blank = e := by
  obtain ⟨text, desc, id, className, clickable, bounds⟩ := e
  have hclickable : (toString clickable == "true") = clickable := by cases clickable <;> decide
  simp [Element.properties, hclickable, ofText_text]

/-- The attributes of a tag give its element. -/
theorem Tag.ofAttributes_body (t : Tag) : Element.ofAttributes t.body = t.element := by
  rw [Element.ofAttributes, t.attributes_body, foldl_withAttribute, t.complete.foldl_eq',
    foldl_properties]
  intro p hp q hq d
  exact withProperty_comm (t.complete.mem_iff.mp hp) (t.complete.mem_iff.mp hq) d

/-! ### Tags -/

/-- A part of a text without tags is none. -/
theorem nodeBody_of_gap {cs : List Char} (h : ¬tagStart <:+: cs) : nodeBody? cs = none := by
  induction cs with
  | nil => rfl
  | cons c cs ih =>
    rw [List.infix_cons_iff, not_or] at h
    have hprefix : "<node".toList.isPrefixOf (c :: cs) = false := by
      rw [Bool.eq_false_iff, ne_eq, List.isPrefixOf_iff_prefix]
      exact h.1
    rw [nodeBody?, hprefix]
    exact ih h.2

/-- A tag begins with the only angle bracket in its start, so none begins in the text before it and
goes on into it. -/
theorem not_prefix_of_gap {c : Char} {cs body : List Char} (h : ¬tagStart <:+: c :: cs) :
    ¬tagStart <+: c :: cs ++ (tagStart ++ body) := by
  intro hnode
  rcases List.prefix_or_prefix_of_prefix hnode (List.prefix_append (c :: cs) _) with
    hin | ⟨later, hlater⟩
  · exact h hin.isInfix
  · have hrest : later <+: tagStart ++ body := by
      refine (List.prefix_append_right_inj (c :: cs)).mp ?_
      rw [hlater]
      exact hnode
    cases later with
    | nil => exact h (by simp [← hlater])
    | cons d later =>
      have hbracket : d = '<' := (List.cons_prefix_cons.mp hrest).1
      have hmem : d ∈ ['n', 'o', 'd', 'e'] := by
        rw [← (List.cons.inj hlater).2]
        simp
      rw [hbracket] at hmem
      exact absurd hmem (by decide)

/-- What stands before a tag is passed over, and its body is what follows its name. -/
theorem nodeBody_append {gap body : List Char} (hgap : ¬tagStart <:+: gap)
    (hbody : body.head?.any Unicode.isWord = false) :
    nodeBody? (gap ++ (tagStart ++ body)) = some body := by
  induction gap with
  | nil =>
    show (if true && !body.head?.any Unicode.isWord then some body else _) = some body
    rw [hbody]
    rfl
  | cons c cs ih =>
    have hprefix : "<node".toList.isPrefixOf (c :: (cs ++ (tagStart ++ body))) = false := by
      rw [Bool.eq_false_iff, ne_eq, List.isPrefixOf_iff_prefix]
      exact not_prefix_of_gap hgap
    rw [List.infix_cons_iff, not_or] at hgap
    rw [List.cons_append, nodeBody?, hprefix]
    exact ih hgap.2

/-- A tag ends nowhere in an attribute. -/
theorem Attribute.not_mem_text (a : Attribute) : '>' ∉ a.text := by
  have hspace : '>' ∉ a.space := fun h => (isSpace_not_name (a.spaced _ h)).2 rfl
  have hname : '>' ∉ a.name.toList := fun h => absurd (a.named _ h) (by decide)
  have hwritten := a.spelled.not_mem.2
  simp [Attribute.text, hspace, hname, hwritten]

theorem Tag.not_mem_body (t : Tag) : '>' ∉ t.body := by
  intro h
  rcases List.mem_append.mp h with h | h
  · obtain ⟨a, -, ha⟩ := List.mem_flatMap.mp h
    exact a.not_mem_text ha
  · exact (t.ending_not_name _ h).2 rfl

theorem isWord_of_not_name {c : Char} (h : isAttributeName c = false) :
    Unicode.isWord c = false := by
  simp only [isAttributeName, Bool.or_eq_false_iff] at h
  exact h.1.1

/-- The start of a tag is a word of its own. -/
theorem Tag.head_body (t : Tag) : t.body.head?.any Unicode.isWord = false := by
  have hhead : ∀ c ∈ t.body.head?, isAttributeName c = false := by
    intro c hc
    rw [body] at hc
    cases has : t.attributes with
    | nil =>
      rw [has] at hc
      exact (t.ending_not_name c (List.mem_of_mem_head? hc)).1
    | cons a as =>
      obtain ⟨d, ds, hspace⟩ := List.exists_cons_of_ne_nil a.space_ne_nil
      have hd : d = c := by simpa [has, Attribute.text, hspace] using hc
      exact (isSpace_not_name (a.spaced c (by simp [hspace, hd]))).1
  cases hc : t.body.head? with
  | none => rfl
  | some c => exact isWord_of_not_name (hhead c hc)

/-! ### Layouts -/

/-- What stands between the start and the end of each tag of a text. -/
def bodies (cs : List Char) : List (List Char) :=
  (Text.splitOn (· == '>') cs).dropLast.filterMap nodeBody?

theorem splitOn_ne_nil (p : Char → Bool) (cs : List Char) : Text.splitOn p cs ≠ [] := by
  induction cs with
  | nil => exact List.cons_ne_nil _ _
  | cons c cs ih =>
    unfold Text.splitOn
    split <;> simp_all

/-- A text is divided at its first angle bracket. -/
theorem splitOn_append {cs : List Char} (h : '>' ∉ cs) (rest : List Char) :
    Text.splitOn (· == '>') (cs ++ '>' :: rest) = cs :: Text.splitOn (· == '>') rest := by
  induction cs with
  | nil => simp [Text.splitOn]
  | cons c cs ih =>
    rw [List.mem_cons, not_or] at h
    have hc : (c == '>') = false := by simpa using Ne.symm h.1
    simp [Text.splitOn, hc, ih h.2]

theorem splitOn_of_not_mem {cs : List Char} (h : '>' ∉ cs) :
    Text.splitOn (· == '>') cs = [cs] := by
  induction cs with
  | nil => rfl
  | cons c cs ih =>
    rw [List.mem_cons, not_or] at h
    have hc : (c == '>') = false := by simpa using Ne.symm h.1
    simp [Text.splitOn, hc, ih h.2]

theorem bodies_append {cs : List Char} (h : '>' ∉ cs) (rest : List Char) :
    bodies (cs ++ '>' :: rest) = (nodeBody? cs).toList ++ bodies rest := by
  rw [bodies, splitOn_append h, List.dropLast_cons_of_ne_nil (splitOn_ne_nil _ _), bodies,
    List.filterMap_cons]
  cases nodeBody? cs <;> rfl

theorem bodies_of_not_mem {cs : List Char} (h : '>' ∉ cs) : bodies cs = [] := by
  rw [bodies, splitOn_of_not_mem h]
  rfl

/-- Texts are followed from one angle bracket to the next. -/
@[elab_as_elim]
theorem angle_induction {P : List Char → Prop} (last : ∀ cs, '>' ∉ cs → P cs)
    (cut : ∀ cs rest, '>' ∉ cs → P rest → P (cs ++ '>' :: rest)) (cs : List Char) : P cs := by
  induction hlength : cs.length using Nat.strongRecOn generalizing cs with
  | ind n ih =>
    by_cases h : '>' ∈ cs
    · obtain ⟨before, after, rfl, hbefore⟩ := List.eq_append_cons_of_mem h
      refine cut before after hbefore (ih after.length ?_ after rfl)
      rw [← hlength, List.length_append, List.length_cons]
      omega
    · exact last cs h

theorem gap_cut {cs rest : List Char} (h : ¬tagStart <:+: cs ++ '>' :: rest) :
    ¬tagStart <:+: cs ∧ ¬tagStart <:+: rest := by
  constructor
  · exact fun hcs => h (hcs.trans (List.prefix_append ..).isInfix)
  · exact fun hrest =>
      h (hrest.trans ((List.suffix_cons '>' rest).trans (List.suffix_append cs _)).isInfix)

/-- In a text without tags there is nothing to read. -/
theorem bodies_gap {gap : List Char} (hgap : ¬tagStart <:+: gap) : bodies gap = [] := by
  induction gap using angle_induction with
  | last cs hcs => exact bodies_of_not_mem hcs
  | cut cs rest hcs ih =>
    obtain ⟨hbefore, hafter⟩ := gap_cut hgap
    rw [bodies_append hcs, nodeBody_of_gap hbefore, ih hafter]
    rfl

/-- Angle brackets in the text before a tag do no harm. -/
theorem bodies_gap_append {gap : List Char} (hgap : ¬tagStart <:+: gap) (t : Tag)
    (rest : List Char) : bodies (gap ++ (t.text ++ rest)) = t.body :: bodies rest := by
  induction gap using angle_induction with
  | last cs hcs =>
    have htext : cs ++ (t.text ++ rest) = cs ++ (tagStart ++ t.body) ++ '>' :: rest := by
      simp [Tag.text]
    have hopen : '>' ∉ cs ++ (tagStart ++ t.body) := by
      have hbody := t.not_mem_body
      simp [tagStart, hcs, hbody]
    rw [htext, bodies_append hopen, nodeBody_append hgap t.head_body]
    rfl
  | cut cs later hcs ih =>
    obtain ⟨hbefore, hafter⟩ := gap_cut hgap
    rw [List.append_assoc, List.cons_append, bodies_append hcs, nodeBody_of_gap hbefore, ih hafter]
    rfl

theorem bodies_text (l : Layout) : bodies l.text = l.tags.map (·.2.body) := by
  obtain ⟨tags, rest⟩ := l
  induction tags with
  | nil => exact bodies_gap rest.property
  | cons x tags ih =>
    have htext : Layout.text ⟨x :: tags, rest⟩ =
        x.1.val ++ (x.2.text ++ Layout.text ⟨tags, rest⟩) := by
      simp [Layout.text]
    rw [htext, bodies_gap_append x.1.property, ih, List.map_cons]

/-- Every list of elements can be written as a layout, and from every layout that may be written for
them the elements are read back, in the order of their tags. -/
theorem elementsOfLayout_text :
    (∀ es : List Element, ∃ l : Layout, l.elements = es) ∧
      ∀ l : Layout, elementsOfLayout (String.ofList l.text) = l.elements := by
  refine ⟨exists_layout, fun l => ?_⟩
  have hbodies : elementsOfLayout (String.ofList l.text) =
      (bodies l.text).map Element.ofAttributes := by
    rw [elementsOfLayout, String.toList_ofList]
    rfl
  rw [hbodies, bodies_text, List.map_map, Layout.elements]
  exact List.map_congr_left fun x _ => x.2.ofAttributes_body

/-- An element that holds another comes before it. -/
example : elementsOfLayout ("<node index=\"0\" text=\"a &#62; b\" clickable=\"true\">\n" ++
    "  <node bounds=\"[-1,0][20,5]\" content-desc=\"&quot;c&quot;\" />\n</node>") =
      [⟨"a > b", "", "", "", true, .zero⟩, ⟨"", "\"c\"", "", "", false, ⟨-1, 0, 20, 5⟩⟩] := by
  decide +kernel

end CheckIn.Screen
