import CheckIn.Screen.Hierarchy

/-! How a layout of the screen is written. Every element has a tag, in which its properties stand as
attributes among others, in any order; in their values some characters have to stand as references,
and any may. Around the tags there is any text in which no tag begins, such as the end tags of
elements that hold others. Nothing here tells how a layout is read. -/

namespace CheckIn.Screen

/-! ### Characters -/

/-- A digit of a base up to sixteen, and its value. Letters may be small or capital. -/
def Digit (base : Nat) (c : Char) (d : Nat) : Prop :=
  d < base ∧ (c = d.digitChar ∨ c = d.digitChar.toUpper)

/-- The digits of a number, the first of which may be zeros. -/
inductive Numeral (base : Nat) : List Char → Nat → Prop
  | one {c : Char} {d : Nat} : Digit base c d → Numeral base [c] d
  | more {cs : List Char} {c : Char} {n d : Nat} :
      Numeral base cs n → Digit base c d → Numeral base (cs ++ [c]) (base * n + d)

/-- The characters that do not stand for themselves in the value of an attribute. -/
def reserved : List Char := ['&', '<', '>', '"']

/-- The characters that have names. -/
def entityNames : List (List Char × Char) :=
  [("amp".toList, '&'), ("lt".toList, '<'), ("gt".toList, '>'), ("quot".toList, '"'),
    ("apos".toList, '\'')]

/-- What may stand for a character in the value of an attribute: itself, its name or its number. -/
inductive Spells : List Char → Char → Prop
  | raw {c : Char} : c ∉ reserved → Spells [c] c
  | named {name : List Char} {c : Char} :
      (name, c) ∈ entityNames → Spells ('&' :: name ++ [';']) c
  | decimal {digits : List Char} {c : Char} :
      Numeral 10 digits c.toNat → Spells ('&' :: '#' :: digits ++ [';']) c
  | hexadecimal {digits : List Char} {c : Char} :
      Numeral 16 digits c.toNat → Spells ('&' :: '#' :: 'x' :: digits ++ [';']) c

/-- What may stand for a text in the value of an attribute. -/
inductive SpellsText : List Char → List Char → Prop
  | nil : SpellsText [] []
  | cons {cs rest value : List Char} {c : Char} :
      Spells cs c → SpellsText rest value → SpellsText (cs ++ rest) (c :: value)

/-! ### Tags -/

/-- A blank of a tag. -/
def isSpace (c : Char) : Bool := c == ' ' || c == '\t' || c == '\n' || c == '\r'

/-- An attribute with the blanks before it and its value as written. -/
structure Attribute where
  space : List Char
  name : String
  value : String
  written : List Char
  space_ne_nil : space ≠ []
  spaced : ∀ c ∈ space, isSpace c = true
  name_ne_nil : name.toList ≠ []
  named : ∀ c ∈ name.toList, isAttributeName c = true
  spelled : SpellsText written value.toList

def Attribute.text (a : Attribute) : List Char :=
  a.space ++ a.name.toList ++ '=' :: '"' :: a.written ++ ['"']

/-- A coordinate in decimal. -/
def coordinateText (c : Int32) : List Char := (toString c.toInt).toList

/-- A rectangle by its corners. -/
def Rect.text (r : Rect) : List Char :=
  '[' :: coordinateText r.left ++ ',' :: coordinateText r.top ++ ']' ::
    '[' :: coordinateText r.right ++ ',' :: coordinateText r.bottom ++ [']']

/-- The properties of an element by the names of their attributes. -/
def Element.properties (e : Element) : List (String × String) :=
  [("text", e.text), ("content-desc", e.desc), ("resource-id", e.id), ("class", e.className),
    ("clickable", toString e.clickable), ("bounds", String.ofList e.bounds.text)]

/-- The names of the attributes that give properties. -/
def propertyNames : List String :=
  ["text", "content-desc", "resource-id", "class", "clickable", "bounds"]

def Attribute.IsProperty (a : Attribute) : Prop := a.name ∈ propertyNames

instance (a : Attribute) : Decidable a.IsProperty := inferInstanceAs (Decidable (_ ∈ _))

/-- The name of an attribute and the value that it gives. -/
def Attribute.property (a : Attribute) : String × String := (a.name, a.value)

/-- The tag of an element. Each property has its attribute; beside these there may be others. -/
structure Tag where
  element : Element
  attributes : List Attribute
  complete : ((attributes.filter (·.IsProperty)).map Attribute.property).Perm element.properties
  /-- The blanks after the attributes. -/
  space : List Char
  spaced : ∀ c ∈ space, isSpace c = true
  /-- Whether the tag is that of an element that holds no others and has no end tag. -/
  isClosed : Bool

/-- How every tag of an element begins. -/
def tagStart : List Char := ['<', 'n', 'o', 'd', 'e']

namespace Tag

/-- What stands between the attributes of a tag and its end. -/
def ending (t : Tag) : List Char := t.space ++ if t.isClosed then ['/'] else []

/-- What stands between the start of a tag and its end. -/
def body (t : Tag) : List Char := t.attributes.flatMap Attribute.text ++ t.ending

def text (t : Tag) : List Char := tagStart ++ t.body ++ ['>']

end Tag

/-- A text in which no tag of an element begins. -/
def Gap : Type := { cs : List Char // ¬tagStart <:+: cs }

/-- The end tag of an element that holds others belongs to a gap. -/
example : ¬tagStart <:+: ['<', '/', 'n', 'o', 'd', 'e', '>'] := by decide

/-- A layout: tags, each with the text before it, and the text after them. -/
structure Layout where
  tags : List (Gap × Tag)
  rest : Gap

namespace Layout

def text (l : Layout) : List Char :=
  l.tags.flatMap (fun x => x.1.val ++ x.2.text) ++ l.rest.val

/-- The elements in the order of their tags. -/
def elements (l : Layout) : List Element := l.tags.map (·.2.element)

end Layout

/-! ### Numbers and texts that can be written -/

theorem numeral_toDigits (n : Nat) : Numeral 10 (Nat.toDigits 10 n) n := by
  induction n using Nat.strongRecOn with
  | ind n ih =>
    by_cases hn : n < 10
    · rw [Nat.toDigits_of_lt_base hn]
      exact .one ⟨hn, .inl rfl⟩
    · have hlast : Digit 10 (n % 10).digitChar (n % 10) := ⟨Nat.mod_lt n (by decide), .inl rfl⟩
      have hmore := Numeral.more (ih (n / 10) (by omega)) hlast
      rw [Nat.toDigits_of_base_le (by decide) (by omega)]
      rwa [Nat.div_add_mod] at hmore

theorem numeral_repr (n : Nat) : Numeral 10 n.repr.toList n := by
  rw [Nat.repr_eq_ofList_toDigits, String.toList_ofList]
  exact numeral_toDigits n

/-- A coordinate is written as digits, after a sign if it is negative. -/
theorem coordinateText_cases (c : Int32) :
    (∃ n : Nat, c.toInt = n ∧ Numeral 10 (coordinateText c) n) ∨
      ∃ (n : Nat) (digits : List Char), c.toInt = -n ∧ coordinateText c = '-' :: digits ∧
        Numeral 10 digits n := by
  unfold coordinateText
  cases h : c.toInt with
  | ofNat n => exact .inl ⟨n, rfl, numeral_repr n⟩
  | negSucc n =>
    refine .inr ⟨n + 1, (n + 1).repr.toList, rfl, ?_, numeral_repr (n + 1)⟩
    show ("-" ++ (n + 1).repr).toList = _
    rw [String.toList_append]
    rfl

/-- Every character can be written. -/
theorem exists_spells (c : Char) : ∃ cs, Spells cs c := by
  by_cases hc : c ∈ reserved
  · simp only [reserved, List.mem_cons, List.not_mem_nil, or_false] at hc
    have hnamed : ∃ x ∈ entityNames, x.2 = c := by
      rcases hc with rfl | rfl | rfl | rfl <;> decide
    obtain ⟨⟨name, _⟩, hname, rfl⟩ := hnamed
    exact ⟨_, .named hname⟩
  · exact ⟨[c], .raw hc⟩

theorem exists_spellsText (value : List Char) : ∃ cs, SpellsText cs value := by
  induction value with
  | nil => exact ⟨[], .nil⟩
  | cons c value ih =>
    obtain ⟨cs, hc⟩ := exists_spells c
    obtain ⟨rest, hrest⟩ := ih
    exact ⟨cs ++ rest, .cons hc hrest⟩

theorem propertyNames_named {name : String} (h : name ∈ propertyNames) :
    name.toList ≠ [] ∧ ∀ c ∈ name.toList, isAttributeName c = true := by
  have hall : ∀ name ∈ propertyNames, name.toList ≠ [] ∧
      ∀ c ∈ name.toList, isAttributeName c = true := by
    simp [propertyNames, isAttributeName, Unicode.isWord, Unicode.isAsciiWord]
  exact hall name h

theorem exists_attributes {properties : List (String × String)}
    (h : ∀ p ∈ properties, p.1 ∈ propertyNames) :
    ∃ as : List Attribute, (∀ a ∈ as, a.IsProperty) ∧ as.map Attribute.property = properties := by
  induction properties with
  | nil => exact ⟨[], nofun, rfl⟩
  | cons p properties ih =>
    obtain ⟨hp, hrest⟩ := List.forall_mem_cons.mp h
    obtain ⟨as, has, hmap⟩ := ih hrest
    obtain ⟨written, hwritten⟩ := exists_spellsText p.2.toList
    obtain ⟨hne, hnamed⟩ := propertyNames_named hp
    have hspace : ∀ c ∈ [' '], isSpace c = true := List.forall_mem_singleton.mpr rfl
    let a : Attribute :=
      ⟨[' '], p.1, p.2, written, List.cons_ne_nil _ _, hspace, hne, hnamed, hwritten⟩
    exact ⟨a :: as, List.forall_mem_cons.mpr ⟨hp, has⟩, congrArg (p :: ·) hmap⟩

theorem exists_tag (e : Element) : ∃ t : Tag, t.element = e := by
  have hnames : ∀ p ∈ e.properties, p.1 ∈ propertyNames := by
    simp [Element.properties, propertyNames]
  obtain ⟨as, has, hmap⟩ := exists_attributes hnames
  have hcomplete : ((as.filter (·.IsProperty)).map Attribute.property).Perm e.properties := by
    rw [List.filter_eq_self.mpr (by simpa using has), hmap]
  exact ⟨⟨e, as, hcomplete, [], nofun, true⟩, rfl⟩

/-- Every list of elements has a layout. -/
theorem exists_layout (es : List Element) : ∃ l : Layout, l.elements = es := by
  let gap : Gap := ⟨[], by decide⟩
  induction es with
  | nil => exact ⟨⟨[], gap⟩, rfl⟩
  | cons e es ih =>
    obtain ⟨t, rfl⟩ := exists_tag e
    obtain ⟨l, rfl⟩ := ih
    exact ⟨⟨(gap, t) :: l.tags, l.rest⟩, rfl⟩

end CheckIn.Screen
