/-! Parts of texts around markers. -/

namespace CheckIn.Text

/-- What follows the first place where `marker` stands, and what precedes it. -/
def splitAtFirst (marker : List Char) : List Char → Option (List Char × List Char)
  | [] => if marker.isEmpty then some ([], []) else none
  | c :: rest =>
    if marker.isPrefixOf (c :: rest) then some ([], (c :: rest).drop marker.length)
    else (splitAtFirst marker rest).map fun (before, after) => (c :: before, after)

/-- What follows the last place where `marker` stands. -/
def afterLast (marker : List Char) : List Char → Option (List Char)
  | [] => none
  | c :: rest =>
    (afterLast marker rest).or
      (if marker.isPrefixOf (c :: rest) then some ((c :: rest).drop marker.length) else none)

/-- Puts `new` in place of `marker` wherever it stands, from the left. The first `skip` characters
belong to a marker that has been replaced. -/
def replace (marker new : List Char) : (skip : Nat) → List Char → List Char
  | _, [] => []
  | skip + 1, _ :: rest => replace marker new skip rest
  | 0, c :: rest =>
    if marker.isPrefixOf (c :: rest) then new ++ replace marker new (marker.length - 1) rest
    else c :: replace marker new 0 rest

/-- Whether `part` stands somewhere in a text. -/
def contains (part : List Char) : List Char → Bool
  | [] => part.isEmpty
  | c :: rest => part.isPrefixOf (c :: rest) || contains part rest

theorem contains_iff {part cs : List Char} : contains part cs = true ↔ part <:+: cs := by
  induction cs with
  | nil => simp [contains]
  | cons c cs ih =>
    rw [contains, Bool.or_eq_true, ih, List.isPrefixOf_iff_prefix, List.infix_cons_iff]

/-- The stretches of a text between the characters that satisfy `p`. -/
def splitOn (p : Char → Bool) : List Char → List (List Char)
  | [] => [[]]
  | c :: rest =>
    match p c, splitOn p rest with
    | true, parts => [] :: parts
    | false, part :: parts => (c :: part) :: parts
    | false, [] => [[c]]

/-- The lines of a text, without their ends; an end is `\n` or `\r\n`, and the last line has none if
the text is empty or ends in one. -/
def lines (cs : List Char) : List (List Char) :=
  let dropReturn := fun (line : List Char) =>
    if line.getLast? == some '\r' then line.dropLast else line
  match (splitOn (· == '\n') cs).reverse with
  | [] => []
  | last :: ended =>
    (ended.map dropReturn).reverse ++ if last.isEmpty then [] else [last]

end CheckIn.Text
