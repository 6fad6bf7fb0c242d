/-! Bytes as text. A byte sequence splits into characters and into stretches that belong to none:
such a stretch is as long as possible and begins a character, or is a single byte. -/

namespace CheckIn.Text.Utf8

/-- A character that has begun: the bits read, how many bytes are to come, and the bounds of the
next one. -/
structure Pending where
  bits : Nat
  owed : Nat
  least : UInt8
  greatest : UInt8

/-- What a byte is that does not go on with a character. -/
inductive Lead where
  | whole (c : Char)
  | begins (pending : Pending)
  | stray

def lead (b : UInt8) : Lead :=
  let bits := b.toNat
  if b < 0x80 then .whole (Char.ofNat bits)
  else if b < 0xC2 then .stray
  else if b < 0xE0 then .begins ⟨bits - 0xC0, 1, 0x80, 0xBF⟩
  else if b = 0xE0 then .begins ⟨0, 2, 0xA0, 0xBF⟩
  else if b = 0xED then .begins ⟨0xD, 2, 0x80, 0x9F⟩
  else if b < 0xF0 then .begins ⟨bits - 0xE0, 2, 0x80, 0xBF⟩
  else if b = 0xF0 then .begins ⟨0, 3, 0x90, 0xBF⟩
  else if b < 0xF4 then .begins ⟨bits - 0xF0, 3, 0x80, 0xBF⟩
  else if b = 0xF4 then .begins ⟨4, 3, 0x80, 0x8F⟩
  else .stray

/-- The pieces of a byte sequence, each a character or nothing for a stretch that belongs to
none. -/
def pieces : Option Pending → List UInt8 → List (Option Char)
  | none, [] => []
  | some _, [] => [none]
  | pending, b :: rest =>
    match pending.filter fun p => p.least ≤ b && b ≤ p.greatest with
    | some p =>
      let bits := p.bits * 64 + (b.toNat - 0x80)
      if p.owed = 1 then some (Char.ofNat bits) :: pieces none rest
      else pieces (some ⟨bits, p.owed - 1, 0x80, 0xBF⟩) rest
    | none =>
      let broken := if pending.isSome then [none] else []
      match lead b with
      | .whole c => broken ++ some c :: pieces none rest
      | .begins p => broken ++ pieces (some p) rest
      | .stray => broken ++ none :: pieces none rest

/-- The text of a byte sequence, with U+FFFD for what is no character. -/
def lossy (bytes : List UInt8) : String :=
  String.ofList ((pieces none bytes).map (·.getD '\uFFFD'))

/-- The text of a byte sequence, if all of it is characters. -/
def decode? (bytes : List UInt8) : Option String :=
  ((pieces none bytes).mapM id).map String.ofList

def encode (s : String) : List UInt8 := s.toUTF8.toList

end CheckIn.Text.Utf8
