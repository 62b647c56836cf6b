/-!
# UTF-8

Text as bytes and back. Files hold bytes; their text is read strictly, and output of other programs
leniently.

* `encode` — the bytes of a text.
* `decode?` — the text of a well-formed byte sequence.
* `decodeLossy` — a text for every byte sequence: each maximal ill-formed part becomes one
  replacement character.
* `decode?_encode` — strict reading inverts writing.
-/

set_option autoImplicit false

namespace SwitchThermal.Text

/-- File contents and program output. -/
abbrev Bytes := List UInt8

/-- The UTF-8 bytes of a text. -/
def encode (s : String) : Bytes :=
  s.toUTF8.data.toList

/-- The text of a well-formed UTF-8 sequence. -/
def decode? (bs : Bytes) : Option String :=
  String.fromUTF8? ⟨bs.toArray⟩

theorem decode?_encode (s : String) : decode? (encode s) = some s := by
  have h : (⟨(encode s).toArray⟩ : ByteArray) = s.toUTF8 := by simp [encode]
  rw [decode?, h]
  simp only [String.fromUTF8?, String.toUTF8_eq_toByteArray, dif_pos s.isValidUTF8]
  rfl

/-- Is the byte in the range? -/
def inRange (b lo hi : UInt8) : Bool :=
  lo ≤ b && b ≤ hi

/-- Is the byte a continuation byte? -/
def isContinuation (b : UInt8) : Bool :=
  inRange b 0x80 0xBF

/-- The second bytes that may follow a first byte, and how many bytes follow it; the narrowed ranges
keep out overlong forms, surrogates and code points past the last one. -/
def sequenceShape (b : UInt8) : Option (UInt8 × UInt8 × Nat) :=
  if inRange b 0xC2 0xDF then some (0x80, 0xBF, 1)
  else if b = 0xE0 then some (0xA0, 0xBF, 2)
  else if b = 0xED then some (0x80, 0x9F, 2)
  else if inRange b 0xE1 0xEF then some (0x80, 0xBF, 2)
  else if b = 0xF0 then some (0x90, 0xBF, 3)
  else if inRange b 0xF1 0xF3 then some (0x80, 0xBF, 3)
  else if b = 0xF4 then some (0x80, 0x8F, 3)
  else none

/-- The bits that the first byte of a sequence contributes. -/
def leadBits (b : UInt8) (following : Nat) : Nat :=
  match following with
  | 1 => b.toNat % 0x20
  | 2 => b.toNat % 0x10
  | _ => b.toNat % 0x08

/-- The continuation bytes of a sequence: the prefix of `rest` that the shape admits. -/
def continuation (lo hi : UInt8) (following : Nat) (rest : Bytes) : Bytes :=
  match rest with
  | [] => []
  | c :: r =>
    if inRange c lo hi then c :: (r.take (following - 1)).takeWhile isContinuation else []

/-- The replacement character. -/
def replacement : Char := '\uFFFD'

/-- The character at the head of a byte sequence, and how many bytes after the first it takes. -/
def headChar (b : UInt8) (rest : Bytes) : Char × Nat :=
  if b < 0x80 then (Char.ofNat b.toNat, 0)
  else
    match sequenceShape b with
    | none => (replacement, 0)
    | some (lo, hi, following) =>
      let tail := continuation lo hi following rest
      if tail.length = following then
        (Char.ofNat (tail.foldl (fun n c => 0x40 * n + c.toNat % 0x40) (leadBits b following)),
          following)
      else (replacement, tail.length)

/-- Every byte sequence as characters; a maximal ill-formed part becomes one replacement
character. -/
def decodeLossyChars : Bytes → List Char
  | [] => []
  | b :: rest => (headChar b rest).1 :: decodeLossyChars (rest.drop (headChar b rest).2)
termination_by bs => bs.length
decreasing_by
  simp only [List.length_drop, List.length_cons]
  omega

/-- Every byte sequence as a text. -/
def decodeLossy (bs : Bytes) : String :=
  String.ofList (decodeLossyChars bs)

end SwitchThermal.Text
