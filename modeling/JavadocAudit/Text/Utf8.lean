/-!
# UTF-8

A byte sequence is read as a list of *glyphs*: the characters that are encoded correctly, and the
stray bytes that belong to none.  Where text is wanted all the same (`lossyText`), each maximal run
of stray bytes that begins a character but does not finish it, and each other stray byte, becomes one
replacement character.
-/

namespace JavadocAudit.Text

/-- A unit of a byte sequence: an encoded character, or a byte that belongs to none. -/
inductive Glyph where
  | char (c : Char)
  | stray (b : UInt8)
  deriving DecidableEq, Inhabited

/-- The number of bytes of a glyph. -/
def Glyph.width : Glyph → Nat
  | .char c => c.utf8Size
  | .stray _ => 1

/-- The glyph is the character `c`. -/
def Glyph.is (c : Char) : Glyph → Bool
  | .char d => d == c
  | .stray _ => false

/-- The glyph is a character of the class `p`. -/
def Glyph.isIn (p : Char → Bool) : Glyph → Bool
  | .char c => p c
  | .stray _ => false

/-- The number of bytes that a first byte announces, and the range of the second byte; `none` if no
character begins with the byte. -/
def leadByte (b : Nat) : Option (Nat × Nat × Nat) :=
  if b < 0x80 then some (1, 0, 0)
  else if b < 0xC2 then none
  else if b < 0xE0 then some (2, 0x80, 0xBF)
  else if b = 0xE0 then some (3, 0xA0, 0xBF)
  else if b = 0xED then some (3, 0x80, 0x9F)
  else if b < 0xF0 then some (3, 0x80, 0xBF)
  else if b = 0xF0 then some (4, 0x90, 0xBF)
  else if b < 0xF4 then some (4, 0x80, 0xBF)
  else if b = 0xF4 then some (4, 0x80, 0x8F)
  else none

/-- `b` continues a character. -/
def isTailByte (b : UInt8) : Bool := 0x80 ≤ b.toNat && b.toNat ≤ 0xBF

/-- The number of bytes at the front that belong to a character begun by `b`, finished or not. -/
def matchedBytes (b : UInt8) (rest : List UInt8) : Nat :=
  match leadByte b.toNat with
  | none => 1
  | some (size, low, high) =>
    match rest with
    | second :: more =>
      if size ≤ 1 then 1
      else if low ≤ second.toNat && second.toNat ≤ high then
        2 + ((more.take (size - 2)).takeWhile isTailByte).length
      else 1
    | [] => 1

/-- The six low bits of a continuing byte are added to the value so far. -/
def addTail (value : Nat) (b : UInt8) : Nat := value * 64 + b.toNat % 64

/-- The character at the front, with its number of bytes. -/
def frontChar? (b : UInt8) (rest : List UInt8) : Option (Char × Nat) :=
  match leadByte b.toNat with
  | none => none
  | some (size, _, _) =>
    if matchedBytes b rest = size then
      let lead := match size with
        | 1 => b.toNat
        | 2 => b.toNat % 32
        | 3 => b.toNat % 16
        | _ => b.toNat % 8
      some (Char.ofNat ((rest.take (size - 1)).foldl addTail lead), size)
    else none

/-- The glyphs of a byte sequence, after `skip` bytes that belong to a glyph already read. -/
def glyphsAfter : Nat → List UInt8 → List Glyph
  | _, [] => []
  | skip + 1, _ :: rest => glyphsAfter skip rest
  | 0, b :: rest =>
    match frontChar? b rest with
    | some (c, size) => .char c :: glyphsAfter (size - 1) rest
    | none => .stray b :: glyphsAfter 0 rest

/-- The glyphs of a byte sequence. -/
def glyphs (bytes : List UInt8) : List Glyph := glyphsAfter 0 bytes

/-- The stray bytes at the front of a list of glyphs. -/
def leadingStrays : List Glyph → List UInt8
  | .stray b :: rest => b :: leadingStrays rest
  | _ => []

/-- The text of glyphs, after `skip` stray bytes that a replacement character stands for already. -/
def lossyAfter : Nat → List Glyph → List Char
  | _, [] => []
  | _, .char c :: rest => c :: lossyAfter 0 rest
  | skip + 1, .stray _ :: rest => lossyAfter skip rest
  | 0, .stray b :: rest =>
    Char.ofNat 0xFFFD :: lossyAfter (matchedBytes b (leadingStrays rest) - 1) rest

/-- The text of glyphs, with replacement characters for stray bytes. -/
def lossyText (gs : List Glyph) : String := String.ofList (lossyAfter 0 gs)

end JavadocAudit.Text
