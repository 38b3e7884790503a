import JavadocAudit.Text.Affix
import JavadocAudit.Text.CharRange
import JavadocAudit.Text.WholeNumber

/-!
# Names of characters

Every character of Unicode 14 can be called by a name.  Most names are listed by the standard, some
characters under several of them, and are looked up in small or capital letters.  The list has over thirty
thousand entries and is no matter of this library, so it is a parameter (`NameTable`).  The syllables of
Hangul and the unified ideographs are not listed: their names follow two rules, in capital letters only.
-/

namespace JavadocAudit.Text

/-- The names that the standard lists, in capital letters, each with the code point of its character.
Names of sequences of characters are not among them. -/
abbrev NameTable := List (String × Nat)

/-! ### Syllables -/

/-- What the names of the consonants add to a syllable that begins with them, in order. -/
def leadingNames : List String :=
  ["G", "GG", "N", "D", "DD", "R", "M", "B", "BB", "S", "SS", "", "J", "JJ", "C", "K", "T", "P", "H"]

/-- What the names of the vowels add to a syllable, in order. -/
def vowelNames : List String :=
  ["A", "AE", "YA", "YAE", "EO", "E", "YEO", "YE", "O", "WA", "WAE", "OE", "YO", "U", "WEO", "WE", "WI",
    "YU", "EU", "YI", "I"]

/-- What the names of the consonants add to a syllable that ends with them, in order; the first one stands
for none. -/
def trailingNames : List String :=
  ["", "G", "GG", "GS", "N", "NJ", "NH", "D", "L", "LG", "LM", "LB", "LS", "LT", "LP", "LH", "M", "B",
    "BS", "S", "SS", "NG", "J", "C", "K", "T", "P", "H"]

/-- The number of the longest part that a text begins with, and what follows it. -/
def longestPart? (parts : List String) (s : List Char) : Option (Nat × List Char) :=
  let longest := parts.zipIdx.foldl (fun best part =>
    if part.1.toList.isPrefixOf s && best.all (·.1.length < part.1.length) then some part else best) none
  longest.map fun (part, index) => (index, s.drop part.length)

/-- The code point of the syllable with a name; each part of the name is as long as it can be. -/
def syllable? (s : List Char) : Option Nat := do
  let (leading, s) ← longestPart? leadingNames s
  let (vowel, s) ← longestPart? vowelNames s
  let (trailing, s) ← longestPart? trailingNames s
  if s.isEmpty then
    some (0xAC00 + (leading * vowelNames.length + vowel) * trailingNames.length + trailing)
  else none

/-! ### Ideographs -/

/-- The unified ideographs. -/
def ideographRanges : List (Nat × Nat) :=
  [(0x3400, 0x4DBF), (0x4E00, 0x9FFF), (0x20000, 0x2A6DF), (0x2A700, 0x2B738), (0x2B740, 0x2B81D),
   (0x2B820, 0x2CEA1), (0x2CEB0, 0x2EBE0), (0x30000, 0x3134A)]

/-- The unified ideograph whose code point is written with four or five digits. -/
def ideograph? (digits : List Char) : Option Nat :=
  let code := inBase 16 digits
  if (digits.length == 4 || digits.length == 5) && digits.all (fun c => isHex c && c.toUpper == c) &&
      inRanges ideographRanges code then some code
  else none

/-! ### Look-up -/

/-- How the names of syllables begin. -/
def syllableOpening : String := "HANGUL SYLLABLE "

/-- How the names of unified ideographs begin. -/
def ideographOpening : String := "CJK UNIFIED IDEOGRAPH-"

/-- The code point of the character with a name. -/
def codeOfName? (names : NameTable) (name : String) : Option Nat :=
  if opensWith syllableOpening name then syllable? (name.toList.drop syllableOpening.length)
  else if opensWith ideographOpening name then ideograph? (name.toList.drop ideographOpening.length)
  else names.lookup (name.map Char.toUpper)

end JavadocAudit.Text
