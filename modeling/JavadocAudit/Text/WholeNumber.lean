import JavadocAudit.Text.Blank
import JavadocAudit.Text.Numeral

/-!
# Whole numbers in text

A whole number is written with an optional sign and decimal digits of any script, with single
underscores between digits, and blanks around it, among which the separators of information do not
count.  A number of more than 4300 digits is refused.
-/

namespace JavadocAudit.Text

/-! ### Digits of a base -/

/-- `c` is a hexadecimal digit. -/
def isHex (c : Char) : Bool := c.isDigit || ('a' ≤ c && c ≤ 'f') || ('A' ≤ c && c ≤ 'F')

/-- The value of a hexadecimal digit. -/
def digitValue (c : Char) : Nat :=
  if c.isDigit then c.toNat - '0'.toNat
  else if 'a' ≤ c then c.toNat - 'a'.toNat + 10
  else c.toNat - 'A'.toNat + 10

/-- The number that digits spell in a base. -/
def inBase (base : Nat) (digits : List Char) : Nat :=
  digits.foldl (fun n c => n * base + digitValue c) 0

/-! ### Decimal digits of any script -/

/-- `c` separates units of information: a control character that counts as blank elsewhere. -/
def isInformationSeparator (c : Char) : Bool := 0x1C ≤ c.toNat && c.toNat ≤ 0x1F

/-- `c` may stand around a number. -/
def isNumberBlank (c : Char) : Bool := isBlank c && !isInformationSeparator c

/-- The text without the blanks at its ends. -/
def trimBlanks (s : List Char) : List Char :=
  ((s.dropWhile isNumberBlank).reverse.dropWhile isNumberBlank).reverse

/-- The longest number, in digits, that is read. -/
def digitLimit : Nat := 4300

/-- The values of digits with single underscores between them. -/
def digitValues? : List Char → Option (List Nat)
  | [] => none
  | [c] => (decimalValue? c).map ([·])
  | c :: '_' :: d :: rest =>
    match decimalValue? c, digitValues? (d :: rest) with
    | some v, some vs => some (v :: vs)
    | _, _ => none
  | c :: rest =>
    match decimalValue? c, digitValues? rest with
    | some v, some vs => some (v :: vs)
    | _, _ => none

/-- The number written by digits, most significant first. -/
def ofDigits (digits : List Nat) : Nat := digits.foldl (fun n d => n * 10 + d) 0

/-- The natural number that is written without sign or blanks. -/
def naturalOf? (s : List Char) : Option Nat :=
  match digitValues? s with
  | some digits => if digits.length ≤ digitLimit then some (ofDigits digits) else none
  | none => none

/-- The whole number that a text spells. -/
def wholeNumber? (s : String) : Option Int :=
  match trimBlanks s.toList with
  | '-' :: rest => (naturalOf? rest).map fun n => -(n : Int)
  | '+' :: rest => (naturalOf? rest).map Int.ofNat
  | rest => (naturalOf? rest).map Int.ofNat

end JavadocAudit.Text
