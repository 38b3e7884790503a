import JavadocAudit.Text.Printable
import JavadocAudit.Text.Affix

/-!
# Quoted text

Messages show foreign text in quotes.  The quote is the apostrophe, unless the text holds an
apostrophe and no double quote.  The quote itself and the backslash get a backslash, line feed,
carriage return and tab their letters, and every other character that is not printable its code point
in two, four or eight hexadecimal digits.
-/

namespace JavadocAudit.Text

/-- The lower case hexadecimal digits of `n`, at least `width` of them. -/
def hexDigits (width n : Nat) : String :=
  let digits := String.ofList (Nat.toDigits 16 n)
  "".pushn '0' (width - digits.length) ++ digits

/-- A character inside a text quoted by `quote`. -/
def quoteChar (quote c : Char) : String :=
  if c == quote || c == '\\' then "\\" ++ c.toString
  else if c == '\n' then "\\n"
  else if c == '\r' then "\\r"
  else if c == '\t' then "\\t"
  else if isPrintable c then c.toString
  else if c.toNat < 0x100 then "\\x" ++ hexDigits 2 c.toNat
  else if c.toNat < 0x10000 then "\\u" ++ hexDigits 4 c.toNat
  else "\\U" ++ hexDigits 8 c.toNat

/-- The quote that suits a text. -/
def quoteFor (s : String) : Char :=
  if holds '\'' s && !holds '"' s then '"' else '\''

/-- The text in quotes. -/
def quoted (s : String) : String :=
  let quote := quoteFor s
  quote.toString ++ String.join (s.toList.map (quoteChar quote)) ++ quote.toString

end JavadocAudit.Text
