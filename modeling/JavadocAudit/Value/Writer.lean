import JavadocAudit.Value.Basic

/-!
# Writing values

The text form of a value without blanks.  Characters outside printable ASCII are written as escapes by
number, a character beyond the basic plane as a pair of them.
-/

namespace JavadocAudit.Value

/-- Four hexadecimal digits of a code unit. -/
def unitDigits (n : Nat) : String :=
  let digits := String.ofList (Nat.toDigits 16 n)
  "".pushn '0' (4 - digits.length) ++ digits

/-- A character inside a text. -/
def writeChar (c : Char) : String :=
  if c == '"' then "\\\""
  else if c == '\\' then "\\\\"
  else if 0x20 ≤ c.toNat && c.toNat < 0x7f then c.toString
  else if c.toNat < 0x10000 then "\\u" ++ unitDigits c.toNat
  else
    let n := c.toNat - 0x10000
    "\\u" ++ unitDigits (0xD800 + n / 0x400) ++ "\\u" ++ unitDigits (0xDC00 + n % 0x400)

/-- A text in quotes. -/
def writeText (s : String) : String :=
  "\"" ++ s.foldl (fun acc c => acc ++ writeChar c) "" ++ "\""

mutual

/-- The text form of a value. -/
def write : Value → String
  | .null => "null"
  | .bool true => "true"
  | .bool false => "false"
  | .int n => toString n
  | .float x => toString x
  | .text s => writeText s
  | .list items => "[" ++ writeItems items ++ "]"
  | .object fields => "\x7b" ++ writeFields fields ++ "\x7d"

/-- The items of a list, with commas between them. -/
def writeItems : List Value → String
  | [] => ""
  | [item] => write item
  | item :: rest => write item ++ "," ++ writeItems rest

/-- The fields of an object, with commas between them. -/
def writeFields : List (String × Value) → String
  | [] => ""
  | [(name, value)] => writeText name ++ ":" ++ write value
  | (name, value) :: rest => writeText name ++ ":" ++ write value ++ "," ++ writeFields rest

end

end JavadocAudit.Value
