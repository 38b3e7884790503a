import JavadocAudit.Value.Basic

/-!
# Reading values

The text form of values is that of JSON, with `NaN`, `Infinity` and `-Infinity` as numbers.  Reading
fails with the offset, in characters, at which it stops: the place where a value, a name, a colon or a
comma was expected, the first character after a complete value, the opening quote of a text that does
not end, or the character or escape inside a text that is not allowed there.
-/

namespace JavadocAudit.Value

/-- A place in a text: what is left of it, and how many characters stand before. -/
structure Cursor where
  rest : List Char
  offset : Nat

namespace Cursor

/-- The place after `n` characters. -/
def skip (cur : Cursor) (n : Nat) : Cursor := ⟨cur.rest.drop n, cur.offset + n⟩

/-- The blanks between the parts of a value. -/
def isGap (c : Char) : Bool := c == ' ' || c == '\t' || c == '\n' || c == '\r'

/-- The place after the blanks. -/
def skipGap (cur : Cursor) : Cursor := cur.skip (cur.rest.takeWhile isGap).length

/-- The text continues with `word`. -/
def startsWith (cur : Cursor) (word : String) : Bool := word.toList.isPrefixOf cur.rest

end Cursor

/-- Reading a part of a text: the part and the place after it, or the offset of the failure. -/
abbrev Read (α : Type) := Except Nat (α × Cursor)

/-- The value of a hexadecimal digit. -/
def hexValue? (c : Char) : Option Nat :=
  if c.isDigit then some (c.toNat - '0'.toNat)
  else if 'a' ≤ c && c ≤ 'f' then some (c.toNat - 'a'.toNat + 10)
  else if 'A' ≤ c && c ≤ 'F' then some (c.toNat - 'A'.toNat + 10)
  else none

/-- The value of exactly four hexadecimal digits. -/
def hexFour? (digits : List Char) : Option Nat :=
  if digits.length = 4 then
    digits.foldl (fun n? c => n?.bind fun n => (hexValue? c).map (n * 16 + ·)) (some 0)
  else none

/-- `n` is the first half of a pair that encodes one character. -/
def isHighHalf (n : Nat) : Bool := 0xD800 ≤ n && n ≤ 0xDBFF

/-- `n` is the second half of a pair that encodes one character. -/
def isLowHalf (n : Nat) : Bool := 0xDC00 ≤ n && n ≤ 0xDFFF

/-- The character of a code unit; the replacement character stands for half a pair. -/
def unitChar (n : Nat) : Char :=
  if isHighHalf n || isLowHalf n then Char.ofNat 0xFFFD else Char.ofNat n

/-- The character that a letter after a backslash stands for. -/
def shortEscape? (c : Char) : Option Char :=
  if c == '"' || c == '\\' || c == '/' then some c
  else if c == 'b' then some '\x08'
  else if c == 'f' then some '\x0c'
  else if c == 'n' then some '\n'
  else if c == 'r' then some '\r'
  else if c == 't' then some '\t'
  else none

/-- An escape by number, after its letter `u`: the character and the number of characters read. -/
def numberEscape (cur : Cursor) : Except Nat (Char × Nat) :=
  if (cur.rest.drop 4).isEmpty then .error (cur.offset - 1)
  else
    match hexFour? (cur.rest.take 4) with
    | none => .error (cur.offset - 1)
    | some high =>
      let second := cur.skip 4
      if isHighHalf high && !(second.rest.drop 6).isEmpty && second.startsWith "\\u" then
        match hexFour? ((second.rest.drop 2).take 4) with
        | none => .error (second.offset + 1)
        | some low =>
          if isLowHalf low then
            .ok (Char.ofNat (0x10000 + (high - 0xD800) * 0x400 + (low - 0xDC00)), 10)
          else .ok (unitChar high, 4)
      else .ok (unitChar high, 4)

/-- The rest of a text whose quote stands at the offset `start`. -/
def readTextFrom (start : Nat) : Nat → Cursor → List Char → Read String
  | 0, _, _ => .error start
  | fuel + 1, cur, done =>
    match cur.rest with
    | [] => .error start
    | '"' :: _ => .ok (String.ofList done.reverse, cur.skip 1)
    | ['\\'] => .error start
    | '\\' :: 'u' :: _ =>
      match numberEscape (cur.skip 2) with
      | .error offset => .error offset
      | .ok (c, length) => readTextFrom start fuel (cur.skip (2 + length)) (c :: done)
    | '\\' :: c :: _ =>
      match shortEscape? c with
      | some d => readTextFrom start fuel (cur.skip 2) (d :: done)
      | none => .error cur.offset
    | c :: _ =>
      if c.toNat ≤ 0x1f then .error cur.offset
      else readTextFrom start fuel (cur.skip 1) (c :: done)

/-- A text, from its opening quote on. -/
def readText (fuel : Nat) (cur : Cursor) : Read String :=
  readTextFrom cur.offset fuel (cur.skip 1) []

/-- The parts of a number: sign, digits before the point, digits after it, exponent. -/
structure Numeral where
  negative : Bool
  whole : List Char
  fraction : List Char
  exponent : Option Int
  length : Nat

/-- The number that decimal digits spell. -/
def decimal (digits : List Char) : Nat :=
  digits.foldl (fun n c => n * 10 + (c.toNat - '0'.toNat)) 0

/-- The exponent at the front, with its length. -/
def exponent? (s : List Char) : Option (Int × Nat) :=
  match s with
  | e :: rest =>
    if e == 'e' || e == 'E' then
      let (negative, signed, digits) := match rest with
        | '-' :: more => (true, 1, more.takeWhile Char.isDigit)
        | '+' :: more => (false, 1, more.takeWhile Char.isDigit)
        | _ => (false, 0, rest.takeWhile Char.isDigit)
      if digits.isEmpty then none
      else
        let n : Int := decimal digits
        some (if negative then -n else n, 1 + signed + digits.length)
    else none
  | [] => none

/-- The number at the front of a text. -/
def numeral? (s : List Char) : Option Numeral :=
  let (negative, unsigned) := match s with
    | '-' :: rest => (true, rest)
    | _ => (false, s)
  let whole := match unsigned with
    | '0' :: _ => ['0']
    | _ => unsigned.takeWhile Char.isDigit
  if whole.isEmpty then none
  else
    let afterWhole := unsigned.drop whole.length
    let fraction := match afterWhole with
      | '.' :: rest => rest.takeWhile Char.isDigit
      | _ => []
    let fractionLength := if fraction.isEmpty then 0 else fraction.length + 1
    let signLength := if negative then 1 else 0
    let length := signLength + whole.length + fractionLength
    match exponent? (afterWhole.drop fractionLength) with
    | some (e, exponentLength) =>
      some ⟨negative, whole, fraction, some e, length + exponentLength⟩
    | none => some ⟨negative, whole, fraction, none, length⟩

/-- The floating point number `mantissa · 10 ^ exponent`; magnitudes out of range go to zero or to
infinity. -/
def scientific (mantissa : Nat) (exponent : Int) : Float :=
  let magnitude := (Nat.toDigits 10 mantissa).length + exponent
  if mantissa = 0 || magnitude < -400 then 0.0
  else if magnitude > 400 then 1.0 / 0.0
  else if exponent < 0 then Float.ofScientific mantissa true (-exponent).toNat
  else Float.ofScientific mantissa false exponent.toNat

/-- The value of a number. -/
def Numeral.value (n : Numeral) : Value :=
  if n.fraction.isEmpty && n.exponent.isNone then
    let magnitude : Int := decimal n.whole
    .int (if n.negative then -magnitude else magnitude)
  else
    let x := scientific (decimal (n.whole ++ n.fraction))
      (n.exponent.getD 0 - n.fraction.length)
    .float (if n.negative then -x else x)

/-- A value of one word or a number. -/
def readSimple (cur : Cursor) : Read Value :=
  if cur.startsWith "null" then .ok (.null, cur.skip 4)
  else if cur.startsWith "true" then .ok (.bool true, cur.skip 4)
  else if cur.startsWith "false" then .ok (.bool false, cur.skip 5)
  else if cur.startsWith "NaN" then .ok (.float (0.0 / 0.0), cur.skip 3)
  else if cur.startsWith "Infinity" then .ok (.float (1.0 / 0.0), cur.skip 8)
  else if cur.startsWith "-Infinity" then .ok (.float (-1.0 / 0.0), cur.skip 9)
  else
    match numeral? cur.rest with
    | some n => .ok (n.value, cur.skip n.length)
    | none => .error cur.offset

/-- The object with `value` for `name`, in the place of an earlier value for that name. -/
def putField (name : String) (value : Value) : List (String × Value) → List (String × Value)
  | [] => [(name, value)]
  | (key, old) :: rest =>
    if key == name then (name, value) :: rest else (key, old) :: putField name value rest

mutual

/-- A value at the cursor. -/
def readValue : Nat → Cursor → Read Value
  | 0, cur => .error cur.offset
  | fuel + 1, cur =>
    match cur.rest with
    | '"' :: _ =>
      match readText fuel cur with
      | .error offset => .error offset
      | .ok (s, after) => .ok (.text s, after)
    | '[' :: _ =>
      let inside := (cur.skip 1).skipGap
      match inside.rest with
      | ']' :: _ => .ok (.list [], inside.skip 1)
      | _ => readItems fuel inside []
    | '\x7b' :: _ =>
      let inside := (cur.skip 1).skipGap
      match inside.rest with
      | '\x7d' :: _ => .ok (.object [], inside.skip 1)
      | _ => readFields fuel inside []
    | _ => readSimple cur

/-- The items of a list that are left, up to the closing bracket. -/
def readItems : Nat → Cursor → List Value → Read Value
  | 0, cur, _ => .error cur.offset
  | fuel + 1, cur, done =>
    match readValue fuel cur with
    | .error offset => .error offset
    | .ok (item, after) =>
      let next := after.skipGap
      match next.rest with
      | ']' :: _ => .ok (.list (item :: done).reverse, next.skip 1)
      | ',' :: _ => readItems fuel (next.skip 1).skipGap (item :: done)
      | _ => .error next.offset

/-- The fields of an object that are left, up to the closing brace. -/
def readFields : Nat → Cursor → List (String × Value) → Read Value
  | 0, cur, _ => .error cur.offset
  | fuel + 1, cur, done =>
    match cur.rest with
    | '"' :: _ =>
      match readText fuel cur with
      | .error offset => .error offset
      | .ok (name, afterName) =>
        let colon := afterName.skipGap
        match colon.rest with
        | ':' :: _ =>
          match readValue fuel (colon.skip 1).skipGap with
          | .error offset => .error offset
          | .ok (value, after) =>
            let next := after.skipGap
            let fields := putField name value done
            match next.rest with
            | '\x7d' :: _ => .ok (.object fields, next.skip 1)
            | ',' :: _ => readFields fuel (next.skip 1).skipGap fields
            | _ => .error next.offset
        | _ => .error colon.offset
    | _ => .error cur.offset

end

/-- The value that a whole text spells, or the offset at which reading stops. -/
def read (s : String) : Except Nat Value :=
  let chars := s.toList
  match readValue (chars.length + 2) (Cursor.mk chars 0).skipGap with
  | .error offset => .error offset
  | .ok (value, after) =>
    let final := after.skipGap
    if final.rest.isEmpty then .ok value else .error final.offset

end JavadocAudit.Value
