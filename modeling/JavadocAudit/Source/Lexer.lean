import JavadocAudit.Source.Token
import JavadocAudit.Text.Identifier

/-!
# Reading tokens

The next token is the longest one at the place.  Every `>` is a token of its own, unless an equals sign
follows it, since a row of them closes type arguments as well as it shifts; the grammar joins those that
are glued.  A string with embedded expressions is cut into parts at the expressions: `pending` holds,
for each such string that is open, whether it is a text block and how many braces are open inside the
expression.

Where no token can begin, or one begins and does not end, a `stray` token ends the row.
-/

namespace JavadocAudit.Lexer

open Text

/-! ### Blanks and comments -/

/-- A blank between tokens. -/
def isSpace (c : Char) : Bool := c == ' ' || (9 ≤ c.toNat && c.toNat ≤ 13)

/-- A glyph that texts and comments may hold. -/
def isContent : Glyph → Bool
  | .char c => c.toNat != 0
  | .stray _ => true

/-- The number of glyphs up to and including the end of a block comment, after its opening. -/
def blockEnd? : List Glyph → Option Nat
  | [] => none
  | [_] => none
  | g :: h :: rest =>
    if g.is '*' && h.is '/' then some 2
    else if isContent g then (blockEnd? (h :: rest)).map (· + 1)
    else none

/-- The kind and the number of glyphs of the comment at the front. -/
def commentAt? : List Glyph → Option (Kind × Nat)
  | g :: h :: rest =>
    if g.is '/' && h.is '/' then
      some (.lineComment, 2 + (rest.takeWhile fun x => isContent x && !x.is '\n').length)
    else if g.is '/' && h.is '*' then (blockEnd? rest).map fun n => (.blockComment, n + 2)
    else none
  | _ => none

/-! ### Numbers -/

/-- The number of glyphs of digits in the class `p` with underscores between them, single ones unless
`wide`; `pending` underscores follow the last digit read, if one was. -/
def digitRun (p : Char → Bool) (wide : Bool) : Nat → Bool → List Glyph → Nat
  | _, _, [] => 0
  | pending, started, g :: rest =>
    if g.isIn p then pending + 1 + digitRun p wide 0 true rest
    else if g.is '_' && started && (wide || pending == 0) then
      digitRun p wide (pending + 1) started rest
    else 0

/-- `c` is a hexadecimal digit. -/
def isHexDigit (c : Char) : Bool :=
  c.isDigit || ('a' ≤ c && c ≤ 'f') || ('A' ≤ c && c ≤ 'F')

/-- `c` is an octal digit. -/
def isOctalDigit (c : Char) : Bool := '0' ≤ c && c ≤ '7'

/-- `c` is a binary digit. -/
def isBinaryDigit (c : Char) : Bool := c == '0' || c == '1'

/-- Decimal digits with single underscores between them. -/
def decimals (gs : List Glyph) : Nat := digitRun Char.isDigit false 0 false gs

/-- The digits of a decimal number: a zero, or digits that begin with another one. -/
def wholeDigits : List Glyph → Nat
  | [] => 0
  | g :: rest =>
    if g.is '0' then 1
    else if g.isIn Char.isDigit then
      match rest with
      | h :: more =>
        if h.is '_' then
          let n := digitRun Char.isDigit true 0 false more
          if n = 0 then 1 else 2 + n
        else 1 + digitRun Char.isDigit true 0 false rest
      | [] => 1
    else 0

/-- One glyph of the class `p`, if it is there. -/
def optional (p : Char → Bool) : List Glyph → Nat
  | g :: _ => if g.isIn p then 1 else 0
  | [] => 0

/-- The suffix of a whole number. -/
def isLongSuffix (c : Char) : Bool := c == 'l' || c == 'L'

/-- The suffix of a number with a fraction. -/
def isFloatSuffix (c : Char) : Bool := c == 'f' || c == 'F' || c == 'd' || c == 'D'

/-- An exponent after one of the letters `p`; zero if there is none. -/
def exponent (p : Char → Bool) (digits : List Glyph → Nat) (gs : List Glyph) : Nat :=
  if optional p gs = 0 then 0
  else
    let sign := optional (fun c => c == '+' || c == '-') (gs.drop 1)
    let n := digits (gs.drop (1 + sign))
    if n = 0 then 0 else 1 + sign + n

/-- The letter of a decimal exponent. -/
def isExponentLetter (c : Char) : Bool := c == 'e' || c == 'E'

/-- An exponent and a suffix, each if it is there. -/
def exponentAndSuffix (gs : List Glyph) : Nat :=
  let e := exponent isExponentLetter decimals gs
  e + optional isFloatSuffix (gs.drop e)

/-- The numbers that begin with a mark such as `0x`: the mark, digits and a suffix. -/
def marked (mark : Char → Bool) (digit : Char → Bool) : List Glyph → Nat
  | g :: h :: rest =>
    if g.is '0' && h.isIn mark then
      let n := digitRun digit false 0 false rest
      if n = 0 then 0 else 2 + n + optional isLongSuffix (rest.drop n)
    else 0
  | _ => 0

/-- Octal numbers that begin with a zero alone. -/
def plainOctal : List Glyph → Nat
  | g :: rest =>
    if g.is '0' then
      let n := digitRun isOctalDigit false 0 false rest
      if n = 0 then 0 else 1 + n + optional isLongSuffix (rest.drop n)
    else 0
  | [] => 0

/-- Hexadecimal numbers with a point or a binary exponent. -/
def hexFloat : List Glyph → Nat
  | g :: h :: rest =>
    if g.is '0' && (h.is 'x' || h.is 'X') then
      let n := digitRun isHexDigit false 0 false rest
      let point := if optional (· == '.') (rest.drop n) = 1 then 1 else 0
      let m := if point = 1 then digitRun isHexDigit false 0 false (rest.drop (n + 1)) else 0
      if n + m = 0 then 0
      else
        let length := n + point + m
        let e := exponent (fun c => c == 'p' || c == 'P') wholeDigits (rest.drop length)
        let suffix := if e = 0 then 0 else optional isFloatSuffix (rest.drop (length + e))
        2 + length + e + suffix
    else 0
  | _ => 0

/-- Whole decimal numbers. -/
def wholeNumber (gs : List Glyph) : Nat :=
  let n := wholeDigits gs
  if n = 0 then 0 else n + optional isLongSuffix (gs.drop n)

/-- Decimal numbers with a point. -/
def pointFloat (gs : List Glyph) : Nat :=
  let n := decimals gs
  if optional (· == '.') (gs.drop n) = 0 then 0
  else
    let m := decimals (gs.drop (n + 1))
    if n + m = 0 then 0
    else n + 1 + m + exponentAndSuffix (gs.drop (n + 1 + m))

/-- Decimal numbers without a point, with an exponent or a suffix. -/
def plainFloat (gs : List Glyph) : Nat :=
  let n := wholeDigits gs
  if n = 0 then 0
  else
    let tail := exponentAndSuffix (gs.drop n)
    if tail = 0 then 0 else n + tail

/-- The number of glyphs of the longest number at the front. -/
def numberLength (gs : List Glyph) : Nat :=
  [wholeNumber gs, pointFloat gs, plainFloat gs, plainOctal gs, hexFloat gs,
    marked (fun c => c == 'x' || c == 'X') isHexDigit gs,
    marked (fun c => c == 'o' || c == 'O') isOctalDigit gs,
    marked (fun c => c == 'b' || c == 'B') isBinaryDigit gs].foldl max 0

/-! ### Words and symbols -/

/-- `c` begins a word. -/
def isWordStart (c : Char) : Bool := isIdentifierStart c || c == '_' || c == '$'

/-- `c` continues a word. -/
def isWordPart (c : Char) : Bool :=
  isIdentifierContinue c || c == '_' || c == '$' || c.toNat == 0xA2

/-- The number of glyphs of the word at the front. -/
def wordLength : List Glyph → Nat
  | g :: rest => if g.isIn isWordStart then 1 + (rest.takeWhile (·.isIn isWordPart)).length else 0
  | [] => 0

/-- The symbols, longer ones before those that they begin with. -/
def symbols : List String :=
  ["@interface", "...", "<<=", "->", "::", "++", "--", "&&", "||", "==", "!=", "<=", ">=", "+=", "-=",
    "*=", "/=", "&=", "|=", "^=", "%=", "<<", "(", ")", "\x7b", "\x7d", "[", "]", ";", ",", ".", "@",
    "=", "<", ">", "!", "~", "?", ":", "+", "-", "*", "/", "&", "|", "^", "%"]

/-- The glyphs begin with the characters. -/
def startsWith : List Char → List Glyph → Bool
  | [], _ => true
  | _ :: _, [] => false
  | c :: cs, g :: gs => g.is c && startsWith cs gs

/-- The symbol at the front. -/
def symbolAt? (gs : List Glyph) : Option String :=
  symbols.find? fun s => startsWith s.toList gs

/-! ### Characters and strings -/

/-- The number of glyphs of a character literal after its opening quote; `empty` says that nothing
stands between the quotes yet. -/
def characterEnd? : Bool → List Glyph → Option Nat
  | _, [] => none
  | empty, g :: rest =>
    if g.is '\'' then if empty then none else some 1
    else if g.is '\n' || !isContent g then none
    else if g.is '\\' then
      match rest with
      | h :: more => if isContent h then (characterEnd? false more).map (· + 2) else none
      | [] => none
    else (characterEnd? false rest).map (· + 1)

/-- How a part of a string ends. -/
inductive TextEnd where
  | closed
  | expression
  deriving DecidableEq

/-- The number of glyphs of an escape after its backslash; zero if it is none. -/
def escapeLength (gs : List Glyph) : Nat :=
  match gs with
  | [] => 0
  | g :: rest =>
    if g.isIn isOctalDigit then ((gs.take 3).takeWhile (·.isIn isOctalDigit)).length
    else if g.is 'x' then
      if ((rest.take 2).takeWhile (·.isIn isHexDigit)).length = 2 then 3 else 0
    else if g.is 'u' then
      if ((rest.take 4).takeWhile (·.isIn isHexDigit)).length = 4 then 5
      else
        match rest with
        | h :: digits =>
          let n := (digits.takeWhile (·.isIn isHexDigit)).length
          if h.is '\x7b' && n != 0 && optional (· == '\x7d') (digits.drop n) = 1 then n + 3 else 0
        | [] => 0
    else if isContent g then 1
    else 0

/-- The number of glyphs of a part of a string, up to and including its end, after `skip` glyphs of an
escape that is read already. -/
def textEnd? (isBlock : Bool) : Nat → List Glyph → Option (Nat × TextEnd)
  | _, [] => none
  | skip + 1, _ :: rest => (textEnd? isBlock skip rest).map fun (n, e) => (n + 1, e)
  | 0, g :: rest =>
    if g.is '"' then
      if isBlock then
        if startsWith ['"', '"'] rest then some (3, .closed)
        else (textEnd? isBlock 0 rest).map fun (n, e) => (n + 1, e)
      else some (1, .closed)
    else if g.is '\\' then
      if startsWith ['\x7b'] rest then some (2, .expression)
      else
        let n := if isBlock then (if rest.isEmpty then 0 else 1) else escapeLength rest
        if n = 0 then none else (textEnd? isBlock n rest).map fun (m, e) => (m + 1, e)
    else if isContent g then (textEnd? isBlock 0 rest).map fun (n, e) => (n + 1, e)
    else none

/-! ### The row of tokens -/

/-- The sort and the number of glyphs of the token at the front, and the strings that are open after
it; `none` where no token is. -/
def tokenAt? (pending : List (Bool × Nat)) (gs : List Glyph) :
    Option (TokenSort × Nat × List (Bool × Nat)) :=
  match gs with
  | [] => none
  | g :: rest =>
    let word := wordLength gs
    let number := numberLength gs
    if word > 0 then some (.word, word, pending)
    else if number > 0 then some (.number, number, pending)
    else if g.is '\'' then (characterEnd? true rest).map fun n => (.character, n + 1, pending)
    else if g.is '"' then
      let isBlock := startsWith ['"', '"'] rest
      let opening := if isBlock then 3 else 1
      (textEnd? isBlock 0 (gs.drop opening)).map fun (n, e) =>
        match e with
        | .closed => (.text, opening + n, pending)
        | .expression => (.textHead, opening + n, (isBlock, 0) :: pending)
    else
      match pending with
      | (isBlock, 0) :: outer =>
        if g.is '\x7d' then
          (textEnd? isBlock 0 rest).map fun (n, e) =>
            match e with
            | .closed => (.textTail, 1 + n, outer)
            | .expression => (.textMiddle, 1 + n, (isBlock, 0) :: outer)
        else
          (symbolAt? gs).map fun s =>
            (.symbol, s.length, if g.is '\x7b' then (isBlock, 1) :: outer else pending)
      | (isBlock, depth + 1) :: outer =>
        (symbolAt? gs).map fun s =>
          let depth' := if g.is '\x7b' then depth + 2 else if g.is '\x7d' then depth else depth + 1
          (.symbol, s.length, (isBlock, depth') :: outer)
      | [] => (symbolAt? gs).map fun s => (.symbol, s.length, pending)

/-- The tokens of a text from a position on.  `gap` and `comments` stand between the last token and the
position. -/
def tokensFrom : Nat → List (Bool × Nat) → Spot → String → List Comment → List Glyph → List Token
  | 0, _, spot, gap, comments, _ => [⟨.stray, "", gap, comments, spot.spanTo spot, spot, 0⟩]
  | _ + 1, _, spot, gap, comments, [] => [⟨.finish, "", gap, comments, spot.spanTo spot, spot, 0⟩]
  | fuel + 1, pending, spot, gap, comments, gs@(g :: rest) =>
    if g.isIn isSpace then
      let blanks := gs.takeWhile (·.isIn isSpace)
      tokensFrom fuel pending (spot.afterAll blanks) (gap ++ lossyText blanks) comments
        (rest.drop (blanks.length - 1))
    else
      match commentAt? gs with
      | some (kind, n) =>
        let content := gs.take n
        let after := spot.afterAll content
        let comment := ⟨kind, gap, lossyText content, spot.spanTo after⟩
        tokensFrom fuel pending after "" (comments ++ [comment]) (gs.drop n)
      | none =>
        match tokenAt? pending gs with
        | some (sort, n, pending') =>
          let content := gs.take n
          let after := spot.afterAll content
          ⟨sort, lossyText content, gap, comments, spot.spanTo after, after, 0⟩ ::
            tokensFrom fuel pending' after "" [] (gs.drop n)
        | none =>
          let after := spot.after g
          [⟨.stray, lossyText [g], gap, comments, spot.spanTo after, after, 0⟩,
            ⟨.finish, "", "", [], after.spanTo after, after, 0⟩]

/-- A mark of the byte order, which may stand at the very beginning. -/
def isOrderMark (c : Char) : Bool := c.toNat == 0xFEFF

/-- The tokens of a text; the last one is the end of it. -/
def tokens (gs : List Glyph) : List Token :=
  let fuel := gs.length + 2
  Token.numbered 0 <|
    match gs with
    | g :: rest =>
      if g.isIn isOrderMark then tokensFrom fuel [] (Spot.origin.after g) "" [] rest
      else tokensFrom fuel [] Spot.origin "" [] gs
    | [] => tokensFrom fuel [] Spot.origin "" [] []

end JavadocAudit.Lexer
