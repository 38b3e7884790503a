import JavadocAudit.Pattern.Basic
import JavadocAudit.Pattern.Error
import JavadocAudit.Text.CharacterName
import JavadocAudit.Text.Identifier
import JavadocAudit.Text.Letter

/-!
# Reading patterns

A pattern is read from left to right in *pieces*: single characters, and backslashes together with the
character after them.  A backslash at the very end is found as soon as the piece before it is taken.
Reading keeps the modes turned on for the whole pattern, the groups met so far with their widths, and
the place of the first condition on each group number.
-/

namespace JavadocAudit

/-- A character of a pattern, or a backslash with the character after it. -/
structure Piece where
  chars : List Char
  start : Nat

/-- The pieces of a text, the first of which starts at `start`. -/
def piecesFrom : Nat → List Char → List Piece
  | _, [] => []
  | start, ['\\'] => [⟨['\\'], start⟩]
  | start, '\\' :: c :: rest => ⟨['\\', c], start⟩ :: piecesFrom (start + 2) rest
  | start, c :: rest => ⟨[c], start⟩ :: piecesFrom (start + 1) rest

/-- The state of reading; the names of characters stay the same throughout. -/
structure Progress where
  pieces : List Piece
  length : Nat
  characterNames : Text.NameTable
  modes : Modes := Modes.plain
  names : List (String × Nat) := []
  groups : List (Option (Nat × Nat)) := [none]
  lookLimit : Option Nat := none
  conditions : List (Nat × Nat) := []

/-- Reading a part of a pattern. -/
abbrev Reading := StateT Progress (Except PatternError)

namespace Reading

/-- The characters of the next piece. -/
def peek : Reading (Option (List Char)) := do
  return (← get).pieces.head?.map (·.chars)

/-- The place of the next piece. -/
def place : Reading Nat := do
  let s ← get
  match s.pieces with
  | piece :: _ => return piece.start
  | [] => return s.length

/-- Fails at a place that lies `back` characters before the next piece. -/
def fail {α : Type} (fault : PatternFault) (back : Nat := 0) : Reading α := do
  let here ← place
  throw ⟨fault, some (here - back)⟩

/-- Refuses a backslash at the end as the next piece. -/
def checkEnd : Reading Unit := do
  let s ← get
  match s.pieces with
  | ⟨['\\'], _⟩ :: _ => throw ⟨.escapeAtEnd, some (s.length - 1)⟩
  | _ => return ()

/-- Takes the next piece. -/
def next : Reading (Option (List Char)) := do
  let s ← get
  match s.pieces with
  | [] => return none
  | piece :: rest =>
    set { s with pieces := rest }
    checkEnd
    return some piece.chars

/-- Takes the next piece if it is the character `c`. -/
def accept (c : Char) : Reading Bool := do
  if (← peek) == some [c] then
    discard next
    return true
  else return false

/-- Takes at most `n` pieces that are characters of the class `p`. -/
def takeChars (p : Char → Bool) : Nat → Reading (List Char)
  | 0 => return []
  | n + 1 => do
    match ← peek with
    | some [c] =>
      if p c then
        discard next
        return c :: (← takeChars p n)
      else return []
    | _ => return []

/-- Takes pieces up to and including the character `terminator`; `what` names them in errors. -/
def takeUntil (terminator : Char) (what : String) : Nat → List Char → Reading (List Char)
  | 0, done => return done
  | fuel + 1, done => do
    match ← next with
    | none =>
      if done.isEmpty then fail (.missingName what)
      else fail (.unterminatedName terminator.toString) done.length
    | some chars =>
      if chars == [terminator] then
        if done.isEmpty then fail (.missingName what) 1
        return done
      else takeUntil terminator what fuel (done ++ chars)

/-- Takes pieces up to and including the character `terminator`. -/
def name (terminator : Char) (what : String) : Reading String := do
  let s ← get
  return String.ofList (← takeUntil terminator what (s.pieces.length + 1) [])

/-- The number of groups met so far, the whole pattern included. -/
def groupCount : Reading Nat := do
  return (← get).groups.length

/-- A group is closed. -/
def isClosed (group : Nat) : Reading Bool := do
  return (((← get).groups[group]?).getD none).isSome

/-- Refuses a reference to a group that a look-behind around it defines. -/
def checkLookbehind (group : Nat) : Reading Unit := do
  match (← get).lookLimit with
  | none => return ()
  | some limit =>
    if !(← isClosed group) then fail .openGroup
    if limit ≤ group then fail .groupOfLookbehind

/-- Opens a group and gives its number. -/
def openGroup (name? : Option String) : Reading Nat := do
  let s ← get
  let group := s.groups.length
  set { s with groups := s.groups ++ [none] }
  match name? with
  | none => return group
  | some name =>
    match s.names.lookup name with
    | some old => fail (.redefinedGroup name group old) (name.length + 1)
    | none =>
      modify fun s => { s with names := (name, group) :: s.names }
      return group

/-- Closes a group over its body. -/
def closeGroup (group : Nat) (body : Pattern) : Reading Unit :=
  modify fun s => { s with groups := s.groups.set group (some (Pattern.width s.groups body)) }

/-! ### Escapes -/

/-- What an escape stands for. -/
inductive Escape where
  | code (n : Nat)
  | category (c : Category) (negated : Bool)
  | anchor (a : Anchor)
  | group (n : Nat)

/-- The character of an escape by letter. -/
def letterEscape? (c : Char) : Option Nat :=
  if c == 'a' then some 7
  else if c == 'b' then some 8
  else if c == 'f' then some 12
  else if c == 'n' then some 10
  else if c == 'r' then some 13
  else if c == 't' then some 9
  else if c == 'v' then some 11
  else if c == '\\' then some 92
  else none

/-- The class of characters of an escape. -/
def categoryEscape? (c : Char) : Option Escape :=
  if c == 'd' then some (.category .digit false)
  else if c == 'D' then some (.category .digit true)
  else if c == 's' then some (.category .space false)
  else if c == 'S' then some (.category .space true)
  else if c == 'w' then some (.category .word false)
  else if c == 'W' then some (.category .word true)
  else none

/-- The place of an escape. -/
def anchorEscape? (c : Char) : Option Escape :=
  if c == 'A' then some (.anchor .textStart)
  else if c == 'b' then some (.anchor .boundary)
  else if c == 'B' then some (.anchor .inside)
  else if c == 'Z' then some (.anchor .textEnd)
  else none

/-- `c` is an octal digit. -/
def isOctal (c : Char) : Bool := '0' ≤ c && c ≤ '7'

/-- An escape of exactly `count` hexadecimal digits after its letter. -/
def hexEscape (letter : Char) (count : Nat) : Reading Escape := do
  let digits ← takeChars Text.isHex count
  let text := '\\' :: letter :: digits
  if digits.length != count then fail (.incompleteEscape (String.ofList text)) text.length
  let code := Text.inBase 16 digits
  if code > 0x10FFFF then fail (.badEscape (String.ofList text)) text.length
  return .code code

/-- An escape by the name of a character. -/
def namedEscape : Reading Escape := do
  if !(← accept '\x7b') then fail .missingBrace
  let charName ← name '\x7d' "character name"
  match Text.codeOfName? (← get).characterNames charName with
  | some code => return .code code
  | none => fail (.unknownCharacterName charName) (charName.length + 4)

/-- The letters of ASCII are kept for escapes with a meaning; other characters stand for themselves. -/
def plainEscape (c : Char) : Reading Escape :=
  if c.isAlpha then fail (.badEscape (String.ofList ['\\', c])) 2
  else return .code c.toNat

/-- The escape of `c` inside a set. -/
def setEscape (c : Char) : Reading Escape := do
  if let some code := letterEscape? c then return .code code
  if let some category := categoryEscape? c then return category
  if c == 'x' then hexEscape c 2
  else if c == 'u' then hexEscape c 4
  else if c == 'U' then hexEscape c 8
  else if c == 'N' then namedEscape
  else if isOctal c then
    let digits := c :: (← takeChars isOctal 2)
    let code := Text.inBase 8 digits
    if code > 0o377 then
      fail (.octalTooLarge (String.ofList ('\\' :: digits))) (digits.length + 1)
    return .code code
  else if c.isDigit then fail (.badEscape (String.ofList ['\\', c])) 2
  else plainEscape c

/-- A reference to a group by number, written with `digits`. -/
def groupEscape (digits : List Char) : Reading Escape := do
  let group := Text.inBase 10 digits
  if group < (← groupCount) then
    if !(← isClosed group) then fail .openGroup (digits.length + 1)
    checkLookbehind group
    return .group group
  else fail (.invalidGroup group) digits.length

/-- The escape of a digit other than zero: three octal digits, or the number of a group. -/
def digitEscape (c : Char) : Reading Escape := do
  let more ← takeChars Char.isDigit 1
  match more with
  | [d] =>
    if isOctal c && isOctal d then
      match ← takeChars isOctal 1 with
      | [e] =>
        let code := Text.inBase 8 [c, d, e]
        if code > 0o377 then fail (.octalTooLarge (String.ofList ['\\', c, d, e])) 4
        return .code code
      | _ => groupEscape [c, d]
    else groupEscape [c, d]
  | _ => groupEscape [c]

/-- The escape of `c` outside a set. -/
def escape (c : Char) : Reading Escape := do
  if let some anchor := anchorEscape? c then return anchor
  if let some category := categoryEscape? c then return category
  if let some code := letterEscape? c then return .code code
  if c == 'x' then hexEscape c 2
  else if c == 'u' then hexEscape c 4
  else if c == 'U' then hexEscape c 8
  else if c == 'N' then namedEscape
  else if c == '0' then return .code (Text.inBase 8 (← takeChars isOctal 2))
  else if c.isDigit then digitEscape c
  else plainEscape c

/-- The pattern of an escape. -/
def Escape.pattern : Escape → Pattern
  | .code n => .char n
  | .category c negated => .set false [.category c negated]
  | .anchor a => .anchor a
  | .group n => .same n

/-- The member of a set that an escape stands for. -/
def Escape.setItem : Escape → SetItem
  | .code n => .char n
  | .category c negated => .category c negated
  | .anchor _ => .char 0
  | .group _ => .char 0

/-! ### Sets -/

/-- The escape or character that a piece stands for inside a set. -/
def setPiece : List Char → Reading Escape
  | ['\\', c] => setEscape c
  | [c] => return .code c.toNat
  | _ => return .code 0

/-- The members of a set that are left, up to the closing bracket; the set opens at `start`. -/
def setItems (start : Nat) : Nat → List SetItem → Reading (List SetItem)
  | 0, done => return done
  | fuel + 1, done => do
    match ← next with
    | none => fail .unterminatedSet ((← place) - start)
    | some this =>
      if this == [']'] && !done.isEmpty then return done
      let low ← setPiece this
      if ← accept '-' then
        match ← next with
        | none => fail .unterminatedSet ((← place) - start)
        | some that =>
          if that == [']'] then return done ++ [low.setItem, .char '-'.toNat]
          let high ← setPiece that
          match low, high with
          | .code a, .code b =>
            if b < a then
              fail (.badRange (String.ofList this) (String.ofList that))
                (this.length + 1 + that.length)
            setItems start fuel (done ++ [.range a b])
          | _, _ =>
            fail (.badRange (String.ofList this) (String.ofList that))
              (this.length + 1 + that.length)
      else setItems start fuel (done ++ [low.setItem])

/-- A set after its opening bracket. -/
def charSet : Reading Pattern := do
  let start := (← place) - 1
  let negated ← accept '^'
  let fuel := (← get).pieces.length + 1
  return .set negated (← setItems start fuel [])

/-! ### Modes -/

/-- The mode of a letter; `none` for a letter that is no mode. -/
def mode? (c : Char) : Option Modes :=
  if c == 'i' then some { ignoreCase := true }
  else if c == 'm' then some { multiLine := true }
  else if c == 's' then some { dotAll := true }
  else if c == 'x' then some { verbose := true }
  else if c == 'a' then some { ascii := true }
  else if c == 't' then some { template := true }
  else if c == 'u' then some { unicode := true }
  else none

/-- The modes that are turned on from the letter `c` on, and the character that ends them. -/
def modesOn : Nat → Char → Modes → Reading (Modes × Char)
  | 0, c, on => return (on, c)
  | fuel + 1, c, on => do
    if c == 'L' then fail .localeFlag
    let mode := (mode? c).getD Modes.plain
    let on := on.union mode
    if (mode.inter Modes.alphabets).any && on.inter Modes.alphabets != mode then fail .alphabetFlags
    match ← next with
    | none => fail .missingFlagEnd
    | some [d] =>
      if d == ')' || d == '-' || d == ':' then return (on, d)
      else if (mode? d).isSome || d == 'L' then modesOn fuel d on
      else fail (if Text.isLetter d then .unknownFlag else .missingFlagEnd) 1
    | some chars => fail .missingFlagEnd chars.length

/-- The modes that are turned off from the letter `c` on, up to the colon. -/
def modesOff : Nat → Char → Modes → Reading Modes
  | 0, _, off => return off
  | fuel + 1, c, off => do
    let mode := (mode? c).getD Modes.plain
    if c == 'L' || (mode.inter Modes.alphabets).any then fail .alphabetFlagOff
    let off := off.union mode
    match ← next with
    | none => fail .missingColon
    | some [d] =>
      if d == ':' then return off
      else if (mode? d).isSome || d == 'L' then modesOff fuel d off
      else fail (if Text.isLetter d then .unknownFlag else .missingColon) 1
    | some chars => fail .missingColon chars.length

/-- The modes of a group from the letter `c` on; `none` if they hold for the whole pattern. -/
def groupModes (c : Char) : Reading (Option (Modes × Modes)) := do
  let fuel := (← get).pieces.length + 1
  let (on, stop) ← if c == '-' then pure (Modes.plain, '-') else modesOn fuel c Modes.plain
  if stop == ')' then
    modify fun s => { s with modes := s.modes.union on }
    return none
  if on.template then fail .globalFlagOn 1
  let off ←
    if stop == '-' then
      match ← next with
      | none => fail .missingFlag
      | some [d] =>
        if (mode? d).isSome || d == 'L' then modesOff fuel d Modes.plain
        else fail (if Text.isLetter d then .unknownFlag else .missingFlag) 1
      | some chars => fail .missingFlag chars.length
    else pure Modes.plain
  if off.template then fail .globalFlagOff 1
  if (on.inter off).any then fail .flagOnAndOff 1
  return some (on, off)

/-! ### Repetitions -/

/-- The item is a repetition. -/
def isRepeat : Pattern → Bool
  | .repeat .. => true
  | _ => false

/-- The item is a place. -/
def isAnchor : Pattern → Bool
  | .anchor _ => true
  | _ => false

/-- The count that digits spell; no digits spell zero. -/
def count (digits : List Char) : Reading Nat := do
  if Text.digitLimit < digits.length then throw ⟨.numberTooLong digits.length, none⟩
  let n := Text.inBase 10 digits
  if Pattern.repeatLimit ≤ n then throw ⟨.repeatTooLarge, none⟩
  return n

/-- The counts between braces, after the opening one; `none` if the brace is an ordinary character. -/
def counts : Reading (Option (Nat × Option Nat)) := do
  let saved ← get
  let start ← place
  if (← peek) == some ['\x7d'] then return none
  let fuel := saved.pieces.length
  let low ← takeChars Char.isDigit fuel
  let high ← if ← accept ',' then takeChars Char.isDigit fuel else pure low
  if !(← accept '\x7d') then
    set saved
    return none
  let least ← count low
  if high.isEmpty then return some (least, none)
  let most ← count high
  if most < least then fail .repeatOrder ((← place) - start)
  return some (least, some most)

/-- The items, in reverse order, with the last one repeated; the sign of the repetition ends at
`start`. -/
def repeatLast (start : Nat) (least : Nat) (most : Option Nat) (done : List Pattern) :
    Reading (List Pattern) := do
  let back := (← place) - start + 1
  match done with
  | [] => fail .nothingToRepeat back
  | item :: before =>
    if isAnchor item then fail .nothingToRepeat back
    if isRepeat item then fail .multipleRepeat back
    if ← accept '?' then return .repeat .lazy least most item :: before
    else if ← accept '+' then return .repeat .possessive least most item :: before
    else return .repeat .greedy least most item :: before

/-! ### Groups and sequences -/

/-- Skips pieces up to and including the character `stop`; `false` if the pattern ends before. -/
def skipPast (stop : Char) : Nat → Reading Bool
  | 0 => return false
  | fuel + 1 => do
    match ← next with
    | none => return false
    | some chars => if chars == [stop] then return true else skipPast stop fuel

/-- A character that the verbose mode skips. -/
def isVerboseBlank (c : Char) : Bool :=
  c == ' ' || c == '\t' || c == '\n' || c == '\r' || c == '\x0b' || c == '\x0c'

/-- The kind of a group, once its opening is read. -/
inductive Opening where
  | nothing
  | item (p : Pattern)
  | modes
  | group (capture : Bool) (name : Option String) (atomic : Bool) (on off : Modes)
  | look (ahead negated : Bool)
  | condition (group : Nat)

/-- Refuses a text that is no group name. -/
def checkGroupName (groupName : String) : Reading Unit :=
  if Text.isIdentifier groupName then return ()
  else fail (.badGroupName groupName) (groupName.length + 1)

/-- The group of a condition. -/
def conditionGroup : Reading Nat := do
  let text ← name ')' "group name"
  let back := text.length + 1
  if Text.isIdentifier text then
    match (← get).names.lookup text with
    | some group => return group
    | none => fail (.unknownGroupName text) back
  else
    match Text.wholeNumber? text with
    | some (.ofNat 0) => fail .badGroupNumber back
    | some (.ofNat group) =>
      if 1073741823 ≤ group then fail (.invalidGroup group) back
      let position := (← place) - back
      modify fun s =>
        if (s.conditions.lookup group).isSome then s
        else { s with conditions := s.conditions ++ [(group, position)] }
      return group
    | _ => fail (.badGroupName text) back

/-- What follows the opening parenthesis at the place `start`. -/
def opening (start : Nat) : Reading Opening := do
  if !(← accept '?') then return .group true none false Modes.plain Modes.plain
  match ← next with
  | none => fail .unexpectedEnd
  | some ['P'] =>
    if ← accept '<' then
      let groupName ← name '>' "group name"
      checkGroupName groupName
      return .group true (some groupName) false Modes.plain Modes.plain
    else if ← accept '=' then
      let groupName ← name ')' "group name"
      checkGroupName groupName
      match (← get).names.lookup groupName with
      | none => fail (.unknownGroupName groupName) (groupName.length + 1)
      | some group =>
        if !(← isClosed group) then fail .openGroup (groupName.length + 1)
        checkLookbehind group
        return .item (.same group)
    else
      match ← next with
      | none => fail .unexpectedEnd
      | some chars =>
        fail (.unknownExtension ("?P" ++ String.ofList chars)) (chars.length + 2)
  | some [':'] => return .group false none false Modes.plain Modes.plain
  | some ['#'] =>
    if ← skipPast ')' ((← get).pieces.length + 1) then return .nothing
    else fail .unterminatedComment ((← place) - start)
  | some ['='] => return .look true false
  | some ['!'] => return .look true true
  | some ['<'] =>
    match ← next with
    | none => fail .unexpectedEnd
    | some ['='] => return .look false false
    | some ['!'] => return .look false true
    | some chars => fail (.unknownExtension ("?<" ++ String.ofList chars)) (chars.length + 2)
  | some ['('] =>
    let group ← conditionGroup
    checkLookbehind group
    return .condition group
  | some ['>'] => return .group false none true Modes.plain Modes.plain
  | some chars =>
    match chars with
    | [c] =>
      if (mode? c).isSome || c == 'L' || c == '-' then
        match ← groupModes c with
        | none => return .modes
        | some (on, off) => return .group false none false on off
      else fail (.unknownExtension ("?" ++ String.ofList chars)) (chars.length + 1)
    | _ => fail (.unknownExtension ("?" ++ String.ofList chars)) (chars.length + 1)

/-- Takes the closing parenthesis of a group that opens at `start`. -/
def close (start : Nat) : Reading Unit := do
  if !(← accept ')') then fail .unterminatedGroup ((← place) - start)

/-- The pattern of items in reverse order. -/
def ofItems : List Pattern → Pattern
  | [p] => p
  | items => .seq items.reverse

mutual

/-- Choices, up to a closing parenthesis or the end.  `top` says that they are the whole pattern. -/
def alternatives (top : Bool) : Nat → Bool → List Pattern → Reading Pattern
  | 0, _, _ => return Pattern.empty
  | fuel + 1, verbose, done => do
    let choice ← items fuel verbose (top && done.isEmpty) []
    if ← accept '|' then
      let s ← get
      alternatives top fuel (if top then s.modes.verbose else verbose) (choice :: done)
    else
      match done with
      | [] => return choice
      | _ => return .alt (choice :: done).reverse

/-- Items in a row, up to a bar, a closing parenthesis or the end; `done` holds those before them in
reverse order, and `first` says that they open the whole pattern. -/
def items : Nat → Bool → Bool → List Pattern → Reading Pattern
  | 0, _, _, done => return ofItems done
  | fuel + 1, verbose, first, done => do
    match ← peek with
    | none => return ofItems done
    | some ['|'] => return ofItems done
    | some [')'] => return ofItems done
    | some this =>
      discard next
      match this with
      | ['\\', c] => items fuel verbose first ((← escape c).pattern :: done)
      | [c] =>
        if verbose && isVerboseBlank c then items fuel verbose first done
        else if verbose && c == '#' then
          discard (skipPast '\n' ((← get).pieces.length + 1))
          items fuel verbose first done
        else if c == '[' then items fuel verbose first ((← charSet) :: done)
        else if c == '?' then
          items fuel verbose first (← repeatLast (← place) 0 (some 1) done)
        else if c == '*' then
          items fuel verbose first (← repeatLast (← place) 0 none done)
        else if c == '+' then
          items fuel verbose first (← repeatLast (← place) 1 none done)
        else if c == '\x7b' then
          let start ← place
          match ← counts with
          | none => items fuel verbose first (.char c.toNat :: done)
          | some (least, most) =>
            items fuel verbose first (← repeatLast start least most done)
        else if c == '.' then items fuel verbose first (.any :: done)
        else if c == '^' then items fuel verbose first (.anchor .lineStart :: done)
        else if c == '$' then items fuel verbose first (.anchor .lineEnd :: done)
        else if c == '(' then
          let start := (← place) - 1
          match ← opening start with
          | .nothing => items fuel verbose first done
          | .item p => items fuel verbose first (p :: done)
          | .modes =>
            if !first || !done.isEmpty then fail .misplacedFlags ((← place) - start)
            let modes := (← get).modes
            items fuel modes.verbose first done
          | .look ahead negated =>
            let outer := (← get).lookLimit
            if !ahead && outer.isNone then
              modify fun s => { s with lookLimit := some s.groups.length }
            let body ← alternatives false fuel verbose []
            modify fun s => { s with lookLimit := outer }
            close start
            items fuel verbose first (.look ahead negated body :: done)
          | .condition group =>
            let yes ← items fuel verbose false []
            let no ←
              if ← accept '|' then
                let no ← items fuel verbose false []
                if (← peek) == some ['|'] then fail .tooManyBranches
                pure (some no)
              else pure none
            close start
            items fuel verbose first (.ifGroup group yes no :: done)
          | .group capture groupName atomic on off =>
            let index ← if capture then some <$> openGroup groupName else pure none
            let body ← alternatives false fuel ((verbose || on.verbose) && !off.verbose) []
            close start
            match index with
            | some group => closeGroup group body
            | none => pure ()
            let item := if atomic then Pattern.atomic body else Pattern.group index on off body
            items fuel verbose first (item :: done)
        else items fuel verbose first (.char c.toNat :: done)
      | _ => items fuel verbose first done

end

/-- The whole pattern, with the modes that hold for all of it. -/
def whole : Reading Pattern := do
  checkEnd
  let fuel := 4 * (← get).pieces.length + 8
  let body ← alternatives true fuel false []
  let s ← get
  if s.modes.ascii && s.modes.unicode then throw ⟨.alphabetClash, none⟩
  set { s with modes := if s.modes.ascii then s.modes else { s.modes with unicode := true } }
  if (← peek).isSome then fail .unbalanced
  match s.conditions.find? (fun (group, _) => s.groups.length ≤ group) with
  | some (group, position) => throw ⟨.invalidGroup group, some position⟩
  | none => return body

end Reading

end JavadocAudit
