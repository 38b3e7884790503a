import JavadocAudit.Pattern.Reader
import JavadocAudit.Text.Lowercase
import JavadocAudit.Text.Blank
import JavadocAudit.Text.Numeral

/-!
# Matching

A pattern is tried at a place of a text and passes every place where it can end, together with the
groups that were read, to the rest of the pattern; the first way in which the rest succeeds wins.  A
repetition without a limit goes on only if its last round moved on.  The depth of the search is bounded
by the size of the pattern and the length of the text (`effort`).

A `Matcher` is a pattern that was read and checked; `Matcher.search` says whether it occurs in a text.
-/

namespace JavadocAudit.Matching

/-- A place in a text, with the groups that have been read as pairs of places. -/
structure Place where
  index : Nat
  groups : List (Nat × Nat × Nat)

namespace Place

/-- The part of the text that a group has read. -/
def group? (s : Place) (group : Nat) : Option (Nat × Nat) := s.groups.lookup group

/-- The place with a group read from `start` to here. -/
def close (s : Place) (group start : Nat) : Place :=
  { s with groups := (group, start, s.index) :: s.groups.filter (fun g => g.1 != group) }

end Place

/-! ### Characters -/

/-- `c` belongs to the category. -/
def categoryHas (modes : Modes) (c : Char) : Category → Bool
  | .digit => if modes.unicode then Text.isDecimal c else c.isDigit
  | .space =>
    if modes.unicode then Text.isBlank c
    else c == ' ' || (9 ≤ c.toNat && c.toNat ≤ 13)
  | .word => if modes.unicode then Text.isWordChar c else c.isAlphanum || c == '_'

/-- The lower case form that matching without case compares. -/
def foldCase (modes : Modes) (c : Char) : Char :=
  if modes.unicode then Text.lowerChar c else Text.lowerAscii c

/-- The code points that stand for `c` in a pattern. -/
def codesOf (modes : Modes) (c : Char) : List Nat :=
  if !modes.ignoreCase then [c.toNat]
  else if modes.unicode then Text.caseVariants c
  else [c.toLower.toNat, c.toUpper.toNat]

/-- A character, given by the code points that stand for it, is a member of a set. -/
def itemHas (modes : Modes) (c : Char) (codes : List Nat) : SetItem → Bool
  | .char code => codes.contains code
  | .range low high => codes.any fun n => low ≤ n && n ≤ high
  | .category category negated =>
    categoryHas modes (if modes.ignoreCase then foldCase modes c else c) category != negated

/-- `c` belongs to a set. -/
def inSet (modes : Modes) (items : List SetItem) (c : Char) : Bool :=
  let codes := codesOf modes c
  items.any (itemHas modes c codes)

/-! ### Places -/

/-- The character before `i` and the one after differ in whether they belong to a word. -/
def atBoundary (modes : Modes) (text : Array Char) (i : Nat) : Bool :=
  let word (c? : Option Char) : Bool := match c? with
    | some c => categoryHas modes c .word
    | none => false
  let before := if i = 0 then none else text[i - 1]?
  word before != word text[i]?

/-- The text is at the place of an anchor. -/
def atAnchor (modes : Modes) (text : Array Char) (i : Nat) : Anchor → Bool
  | .lineStart => i == 0 || (modes.multiLine && text[i - 1]? == some '\n')
  | .lineEnd =>
    i == text.size || (i + 1 == text.size && text[i]? == some '\n') ||
      (modes.multiLine && text[i]? == some '\n')
  | .textStart => i == 0
  | .textEnd => i == text.size
  | .boundary => atBoundary modes text i
  | .inside => text.size != 0 && !atBoundary modes text i

/-- The text continues at `i` with what stands between `start` and `stop`. -/
def sameText (modes : Modes) (text : Array Char) (start stop i : Nat) : Bool :=
  (List.range (stop - start)).all fun k =>
    match text[start + k]?, text[i + k]? with
    | some a, some b => if modes.ignoreCase then foldCase modes a == foldCase modes b else a == b
    | _, _ => false

/-! ### The search -/

/-- The widths of the groups, and the text that is searched. -/
structure Subject where
  text : Array Char
  widths : List (Option (Nat × Nat))

/-- One character of the class `p`. -/
def readChar (subject : Subject) (p : Char → Bool) (s : Place)
    (rest : Place → Option Place) : Option Place :=
  match subject.text[s.index]? with
  | some c => if p c then rest { s with index := s.index + 1 } else none
  | none => none

mutual

/-- Tries a pattern at a place; `rest` is tried wherever the pattern can end. -/
def tryAt (subject : Subject) : Nat → Modes → Pattern → Place → (Place → Option Place) → Option Place
  | 0, _, _, _, _ => none
  | fuel + 1, modes, p, s, rest =>
    match p with
    | .char code => readChar subject (fun c => (codesOf modes c).contains code) s rest
    | .any => readChar subject (fun c => modes.dotAll || c != '\n') s rest
    | .set negated items => readChar subject (fun c => inSet modes items c != negated) s rest
    | .anchor a => if atAnchor modes subject.text s.index a then rest s else none
    | .seq parts => trySeq subject fuel modes parts s rest
    | .alt choices => tryAlt subject fuel modes choices s rest
    | .repeat appetite least most body =>
      match appetite with
      | .possessive =>
        match tryLoop subject fuel modes .greedy least most body 0 none s some with
        | some after => rest after
        | none => none
      | _ => tryLoop subject fuel modes appetite least most body 0 none s rest
    | .group index on off body =>
      let inner := modes.within on off
      match index with
      | none => tryAt subject fuel inner body s rest
      | some group =>
        tryAt subject fuel inner body s fun after => rest (after.close group s.index)
    | .atomic body =>
      match tryAt subject fuel modes body s some with
      | some after => rest after
      | none => none
    | .look ahead negated body =>
      let back := if ahead then 0 else (Pattern.width subject.widths body).1
      let found :=
        if s.index < back then none
        else tryAt subject fuel modes body { s with index := s.index - back } some
      match found with
      | some after => if negated then none else rest { after with index := s.index }
      | none => if negated then rest s else none
    | .same group =>
      match s.group? group with
      | none => none
      | some (start, stop) =>
        if sameText modes subject.text start stop s.index then
          rest { s with index := s.index + (stop - start) }
        else none
    | .ifGroup group yes no =>
      if (s.group? group).isSome then tryAt subject fuel modes yes s rest
      else
        match no with
        | some no => tryAt subject fuel modes no s rest
        | none => rest s

/-- Tries parts in a row. -/
def trySeq (subject : Subject) :
    Nat → Modes → List Pattern → Place → (Place → Option Place) → Option Place
  | 0, _, _, _, _ => none
  | fuel + 1, modes, parts, s, rest =>
    match parts with
    | [] => rest s
    | p :: more =>
      tryAt subject fuel modes p s fun after => trySeq subject fuel modes more after rest

/-- Tries choices in order. -/
def tryAlt (subject : Subject) :
    Nat → Modes → List Pattern → Place → (Place → Option Place) → Option Place
  | 0, _, _, _, _ => none
  | fuel + 1, modes, choices, s, rest =>
    match choices with
    | [] => none
    | p :: more =>
      match tryAt subject fuel modes p s rest with
      | some after => some after
      | none => tryAlt subject fuel modes more s rest

/-- Tries the rounds of a repetition that are left after `count` of them; `last` is where the last
round beyond the least number began. -/
def tryLoop (subject : Subject) :
    Nat → Modes → Appetite → Nat → Option Nat → Pattern → Nat → Option Nat → Place →
      (Place → Option Place) → Option Place
  | 0, _, _, _, _, _, _, _, _, _ => none
  | fuel + 1, modes, appetite, least, most, body, count, last, s, rest =>
    if count < least then
      tryAt subject fuel modes body s fun after =>
        tryLoop subject fuel modes appetite least most body (count + 1) last after rest
    else
      let more := (match most with | some n => count < n | none => true) && last != some s.index
      let round (_ : Unit) :=
        tryAt subject fuel modes body s fun after =>
          tryLoop subject fuel modes appetite least most body (count + 1) (some s.index) after rest
      match appetite with
      | .lazy =>
        match rest s with
        | some after => some after
        | none => if more then round () else none
      | _ =>
        match if more then round () else none with
        | some after => some after
        | none => rest s

end

mutual

/-- A bound on the depth of the search for a pattern in a text of `length` characters. -/
def effort (length : Nat) : Pattern → Nat
  | .seq parts => effortList length parts + 2
  | .alt choices => effortList length choices + 2
  | .repeat _ least _ body => effort length body + least + length + 4
  | .group _ _ _ body => effort length body + 2
  | .atomic body => effort length body + 2
  | .look _ _ body => effort length body + 2
  | .ifGroup _ yes none => effort length yes + 2
  | .ifGroup _ yes (some no) => effort length yes + effort length no + 2
  | _ => 2

/-- A bound for parts or choices. -/
def effortList (length : Nat) : List Pattern → Nat
  | [] => 2
  | p :: rest => effort length p + effortList length rest + 2

end

/-! ### Where a search begins -/

/-- The members of a choice that is one character or a set. -/
def choiceItems? : Pattern → Option (List SetItem)
  | .char code => some [.char code]
  | .set false items => some items
  | _ => none

/-- The set that a pattern opens with, and the modes of the part it stands in. -/
def leadingSet? (modes : Modes) : Pattern → Option (Modes × Bool × List SetItem)
  | .set negated items => some (modes, negated, items)
  | .seq (p :: _) => leadingSet? modes p
  | .group _ on off body => leadingSet? (modes.within on off) body
  | .alt choices => (choices.mapM choiceItems?).map fun items => (modes, false, items.flatten)
  | _ => none

/-- The code point has another form in the other case. -/
def isCased (code : Nat) : Bool := (Text.caseVariants (Char.ofNat code)).any (· != code)

/-- The member names characters of one case. -/
def itemIsCased : SetItem → Bool
  | .char code => isCased code
  | .range low high =>
    0xFFFF < high || (List.range (high + 1 - low)).any fun k => isCased (low + k)
  | .category .. => false

/-- A search may begin at `c`: if the pattern opens with a set in a part with an alphabet of its own, the
set has to hold `c` in the alphabet of the whole pattern too. -/
def mayBegin (modes : Modes) (p : Pattern) (c : Char) : Bool :=
  match leadingSet? modes p with
  | some (inner, negated, items) =>
    inner.unicode == modes.unicode || (inner.ignoreCase && items.any itemIsCased) ||
      inSet { modes with ignoreCase := false } items c != negated
  | none => true

/-! ### Checks on a whole pattern -/

/-- The name of a repetition among the operators of patterns. -/
def operatorName : Appetite → String
  | .greedy => "MAX_REPEAT"
  | .lazy => "MIN_REPEAT"
  | .possessive => "POSSESSIVE_REPEAT"

mutual

/-- The first fault of a pattern that was read: a look-behind of varying width, or a repetition in a
template. -/
def fault? (widths : List (Option (Nat × Nat))) (modes : Modes) : Pattern → Option PatternFault
  | .seq parts => faultList? widths modes parts
  | .alt choices => faultList? widths modes choices
  | .repeat appetite _ _ body =>
    if modes.template then some (.templateRepeat (operatorName appetite))
    else fault? widths modes body
  | .group _ on off body => fault? widths (modes.within on off) body
  | .atomic body => fault? widths modes body
  | .look ahead _ body =>
    let (low, high) := Pattern.width widths body
    if !ahead && low > Pattern.repeatLimit then some .deepLookbehind
    else if !ahead && low != high then some .variableLookbehind
    else fault? widths modes body
  | .ifGroup _ yes none => fault? widths modes yes
  | .ifGroup _ yes (some no) => (fault? widths modes yes).or (fault? widths modes no)
  | _ => none

/-- The first fault of parts or choices. -/
def faultList? (widths : List (Option (Nat × Nat))) (modes : Modes) :
    List Pattern → Option PatternFault
  | [] => none
  | p :: rest => (fault? widths modes p).or (faultList? widths modes rest)

end

end JavadocAudit.Matching

namespace JavadocAudit

/-- A pattern that was read and checked, with its text. -/
structure Matcher where
  source : String
  pattern : Pattern
  modes : Modes
  widths : List (Option (Nat × Nat))

namespace Matcher

/-- The matcher of a text, or why it is none.  The text may call characters by their names. -/
def compile (names : Text.NameTable) (source : String) : Except PatternError Matcher :=
  let chars := source.toList
  match Reading.whole.run ⟨piecesFrom 0 chars, chars.length, names, Modes.plain, [], [none],
    none, []⟩ with
  | .error e => .error e
  | .ok (pattern, s) =>
    match Matching.fault? s.groups s.modes pattern with
    | some fault => .error ⟨fault, none⟩
    | none => .ok ⟨source, pattern, s.modes, s.groups⟩

/-- The pattern occurs somewhere in the text. -/
def search (m : Matcher) (s : String) : Bool :=
  let text := s.toList.toArray
  let fuel := Matching.effort text.size m.pattern + 2
  (List.range (text.size + 1)).any fun start =>
    ((text[start]?).map (Matching.mayBegin m.modes m.pattern)).getD true &&
      (Matching.tryAt ⟨text, m.widths⟩ fuel m.modes m.pattern ⟨start, []⟩ some).isSome

end Matcher

end JavadocAudit
