/-!
# Patterns

A pattern is a regular expression with groups, back references, conditions on groups, look-around and
atomic parts.  The modes of matching are turned on for the whole pattern or for a part of it.  Code
points are natural numbers, so that a pattern may name one that no text holds.
-/

namespace JavadocAudit

/-- The modes of matching. -/
structure Modes where
  ignoreCase : Bool := false
  multiLine : Bool := false
  dotAll : Bool := false
  verbose : Bool := false
  ascii : Bool := false
  unicode : Bool := false
  template : Bool := false
  deriving DecidableEq, Inhabited

namespace Modes

/-- No mode. -/
def plain : Modes := {}

/-- The modes of either. -/
def union (a b : Modes) : Modes where
  ignoreCase := a.ignoreCase || b.ignoreCase
  multiLine := a.multiLine || b.multiLine
  dotAll := a.dotAll || b.dotAll
  verbose := a.verbose || b.verbose
  ascii := a.ascii || b.ascii
  unicode := a.unicode || b.unicode
  template := a.template || b.template

/-- The modes of the first that the second lacks. -/
def diff (a b : Modes) : Modes where
  ignoreCase := a.ignoreCase && !b.ignoreCase
  multiLine := a.multiLine && !b.multiLine
  dotAll := a.dotAll && !b.dotAll
  verbose := a.verbose && !b.verbose
  ascii := a.ascii && !b.ascii
  unicode := a.unicode && !b.unicode
  template := a.template && !b.template

/-- The modes of both. -/
def inter (a b : Modes) : Modes := a.diff (a.diff b)

/-- Some mode is on. -/
def any (a : Modes) : Bool := a != plain

/-- The modes that choose an alphabet. -/
def alphabets : Modes := { ascii := true, unicode := true }

/-- The modes inside a part that turns `on` and `off` some: a chosen alphabet replaces the other. -/
def within (outer on off : Modes) : Modes :=
  let base := if (on.inter alphabets).any then outer.diff alphabets else outer
  (base.union on).diff off

end Modes

/-- A class of characters with a name. -/
inductive Category where
  | digit
  | space
  | word
  deriving DecidableEq, Inhabited

/-- A member of a set of characters. -/
inductive SetItem where
  | char (code : Nat)
  | range (low high : Nat)
  | category (c : Category) (negated : Bool)
  deriving DecidableEq, Inhabited

/-- A place that a text is at without a character being read. -/
inductive Anchor where
  | lineStart
  | lineEnd
  | textStart
  | textEnd
  | boundary
  | inside
  deriving DecidableEq, Inhabited

/-- How a repetition chooses among counts. -/
inductive Appetite where
  | greedy
  | lazy
  | possessive
  deriving DecidableEq, Inhabited

/-- A regular expression. -/
inductive Pattern where
  | char (code : Nat)
  | any
  | set (negated : Bool) (items : List SetItem)
  | anchor (a : Anchor)
  | seq (parts : List Pattern)
  | alt (choices : List Pattern)
  | repeat (appetite : Appetite) (least : Nat) (most : Option Nat) (body : Pattern)
  | group (index : Option Nat) (on off : Modes) (body : Pattern)
  | atomic (body : Pattern)
  | look (ahead negated : Bool) (body : Pattern)
  | same (group : Nat)
  | ifGroup (group : Nat) (yes : Pattern) (no : Option Pattern)
  deriving Inhabited

namespace Pattern

/-- The pattern of the empty text. -/
def empty : Pattern := .seq []

/-- Widths beyond this one are not told apart. -/
def widthLimit : Nat := 0x10000000000000000

/-- Count of repetitions from which a count stands for "without limit". -/
def repeatLimit : Nat := 0xFFFFFFFF

mutual

/-- The least and the greatest number of characters that a pattern reads, given those of the
groups. -/
def width (groups : List (Option (Nat × Nat))) : Pattern → Nat × Nat
  | .char _ => (1, 1)
  | .any => (1, 1)
  | .set _ _ => (1, 1)
  | .anchor _ => (0, 0)
  | .seq parts => let (low, high) := widthSeq groups parts; (min low widthLimit, min high widthLimit)
  | .alt choices => widthAlt groups choices
  | .repeat _ least most body =>
    let (low, high) := width groups body
    let upper := match most with
      | some n => high * n
      | none => if high = 0 then 0 else widthLimit
    (min (low * least) widthLimit, min upper widthLimit)
  | .group _ _ _ body => width groups body
  | .atomic body => width groups body
  | .look _ _ _ => (0, 0)
  | .same g => ((groups[g]?).getD none).getD (0, 0)
  | .ifGroup _ yes none => (0, (width groups yes).2)
  | .ifGroup _ yes (some no) =>
    let a := width groups yes
    let b := width groups no
    (min a.1 b.1, max a.2 b.2)

/-- The width of parts in a row. -/
def widthSeq (groups : List (Option (Nat × Nat))) : List Pattern → Nat × Nat
  | [] => (0, 0)
  | p :: rest =>
    let a := width groups p
    let b := widthSeq groups rest
    (a.1 + b.1, a.2 + b.2)

/-- The width of choices. -/
def widthAlt (groups : List (Option (Nat × Nat))) : List Pattern → Nat × Nat
  | [] => (widthLimit, 0)
  | p :: rest =>
    let a := width groups p
    let b := widthAlt groups rest
    (min a.1 b.1, max a.2 b.2)

end

end Pattern

end JavadocAudit
