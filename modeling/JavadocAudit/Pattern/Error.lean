import JavadocAudit.Text.Quoted
import JavadocAudit.Text.Affix
import JavadocAudit.Text.WholeNumber

/-!
# Faults of patterns

Why a text is no pattern, and at which character.
-/

namespace JavadocAudit

/-- What is wrong with a pattern. -/
inductive PatternFault where
  | escapeAtEnd
  | incompleteEscape (escape : String)
  | badEscape (escape : String)
  | octalTooLarge (escape : String)
  | missingBrace
  | missingName (what : String)
  | unterminatedName (terminator : String)
  | unknownCharacterName (name : String)
  | openGroup
  | groupOfLookbehind
  | invalidGroup (number : Nat)
  | unterminatedSet
  | badRange (low high : String)
  | repeatOrder
  | nothingToRepeat
  | multipleRepeat
  | unexpectedEnd
  | badGroupName (name : String)
  | unknownGroupName (name : String)
  | badGroupNumber
  | redefinedGroup (name : String) (group old : Nat)
  | unknownExtension (text : String)
  | unterminatedComment
  | unterminatedGroup
  | tooManyBranches
  | misplacedFlags
  | localeFlag
  | alphabetFlags
  | missingFlagEnd
  | unknownFlag
  | globalFlagOn
  | missingFlag
  | alphabetFlagOff
  | missingColon
  | globalFlagOff
  | flagOnAndOff
  | unbalanced
  | variableLookbehind
  | deepLookbehind
  | templateRepeat (operator : String)
  | alphabetClash
  | numberTooLong (digits : Nat)
  | repeatTooLarge
  deriving DecidableEq, Inhabited

/-- The wording of a fault. -/
def PatternFault.message : PatternFault → String
  | .escapeAtEnd => "bad escape (end of pattern)"
  | .incompleteEscape escape => "incomplete escape " ++ escape
  | .badEscape escape => "bad escape " ++ escape
  | .octalTooLarge escape => "octal escape value " ++ escape ++ " outside of range 0-0o377"
  | .missingBrace => "missing \x7b"
  | .missingName what => "missing " ++ what
  | .unterminatedName terminator => "missing " ++ terminator ++ ", unterminated name"
  | .unknownCharacterName name => "undefined character name " ++ Text.quoted name
  | .openGroup => "cannot refer to an open group"
  | .groupOfLookbehind => "cannot refer to group defined in the same lookbehind subpattern"
  | .invalidGroup number => "invalid group reference " ++ toString number
  | .unterminatedSet => "unterminated character set"
  | .badRange low high => "bad character range " ++ low ++ "-" ++ high
  | .repeatOrder => "min repeat greater than max repeat"
  | .nothingToRepeat => "nothing to repeat"
  | .multipleRepeat => "multiple repeat"
  | .unexpectedEnd => "unexpected end of pattern"
  | .badGroupName name => "bad character in group name " ++ Text.quoted name
  | .unknownGroupName name => "unknown group name " ++ Text.quoted name
  | .badGroupNumber => "bad group number"
  | .redefinedGroup name group old =>
    "redefinition of group name " ++ Text.quoted name ++ " as group " ++ toString group ++
      "; was group " ++ toString old
  | .unknownExtension text => "unknown extension " ++ text
  | .unterminatedComment => "missing ), unterminated comment"
  | .unterminatedGroup => "missing ), unterminated subpattern"
  | .tooManyBranches => "conditional backref with more than two branches"
  | .misplacedFlags => "global flags not at the start of the expression"
  | .localeFlag => "bad inline flags: cannot use 'L' flag with a str pattern"
  | .alphabetFlags => "bad inline flags: flags 'a', 'u' and 'L' are incompatible"
  | .missingFlagEnd => "missing -, : or )"
  | .unknownFlag => "unknown flag"
  | .globalFlagOn => "bad inline flags: cannot turn on global flag"
  | .missingFlag => "missing flag"
  | .alphabetFlagOff => "bad inline flags: cannot turn off flags 'a', 'u' and 'L'"
  | .missingColon => "missing :"
  | .globalFlagOff => "bad inline flags: cannot turn off global flag"
  | .flagOnAndOff => "bad inline flags: flag turned on and off"
  | .unbalanced => "unbalanced parenthesis"
  | .variableLookbehind => "look-behind requires fixed-width pattern"
  | .deepLookbehind => "looks too much behind"
  | .templateRepeat operator => "internal: unsupported template operator " ++ operator
  | .alphabetClash => "ASCII and UNICODE flags are incompatible"
  | .numberTooLong digits =>
    "Exceeds the limit (" ++ toString Text.digitLimit ++
      " digits) for integer string conversion: value has " ++ toString digits ++
      " digits; use sys.set_int_max_str_digits() to increase the limit"
  | .repeatTooLarge => "the repetition number is too large"

/-- The fault does not lie in how the pattern is written, so it is reported by itself, without the
pattern. -/
def PatternFault.isBare : PatternFault → Bool
  | .alphabetClash => true
  | .numberTooLong _ => true
  | _ => false

/-- A fault, and the character of the pattern where it lies if it lies at one. -/
structure PatternError where
  fault : PatternFault
  position : Option Nat := none
  deriving DecidableEq, Inhabited

/-- Line and column, counted from one, of a character of a text. -/
def lineAndColumn (s : String) (position : Nat) : Nat × Nat :=
  let before := s.toList.take position
  (before.count '\n' + 1, (before.reverse.takeWhile (· != '\n')).length + 1)

/-- The wording of an error in the pattern `source`: the fault and its place, with line and column if
the pattern has several lines. -/
def PatternError.message (source : String) (e : PatternError) : String :=
  match e.position with
  | none => e.fault.message
  | some position =>
    let place := e.fault.message ++ " at position " ++ toString position
    if Text.holds '\n' source then
      let (line, column) := lineAndColumn source position
      place ++ " (line " ++ toString line ++ ", column " ++ toString column ++ ")"
    else place

end JavadocAudit
