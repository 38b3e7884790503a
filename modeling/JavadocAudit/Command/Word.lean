import JavadocAudit.Text.Numeral
import JavadocAudit.Text.Quoted
import JavadocAudit.Text.Affix

/-!
# Words of a command line

A command line is a list of words.  A word by itself is the name of an option, perhaps shortened and
perhaps with something attached to it, or two dashes, which end the options, or plain.  A name may be
shortened as long as only one option begins like that.
-/

namespace JavadocAudit.Command

/-- An option: its names, and whether a value belongs to it. -/
structure OptionForm where
  names : List String
  takesValue : Bool
  deriving DecidableEq, Inhabited

/-- How messages name an option. -/
def OptionForm.title (form : OptionForm) : String := "/".intercalate form.names

/-- Why a command line is refused. -/
inductive ArgumentFault where
  | ambiguous (word : String) (names : List String)
  | missingValue (title : String)
  | unwantedValue (title value : String)
  | notWhole (title value : String)
  | notBoolean (value : String)
  | unrecognized (words : List String)
  deriving DecidableEq, Inhabited

/-- The wording of a fault. -/
def ArgumentFault.message : ArgumentFault → String
  | .ambiguous word names => "ambiguous option: " ++ word ++ " could match " ++ ", ".intercalate names
  | .missingValue title => "argument " ++ title ++ ": expected one argument"
  | .unwantedValue title value =>
    "argument " ++ title ++ ": ignored explicit argument " ++ Text.quoted value
  | .notWhole title value => "argument " ++ title ++ ": invalid int value: " ++ Text.quoted value
  | .notBoolean value => "expected a boolean, got " ++ Text.quoted value
  | .unrecognized words => "unrecognized arguments: " ++ " ".intercalate words

/-- What is attached to the name of an option: nothing, a value after an equals sign, or more letters
after a name of one letter. -/
inductive Attached where
  | nothing
  | value (text : String)
  | letters (text : List Char)
  deriving DecidableEq, Inhabited

/-- A word by itself. -/
inductive Word where
  | plain (text : String)
  | dashes
  | option (form : OptionForm) (name : String) (attached : Attached)
  | unknown (text : String)
  deriving DecidableEq, Inhabited

/-- The word that ends the options. -/
def dashesText : String := "--"

/-- What stands before and after the first equals sign. -/
def splitEquals? (word : String) : Option (String × String) :=
  match word.toList.dropWhile (· != '=') with
  | [] => none
  | _ :: value => some (String.ofList (word.toList.takeWhile (· != '=')), String.ofList value)

/-- The option with a name. -/
def form? (forms : List OptionForm) (name : String) : Option OptionForm :=
  forms.find? (·.names.contains name)

/-- All names, in the order of the options. -/
def spellings (forms : List OptionForm) : List (OptionForm × String) :=
  forms.flatMap fun form => form.names.map fun name => (form, name)

/-- Digits, or digits with one point before the last ones. -/
def isNumeral (s : List Char) : Bool :=
  let tail := s.dropWhile Text.isDecimal
  match tail with
  | [] => !s.isEmpty
  | '.' :: places => !places.isEmpty && places.all Text.isDecimal
  | _ => false

/-- A negative number, which may be followed by the end of a line. -/
def isNegativeNumber : List Char → Bool
  | '-' :: s => isNumeral (if s.getLast? == some '\n' then s.dropLast else s)
  | _ => false

/-- The options that a word with two dashes in front may shorten. -/
def longCandidates (forms : List OptionForm) (word : String) : List (OptionForm × String × Attached) :=
  let (stem, attached) := match splitEquals? word with
    | some (name, value) => (name, Attached.value value)
    | none => (word, Attached.nothing)
  ((spellings forms).filter fun s => Text.opensWith stem s.2).map fun s => (s.1, s.2, attached)

/-- The options that a word with one dash in front may stand for: the one named by its first letter, with
more letters attached, and those that it shortens. -/
def shortCandidates (forms : List OptionForm) (word : String) : List (OptionForm × String × Attached) :=
  (spellings forms).filterMap fun s =>
    if s.2 == String.ofList (word.toList.take 2) then
      some (s.1, s.2, Attached.letters (word.toList.drop 2))
    else if Text.opensWith word s.2 then some (s.1, s.2, Attached.nothing)
    else none

/-- The options that a word may stand for. -/
def candidates (forms : List OptionForm) (word : String) : List (OptionForm × String × Attached) :=
  if Text.opensWith dashesText word then longCandidates forms word else shortCandidates forms word

/-- The option whose full name stands before an equals sign. -/
def withValue? (forms : List OptionForm) (word : String) : Option Word :=
  match splitEquals? word with
  | some (name, value) => (form? forms name).map fun form => .option form name (.value value)
  | none => none

/-- A word that begins with a dash and is no full name. -/
def Word.ofDashed (forms : List OptionForm) (word : String) : Except ArgumentFault Word :=
  match withValue? forms word with
  | some w => .ok w
  | none =>
    match candidates forms word with
    | [(form, name, attached)] => .ok (.option form name attached)
    | [] =>
      if isNegativeNumber word.toList || Text.holds ' ' word then .ok (.plain word)
      else .ok (.unknown word)
    | several => .error (.ambiguous word (several.map (·.2.1)))

/-- What a word is, before the options end. -/
def Word.ofText (forms : List OptionForm) (word : String) : Except ArgumentFault Word :=
  if !Text.opensWith "-" word then .ok (.plain word)
  else
    match form? forms word with
    | some form => .ok (.option form word .nothing)
    | none => if word == "-" then .ok (.plain word) else Word.ofDashed forms word

/-- What the words are: up to two dashes each by itself, and plain after that. -/
def Word.ofTexts (forms : List OptionForm) : List String → Except ArgumentFault (List Word)
  | [] => .ok []
  | word :: rest =>
    if word == dashesText then .ok (.dashes :: rest.map .plain)
    else
      match Word.ofText forms word, Word.ofTexts forms rest with
      | .error fault, _ => .error fault
      | .ok _, .error fault => .error fault
      | .ok w, .ok ws => .ok (w :: ws)

end JavadocAudit.Command
