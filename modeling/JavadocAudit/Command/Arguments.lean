import JavadocAudit.Command.Word

/-!
# Arguments

The words of a command line are read from left to right.  An option that takes a value has it attached or
takes the next word, which has to be plain.  The first group of plain words that stand side by side are
the operands; plain words after that and words that name no option are left over.
-/

namespace JavadocAudit.Command

/-- An option that was given, by its full name. -/
structure Occurrence where
  name : String
  value : Option String := none
  deriving DecidableEq, Inhabited

/-- What a command line says up to where its reading stops. -/
structure Arguments where
  occurrences : List Occurrence := []
  operands : List String := []
  leftover : List String := []
  fault : Option ArgumentFault := none
  deriving DecidableEq, Inhabited

/-- One option word, read: it is refused, or gives options and leaves letters over, or still wants
a value. -/
inductive OptionReading where
  | refused (fault : ArgumentFault)
  | complete (given : List Occurrence) (leftover : List String)
  | wanting (given : List Occurrence) (form : OptionForm) (name : String)
  deriving DecidableEq, Inhabited

namespace OptionReading

/-- An option and something attached that is a value or nothing. -/
def single (given : List Occurrence) (form : OptionForm) (name : String) : Option String → OptionReading
  | none => if form.takesValue then .wanting given form name else .complete (given ++ [⟨name, none⟩]) []
  | some value =>
    if form.takesValue then .complete (given ++ [⟨name, some value⟩]) []
    else .refused (.unwantedValue form.title value)

/-- An option of one letter with more letters attached.  They are its value if it takes one, after an
equals sign that may stand between, and name options of one letter otherwise. -/
def letters (forms : List OptionForm) (given : List Occurrence) (form : OptionForm) (name : String) :
    List Char → OptionReading
  | [] => single given form name none
  | c :: rest =>
    if c == '=' then single given form name (some (String.ofList rest))
    else if form.takesValue || c == '-' then single given form name (some (String.ofList (c :: rest)))
    else
      match form? forms (String.ofList ['-', c]) with
      | some next => letters forms (given ++ [⟨name, none⟩]) next (String.ofList ['-', c]) rest
      | none => .complete (given ++ [⟨name, none⟩]) [String.ofList ('-' :: c :: rest)]

/-- An option with what is attached to it. -/
def ofAttached (forms : List OptionForm) (form : OptionForm) (name : String) : Attached → OptionReading
  | .nothing => single [] form name none
  | .value text => single [] form name (some text)
  | .letters text => letters forms [] form name text

end OptionReading

/-- How far the group of operands has come. -/
inductive Group where
  | ahead
  | begun
  | over
  deriving DecidableEq, Inhabited

/-- The group after an option. -/
def Group.afterOption : Group → Group
  | .ahead => .ahead
  | _ => .over

/-- An option that waits for its value, after others of the same word. -/
structure Waiting where
  given : List Occurrence
  form : OptionForm
  name : String

namespace Arguments

/-- One more operand in front. -/
def consOperand (word : String) (a : Arguments) : Arguments := { a with operands := word :: a.operands }

/-- Some more words left over in front. -/
def withLeftover (words : List String) (a : Arguments) : Arguments :=
  { a with leftover := words ++ a.leftover }

/-- Some more options in front. -/
def withGiven (given : List Occurrence) (a : Arguments) : Arguments :=
  { a with occurrences := given ++ a.occurrences }

/-- The reading stops at a fault. -/
def refused (fault : ArgumentFault) : Arguments := { fault := some fault }

/-- Reads words, with the group of operands and the option that waits for its value. -/
def ofWords (forms : List OptionForm) : Group → Option Waiting → List Word → Arguments
  | _, none, [] => {}
  | _, some waiting, [] => refused (.missingValue waiting.form.title)
  | group, some waiting, .plain text :: rest =>
    (ofWords forms group none rest).withGiven (waiting.given ++ [⟨waiting.name, some text⟩])
  | _, some waiting, _ :: _ => refused (.missingValue waiting.form.title)
  | .over, none, .plain text :: rest => (ofWords forms .over none rest).withLeftover [text]
  | _, none, .plain text :: rest => (ofWords forms .begun none rest).consOperand text
  | .over, none, .dashes :: rest => (ofWords forms .over none rest).withLeftover [dashesText]
  | _, none, .dashes :: rest => (ofWords forms .begun none rest).consOperand dashesText
  | group, none, .unknown text :: rest =>
    (ofWords forms group.afterOption none rest).withLeftover [text]
  | group, none, .option form name attached :: rest =>
    match OptionReading.ofAttached forms form name attached with
    | .refused fault => refused fault
    | .complete given leftover =>
      ((ofWords forms group.afterOption none rest).withLeftover leftover).withGiven given
    | .wanting given form name => ofWords forms group.afterOption (some ⟨given, form, name⟩) rest

/-- Reads a command line whose operands make up one group, or that has none.  The two dashes that end the
options are no operand. -/
def read (forms : List OptionForm) (takesOperands : Bool) (line : List String) : Arguments :=
  match Word.ofTexts forms line with
  | .error fault => refused fault
  | .ok words =>
    let a := ofWords forms (if takesOperands then .ahead else .over) none words
    { a with operands := a.operands.erase dashesText }

/-- The fault at which the reading stopped, or else that words are left over. -/
def fault? (a : Arguments) : Option ArgumentFault :=
  match a.fault with
  | some fault => some fault
  | none => if a.leftover.isEmpty then none else some (.unrecognized a.leftover)

end Arguments

end JavadocAudit.Command
