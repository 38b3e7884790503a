import JavadocAudit.Pattern.Matcher
import JavadocAudit.Value.Basic

/-!
# Settings

The settings of a run are two patterns and nine toggles.  They are read from named values: a pattern from
a text, where the empty text and null mean that there is none, and a toggle from a truth value, the
numbers zero and one, or one of twelve words.  Names that mean nothing are passed over.  All faults are
reported together, in the order of the settings.
-/

namespace JavadocAudit

/-- The settings that are on or off. -/
inductive Toggle where
  | exemptPrivate
  | exemptNoargConstructor
  | exemptTrivialProperties
  | exemptType
  | exemptField
  | exemptMethod
  | requirePackageInfo
  | relative
  | verbose
  deriving DecidableEq, Inhabited

namespace Toggle

/-- The toggles, in the order in which they are reported. -/
def all : List Toggle :=
  [.exemptPrivate, .exemptNoargConstructor, .exemptTrivialProperties, .exemptType, .exemptField,
    .exemptMethod, .requirePackageInfo, .relative, .verbose]

/-- The name of a toggle among the settings. -/
def name : Toggle → String
  | .exemptPrivate => "dont_require_private"
  | .exemptNoargConstructor => "dont_require_noarg_constructor"
  | .exemptTrivialProperties => "dont_require_trivial_properties"
  | .exemptType => "dont_require_type"
  | .exemptField => "dont_require_field"
  | .exemptMethod => "dont_require_method"
  | .requirePackageInfo => "require_package_info"
  | .relative => "relative"
  | .verbose => "verbose"

end Toggle

/-- The settings of a run. -/
structure Settings where
  /-- Files and directories whose path matches are not checked. -/
  exclude : Option Matcher := none
  /-- Constructs whose name matches need no documentation. -/
  exemptName : Option Matcher := none
  /-- The toggles that are on. -/
  isOn : Toggle → Bool := fun _ => false

namespace Settings

/-- The settings with nothing turned on. -/
def initial : Settings := {}

/-- The names of the two patterns among the settings. -/
def excludeName : String := "exclude"

/-- The name of the pattern of exempt names. -/
def exemptNameName : String := "dont_require"

/-- A text matches a pattern, if there is one. -/
def matchesText (m : Option Matcher) (s : String) : Bool :=
  match m with
  | some m => m.search s
  | none => false

/-! ### Faults -/

/-- Why a value is refused. -/
inductive FieldFault where
  | badPattern (source : String) (error : PatternError)
  | barePattern (fault : PatternFault)
  | notText (kind : String)
  | unreadableBoolean
  | notBoolean
  deriving DecidableEq, Inhabited

/-- The wording of a fault. -/
def FieldFault.message : FieldFault → String
  | .badPattern source error =>
    "Value error, invalid regular expression " ++ Text.quoted source ++ ": " ++ error.message source
  | .barePattern fault => "Value error, " ++ fault.message
  | .notText kind => "Value error, expected a regular expression string, got " ++ kind
  | .unreadableBoolean => "Input should be a valid boolean, unable to interpret input"
  | .notBoolean => "Input should be a valid boolean"

/-- The name of a fault's sort in answers to requests. -/
def FieldFault.sortName : FieldFault → String
  | .badPattern .. => "value_error"
  | .barePattern _ => "value_error"
  | .notText _ => "value_error"
  | .unreadableBoolean => "bool_parsing"
  | .notBoolean => "bool_type"

/-- Why settings cannot be read: faults of some fields, or a pattern that counts beyond all limits, which
is refused at once. -/
inductive SettingsError where
  | invalid (faults : List (String × FieldFault))
  | repeatTooLarge
  deriving DecidableEq, Inhabited

/-- The wording of an error. -/
def SettingsError.message : SettingsError → String
  | .invalid faults => "; ".intercalate (faults.map fun (field, fault) => field ++ ": " ++ fault.message)
  | .repeatTooLarge => PatternFault.repeatTooLarge.message

/-! ### Single values -/

/-- The outcome of reading one value. -/
inductive FieldResult (α : Type) where
  | good (value : α)
  | bad (fault : FieldFault)
  | overflow

/-- Reads a pattern. -/
def readPattern (names : Text.NameTable) : Value → FieldResult (Option Matcher)
  | .null => .good none
  | .text s =>
    if s.isEmpty then .good none
    else
      match Matcher.compile names s with
      | .ok m => .good (some m)
      | .error e =>
        if e.fault = .repeatTooLarge then .overflow
        else if e.fault.isBare then .bad (.barePattern e.fault)
        else .bad (.badPattern s e)
  | v => .bad (.notText v.kindName)

/-- The words that turn a toggle on. -/
def trueWords : List String := ["1", "on", "t", "true", "y", "yes"]

/-- The words that turn a toggle off. -/
def falseWords : List String := ["0", "off", "f", "false", "n", "no"]

/-- The least and the greatest whole number that is looked at. -/
def wholeLimit : Int := 0x8000000000000000

/-- Reads a truth value. -/
def readBoolean : Value → FieldResult Bool
  | .bool b => .good b
  | .int n =>
    if n == 0 then .good false
    else if n == 1 then .good true
    else if -wholeLimit ≤ n && n < wholeLimit then .bad .unreadableBoolean
    else .bad .notBoolean
  | .float x =>
    if x == 0.0 then .good false
    else if x == 1.0 then .good true
    else if x.floor == x && x.abs < 9223372036854775808.0 then .bad .unreadableBoolean
    else .bad .notBoolean
  | .text s =>
    let word := s.map Char.toLower
    if trueWords.contains word then .good true
    else if falseWords.contains word then .good false
    else .bad .unreadableBoolean
  | _ => .bad .notBoolean

/-- The outcome of a field that may be missing. -/
def readField {α : Type} (read : Value → FieldResult α) (default : α) (options : Value)
    (name : String) : FieldResult α :=
  match options.field? name with
  | some v => read v
  | none => .good default

/-! ### All values -/

/-- The fault of a field, if it has one. -/
def FieldResult.fault? {α : Type} : FieldResult α → Option FieldFault
  | .bad fault => some fault
  | _ => none

/-- The field counts beyond all limits. -/
def FieldResult.isOverflow {α : Type} : FieldResult α → Bool
  | .overflow => true
  | _ => false

/-- The value of a field that was read. -/
def FieldResult.getD {α : Type} (default : α) : FieldResult α → α
  | .good value => value
  | _ => default

/-- The outcome of the pattern with a name. -/
def patternField (names : Text.NameTable) (options : Value) (name : String) :
    FieldResult (Option Matcher) :=
  readField (readPattern names) none options name

/-- The outcome of a toggle. -/
def toggleField (options : Value) (t : Toggle) : FieldResult Bool :=
  readField readBoolean false options t.name

/-- The faults of all fields, in order. -/
def faults (names : Text.NameTable) (options : Value) : List (String × FieldFault) :=
  [excludeName, exemptNameName].filterMap (fun name =>
      (patternField names options name).fault?.map fun fault => (name, fault)) ++
    Toggle.all.filterMap fun t => (toggleField options t).fault?.map fun fault => (t.name, fault)

/-- Some pattern counts beyond all limits. -/
def overflows (names : Text.NameTable) (options : Value) : Bool :=
  [excludeName, exemptNameName].any fun name => (patternField names options name).isOverflow

/-- Reads settings from named values. -/
def load (names : Text.NameTable) (options : Value) : Except SettingsError Settings :=
  if overflows names options then .error .repeatTooLarge
  else
    match faults names options with
    | [] =>
      .ok {
        exclude := (patternField names options excludeName).getD none
        exemptName := (patternField names options exemptNameName).getD none
        isOn := fun t => (toggleField options t).getD false }
    | bad => .error (.invalid bad)

/-- The named values of a pattern. -/
def patternValue : Option Matcher → Value
  | some m => .text m.source
  | none => .null

/-- The settings as named values. -/
def toValue (s : Settings) : Value :=
  .object ([(excludeName, patternValue s.exclude), (exemptNameName, patternValue s.exemptName)] ++
    Toggle.all.map fun t => (t.name, .bool (s.isOn t)))

end Settings

end JavadocAudit
