import JavadocAudit.Command.Arguments
import JavadocAudit.Settings

/-!
# Flags

A toggle has a flag that turns it on, and one that turns it off.  The flag that turns it on may also have
a truth value attached; before the options are read, it is replaced by the one or the other flag.
-/

namespace JavadocAudit

namespace Toggle

/-- The name of a toggle with hyphens. -/
def stem (t : Toggle) : String := t.name.map fun c => if c == '_' then '-' else c

/-- The flag that turns a toggle on. -/
def flag (t : Toggle) : String := "--" ++ t.stem

/-- The flag that turns a toggle off. -/
def offFlag (t : Toggle) : String := "--no-" ++ t.stem

/-- The flag for a state of a toggle. -/
def flagFor (t : Toggle) (on : Bool) : String := if on then t.flag else t.offFlag

/-- The toggle that a flag turns on. -/
def ofFlag? (name : String) : Option Toggle := all.find? (·.flag == name)

/-- The toggle that a flag turns off. -/
def ofOffFlag? (name : String) : Option Toggle := all.find? (·.offFlag == name)

end Toggle

namespace Command

/-- The words for yes. -/
def yesWords : List String := ["true", "yes", "on", "1"]

/-- The words for no. -/
def noWords : List String := ["false", "no", "off", "0"]

/-- The truth value that a word spells, in any case of letters. -/
def boolean? (word : String) : Option Bool :=
  let lowered := word.map Char.toLower
  if yesWords.contains lowered then some true
  else if noWords.contains lowered then some false
  else none

/-- A word in which a truth value is attached to the flag of a toggle. -/
def flagWithValue? (word : String) : Option (Toggle × String) :=
  match splitEquals? word with
  | some (name, value) => (Toggle.ofFlag? name).map fun t => (t, value)
  | none => none

/-- A word with the truth value resolved. -/
def expandWord (word : String) : Except ArgumentFault String :=
  match flagWithValue? word with
  | none => .ok word
  | some (t, value) =>
    match boolean? value with
    | some on => .ok (t.flagFor on)
    | none => .error (.notBoolean value)

/-- A command line with the truth values of flags resolved, up to the end of the options. -/
def expandFlags : List String → Except ArgumentFault (List String)
  | [] => .ok []
  | word :: rest =>
    if word == dashesText then .ok (word :: rest)
    else
      match expandWord word with
      | .error fault => .error fault
      | .ok expanded =>
        match expandFlags rest with
        | .error fault => .error fault
        | .ok more => .ok (expanded :: more)

end Command

end JavadocAudit
