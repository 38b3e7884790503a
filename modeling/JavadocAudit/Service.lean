import JavadocAudit.Check
import JavadocAudit.Record
import JavadocAudit.Summary
import JavadocAudit.Value.Reader

/-!
# The service

A request is the text of a value with the paths to check and the settings.  The answer has a status: 200
with the findings, the errors and their summary; 400 for a path that does not exist; 422 with all faults
of a request that cannot be read.
-/

namespace JavadocAudit

namespace Service

/-- A step on the way to a faulty part of a request. -/
inductive Step where
  | name (s : String)
  | index (n : Nat)
  deriving DecidableEq, Inhabited

/-- A step as a value. -/
def Step.toValue : Step → Value
  | .name s => .text s
  | .index n => .int n

/-- A fault of a request: its sort, where it is and what it says. -/
structure Fault where
  sort : String
  place : List Step
  message : String
  deriving DecidableEq, Inhabited

/-- A fault as a value. -/
def Fault.toValue (f : Fault) : Value :=
  .object [("type", .text f.sort), ("loc", .list ((.text "body") :: f.place.map Step.toValue)),
    ("msg", .text f.message)]

/-- The fault of a part that has to be an object. -/
def Fault.notObject (place : List Step) : Fault :=
  ⟨"model_attributes_type", place,
    "Input should be a valid dictionary or object to extract fields from"⟩

/-- The fault of a request that says nothing. -/
def Fault.missing : Fault := ⟨"missing", [], "Field required"⟩

/-- The fault of a text that is no value, at an offset. -/
def Fault.unreadable (offset : Nat) : Fault := ⟨"json_invalid", [.index offset], "JSON decode error"⟩

/-- An answer. -/
structure Response where
  status : Nat
  body : Value

/-- The answer to a request with faults. -/
def Response.ofFaults (faults : List Fault) : Response :=
  ⟨422, .object [("detail", .list (faults.map Fault.toValue))]⟩

/-! ### Reading requests -/

/-- The name of the field with the paths. -/
def pathsName : String := "paths"

/-- The name of the field with the settings. -/
def settingsName : String := "config"

/-- The faults of the items of a list of texts, from an index on. -/
def itemFaults : Nat → List Value → List Fault
  | _, [] => []
  | index, item :: rest =>
    (match item with
      | .text _ => []
      | _ => [⟨"string_type", [.name pathsName, .index index], "Input should be a valid string"⟩]) ++
      itemFaults (index + 1) rest

/-- The paths of a request. -/
def paths (request : Value) : List Value :=
  match request.field? pathsName with
  | some (.list items) => items
  | _ => []

/-- The faults of the paths. -/
def pathFaults (request : Value) : List Fault :=
  match request.field? pathsName with
  | none => []
  | some (.list items) => itemFaults 0 items
  | some _ => [⟨"list_type", [.name pathsName], "Input should be a valid list"⟩]

/-- The settings of a request; none are given if the field is missing. -/
def settingsValue (request : Value) : Value := (request.field? settingsName).getD (.object [])

/-- The faults of the settings. -/
def settingsFaults (names : Text.NameTable) (request : Value) : List Fault :=
  match settingsValue request with
  | .object fields =>
    (Settings.faults names (.object fields)).map fun (field, fault) =>
      ⟨fault.sortName, [.name settingsName, .name field], fault.message⟩
  | _ => [Fault.notObject [.name settingsName]]

/-- All faults of a request that is an object. -/
def faults (names : Text.NameTable) (request : Value) : List Fault :=
  pathFaults request ++ settingsFaults names request

/-! ### Answering -/

/-- A table of counts as a value. -/
def tallyValue (t : Tally) : Value := .object (t.map fun (key, n) => (key, .int n))

/-- A summary as a value. -/
def summaryValue (s : Summary) : Value :=
  .object [("total", .int s.total), ("per_kind", tallyValue s.perKind),
    ("per_file", tallyValue s.perFile), ("files_checked", .int s.filesChecked),
    ("files_failed", .int s.filesFailed)]

/-- The answer with the report of a run. -/
def Response.ofReport (r : Report) : Response :=
  ⟨200, .object [("findings", .list (r.findings.map Finding.toValue)),
    ("errors", .list (r.errors.map FileError.toValue)),
    ("summary", summaryValue (Summary.ofReport r)), ("exit_code", .int r.exitCode)]⟩

/-- The answer to a path that does not exist. -/
def Response.ofInputError (e : InputError) : Response := ⟨400, .object [("detail", .text e.message)]⟩

/-- Answers an object; there is no answer to a pattern that counts beyond all limits. -/
def answerObject (names : Text.NameTable) (d : Disk) (request : Value) : Option Response :=
  if Settings.overflows names (settingsValue request) then none
  else
    match faults names request, Settings.load names (settingsValue request) with
    | [], .ok settings =>
      match Check.paths d settings ((paths request).filterMap Value.asText?) with
      | .error e => some (Response.ofInputError e)
      | .ok outcome => some (Response.ofReport outcome.report)
    | found, _ => some (Response.ofFaults found)

/-- Answers a value. -/
def answerValue (names : Text.NameTable) (d : Disk) (request : Value) : Option Response :=
  match request with
  | .null => some (Response.ofFaults [Fault.missing])
  | .object fields => answerObject names d (.object fields)
  | _ => some (Response.ofFaults [Fault.notObject []])

/-- The text without the mark of its byte order. -/
def withoutMark (text : String) : String :=
  match text.toList with
  | c :: rest => if c.toNat == 0xFEFF then String.ofList rest else text
  | [] => text

/-- Answers the text of a request. -/
def answer (names : Text.NameTable) (d : Disk) (text : String) : Option Response :=
  if text.isEmpty then some (Response.ofFaults [Fault.missing])
  else
    match Value.read (withoutMark text) with
    | .error offset => some (Response.ofFaults [Fault.unreadable offset])
    | .ok request => answerValue names d request

end Service

end JavadocAudit
