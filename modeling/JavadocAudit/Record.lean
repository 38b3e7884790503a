import JavadocAudit.Report
import JavadocAudit.Settings

/-!
# Records as values

Constructs, findings and reports are exchanged as values.  A record is refused if a field lacks, has the
wrong kind or names no kind of constructs.  Numbers are accepted in any form that denotes a whole one.
-/

namespace JavadocAudit

namespace Value

/-- The whole number that a value denotes. -/
def asWhole? : Value → Option Int
  | .int n => some n
  | .bool b => some (if b then 1 else 0)
  | .float x =>
    if x.floor == x && x.abs < 9223372036854775808.0 then some x.toInt64.toInt else none
  | .text s => Text.wholeNumber? s
  | _ => none

/-- A field that may be missing, with the value it has then. -/
def fieldOr {α : Type} (v : Value) (name : String) (default : α) (read : Value → Option α) :
    Option α :=
  match v.field? name with
  | some field => read field
  | none => some default

/-- A number that may be missing or null. -/
def numberField? (v : Value) (name : String) : Option (Option Int) :=
  v.fieldOr name none fun
    | .null => some none
    | field => field.asWhole?.map some

/-- The truth value that a value denotes. -/
def asBoolean? (v : Value) : Option Bool :=
  match Settings.readBoolean v with
  | .good b => some b
  | _ => none

/-- A list whose items are all read. -/
def asListOf? {α : Type} (read : Value → Option α) (v : Value) : Option (List α) :=
  match v with
  | .list items => items.mapM read
  | _ => none

/-- A number that may be missing, as a value. -/
def ofNumber? : Option Int → Value
  | some n => .int n
  | none => .null

end Value

/-- Reads a kind of constructs. -/
def ConstructKind.ofValue? (v : Value) : Option ConstructKind := v.asText?.bind ConstructKind.ofName?

/-- Reads a visibility. -/
def Visibility.ofValue? (v : Value) : Option Visibility := v.asText?.bind Visibility.ofName?

/-- Reads a construct. -/
def Construct.ofValue? (v : Value) : Option Construct := do
  let kind ← ConstructKind.ofValue? (← v.field? "kind")
  let name ← (← v.field? "simple_name").asText?
  let visibility ← v.fieldOr "visibility" .packageLevel Visibility.ofValue?
  let overrides ← v.fieldOr "is_override_annotated" false Value.asBoolean?
  return { kind, name, visibility, overrides }

/-- Reads a finding. -/
def Finding.ofValue? (v : Value) : Option Finding := do
  let path ← (← v.field? "path").asText?
  let line ← v.numberField? "line"
  let column ← v.numberField? "column"
  let name ← (← v.field? "construct_name").asText?
  let kind ← ConstructKind.ofValue? (← v.field? "kind")
  return { path, line, column, name, kind }

/-- A finding as a value. -/
def Finding.toValue (f : Finding) : Value :=
  .object [("path", .text f.path), ("line", Value.ofNumber? f.line),
    ("column", Value.ofNumber? f.column), ("construct_name", .text f.name),
    ("kind", .text f.kind.name)]

/-- Reads an error of a file. -/
def FileError.ofValue? (v : Value) : Option FileError := do
  let path ← (← v.field? "path").asText?
  let message ← (← v.field? "message").asText?
  return { path, message }

/-- An error of a file as a value. -/
def FileError.toValue (e : FileError) : Value :=
  .object [("path", .text e.path), ("message", .text e.message)]

/-- Reads a report. -/
def Report.ofValue? (v : Value) : Option Report :=
  match v with
  | .object _ => do
    let files ← v.fieldOr "files" [] (Value.asListOf? Value.asText?)
    let findings ← v.fieldOr "findings" [] (Value.asListOf? Finding.ofValue?)
    let errors ← v.fieldOr "errors" [] (Value.asListOf? FileError.ofValue?)
    return { files, findings, errors }
  | _ => none

/-- A report as a value. -/
def Report.toValue (r : Report) : Value :=
  .object [("files", .list (r.files.map .text)), ("findings", .list (r.findings.map Finding.toValue)),
    ("errors", .list (r.errors.map FileError.toValue))]

end JavadocAudit
