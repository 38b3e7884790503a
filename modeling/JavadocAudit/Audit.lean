import JavadocAudit.Finding
import JavadocAudit.Policy
import JavadocAudit.Text.Template

/-!
# Auditing a source file

Each site of a file is visited in turn.  A site that is exempt, or documented, is in order; any other one
is a finding.  The visit leaves notes: that the site is visited, and what was found out about it.

A note is printed with the path of its file in front.  The path and the text of the note form one message
template, whose slots take the names in the note; a note whose template does not fit them is not printed.
-/

namespace JavadocAudit

/-- A note about a site. -/
inductive Note where
  | visiting (kind : ConstructKind) (name : String)
  | trivialProperty (name : String) (property : Property)
  | notRequired (name : String) (reason : String)
  | missing (name : String)
  deriving DecidableEq, Inhabited

namespace Note

/-- The text of a note, with slots. -/
def template : Note → String
  | .visiting .. => "visiting %s %s"
  | .trivialProperty .. => "%s is a trivial %s for %s"
  | .notRequired .. => "not required: %s (%s)"
  | .missing _ => "missing documentation: %s"

/-- What goes into the slots of a note. -/
def arguments : Note → List String
  | .visiting kind name => [kind.name, name]
  | .trivialProperty name property => [name, property.kind.name, property.name]
  | .notRequired name reason => [name, reason]
  | .missing name => [name]

/-- The line that a note about a file prints. -/
def line? (path : String) (note : Note) : Option String :=
  Text.fill? (path ++ ": " ++ note.template) note.arguments

end Note

namespace Audit

/-- The notes on an exemption. -/
def exemptionNotes (name : String) (e : Exemption) : List Note :=
  match e with
  | .trivialProperty property => [.trivialProperty name property, .notRequired name e.reason]
  | _ => [.notRequired name e.reason]

/-- The notes of the visit to a site. -/
def siteNotes (settings : Settings) (s : Site) : List Note :=
  .visiting s.construct.kind s.construct.name ::
    match Policy.ruling? settings s with
    | some e => exemptionNotes s.construct.name e
    | none => if s.documented then [] else [.missing s.construct.name]

/-- The site lacks documentation that it needs. -/
def isFinding (settings : Settings) (s : Site) : Bool :=
  (Policy.ruling? settings s).isNone && !s.documented

/-- The finding of a site of a file. -/
def finding (path : String) (s : Site) : Finding where
  path := path
  line := some s.line
  column := some s.column
  name := s.construct.name
  kind := s.construct.kind

/-- The findings of a file in the order of the visits. -/
def visited (settings : Settings) (unit : CompilationUnit) : List Finding :=
  (unit.sites.filter (isFinding settings)).map (finding unit.path)

/-- The findings of a file. -/
def findings (settings : Settings) (unit : CompilationUnit) : List Finding :=
  Finding.sorted (visited settings unit)

/-- The notes of the visits to a file. -/
def notes (settings : Settings) (unit : CompilationUnit) : List Note :=
  unit.sites.flatMap (siteNotes settings)

/-- The lines that the visits to a file print. -/
def log (settings : Settings) (unit : CompilationUnit) : List String :=
  (notes settings unit).filterMap (·.line? unit.path)

end Audit

end JavadocAudit
