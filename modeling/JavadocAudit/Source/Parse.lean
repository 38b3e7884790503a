import JavadocAudit.Site
import JavadocAudit.Source.Grammar

/-!
# Parsing source files

A source file parses if its tree holds no fault.  The error otherwise names the place of the first one.
-/

namespace JavadocAudit

/-- A file that does not parse, with the place of the fault if it is known. -/
structure ParseError where
  path : String
  line : Option Int := none
  column : Option Int := none
  deriving DecidableEq, Inhabited

/-- The wording of an error. -/
def ParseError.message (e : ParseError) : String :=
  match e.line with
  | none => e.path ++ ": syntax error"
  | some line =>
    e.path ++ ":" ++ toString line ++ ":" ++
      (match e.column with | some column => toString column | none => "None") ++ ": syntax error"

namespace CompilationUnit

/-- The unit of a tree without faults. -/
def ofTree (path : String) (root : Node) : Except ParseError CompilationUnit :=
  if root.hasFault then
    match root.firstFault? with
    | some fault => .error ⟨path, some fault.span.line, some fault.span.column⟩
    | none => .error ⟨path, none, none⟩
  else .ok ⟨path, root⟩

/-- Parses the bytes of a source file. -/
def parse (path : String) (bytes : List UInt8) : Except ParseError CompilationUnit :=
  ofTree path (Grammar.parse (Text.glyphs bytes))

end CompilationUnit

end JavadocAudit
