import JavadocAudit.Construct
import JavadocAudit.Path

/-!
# Findings

A finding is a construct without documentation, at a line and column of a file, or a directory without a
description of its package, which has no line.  Findings are ordered by path, line and column.
-/

namespace JavadocAudit

/-- A construct that lacks documentation. -/
structure Finding where
  path : String
  line : Option Int := none
  column : Option Int := none
  name : String
  kind : ConstructKind
  deriving DecidableEq, Inhabited

namespace Finding

/-- The key of the order of findings. -/
def sortKey (f : Finding) : String × Int × Int := (f.path, f.line.getD 0, f.column.getD 0)

/-- `a` comes before `b` in the order of keys, or their keys are equal. -/
def keyLe (a b : String × Int × Int) : Bool :=
  a.1 < b.1 || (a.1 == b.1 && (a.2.1 < b.2.1 || (a.2.1 == b.2.1 && a.2.2 ≤ b.2.2)))

/-- The findings in order; those with one key keep their order. -/
def sorted (fs : List Finding) : List Finding :=
  fs.mergeSort fun a b => keyLe a.sortKey b.sortKey

/-- What a finding says. -/
def message (f : Finding) : String :=
  match f.line with
  | none => "missing package documentation: no file package-info.java"
  | some _ => "missing documentation for " ++ f.name

/-- The path of a finding as it is shown: as it is, or relative to the directory `start` if it is
absolute. -/
def displayPath (cwd start : String) (relative : Bool) (p : String) : String :=
  if relative && Path.isAbsolute p then Path.relativeTo cwd start p else p

/-- A number that may be missing. -/
def numberText : Option Int → String
  | some n => toString n
  | none => "None"

/-- A finding on one line, its path as shown. -/
def textAt (shown : String) (f : Finding) : String :=
  match f.line with
  | none => shown ++ ": " ++ f.message
  | some line => shown ++ ":" ++ toString line ++ ":" ++ numberText f.column ++ ": " ++ f.message

/-- A finding on one line. -/
def text (cwd start : String) (relative : Bool) (f : Finding) : String :=
  textAt (displayPath cwd start relative f.path) f

end Finding

end JavadocAudit
