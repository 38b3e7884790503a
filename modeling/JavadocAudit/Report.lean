import JavadocAudit.Finding

/-!
# Reports

A report holds the files that a run has checked, the findings in them, and the files that could not be
parsed.
-/

namespace JavadocAudit

/-- A file that could not be parsed, and why. -/
structure FileError where
  path : String
  message : String
  deriving DecidableEq, Inhabited

/-- The outcome of a run. -/
structure Report where
  files : List String := []
  findings : List Finding := []
  errors : List FileError := []
  deriving DecidableEq, Inhabited

namespace Report

/-- Two if some file could not be parsed, else one if there are findings, else zero. -/
def exitCode (r : Report) : Nat :=
  if !r.errors.isEmpty then 2 else if !r.findings.isEmpty then 1 else 0

end Report

end JavadocAudit
