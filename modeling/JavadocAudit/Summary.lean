import JavadocAudit.Report

/-!
# Summaries

A summary counts the findings of a report by kind and by file.  Its tables are sorted by key.
-/

namespace JavadocAudit

/-- A table of counts. -/
abbrev Tally := List (String × Nat)

namespace Tally

/-- One more of a key; a new key goes before the first greater one. -/
def add (key : String) : Tally → Tally
  | [] => [(key, 1)]
  | (k, n) :: rest =>
    if key == k then (k, n + 1) :: rest
    else if key < k then (key, 1) :: (k, n) :: rest
    else (k, n) :: add key rest

/-- The counts of the keys in a list. -/
def ofList (keys : List String) : Tally := keys.foldl (fun t key => add key t) []

/-- The count of a key. -/
def count (t : Tally) (key : String) : Nat := (t.lookup key).getD 0

end Tally

/-- The counts of a report. -/
structure Summary where
  total : Nat
  perKind : Tally
  perFile : Tally
  filesChecked : Nat
  filesFailed : Nat
  deriving DecidableEq, Inhabited

namespace Summary

/-- The summary of a report. -/
def ofReport (r : Report) : Summary where
  total := r.findings.length
  perKind := Tally.ofList (r.findings.map (·.kind.name))
  perFile := Tally.ofList (r.findings.map (·.path))
  filesChecked := r.files.length
  filesFailed := r.errors.length

/-- A count with its key. -/
def entryText (entry : String × Nat) : String := entry.1 ++ "=" ++ toString entry.2

/-- The lines of a summary: the totals, and if there are findings, their kinds and the number of files
that have some. -/
def lines (s : Summary) : List String :=
  ["Checked " ++ toString s.filesChecked ++ " files: " ++ toString s.total ++ " missing, " ++
      toString s.filesFailed ++ " unparseable"] ++
    (if s.perKind.isEmpty then []
      else ["  By kind: " ++ ", ".intercalate (s.perKind.map entryText)]) ++
    (if s.perFile.isEmpty then []
      else ["  Files with findings: " ++ toString s.perFile.length])

end Summary

end JavadocAudit
