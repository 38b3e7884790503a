import JavadocAudit.Audit
import JavadocAudit.Discovery
import JavadocAudit.Report
import JavadocAudit.Source.Parse

/-!
# Checking paths

A run collects the files of the given paths, audits each of them and puts the findings in order.  A file
that does not parse is an error of the report and does not stop the run.  If the settings ask for it,
directories without a description of their package are findings too.
-/

namespace JavadocAudit

namespace Check

/-- What a run reports, and the lines that it logs. -/
structure Outcome where
  report : Report
  log : List String
  deriving DecidableEq, Inhabited

/-- Why a file could not be checked. -/
inductive FileFailure where
  | input (e : InputError)
  | parse (e : ParseError)
  deriving DecidableEq, Inhabited

/-- Reads and parses a file. -/
def parseFile (d : Disk) (path : String) : Except FileFailure CompilationUnit :=
  match d.read path with
  | .error fault => .error (.input ⟨path, "Problem while reading (" ++ fault.message ++ ")"⟩)
  | .ok bytes =>
    match CompilationUnit.parse path bytes with
    | .error e => .error (.parse e)
    | .ok unit => .ok unit

/-- The findings of a file. -/
def file (d : Disk) (settings : Settings) (path : String) : Except FileFailure (List Finding) :=
  match parseFile d path with
  | .error e => .error e
  | .ok unit => .ok (Audit.findings settings unit)

/-- The finding of a directory without a description of its package. -/
def folderFinding (folder : String) : Finding :=
  let shown := if folder.isEmpty then "." else folder
  { path := shown, name := shown, kind := .package }

/-- The findings of the directories of files. -/
def folderFindings (d : Disk) (files : List String) : List Finding :=
  (Discovery.foldersWithoutInfo d files).map folderFinding

/-- The outcome with that of one more file. -/
def addFile (d : Disk) (settings : Settings) (done : Outcome) (path : String) :
    Except InputError Outcome :=
  let log := done.log ++ ["checking " ++ path]
  match parseFile d path with
  | .error (.input e) => .error e
  | .error (.parse e) =>
    .ok ⟨{ done.report with errors := done.report.errors ++ [⟨path, e.message⟩] },
      log ++ ["parse failure in " ++ path]⟩
  | .ok unit =>
    .ok ⟨{ done.report with findings := done.report.findings ++ Audit.findings settings unit },
      log ++ Audit.log settings unit⟩

/-- Checks the files that paths stand for. -/
def paths (d : Disk) (settings : Settings) (given : List String) : Except InputError Outcome :=
  match Discovery.collect d (Settings.matchesText settings.exclude) given with
  | .error e => .error e
  | .ok collected =>
    let start : Outcome :=
      ⟨{ files := collected.files }, collected.excluded.map ("excluded " ++ ·)⟩
    match collected.files.foldlM (addFile d settings) start with
    | .error e => .error e
    | .ok outcome =>
      let extra :=
        if settings.isOn .requirePackageInfo then folderFindings d collected.files else []
      .ok { outcome with
        report := { outcome.report with
          findings := Finding.sorted (outcome.report.findings ++ extra) } }

end Check

end JavadocAudit
