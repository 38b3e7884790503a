import JavadocAudit.Check
import JavadocAudit.Command.Flag
import JavadocAudit.Command.Output
import JavadocAudit.Summary

/-!
# The command that checks files

The command reads its settings from options and its paths from operands.  Findings go to one stream;
errors of files, and with the verbose setting the log and a summary, go to the other.
-/

namespace JavadocAudit.Command

namespace CheckCommand

/-- The option with the pattern of excluded paths. -/
def excludeOption : String := "--exclude"

/-- The option with the pattern of exempt names. -/
def exemptNameOption : String := "--dont-require"

/-- The options of the command. -/
def forms : List OptionForm :=
  [helpForm, ⟨[excludeOption], true⟩, ⟨[exemptNameOption], true⟩] ++
    Toggle.all.map fun t => ⟨[t.flag, t.offFlag], false⟩

/-- The help of the command. -/
def manual : Manual where
  program := "require-javadoc"
  usage :=
    ["usage: require-javadoc [-h] [--exclude REGEX] [--dont-require REGEX]",
      "                       [--dont-require-private | --no-dont-require-private]",
      "                       [--dont-require-noarg-constructor | --no-dont-require-noarg-constructor]",
      "                       [--dont-require-trivial-properties | --no-dont-require-trivial-properties]",
      "                       [--dont-require-type | --no-dont-require-type]",
      "                       [--dont-require-field | --no-dont-require-field]",
      "                       [--dont-require-method | --no-dont-require-method]",
      "                       [--require-package-info | --no-require-package-info]",
      "                       [--relative | --no-relative] [--verbose | --no-verbose]",
      "                       [paths ...]"]
  body :=
    ["",
      "Report Java declarations that lack a Javadoc comment",
      "",
      "positional arguments:",
      "  paths                 Java files or directories (default: current directory)",
      "",
      "options:",
      "  -h, --help            show this help message and exit",
      "  --exclude REGEX       Don't check files or directories whose pathname",
      "                        matches",
      "  --dont-require REGEX  Don't report problems in constructs whose simple name",
      "                        (or package name) matches",
      "  --dont-require-private, --no-dont-require-private",
      "                        Don't report problems in private constructs",
      "  --dont-require-noarg-constructor, --no-dont-require-noarg-constructor",
      "                        Don't report problems in constructors with zero formal",
      "                        params",
      "  --dont-require-trivial-properties, --no-dont-require-trivial-properties",
      "                        Don't report problems in trivial getters and setters",
      "  --dont-require-type, --no-dont-require-type",
      "                        Don't report problems in type declarations",
      "  --dont-require-field, --no-dont-require-field",
      "                        Don't report problems in fields and enum constants",
      "  --dont-require-method, --no-dont-require-method",
      "                        Don't report problems in methods, constructors and",
      "                        annotation members",
      "  --require-package-info, --no-require-package-info",
      "                        Require a package-info.java file in every directory",
      "                        with Java files",
      "  --relative, --no-relative",
      "                        Report relative rather than absolute filenames",
      "  --verbose, --no-verbose",
      "                        Print diagnostic information"]

/-- The named value that an option gives. -/
def field? (o : Occurrence) : Option (String × Value) :=
  if o.name == excludeOption then o.value.map fun v => (Settings.excludeName, .text v)
  else if o.name == exemptNameOption then o.value.map fun v => (Settings.exemptNameName, .text v)
  else
    match Toggle.ofFlag? o.name with
    | some t => some (t.name, .bool true)
    | none => (Toggle.ofOffFlag? o.name).map fun t => (t.name, .bool false)

/-- The named values that the options give; of two with one name, the last one counts. -/
def options (given : List Occurrence) : Value := .object (given.filterMap field?)

/-- The output of a run. -/
def output (d : Disk) (settings : Settings) (outcome : Check.Outcome) : Output where
  exitCode := outcome.report.exitCode
  stdout := linesText (outcome.report.findings.map
    (Finding.text d.workingDirectory d.workingDirectory (settings.isOn .relative)))
  stderr := linesText
    ((if settings.isOn .verbose then outcome.log else []) ++ outcome.report.errors.map (·.message) ++
      (if settings.isOn .verbose then (Summary.ofReport outcome.report).lines else []))

/-- Checks paths with settings from named values; there is no output for a pattern that counts beyond all
limits. -/
def check (names : Text.NameTable) (d : Disk) (options : Value) (paths : List String) :
    Option Output :=
  match Settings.load names options with
  | .error .repeatTooLarge => none
  | .error e => some (manual.failure e.message)
  | .ok settings =>
    match Check.paths d settings paths with
    | .error e => some (manual.failure e.message)
    | .ok outcome => some (output d settings outcome)

/-- Runs the command. -/
def run (names : Text.NameTable) (d : Disk) (line : List String) : Option Output :=
  match expandFlags line with
  | .error fault => some (manual.refusal fault)
  | .ok words =>
    let arguments := Arguments.read forms true words
    if arguments.occurrences.any (·.isHelp) then some manual.shown
    else
      match arguments.fault? with
      | some fault => some (manual.refusal fault)
      | none => check names d (options arguments.occurrences) arguments.operands

end CheckCommand

end JavadocAudit.Command
