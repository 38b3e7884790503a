import JavadocAudit.Command.CheckCommand
import JavadocAudit.Disk.Edit

/-!
# The program

Takes a picture of what the operands of the command line lead to, runs the command on it and prints the
output.  The names of characters are those of the character database that the system has.
-/

namespace JavadocAudit.Main

/-- Bytes of a file; those of files that no run reads are left out. -/
def readFile (path : String) (wanted : Bool) : IO Entry := do
  if wanted then return .file (← IO.FS.readBinFile path).toList
  else return .file []

/-- The entry at a path, with all below it.  A link to a file is replaced by the file; a link to a
directory, which is not followed, leads nowhere, and so does a link without a target. -/
partial def picture (path : String) (isOperand : Bool) : IO Entry := do
  let place := (← IO.currentDir) / path
  let isLink := (← place.symlinkMetadata).type == .symlink
  if isLink && !isOperand && ((← place.isDir) || !(← place.pathExists)) then return .link path
  else if ← place.isDir then
    let names := (← place.readDir).toList.map (·.fileName)
    let entries ← names.mapM fun name => do
      if Discovery.skippedFolders.contains name then return (name, Entry.folder [])
      else return (name, ← picture (Path.join path name) false)
    return .folder entries
  else readFile path (isOperand || Discovery.isSourceName path)

/-- The directories on the way to a path, which are all there. -/
def wayTo (path : String) : List String :=
  let components := (Path.split path).dropLast
  (List.range components.length).map fun n =>
    (if Path.isAbsolute path then "/" else "") ++ Path.ofComponents (components.take (n + 1))

/-- The disk with the picture of an operand, if it leads somewhere. -/
def addOperand (d : Disk) (path : String) : IO Disk := do
  let place := (← IO.currentDir) / path
  if path.isEmpty || !(← place.pathExists) then return d
  else
    let entry ← picture path true
    return ((wayTo path).foldl Disk.makeFolder d).put path entry

/-- The operands of a command line. -/
def operands (line : List String) : List String :=
  match Command.expandFlags line with
  | .error _ => []
  | .ok words => (Command.Arguments.read Command.CheckCommand.forms true words).operands

/-- The description of the package beside a file. -/
def infoBeside (path : String) : String := Path.join (Path.dirName path) packageInfoName

/-- The picture of what a command line is about. -/
def disk (line : List String) : IO Disk := do
  let here := (← IO.currentDir).toString
  let start := Disk.makeFolder ⟨[], Path.components here⟩ here
  let paths := if (operands line).isEmpty then [here] else operands line
  (paths.map infoBeside ++ paths).foldlM addOperand start

/-- The name that a line of the character database gives to a code point, if it gives one: the first two of
its fields.  What stands in angle brackets is no name. -/
def listedName? (line : String) : Option (String × Nat) :=
  match line.splitOn ";" with
  | code :: name :: _ =>
    if code.isEmpty || !code.toList.all Text.isHex || Text.opensWith "<" name then none
    else some (name, Text.inBase 16 code.toList)
  | _ => none

/-- The files of the character database with the names and the further names. -/
def databaseFiles : List String :=
  ["/usr/share/unicode/UnicodeData.txt", "/usr/share/unicode/NameAliases.txt"]

/-- The names that a file of the character database lists, if there is one. -/
def listedNames (file : String) : IO Text.NameTable := do
  let place := (← IO.currentDir) / file
  if ← place.pathExists then return ((← IO.FS.readFile place).splitOn "\n").filterMap listedName?
  else return []

/-- The names that the character database of the system lists. -/
def names : IO Text.NameTable := return (← databaseFiles.mapM listedNames).flatten

end JavadocAudit.Main

/-- Runs the command with the arguments of the program. -/
def main (line : List String) : IO UInt32 := do
  let names ← JavadocAudit.Main.names
  let d ← JavadocAudit.Main.disk line
  match JavadocAudit.Command.CheckCommand.run names d line with
  | some out =>
    IO.print out.stdout
    IO.eprint out.stderr
    return UInt32.ofNat out.exitCode
  | none =>
    IO.eprintln JavadocAudit.PatternFault.repeatTooLarge.message
    return 1
