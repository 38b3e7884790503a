import JavadocAudit.Disk
import JavadocAudit.Settings
import JavadocAudit.Site
import JavadocAudit.Text.Affix

/-!
# Finding source files

Paths that lead to directories stand for the source files below them, and all other paths for
themselves.  Directories of version control are passed over, links to directories are not followed, and
the settings exclude paths by a pattern.
-/

namespace JavadocAudit

/-- A path that is missing or cannot be read. -/
structure InputError where
  path : String
  reason : String
  deriving DecidableEq, Inhabited

/-- The wording of an error. -/
def InputError.message (e : InputError) : String := e.reason ++ ": " ++ e.path

namespace Discovery

/-- The name of a source file. -/
def isSourceName (name : String) : Bool := Text.closesWith ".java" name

/-- The directories that version control keeps. -/
def skippedFolders : List String := [".git", ".hg", ".svn"]

/-- A path that was met, and whether it is excluded. -/
structure Found where
  path : String
  excluded : Bool
  deriving DecidableEq, Inhabited

/-- The source file under a name of a directory. -/
def sourceFile? (d : Disk) (exclude : String → Bool) (folder : String) (entry : String × Entry) :
    Option Found :=
  let path := Path.join folder entry.1
  if isSourceName entry.1 && d.isFile path then some ⟨path, exclude path⟩ else none

mutual

/-- The source files in and below an entry with a path; those of a directory come before those of its
directories. -/
def scanEntry (d : Disk) (exclude : String → Bool) (folder : String) : Entry → List Found
  | .folder entries =>
    entries.filterMap (sourceFile? d exclude folder) ++ scanFolders d exclude folder entries
  | .file _ => []
  | .link _ => []

/-- The source files below the directories among entries. -/
def scanFolders (d : Disk) (exclude : String → Bool) (folder : String) :
    List (String × Entry) → List Found
  | [] => []
  | (name, e) :: rest =>
    (if skippedFolders.contains name || exclude (Path.join folder name) then []
      else scanEntry d exclude (Path.join folder name) e) ++ scanFolders d exclude folder rest

end

/-- The source files below a directory. -/
def scan (d : Disk) (exclude : String → Bool) (folder : String) : List Found :=
  match d.find folder with
  | .ok e => scanEntry d exclude folder e
  | .error _ => []

/-- The paths that a given path stands for. -/
def expand (d : Disk) (exclude : String → Bool) (path : String) : List Found :=
  if exclude path then [⟨path, true⟩]
  else if d.isFolder path then scan d exclude path
  else [⟨path, false⟩]

/-- The texts in ascending order, each once. -/
def sortedSet (paths : List String) : List String :=
  (paths.mergeSort fun a b => !(b < a)).eraseDups

/-- The paths that are given; none stand for the working directory. -/
def givenPaths (d : Disk) (paths : List String) : List String :=
  if paths.isEmpty then [d.workingDirectory] else paths

/-- What a run finds: the files to check in ascending order, and the excluded paths in the order in which
they were met. -/
structure Collected where
  files : List String
  excluded : List String
  deriving DecidableEq, Inhabited

/-- The files that paths stand for; the first path that does not exist is an error. -/
def collect (d : Disk) (exclude : String → Bool) (paths : List String) :
    Except InputError Collected :=
  let given := givenPaths d paths
  match given.find? (fun p => !d.pathExists p) with
  | some missing => .error ⟨missing, "File not found"⟩
  | none =>
    let found := given.flatMap (expand d exclude)
    .ok ⟨sortedSet ((found.filter fun f => !f.excluded).map (·.path)),
      (found.filter (·.excluded)).map (·.path)⟩

/-- The directories of files that hold no description of their package, in ascending order. -/
def foldersWithoutInfo (d : Disk) (files : List String) : List String :=
  sortedSet ((files.map Path.dirName).filter fun folder =>
    !d.isFile (Path.join folder packageInfoName))

end Discovery

end JavadocAudit
