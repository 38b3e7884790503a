import JavadocAudit.Path

/-!
# Disks

A disk is a tree of directories, files and links, with a working directory.  A path name is resolved
component by component from the root or the working directory; links on the way are followed, at most
forty of them.
-/

namespace JavadocAudit

/-- What a directory holds under a name. -/
inductive Entry where
  | file (bytes : List UInt8)
  | folder (entries : List (String × Entry))
  | link (target : String)
  deriving Inhabited

/-- Why a path name cannot be used. -/
inductive DiskFault where
  | noEntry
  | notDirectory
  | isDirectory
  | tooManyLinks
  deriving DecidableEq, Inhabited

/-- The wording of a fault. -/
def DiskFault.message : DiskFault → String
  | .noEntry => "No such file or directory"
  | .notDirectory => "Not a directory"
  | .isDirectory => "Is a directory"
  | .tooManyLinks => "Too many levels of symbolic links"

/-- A disk, and the components of the working directory. -/
structure Disk where
  root : List (String × Entry)
  cwd : List String
  deriving Inhabited

namespace Entry

/-- The entry below an entry, along components. -/
def at? : Entry → List String → Option Entry
  | e, [] => some e
  | .folder entries, name :: rest =>
    match entries.lookup name with
    | some e => e.at? rest
    | none => none
  | _, _ :: _ => none
termination_by _ components => components.length

/-- The entry is a directory. -/
def isFolder : Entry → Bool
  | .folder _ => true
  | _ => false

/-- The entry is a file. -/
def isFile : Entry → Bool
  | .file _ => true
  | _ => false

end Entry

namespace Disk

/-- The entry at a place that is given by components free of links and points. -/
def at? (d : Disk) (place : List String) : Option Entry := (Entry.folder d.root).at? place

/-- The path name of the working directory. -/
def workingDirectory (d : Disk) : String := "/" ++ Path.ofComponents d.cwd

/-- The outcome of resolving a path name: a place free of links and points. -/
abbrev Resolved := Except DiskFault (List String)

/-- Goes on from a place along components.  At a link, `follow` goes on along the components of its
target and the rest; `last` says that a link at the very end is followed too. -/
def walk (d : Disk) (last : Bool) (follow : List String → List String → Resolved) :
    List String → List String → Resolved
  | place, [] => .ok place
  | place, name :: rest =>
    match d.at? place with
    | some (.folder entries) =>
      if name == "" || name == "." then walk d last follow place rest
      else if name == ".." then walk d last follow place.dropLast rest
      else
        match entries.lookup name with
        | none => .error .noEntry
        | some (.link target) =>
          if rest.isEmpty && !last then .ok (place ++ [name])
          else
            follow (if Path.isAbsolute target then [] else place) (Path.split target ++ rest)
        | some _ => walk d last follow (place ++ [name]) rest
    | some _ => .error .notDirectory
    | none => .error .noEntry

/-- Goes along components, through at most `links` links. -/
def walkLinks (d : Disk) (last : Bool) : Nat → List String → List String → Resolved
  | 0, _, _ => .error .tooManyLinks
  | links + 1, place, components => walk d last (walkLinks d last links) place components

/-- The number of links that are followed. -/
def linkLimit : Nat := 40

/-- Resolves a path name; `last` says that a link at its very end is followed too. -/
def resolve (d : Disk) (last : Bool) (path : String) : Resolved :=
  if path.isEmpty || Text.holds (Char.ofNat 0) path then .error .noEntry
  else walkLinks d last (linkLimit + 1) (if Path.isAbsolute path then [] else d.cwd) (Path.split path)

/-- The entry that a path name leads to, links followed. -/
def find (d : Disk) (path : String) : Except DiskFault Entry :=
  match d.resolve true path with
  | .error fault => .error fault
  | .ok place =>
    match d.at? place with
    | some e => .ok e
    | none => .error .noEntry

/-- The path name leads to something. -/
def pathExists (d : Disk) (path : String) : Bool :=
  match d.find path with
  | .ok _ => true
  | .error _ => false

/-- The path name leads to a directory. -/
def isFolder (d : Disk) (path : String) : Bool :=
  match d.find path with
  | .ok e => e.isFolder
  | .error _ => false

/-- The path name leads to a file. -/
def isFile (d : Disk) (path : String) : Bool :=
  match d.find path with
  | .ok e => e.isFile
  | .error _ => false

/-- The bytes of a file. -/
def read (d : Disk) (path : String) : Except DiskFault (List UInt8) :=
  match d.find path with
  | .error fault => .error fault
  | .ok (.file bytes) => .ok bytes
  | .ok (.folder _) => .error .isDirectory
  | .ok (.link _) => .error .noEntry

end Disk

end JavadocAudit
