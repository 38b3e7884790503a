import JavadocAudit.Disk

/-!
# Changing a disk

Files, directories and links are put under path names, with the directories above them, and taken away.
-/

namespace JavadocAudit

/-- The entries with an entry under a name, in place of an older one. -/
def putEntry (name : String) (e : Entry) : List (String × Entry) → List (String × Entry)
  | [] => [(name, e)]
  | (key, old) :: rest => if key == name then (name, e) :: rest else (key, old) :: putEntry name e rest

namespace Entry

/-- The entry with `e` put along components, through directories that are made where they lack. -/
def put (e : Entry) : List String → Entry → Entry
  | [], _ => e
  | name :: rest, outer =>
    let entries := match outer with
      | .folder entries => entries
      | _ => []
    let inner := (entries.lookup name).getD (.folder [])
    .folder (putEntry name (put e rest inner) entries)

/-- The entry without what stands along components. -/
def erase : List String → Entry → Entry
  | [], e => e
  | [name], .folder entries => .folder (entries.filter fun x => x.1 != name)
  | name :: rest, .folder entries =>
    match entries.lookup name with
    | some inner => .folder (putEntry name (erase rest inner) entries)
    | none => .folder entries
  | _, e => e

end Entry

namespace Disk

/-- The disk with another tree. -/
def withTree (d : Disk) : Entry → Disk
  | .folder entries => { d with root := entries }
  | _ => d

/-- The place where a new entry of a path name goes: links on the way are followed, and components that
do not exist yet are kept. -/
def placeFor (d : Disk) : List String → List String → List String
  | place, [] => place
  | place, name :: rest =>
    if name == "" || name == "." then placeFor d place rest
    else if name == ".." then placeFor d place.dropLast rest
    else
      let next := place ++ [name]
      match d.resolve (!rest.isEmpty) ("/" ++ Path.ofComponents next) with
      | .ok resolved => placeFor d resolved rest
      | .error _ => placeFor d next rest

/-- The place of a path name for a change. -/
def changePlace (d : Disk) (path : String) : List String :=
  placeFor d (if Path.isAbsolute path then [] else d.cwd) (Path.split path)

/-- The place that a change through links at the end goes to, whether there is something or not. -/
def linkedPlace (d : Disk) : Nat → List String → List String
  | 0, place => place
  | links + 1, place =>
    match d.at? place with
    | some (.link target) =>
      linkedPlace d links
        (placeFor d (if Path.isAbsolute target then [] else place.dropLast) (Path.split target))
    | _ => place

/-- Puts an entry under a path name. -/
def put (d : Disk) (path : String) (e : Entry) : Disk :=
  d.withTree (Entry.put e (d.changePlace path) (.folder d.root))

/-- Writes a file; a link leads the bytes to where it points. -/
def write (d : Disk) (path : String) (bytes : List UInt8) : Disk :=
  d.withTree (Entry.put (.file bytes) (d.linkedPlace linkLimit (d.changePlace path)) (.folder d.root))

/-- Makes a directory, unless there is one. -/
def makeFolder (d : Disk) (path : String) : Disk :=
  if d.isFolder path then d else d.put path (.folder [])

/-- Takes an entry away with all below it. -/
def remove (d : Disk) (path : String) : Disk :=
  d.withTree (Entry.erase (d.changePlace path) (.folder d.root))

/-- Changes the working directory. -/
def enter (d : Disk) (path : String) : Except DiskFault Disk :=
  match d.resolve true path with
  | .error fault => .error fault
  | .ok place =>
    match d.at? place with
    | some (.folder _) => .ok { d with cwd := place }
    | some _ => .error .notDirectory
    | none => .error .noEntry

end Disk

end JavadocAudit
