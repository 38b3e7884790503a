import JavadocAudit.Text.Affix

/-!
# Path names

Path names are texts with slashes between their components.  They are joined, taken apart and shown
relative to a directory without a look at any disk.
-/

namespace JavadocAudit.Path

/-- The components between slashes. -/
def splitSlashes (s : List Char) : List (List Char) :=
  match s with
  | [] => [[]]
  | c :: rest =>
    match splitSlashes rest with
    | [] => [[c]]
    | first :: more => if c == '/' then [] :: first :: more else (c :: first) :: more

/-- The components of a path name, empty ones included. -/
def split (p : String) : List String := (splitSlashes p.toList).map String.ofList

/-- The path name begins at the root. -/
def isAbsolute (p : String) : Bool := Text.opensWith "/" p

/-- The last component. -/
def baseName (p : String) : String :=
  String.ofList (p.toList.reverse.takeWhile (· != '/')).reverse

/-- What stands before the last component, without the slashes that end it unless there is nothing
else. -/
def dirName (p : String) : String :=
  let head := p.toList.reverse.dropWhile (· != '/')
  let trimmed := head.dropWhile (· == '/')
  String.ofList (if trimmed.isEmpty then head.reverse else trimmed.reverse)

/-- The path name of `q` seen from the directory `p`. -/
def join (p q : String) : String :=
  if isAbsolute q then q
  else if p.isEmpty || Text.closesWith "/" p then p ++ q
  else p ++ "/" ++ q

/-- The path name of components, with slashes between them. -/
def ofComponents (components : List String) : String := "/".intercalate components

/-- One more component of an absolute path: empty ones and the point stay out, and two points take the
last component back. -/
def climb (done : List String) (component : String) : List String :=
  if component == "" || component == "." then done
  else if component == ".." then done.dropLast
  else done ++ [component]

/-- The components of an absolute path after the points are resolved. -/
def components (p : String) : List String := (split p).foldl climb []

/-- The components of a path name as seen from the directory `cwd`. -/
def absoluteComponents (cwd p : String) : List String := components (join cwd p)

/-- What two lists begin with in common, and the rest of each. -/
def stripCommon : List String → List String → List String × List String
  | a :: as, b :: bs => if a == b then stripCommon as bs else (a :: as, b :: bs)
  | as, bs => (as, bs)

/-- The way from the directory `start` to `target`, both given by their components. -/
def way (start target : List String) : String :=
  let (up, down) := stripCommon start target
  match up.map (fun _ => "..") ++ down with
  | [] => "."
  | steps => ofComponents steps

/-- The path name `p` as seen from the directory `start`, where `cwd` is the working directory. -/
def relativeTo (cwd start p : String) : String :=
  way (absoluteComponents cwd start) (absoluteComponents cwd p)

end JavadocAudit.Path
