/-!
# Constructs

The things that need documentation: types, their members, and packages.
-/

namespace JavadocAudit

/-- The kinds of constructs. -/
inductive ConstructKind where
  | type
  | constructor
  | method
  | field
  | enumConstant
  | annotationMember
  | package
  deriving DecidableEq, Inhabited

namespace ConstructKind

/-- All kinds. -/
def all : List ConstructKind :=
  [.type, .constructor, .method, .field, .enumConstant, .annotationMember, .package]

/-- The name of a kind in reports. -/
def name : ConstructKind → String
  | .type => "type"
  | .constructor => "constructor"
  | .method => "method"
  | .field => "field"
  | .enumConstant => "enum_constant"
  | .annotationMember => "annotation_member"
  | .package => "package"

/-- The kind with a name. -/
def ofName? (s : String) : Option ConstructKind := all.find? (·.name == s)

end ConstructKind

/-- From where a construct can be seen. -/
inductive Visibility where
  | publicLevel
  | protectedLevel
  | packageLevel
  | privateLevel
  deriving DecidableEq, Inhabited

namespace Visibility

/-- All levels. -/
def all : List Visibility := [.publicLevel, .protectedLevel, .packageLevel, .privateLevel]

/-- The name of a level. -/
def name : Visibility → String
  | .publicLevel => "public"
  | .protectedLevel => "protected"
  | .packageLevel => "package"
  | .privateLevel => "private"

/-- The level with a name. -/
def ofName? (s : String) : Option Visibility := all.find? (·.name == s)

/-- The level that a modifier declares. -/
def ofModifier? (word : String) : Option Visibility :=
  if word == "public" then some .publicLevel
  else if word == "protected" then some .protectedLevel
  else if word == "private" then some .privateLevel
  else none

end Visibility

/-- What the rules of exemption look at first: the kind of a construct, its name, its visibility, and
whether it is marked as overriding another one. -/
structure Construct where
  kind : ConstructKind
  name : String
  visibility : Visibility := .packageLevel
  overrides : Bool := false
  deriving DecidableEq, Inhabited

end JavadocAudit
