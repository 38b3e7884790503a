import JavadocAudit.Accessor
import JavadocAudit.Documentation
import JavadocAudit.Path

/-!
# Sites

A *site* is a place of a source file where documentation is expected, with all that the rules of
exemption ask about it.  The sites of a file are the types outside of all others and, inside of types,
the members of all nested types, in source order, a type before its members; a file that describes a
package has its package declaration as a site too.  Code inside of methods, initializers and the bodies
of enum constants holds no sites.  The sites do not depend on any settings.
-/

namespace JavadocAudit

/-- A source file that was parsed. -/
structure CompilationUnit where
  path : String
  root : Node
  deriving Inhabited

/-- The name of the files that describe packages. -/
def packageInfoName : String := "package-info.java"

/-- The file describes a package. -/
def CompilationUnit.isPackageInfo (unit : CompilationUnit) : Bool :=
  Path.baseName unit.path == packageInfoName

/-- A place where documentation is expected. -/
structure Site where
  construct : Construct
  line : Nat
  column : Nat
  documented : Bool
  /-- The number of parameters of a constructor. -/
  parameters : Nat := 0
  /-- The property that a method exposes, if it is a trivial accessor. -/
  property : Option Property := none
  /-- The field is the version number of a serializable class. -/
  isSerialVersion : Bool := false
  deriving DecidableEq, Inhabited

namespace Site

/-- What surrounds a member: the names of the types around it, outermost first, whether its members are
public by default, and the number of components if it is a record. -/
structure Context where
  owners : List String := []
  interfaceLike : Bool := false
  components : Nat := 0
  deriving DecidableEq, Inhabited

/-- The context inside of a type. -/
def Context.enter (ctx : Context) (type : Node) : Context where
  owners := ctx.owners ++ [type.declaredName]
  interfaceLike := type.kind.isInterfaceLike
  components := if type.kind == .recordDeclaration then type.parameterList.length else 0

/-- The visibility of a member: the one it states, or that of its context. -/
def visibilityIn (ctx : Context) (n : Node) : Visibility :=
  n.declaredVisibility?.getD (if ctx.interfaceLike then .publicLevel else .packageLevel)

/-- The annotations that mark a method as overriding another one. -/
def overrideAnnotations : List String := ["Override", "java.lang.Override"]

/-- The method is marked as overriding another one. -/
def isOverride (n : Node) : Bool := n.annotationNames.any overrideAnnotations.contains

/-- The site of a package declaration. -/
def ofPackage (before : List Node) (n : Node) : Site where
  construct := { kind := .package, name := n.packageName, visibility := .publicLevel }
  line := n.span.line
  column := n.span.column
  documented := Node.isDocumentedBy before

/-- The site of a type. -/
def ofType (ctx : Context) (before : List Node) (n : Node) : Site where
  construct := { kind := .type, name := n.declaredName, visibility := visibilityIn ctx n }
  line := n.span.line
  column := n.span.column
  documented := Node.isDocumentedBy before

/-- The site of a method. -/
def ofMethod (ctx : Context) (before : List Node) (n : Node) : Site where
  construct :=
    { kind := .method, name := n.declaredName, visibility := visibilityIn ctx n,
      overrides := isOverride n }
  line := n.span.line
  column := n.span.column
  documented := Node.isDocumentedBy before
  property := Accessor.classify n

/-- The name of a constructor: that of the type around it, whatever it is written as. -/
def constructorName (ctx : Context) (n : Node) : String := ctx.owners.getLast?.getD n.declaredName

/-- The number of parameters of a constructor; a compact one has the components of its record. -/
def constructorParameters (ctx : Context) (n : Node) : Nat :=
  if n.kind == .compactConstructorDeclaration then ctx.components else n.parameterList.length

/-- The site of a constructor. -/
def ofConstructor (ctx : Context) (before : List Node) (n : Node) : Site where
  construct :=
    { kind := .constructor, name := constructorName ctx n, visibility := visibilityIn ctx n }
  line := n.span.line
  column := n.span.column
  documented := Node.isDocumentedBy before
  parameters := constructorParameters ctx n

/-- The variable is the version number of a serializable class. -/
def isSerialVersionOf (declaration declarator : Node) : Bool :=
  declarator.declaredName == "serialVersionUID" && (declarator.part? .dimensions).isNone &&
    ["long", "Long"].contains (declaration.partText .type)

/-- The site of one variable of a field declaration; a comment documents the whole declaration. -/
def ofDeclarator (ctx : Context) (before : List Node) (n declarator : Node) : Site where
  construct := { kind := .field, name := declarator.declaredName, visibility := visibilityIn ctx n }
  line := declarator.span.line
  column := declarator.span.column
  documented := Node.isDocumentedBy before
  isSerialVersion := isSerialVersionOf n declarator

/-- The sites of a field declaration. -/
def ofField (ctx : Context) (before : List Node) (n : Node) : List Site :=
  (n.parts .declarator).map (ofDeclarator ctx before n)

/-- The site of an enum constant. -/
def ofEnumConstant (before : List Node) (n : Node) : Site where
  construct := { kind := .enumConstant, name := n.declaredName, visibility := .publicLevel }
  line := n.span.line
  column := n.span.column
  documented := Node.isDocumentedBy before

/-- The site of a member of an annotation type. -/
def ofAnnotationMember (ctx : Context) (before : List Node) (n : Node) : Site where
  construct := { kind := .annotationMember, name := n.declaredName, visibility := visibilityIn ctx n }
  line := n.span.line
  column := n.span.column
  documented := Node.isDocumentedBy before

/-- The sites of a member that holds no further members. -/
def ofPlainMember (ctx : Context) (before : List Node) (n : Node) : List Site :=
  if n.kind.isField then ofField ctx before n
  else if n.kind == .methodDeclaration then [ofMethod ctx before n]
  else if n.kind.isConstructor then [ofConstructor ctx before n]
  else if n.kind == .annotationTypeElementDeclaration then [ofAnnotationMember ctx before n]
  else if n.kind == .enumConstant then [ofEnumConstant before n]
  else []

mutual

/-- The sites of a member of a body: of a type, the type and its members. -/
def ofMember (ctx : Context) (before : List Node) : Node → List Site
  | n@(.leaf kind ..) =>
    if kind.isType then [ofType ctx before n] else ofPlainMember ctx before n
  | n@(.branch kind _ _ children) =>
    if kind.isType then ofType ctx before n :: ofBodyPart (ctx.enter n) children
    else if kind == .enumBodyDeclarations then ofMembers { ctx with components := 0 } [] children
    else ofPlainMember ctx before n

/-- The sites of the body among the parts of a type. -/
def ofBodyPart (ctx : Context) : List Node → List Site
  | [] => []
  | n :: rest => if n.label == some .body then ofBody ctx n else ofBodyPart ctx rest

/-- The sites of a body. -/
def ofBody (ctx : Context) : Node → List Site
  | .leaf .. => []
  | .branch _ _ _ children => ofMembers ctx [] children

/-- The sites of members in a row; `before` are the nodes before them, nearest first. -/
def ofMembers (ctx : Context) (before : List Node) : List Node → List Site
  | [] => []
  | n :: rest => ofMember ctx before n ++ ofMembers ctx (n :: before) rest

end

/-- The sites of what stands outside of all types. -/
def ofTopLevel (isPackageInfo : Bool) (before : List Node) : List Node → List Site
  | [] => []
  | n :: rest =>
    (if n.kind == .packageDeclaration then if isPackageInfo then [ofPackage before n] else []
      else if n.kind.isType then ofMember {} before n
      else []) ++ ofTopLevel isPackageInfo (n :: before) rest

end Site

/-- The sites of a source file. -/
def CompilationUnit.sites (unit : CompilationUnit) : List Site :=
  Site.ofTopLevel unit.isPackageInfo [] unit.root.children

end JavadocAudit
