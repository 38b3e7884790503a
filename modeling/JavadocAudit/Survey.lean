import JavadocAudit.Source.Parse

/-!
# Surveys

A survey lists the declarations of a file with what they say about themselves.  It goes below the types
and their bodies and below enum constants, and nowhere else.
-/

namespace JavadocAudit

namespace Kind

/-- The name of a kind of declarations. -/
def declarationName? : Kind → Option String
  | .packageDeclaration => some "package_declaration"
  | .classDeclaration => some "class_declaration"
  | .interfaceDeclaration => some "interface_declaration"
  | .enumDeclaration => some "enum_declaration"
  | .recordDeclaration => some "record_declaration"
  | .annotationTypeDeclaration => some "annotation_type_declaration"
  | .fieldDeclaration => some "field_declaration"
  | .constantDeclaration => some "constant_declaration"
  | .methodDeclaration => some "method_declaration"
  | .constructorDeclaration => some "constructor_declaration"
  | .compactConstructorDeclaration => some "compact_constructor_declaration"
  | .annotationTypeElementDeclaration => some "annotation_type_element_declaration"
  | .enumConstant => some "enum_constant"
  | _ => none

/-- A survey goes below nodes of this kind. -/
def isSurveyed (kind : Kind) : Bool :=
  kind.isType || [Kind.program, .classBody, .interfaceBody, .enumBody, .annotationTypeBody,
    .enumBodyDeclarations, .enumConstant].contains kind

/-- The kind is a method or a constructor. -/
def isCallable (kind : Kind) : Bool := kind == .methodDeclaration || kind.isConstructor

end Kind

namespace Survey

/-- What a survey lists: a node, where it stands. -/
abbrev Entry := Located

mutual

/-- The node and the nodes that a survey meets below it. -/
def below (seat : Seat) : Node → List Entry
  | n@(.leaf ..) => [⟨seat, n⟩]
  | n@(.branch kind _ _ children) =>
    ⟨seat, n⟩ :: (if kind.isSurveyed then belowAll [] children else [])

/-- The nodes that a survey meets in a row of nodes. -/
def belowAll (before : List Node) : List Node → List Entry
  | [] => []
  | n :: rest => below (.among before rest) n ++ belowAll (n :: before) rest

end

/-- The nodes that a survey meets in a file. -/
def entries (root : Node) : List Entry := below .root root

/-- The declarations of a file. -/
def declarations (root : Node) : List Entry :=
  (entries root).filter fun e => (e.node.kind.declarationName?).isSome

/-- The methods and constructors of a file. -/
def callables (root : Node) : List Node :=
  ((entries root).filter fun e => e.node.kind.isCallable).map (·.node)

end Survey

end JavadocAudit
