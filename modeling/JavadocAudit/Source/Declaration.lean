import JavadocAudit.Construct
import JavadocAudit.Source.Node

/-!
# Parts of declarations

What a declaration says about itself: its modifiers and annotations, its parameters, the name of a
package.
-/

namespace JavadocAudit.Node

/-- The modifiers of a declaration. -/
def modifiers? (n : Node) : Option Node := n.children.find? (·.kind == .modifiers)

/-- The visibility that a modifier stands for. -/
def visibilityWord? (n : Node) : Option Visibility :=
  if n.kind == .token then Visibility.ofModifier? n.text else none

/-- The visibility that a declaration states: the first one counts. -/
def declaredVisibility? (n : Node) : Option Visibility :=
  match n.modifiers? with
  | some m => m.children.findSome? visibilityWord?
  | none => none

/-- The node is an annotation. -/
def marksDeclaration (n : Node) : Bool := n.kind == .annotationMark || n.kind == .annotationCall

/-- The names of the annotations of a declaration, as they are written. -/
def annotationNames (n : Node) : List String :=
  match n.modifiers? with
  | some m => (m.children.filter marksDeclaration).map (·.partText .name)
  | none => []

/-- The node is a parameter that a call gives an argument for. -/
def isParameter (n : Node) : Bool := n.kind == .formalParameter || n.kind == .spreadParameter

/-- The parameters of a method or constructor, or the components of a record. -/
def parameterList (n : Node) : List Node :=
  match n.part? .parameters with
  | some ps => ps.namedChildren.filter isParameter
  | none => []

/-- The name of a declared thing. -/
def declaredName (n : Node) : String := n.partText .name

/-- The name of a package, as it is written. -/
def packageName (n : Node) : String :=
  match n.namedChildren.find? (fun c => c.kind == .scopedIdentifier || c.kind == .identifier) with
  | some c => c.text
  | none => ""

end JavadocAudit.Node
