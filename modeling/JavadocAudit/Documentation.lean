import JavadocAudit.Source.Node
import JavadocAudit.Text.Affix

/-!
# Documentation comments

A declaration is documented by a comment that opens with `/**` and is not the empty comment `/**/`, if
only comments stand between the two.  The siblings before a node are given nearest first, so the
comments between the node and the last other sibling are the comments at the front of that list.

A node that is met somewhere in a tree is a `Located` one.  Its comments are looked for among all of its
siblings: these are put in the order of their starts, the node is found again by its stretch of text and
its kind, and the comments before it are gathered.
-/

namespace JavadocAudit

namespace Node

/-- The node is a documentation comment. -/
def isDocumentation (n : Node) : Bool :=
  n.isComment && Text.opensWith "/**" n.text && n.text != "/**/"

/-- The comments directly before a node, in source order; `before` are the siblings before it, nearest
first. -/
def commentRun (before : List Node) : List Node := (before.takeWhile isComment).reverse

/-- The documentation comment directly before a node. -/
def attachedDocumentation? (before : List Node) : Option Node :=
  match before with
  | n :: _ => if n.isDocumentation then some n else none
  | [] => none

/-- A node with the given siblings before it is documented. -/
def isDocumentedBy (before : List Node) : Bool :=
  (attachedDocumentation? before).isSome || (commentRun before).any isDocumentation

/-- The nodes of a row in the order of their starts; those with one start keep their order. -/
def byStart (row : List Node) : List Node := row.mergeSort fun a b => a.span.start ≤ b.span.start

/-- The nodes are the same stretch of a text, and of one kind. -/
def coincides (n m : Node) : Bool :=
  m.span.start == n.span.start && m.span.stop == n.span.stop && m.kind == n.kind

/-- The comments between a node and the last other one before it in a row. -/
def orphanComments (row : List Node) (n : Node) : List Node :=
  match (byStart row).findIdx? n.coincides with
  | some i => commentRun ((byStart row).take i).reverse
  | none => []

end Node

/-- Where a node stands: at the root of its tree, or among siblings; those before it are given nearest
first. -/
inductive Seat where
  | root
  | among (before after : List Node)
  deriving Inhabited

/-- A node of a tree, where it stands. -/
structure Located where
  seat : Seat
  node : Node
  deriving Inhabited

namespace Located

/-- The node and its siblings, unless it is the root. -/
def row? (l : Located) : Option (List Node) :=
  match l.seat with
  | .root => none
  | .among before after => some (before.reverse ++ l.node :: after)

/-- The siblings before the node, nearest first. -/
def before (l : Located) : List Node :=
  match l.seat with
  | .root => []
  | .among before _ => before

/-- The documentation comment directly before the node. -/
def attachedDocumentation? (l : Located) : Option Node := Node.attachedDocumentation? l.before

/-- The comments between the node and the last other one before it, in source order. -/
def orphanComments (l : Located) : List Node :=
  match l.row? with
  | some row => Node.orphanComments row l.node
  | none => []

/-- The node is documented. -/
def isDocumented (l : Located) : Bool :=
  l.attachedDocumentation?.isSome || l.orphanComments.any Node.isDocumentation

end Located

end JavadocAudit
