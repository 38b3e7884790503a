/-!
# Syntax trees

A tree keeps everything that its source text holds: keywords, punctuation and comments are nodes like
all others.  A *leaf* is one token with the blanks before it; a *branch* is a construct with its parts
in source order.  The text of a construct runs from its first token to its last one, with the blanks
and comments between them (`Node.text`).

A tree may hold *faults*: an `error` where the text does not fit the grammar, or a `missing` token that
would have made it fit.  `Node.firstFault?` looks for the first one in source order.
-/

namespace JavadocAudit

/-- What a node of a syntax tree is.  A `token` is a keyword or punctuation. -/
inductive Kind where
  | token
  | lineComment
  | blockComment
  | error
  | missing
  | program
  -- names and types
  | identifier
  | scopedIdentifier
  | typeIdentifier
  | scopedTypeIdentifier
  | genericType
  | typeArguments
  | wildcard
  | arrayType
  | annotatedType
  | dimensions
  | voidType
  | integralType
  | floatingPointType
  | booleanType
  -- declarations
  | packageDeclaration
  | importDeclaration
  | asterisk
  | moduleDeclaration
  | moduleBody
  | moduleDirective
  | classDeclaration
  | interfaceDeclaration
  | enumDeclaration
  | recordDeclaration
  | annotationTypeDeclaration
  | classBody
  | interfaceBody
  | enumBody
  | enumBodyDeclarations
  | annotationTypeBody
  | fieldDeclaration
  | constantDeclaration
  | methodDeclaration
  | constructorDeclaration
  | constructorBody
  | explicitConstructorInvocation
  | compactConstructorDeclaration
  | annotationTypeElementDeclaration
  | enumConstant
  | staticInitializer
  | modifiers
  | annotationMark
  | annotationCall
  | annotationArgumentList
  | elementValuePair
  | elementValueArrayInitializer
  | typeParameters
  | typeParameter
  | typeBound
  | superclass
  | superInterfaces
  | extendsInterfaces
  | permits
  | typeList
  | formalParameters
  | formalParameter
  | spreadParameter
  | receiverParameter
  | throws
  | variableDeclarator
  | underscorePattern
  | arrayInitializer
  -- statements
  | block
  | expressionStatement
  | labeledStatement
  | ifStatement
  | whileStatement
  | forStatement
  | enhancedForStatement
  | doStatement
  | assertStatement
  | breakStatement
  | continueStatement
  | returnStatement
  | yieldStatement
  | throwStatement
  | synchronizedStatement
  | tryStatement
  | tryWithResourcesStatement
  | resourceSpecification
  | resource
  | catchClause
  | catchFormalParameter
  | catchType
  | finallyClause
  | localVariableDeclaration
  | switchBlock
  | switchBlockStatementGroup
  | switchRule
  | switchLabel
  | guard
  | typePattern
  | recordPattern
  | recordPatternBody
  | recordPatternComponent
  -- expressions
  | numberLiteral
  | characterLiteral
  | stringLiteral
  | trueLiteral
  | falseLiteral
  | nullLiteral
  | thisReference
  | superReference
  | classLiteral
  | parenthesizedExpression
  | assignmentExpression
  | binaryExpression
  | instanceofExpression
  | lambdaExpression
  | inferredParameters
  | ternaryExpression
  | unaryExpression
  | updateExpression
  | castExpression
  | switchExpression
  | objectCreationExpression
  | arrayCreationExpression
  | dimensionsExpression
  | fieldAccess
  | arrayAccess
  | methodInvocation
  | methodReference
  | templateExpression
  | argumentList
  deriving DecidableEq, Inhabited

namespace Kind

/-- Comments of either form. -/
def isComment : Kind → Bool
  | .lineComment => true
  | .blockComment => true
  | _ => false

/-- Declarations of types. -/
def isType : Kind → Bool
  | .classDeclaration => true
  | .interfaceDeclaration => true
  | .enumDeclaration => true
  | .recordDeclaration => true
  | .annotationTypeDeclaration => true
  | _ => false

/-- Declarations of types whose members are public unless they say otherwise. -/
def isInterfaceLike : Kind → Bool
  | .interfaceDeclaration => true
  | .annotationTypeDeclaration => true
  | _ => false

/-- Declarations of fields and constants. -/
def isField : Kind → Bool
  | .fieldDeclaration => true
  | .constantDeclaration => true
  | _ => false

/-- Declarations of constructors, compact ones included. -/
def isConstructor : Kind → Bool
  | .constructorDeclaration => true
  | .compactConstructorDeclaration => true
  | _ => false

/-- The faults of a tree. -/
def isFault : Kind → Bool
  | .error => true
  | .missing => true
  | _ => false

end Kind

/-- The part that a node plays in the construct around it. -/
inductive Label where
  | name
  | type
  | body
  | parameters
  | dimensions
  | declarator
  | value
  | object
  | member
  | operator
  | operand
  | left
  | right
  | scope
  | element
  | arguments
  | typeArguments
  | typeParameters
  | condition
  deriving DecidableEq, Inhabited

/-- A stretch of a source text: the bytes from `start` up to `stop`, and the line and column where it
starts, counted from one, the column in bytes. -/
structure Span where
  start : Nat
  stop : Nat
  line : Nat
  column : Nat
  deriving DecidableEq, Inhabited

/-- A syntax tree. -/
inductive Node where
  | leaf (kind : Kind) (label : Option Label) (span : Span) (gap text : String)
  | branch (kind : Kind) (label : Option Label) (span : Span) (children : List Node)
  deriving Inhabited

namespace Node

/-- What the node is. -/
def kind : Node → Kind
  | .leaf kind .. => kind
  | .branch kind .. => kind

/-- The part that the node plays in the construct around it. -/
def label : Node → Option Label
  | .leaf _ label .. => label
  | .branch _ label .. => label

/-- Where the node stands. -/
def span : Node → Span
  | .leaf _ _ span .. => span
  | .branch _ _ span _ => span

/-- The parts of the node, in source order. -/
def children : Node → List Node
  | .leaf .. => []
  | .branch _ _ _ children => children

/-- The node in the part `l`. -/
def withLabel (l : Label) : Node → Node
  | .leaf kind _ span gap text => .leaf kind (some l) span gap text
  | .branch kind _ span children => .branch kind (some l) span children

/-- The node is a comment. -/
def isComment (n : Node) : Bool := n.kind.isComment

/-- The node is a construct, a name, a literal or a comment, and not a mere token. -/
def isNamed (n : Node) : Bool := n.kind != .token

/-- The parts of the node that are no mere tokens. -/
def namedChildren (n : Node) : List Node := n.children.filter isNamed

/-- The parts of the node that are neither tokens nor comments. -/
def contents (n : Node) : List Node := n.namedChildren.filter (!·.isComment)

/-- The parts of the node with a given label. -/
def parts (n : Node) (l : Label) : List Node := n.children.filter (·.label == some l)

/-- The first part of the node with a given label. -/
def part? (n : Node) (l : Label) : Option Node := n.children.find? (·.label == some l)

mutual

/-- The text of the node, with the blanks before it. -/
def spacedText : Node → String
  | .leaf _ _ _ gap text => gap ++ text
  | .branch _ _ _ children => spacedTexts children

/-- The text of nodes in a row, with the blanks before each. -/
def spacedTexts : List Node → String
  | [] => ""
  | n :: rest => spacedText n ++ spacedTexts rest

end

mutual

/-- The text of the node, from its first token to its last one. -/
def text : Node → String
  | .leaf _ _ _ _ text => text
  | .branch _ _ _ children => textOfAll children

/-- The text of nodes in a row. -/
def textOfAll : List Node → String
  | [] => ""
  | n :: rest => text n ++ spacedTexts rest

end

/-- The text of the part with a given label; empty if there is none. -/
def partText (n : Node) (l : Label) : String :=
  match n.part? l with
  | some part => part.text
  | none => ""

mutual

/-- The nodes of a tree in source order, a construct before its parts. -/
def preorder : Node → List Node
  | n@(.leaf ..) => [n]
  | n@(.branch _ _ _ children) => n :: preorderAll children

/-- The nodes of trees in a row. -/
def preorderAll : List Node → List Node
  | [] => []
  | n :: rest => preorder n ++ preorderAll rest

end

/-- The node is a fault itself. -/
def isFault (n : Node) : Bool := n.kind.isFault

mutual

/-- The tree holds a fault. -/
def hasFault : Node → Bool
  | .leaf kind .. => kind.isFault
  | .branch kind _ _ children => kind.isFault || anyFault children

/-- One of the trees holds a fault. -/
def anyFault : List Node → Bool
  | [] => false
  | n :: rest => hasFault n || anyFault rest

end

mutual

/-- The first fault of a tree.  Only parts that hold a fault are searched, and nothing below a
fault. -/
def firstFault? : Node → Option Node
  | n@(.leaf kind ..) => if kind.isFault then some n else none
  | n@(.branch kind _ _ children) => if kind.isFault then some n else firstFaultOf? children

/-- The first fault of trees in a row. -/
def firstFaultOf? : List Node → Option Node
  | [] => none
  | n :: rest =>
    if n.hasFault then
      match firstFault? n with
      | some fault => some fault
      | none => firstFaultOf? rest
    else firstFaultOf? rest

end

end Node

end JavadocAudit
