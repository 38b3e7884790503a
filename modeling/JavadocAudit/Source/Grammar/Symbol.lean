import JavadocAudit.Source.Rule

/-!
# Symbols of the grammar

The symbols fall into four groups: names and types, expressions, statements, and declarations.  The
vocabulary for rules over them stands here too: keywords and punctuation, lists with commas, and the words
that are reserved at a place.

Words are keywords only where the grammar has a use for them; everywhere else they are names.
-/

namespace JavadocAudit.Grammar

/-- Where a type stands, which decides the words that cannot begin it. -/
inductive Scope where
  | anywhere
  | member
  | statement
  deriving DecidableEq

/-- Names and types. -/
inductive TypeSymbol where
  | name
  | type
  | unannotated (scope : Scope)
  | simple (scope : Scope)
  | arguments
  | parameters
  | dimensions
  | annotationUse

/-- Expressions.  `arrow` says that a lambda may begin where one can. -/
inductive ExpressionSymbol where
  | any (arrow : Bool)
  | level (n : Nat) (arrow : Bool)
  | unary (arrow : Bool)
  | primary
  | text
  | parenthesized
  | arguments
  | creation
  | lambda
  | cast
  | switch
  | switchLabel
  | recordPattern
  | initializer
  | elementValue

/-- Statements. -/
inductive StatementSymbol where
  | any
  | block
  | localVariable
  | catchClause
  | finallyClause

/-- Declarations. -/
inductive DeclarationSymbol where
  | modifiers
  | any
  | moduleDecl
  | packageDecl
  | importDecl
  | classType
  | recordType
  | interfaceType
  | enumType
  | annotationType
  | classBody
  | classMember
  | interfaceBody
  | enumBody
  | annotationTypeBody
  | method
  | constructor
  | compactConstructor
  | field (kind : Kind)
  | declarator (reserved : List String)
  | formalParameters
  | throws

/-- The symbols of the grammar. -/
inductive Symbol where
  | type (s : TypeSymbol)
  | expression (s : ExpressionSymbol)
  | statement (s : StatementSymbol)
  | declaration (s : DeclarationSymbol)

/-- The rule of a symbol of the grammar. -/
abbrev R := Rule Symbol

/-! ### Vocabulary -/

/-- A keyword or punctuation. -/
def mark (text : String) : R := .leaf .token (.mark text)

/-- Punctuation directly after the token before. -/
def glued (text : String) : R := .leaf .token (.glued text)

/-- One of several keywords or symbols. -/
def oneOf (texts : List String) : R := .leaf .token (.oneOf texts)

/-- A name, other than the words that mean something else here. -/
def name (reserved : List String) : R := .leaf .identifier (.name reserved)

/-- A rule, if it fits. -/
def optional (r : R) : R := .alt [r, .seq []]

/-- A rule, once or more. -/
def many1 (r : R) : R := .seq [r, .many r]

/-- A list with commas, of one item at least. -/
def commas1 (r : R) : R := .seq [r, .many (.seq [mark ",", r])]

/-- A list with commas. -/
def commas (r : R) : R := optional (commas1 r)

/-- Rules in round brackets. -/
def round (rs : List R) : R := .seq ([mark "("] ++ rs ++ [mark ")"])

/-- Rules in braces. -/
def braces (rs : List R) : R := .seq ([mark "\x7b"] ++ rs ++ [mark "\x7d"])

/-- A name or type. -/
def typeSub (s : TypeSymbol) : R := .sub (.type s)

/-- An expression. -/
def expressionSub (s : ExpressionSymbol) : R := .sub (.expression s)

/-- A statement. -/
def statementSub (s : StatementSymbol) : R := .sub (.statement s)

/-- A declaration. -/
def declarationSub (s : DeclarationSymbol) : R := .sub (.declaration s)

/-- An expression of any form. -/
def expression : R := expressionSub (.any true)

/-- Any number of annotations. -/
def annotations : R := .many (typeSub .annotationUse)

/-- The modifiers of a declaration, if it has some. -/
def modifiers : R := optional (declarationSub .modifiers)

/-! ### Words with a meaning -/

/-- The whole number types. -/
def integralTypes : List String := ["byte", "short", "int", "long", "char"]

/-- The floating point types. -/
def floatingPointTypes : List String := ["float", "double"]

/-- The names of the primitive types and of the absence of a type. -/
def primitiveTypes : List String := integralTypes ++ floatingPointTypes ++ ["boolean", "void"]

/-- The words that begin an expression of their own, or continue one. -/
def expressionWords : List String :=
  ["this", "super", "new", "true", "false", "null", "switch", "instanceof"]

/-- The keywords among the modifiers. -/
def modifierWords : List String :=
  ["public", "protected", "private", "abstract", "static", "final", "strictfp", "default",
    "synchronized", "native", "transient", "volatile", "sealed"]

/-- The words that begin a declaration of a type. -/
def typeWords : List String := ["class", "interface", "enum", "record"]

/-- The words that begin a statement and are no names there. -/
def statementWords : List String :=
  ["assert", "break", "continue", "do", "for", "if", "return", "throw", "try", "while", "package",
    "import", "class", "interface", "enum", "public", "protected", "private", "abstract", "static",
    "final", "strictfp", "default", "synchronized", "native", "transient", "volatile"]

/-- The words that begin a statement but may also be names in it. -/
def softWords : List String := ["open", "module", "record", "with", "sealed", "yield"]

/-- The words that begin no type at a place. -/
def Scope.reserved : Scope → List String
  | .anywhere => expressionWords
  | .member => modifierWords ++ typeWords
  | .statement => expressionWords ++ statementWords ++ softWords

end JavadocAudit.Grammar
