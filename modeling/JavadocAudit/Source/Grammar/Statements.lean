import JavadocAudit.Source.Grammar.Symbol

/-!
# Statements

Declarations are statements too, so that they may stand inside blocks, and statements may stand outside
of types.
-/

namespace JavadocAudit.Grammar

/-- The name of a variable, with the dimensions after it. -/
def variableName (reserved : List String) : R :=
  .seq [
    .part .name (.alt [.leaf .underscorePattern (.mark "_"), name reserved]),
    optional (.part .dimensions (typeSub .dimensions))]

/-- The variables of a declaration, separated by commas. -/
def declarators (reserved : List String) : R :=
  commas1 (.part .declarator (declarationSub (.declarator reserved)))

/-- A type and a name, with modifiers before them. -/
def typedName (scope : Scope) (reserved : List String) : R :=
  .seq [modifiers, typeSub (.unannotated scope), variableName reserved]

/-- A statement of a kind that a keyword begins. -/
def keyword (kind : Kind) (word : String) (rest : List R) : R := .node kind (.seq (mark word :: rest))

/-- The body of a loop or a branch. -/
def inner : R := statementSub .any

/-- A resource of a `try` statement: a new variable, or one that exists. -/
def resource : R :=
  .node .resource (.alt [
    .seq [modifiers, .part .type (typeSub (.unannotated .anywhere)), variableName [], mark "=",
      .part .value expression],
    .chain (.alt [.leaf .thisReference (.mark "this"), name expressionWords])
      [(⟨.fieldAccess, .object, []⟩, .seq [mark ".", .part .member (name memberNames)])]])
where
  /-- Words after a point that name no member. -/
  memberNames : List String := ["class", "new", "super", "this"]

/-- A loop over the elements of a collection. -/
def enhancedFor : R :=
  .seq [.ahead (.seq [mark "for", mark "(", typedName .statement [], mark ":"]),
    keyword .enhancedForStatement "for" [
      round [modifiers, .part .type (typeSub (.unannotated .statement)), variableName [], mark ":",
        .part .value expression],
      .part .body inner]]

/-- A loop with a start, a condition and a step. -/
def plainFor : R :=
  keyword .forStatement "for" [
    round [.alt [statementSub .localVariable, .seq [commas expression, mark ";"]],
      optional (.part .condition expression), mark ";", commas expression],
    .part .body inner]

/-- The handlers of a `try` statement. -/
def handlers : R := .many (statementSub .catchClause)

/-- The rules of statements. -/
def statementRule : StatementSymbol → R
  | .any =>
    .alt [
      mark ";",
      statementSub .block,
      declarationSub .any,
      keyword .ifStatement "if" [.part .condition (expressionSub .parenthesized), inner,
        optional (.seq [mark "else", inner])],
      keyword .whileStatement "while" [.part .condition (expressionSub .parenthesized),
        .part .body inner],
      enhancedFor,
      plainFor,
      keyword .doStatement "do" [.part .body inner, mark "while",
        .part .condition (expressionSub .parenthesized), mark ";"],
      keyword .tryWithResourcesStatement "try" [
        .node .resourceSpecification (round [resource, .many (.seq [mark ";", resource]),
          optional (mark ";")]),
        .part .body (statementSub .block), handlers, optional (statementSub .finallyClause)],
      keyword .tryStatement "try" [.part .body (statementSub .block),
        .alt [.seq [handlers, statementSub .finallyClause], many1 (statementSub .catchClause)]],
      expressionSub .switch,
      keyword .synchronizedStatement "synchronized" [expressionSub .parenthesized,
        .part .body (statementSub .block)],
      keyword .assertStatement "assert" [expression, optional (.seq [mark ":", expression]), mark ";"],
      keyword .breakStatement "break" [optional (name []), mark ";"],
      keyword .continueStatement "continue" [optional (name []), mark ";"],
      keyword .returnStatement "return" [optional expression, mark ";"],
      keyword .throwStatement "throw" [expression, mark ";"],
      keyword .yieldStatement "yield" [expression, mark ";"],
      .seq [.ahead (typedName .statement ["instanceof"]), statementSub .localVariable],
      .seq [.unless (oneOf ("switch" :: statementWords)),
        .alt [
          .node .labeledStatement (.seq [name operandNames, mark ":", inner]),
          .node .expressionStatement (.seq [expression, mark ";"])]]]
  | .block => .node .block (braces [.many (statementSub .any)])
  | .localVariable =>
    .node .localVariableDeclaration (.seq [modifiers, .part .type (typeSub (.unannotated .statement)),
      declarators ["instanceof"], mark ";"])
  | .catchClause =>
    keyword .catchClause "catch" [
      round [.node .catchFormalParameter (.seq [modifiers,
        .node .catchType (.seq [typeSub (.unannotated .anywhere),
          .many (.seq [mark "|", typeSub (.unannotated .anywhere)])]),
        variableName []])],
      .part .body (statementSub .block)]
  | .finallyClause => keyword .finallyClause "finally" [statementSub .block]
where
  /-- Words that label no statement. -/
  operandNames : List String := expressionWords ++ primitiveTypes

end JavadocAudit.Grammar
