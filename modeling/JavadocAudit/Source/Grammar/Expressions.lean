import JavadocAudit.Source.Grammar.Symbol

/-!
# Expressions

Binary operators form ten levels, from the loosest to the tightest.  An assignment stands wherever its
target, a name, a field or an array element, stands as an operand, and reaches as far to the right as it
can; so does a lambda.  A bracketed type in front of an operand is a cast.
-/

namespace JavadocAudit.Grammar

/-- The words that are no names inside an expression. -/
def operandReserved : List String := expressionWords ++ primitiveTypes

/-- The words after a point that are no names of members. -/
def memberReserved : List String := ["class", "new", "super", "this"]

/-- A part with an operator. -/
def operator (texts : List String) : R := .part .operator (oneOf texts)

/-- A shift to the right by a row of glued signs. -/
def rightShift : R :=
  .part .operator (.alt [.seq [mark ">", glued ">", glued ">"], .seq [mark ">", glued ">"]])

/-- The operators of a level of binary expressions. -/
def levelOperator : Nat → R
  | 0 => operator ["||"]
  | 1 => operator ["&&"]
  | 2 => operator ["|"]
  | 3 => operator ["^"]
  | 4 => operator ["&"]
  | 5 => operator ["==", "!="]
  | 6 => operator ["<", ">", "<=", ">="]
  | 7 => .alt [operator ["<<"], rightShift]
  | 8 => operator ["+", "-"]
  | _ => operator ["*", "/", "%"]

/-- The tightest level of binary expressions. -/
def lastLevel : Nat := 9

/-- A test of a type, which may bind a name or take a record apart. -/
def instanceofTail : Tail × R :=
  (⟨.instanceofExpression, .left, []⟩,
    .seq [mark "instanceof", optional (mark "final"),
      .alt [expressionSub .recordPattern,
        .seq [.part .right (typeSub .type), optional (.part .name (name operandReserved))]]])

/-- The operators of assignments. -/
def assignmentOperator : R :=
  .part .operator (.alt [
    oneOf ["=", "+=", "-=", "*=", "/=", "&=", "|=", "^=", "%=", "<<="],
    .seq [mark ">", glued ">", glued ">="],
    .seq [mark ">", glued ">="]])

/-- What makes an operand the target of an assignment. -/
def assignmentTail (arrow : Bool) : Tail × R :=
  (⟨.assignmentExpression, .left, [.identifier, .fieldAccess, .arrayAccess]⟩,
    .seq [assignmentOperator, .part .right (expressionSub (.any arrow))])

/-- The parameters of a lambda. -/
def lambdaParameters : R :=
  .alt [name operandReserved, declarationSub .formalParameters,
    .node .inferredParameters (round [commas1 (name operandReserved)])]

/-- A type in brackets, or several that hold at once. -/
def castType : R := round [.part .type (typeSub .type), .many (.seq [mark "&", typeSub .type])]

/-- A primitive type in brackets. -/
def primitiveCastType : R :=
  round [.chain (.leaf .integralType (.oneOf primitiveTypes))
    [(⟨.arrayType, .element, []⟩, typeSub .dimensions)]]

/-- A token that begins an operand other than a signed one. -/
def operandStart : R :=
  .alt [.leaf .identifier (.name ["instanceof"]), .leaf .numberLiteral (.sort .number),
    .leaf .characterLiteral (.sort .character), .leaf .stringLiteral (.sort .text),
    .leaf .stringLiteral (.sort .textHead), oneOf ["(", "!", "~"]]

/-- The name and arguments of a call. -/
def callee (reserved : List String) : R :=
  .seq [.part .name (name reserved), .part .arguments (expressionSub .arguments)]

/-- A constructor call after `new`. -/
def unqualifiedCreation : R :=
  .seq [mark "new",
    .alt [.seq [annotations, .part .typeArguments (typeSub .arguments), annotations], annotations],
    .part .type (typeSub (.simple .anywhere)), .part .arguments (expressionSub .arguments),
    optional (declarationSub .classBody)]

/-- A new array, with its sizes or its elements. -/
def arrayCreation : R :=
  .seq [mark "new", annotations, .part .type (typeSub (.simple .anywhere)),
    .alt [
      .seq [.part .dimensions (many1 (.node .dimensionsExpression
          (.seq [annotations, mark "[", expression, mark "]"]))),
        optional (.part .dimensions (typeSub .dimensions))],
      .seq [.part .dimensions (typeSub .dimensions), .part .value (expressionSub .initializer)]]]

/-- What may follow an operand. -/
def primaryTails : List (Tail × R) :=
  [(⟨.objectCreationExpression, .object, []⟩, .seq [mark ".", unqualifiedCreation]),
    (⟨.methodInvocation, .object, []⟩,
      .seq [mark ".", optional (.seq [.leaf .superReference (.mark "super"), mark "."]),
        optional (.part .typeArguments (typeSub .arguments)), callee memberReserved]),
    (⟨.fieldAccess, .object, []⟩,
      .seq [optional (.seq [mark ".", .leaf .superReference (.mark "super")]), mark ".",
        .part .member (.alt [name memberReserved, .leaf .thisReference (.mark "this")])]),
    (⟨.templateExpression, .object, []⟩, .seq [mark ".", expressionSub .text]),
    (⟨.arrayAccess, .object, []⟩, .seq [mark "[", expression, mark "]"]),
    (⟨.methodReference, .object, []⟩,
      .seq [mark "::", optional (typeSub .arguments), .alt [mark "new", name []]])]

/-- What an operand may begin with. -/
def primaryFirst : R :=
  .alt [
    .leaf .numberLiteral (.sort .number),
    .leaf .characterLiteral (.sort .character),
    expressionSub .text,
    .leaf .trueLiteral (.mark "true"),
    .leaf .falseLiteral (.mark "false"),
    .leaf .nullLiteral (.mark "null"),
    .seq [.leaf .superReference (.mark "super"), .ahead (oneOf [".", "::"])],
    expressionSub .parenthesized,
    expressionSub .creation,
    .seq [.ahead (.seq [typeSub (.unannotated .anywhere), mark ".", mark "class"]),
      .node .classLiteral (.seq [typeSub (.unannotated .anywhere), mark ".", mark "class"])],
    .seq [.ahead (.seq [typeSub .type, mark "::"]),
      .node .methodReference (.seq [typeSub .type, mark "::", optional (typeSub .arguments),
        .alt [mark "new", name []]])],
    .leaf .thisReference (.mark "this"),
    .node .methodInvocation (callee operandReserved),
    name operandReserved]

/-- The rules of expressions. -/
def expressionRule : ExpressionSymbol → R
  | .any arrow =>
    .chain (expressionSub (.level 0 arrow))
      [(⟨.ternaryExpression, .condition, []⟩,
        .seq [mark "?", expression, mark ":", expressionSub (.any arrow)])]
  | .level n arrow =>
    let next := if n < lastLevel then expressionSub (.level (n + 1) arrow)
      else expressionSub (.unary arrow)
    let binary : Tail × R :=
      (⟨.binaryExpression, .left, []⟩, .seq [levelOperator n, .part .right next])
    .chain next (if n = 6 then [instanceofTail, binary] else [binary])
  | .unary arrow =>
    .chain (.alt ((if arrow then [expressionSub .lambda] else []) ++ [
        expressionSub .cast,
        .node .unaryExpression (.seq [operator ["+", "-", "!", "~"],
          .part .operand (expressionSub (.unary arrow))]),
        .node .updateExpression (.seq [oneOf ["++", "--"], expressionSub (.unary arrow)]),
        expressionSub .switch,
        .chain (expressionSub .primary) [assignmentTail arrow]]))
      [(⟨.updateExpression, .operand, []⟩, oneOf ["++", "--"])]
  | .primary => .chain primaryFirst primaryTails
  | .text =>
    .alt [.leaf .stringLiteral (.sort .text),
      .node .stringLiteral (.seq [.leaf .token (.sort .textHead), expression,
        .many (.seq [.leaf .token (.sort .textMiddle), expression]),
        .leaf .token (.sort .textTail)])]
  | .parenthesized => .node .parenthesizedExpression (round [expression])
  | .arguments => .node .argumentList (round [commas expression])
  | .creation =>
    .alt [.node .arrayCreationExpression arrayCreation,
      .node .objectCreationExpression unqualifiedCreation]
  | .lambda =>
    .seq [.ahead (.seq [lambdaParameters, mark "->"]),
      .node .lambdaExpression (.seq [.part .parameters lambdaParameters, mark "->",
        .part .body (.alt [statementSub .block, expression])])]
  | .cast =>
    .alt [
      .seq [.ahead primitiveCastType,
        .node .castExpression (.seq [castType, .part .value (expressionSub (.unary true))])],
      .seq [.ahead (.seq [castType, operandStart]),
        .node .castExpression (.seq [castType, .part .value (expressionSub (.unary true))])]]
  | .switch =>
    .node .switchExpression (.seq [mark "switch", .part .condition (expressionSub .parenthesized),
      .part .body (.node .switchBlock (.alt [
        braces [.many (.node .switchRule (.seq [expressionSub .switchLabel, mark "->",
          .alt [statementSub .block,
            .node .throwStatement (.seq [mark "throw", expression, mark ";"]),
            .node .expressionStatement (.seq [expression, mark ";"])]]))],
        braces [.many (.node .switchBlockStatementGroup (.seq [
          many1 (.seq [expressionSub .switchLabel, mark ":"]),
          .many (.seq [.unless (.alt [mark "case", .seq [mark "default", oneOf [":", "->"]]]),
            statementSub .any])]))]]))])
  | .switchLabel =>
    .node .switchLabel (.alt [
      .seq [mark "case",
        .alt [
          .seq [.alt [
              .node .typePattern (.seq [typeSub (.unannotated .anywhere), name ["when", "instanceof"]]),
              expressionSub .recordPattern],
            .ahead (oneOf [":", "->", "when"])],
          commas1 (expressionSub (.any false))],
        optional (.node .guard (.seq [mark "when", expressionSub (.any false)]))],
      mark "default"])
  | .recordPattern =>
    .node .recordPattern (.seq [
      .alt [.seq [name operandReserved, .ahead (mark "(")], typeSub (.simple .anywhere)],
      .node .recordPatternBody (round [commas (.alt [
        expressionSub .recordPattern,
        .node .recordPatternComponent (.alt [
          .seq [typeSub (.unannotated .anywhere), name []],
          .leaf .underscorePattern (.mark "_")])])])])
  | .initializer =>
    .node .arrayInitializer (braces [
      commas (.alt [expressionSub .initializer, expression]), optional (mark ",")])
  | .elementValue =>
    .alt [typeSub .annotationUse,
      .node .elementValueArrayInitializer (braces [
        commas (expressionSub .elementValue), optional (mark ",")]),
      expression]

end JavadocAudit.Grammar
