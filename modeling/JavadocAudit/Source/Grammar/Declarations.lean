import JavadocAudit.Source.Grammar.Statements

/-!
# Declarations

The grammar does not check which modifiers go together, or whether a method that needs a body has one.
-/

namespace JavadocAudit.Grammar

/-- The modifier that is written with a hyphen. -/
def nonSealed : R := .seq [mark "non", glued "-", glued "sealed"]

/-- A name of a declared thing. -/
def declaredName : R := .part .name (name [])

/-- The type parameters of a declaration, if it has some. -/
def typeParameters : R := optional (.part .typeParameters (typeSub .parameters))

/-- A list of types after a keyword, if it is there. -/
def typesAfter (kind : Kind) (word : String) : R :=
  optional (.node kind (.seq [mark word, .node .typeList (commas1 (typeSub .type))]))

/-- A directive of a module. -/
def moduleDirective : R :=
  .node .moduleDirective (.alt [
    .seq [mark "requires", .many (.seq [oneOf ["transitive", "static"], .unless (mark ";")]),
      typeSub .name, mark ";"],
    .seq [oneOf ["exports", "opens"], typeSub .name,
      optional (.seq [mark "to", commas1 (typeSub .name)]), mark ";"],
    .seq [mark "uses", typeSub .name, mark ";"],
    .seq [mark "provides", typeSub .name, mark "with", commas1 (typeSub .name), mark ";"]])

/-- The members of a class body. -/
def classMembers : R := .many (declarationSub .classMember)

/-- A parameter of a method or a component of a record. -/
def parameter : R :=
  .alt [
    .node .spreadParameter (.seq [modifiers, .part .type (typeSub (.unannotated .anywhere)), mark "...",
      annotations, declarationSub (.declarator [])]),
    .node .formalParameter (.seq [modifiers, .part .type (typeSub (.unannotated .anywhere)),
      variableName []])]

/-- A name before the object that a method is called on. -/
def receiverOwner : R := .seq [name ["this"], mark "."]

/-- The object that a method is called on, written as its first parameter.  With annotations it needs the
name of its class; without that name, `this` names an ordinary parameter. -/
def receiver : R :=
  .node .receiverParameter (.alt [
    .seq [typeSub (.unannotated .anywhere), .many receiverOwner, .leaf .thisReference (.mark "this")],
    .seq [many1 (typeSub .annotationUse), typeSub (.unannotated .anywhere), many1 receiverOwner,
      .leaf .thisReference (.mark "this")]])

/-- A call of another constructor at the beginning of a constructor. -/
def constructorCall : R :=
  .node .explicitConstructorInvocation (.alt [
    .seq [optional (typeSub .arguments),
      .alt [.leaf .thisReference (.mark "this"), .leaf .superReference (.mark "super")],
      .part .arguments (expressionSub .arguments), mark ";"],
    .seq [expressionSub .primary, mark ".", optional (typeSub .arguments),
      .leaf .superReference (.mark "super"), .part .arguments (expressionSub .arguments), mark ";"]])

/-- The rules of declarations. -/
def declarationRule : DeclarationSymbol → R
  | .modifiers =>
    .node .modifiers (many1 (.alt [typeSub .annotationUse, oneOf modifierWords, nonSealed]))
  | .any =>
    .alt [declarationSub .moduleDecl, declarationSub .packageDecl, declarationSub .importDecl, declarationSub .classType,
      declarationSub .recordType, declarationSub .interfaceType, declarationSub .annotationType,
      declarationSub .enumType]
  | .moduleDecl =>
    .node .moduleDeclaration (.seq [annotations, optional (mark "open"), mark "module",
      .part .name (typeSub .name),
      .part .body (.node .moduleBody (braces [.many moduleDirective]))])
  | .packageDecl => .node .packageDeclaration (.seq [annotations, mark "package", typeSub .name, mark ";"])
  | .importDecl =>
    .node .importDeclaration (.seq [mark "import", optional (mark "static"), typeSub .name,
      optional (.seq [mark ".", .leaf .asterisk (.mark "*")]), mark ";"])
  | .classType =>
    .node .classDeclaration (.seq [modifiers, mark "class", declaredName, typeParameters,
      optional (.node .superclass (.seq [mark "extends", typeSub .type])),
      typesAfter .superInterfaces "implements", typesAfter .permits "permits",
      .part .body (declarationSub .classBody)])
  | .recordType =>
    .node .recordDeclaration (.seq [modifiers, mark "record", declaredName, typeParameters,
      .part .parameters (declarationSub .formalParameters), typesAfter .superInterfaces "implements",
      .part .body (declarationSub .classBody)])
  | .interfaceType =>
    .node .interfaceDeclaration (.seq [modifiers, mark "interface", declaredName, typeParameters,
      typesAfter .extendsInterfaces "extends", typesAfter .permits "permits",
      .part .body (declarationSub .interfaceBody)])
  | .enumType =>
    .node .enumDeclaration (.seq [modifiers, mark "enum", declaredName,
      typesAfter .superInterfaces "implements", .part .body (declarationSub .enumBody)])
  | .annotationType =>
    .node .annotationTypeDeclaration (.seq [modifiers, mark "@interface", declaredName,
      .part .body (declarationSub .annotationTypeBody)])
  | .classBody => .node .classBody (braces [classMembers])
  | .classMember =>
    .alt [
      mark ";",
      statementSub .block,
      .node .staticInitializer (.seq [mark "static", statementSub .block]),
      declarationSub .classType, declarationSub .recordType, declarationSub .interfaceType,
      declarationSub .annotationType, declarationSub .enumType, declarationSub .compactConstructor,
      declarationSub .constructor, declarationSub .method, declarationSub (.field .fieldDeclaration)]
  | .interfaceBody =>
    .node .interfaceBody (braces [.many (.alt [
      mark ";", declarationSub .classType, declarationSub .recordType, declarationSub .interfaceType,
      declarationSub .annotationType, declarationSub .enumType, declarationSub .method,
      declarationSub (.field .constantDeclaration)])])
  | .enumBody =>
    .node .enumBody (braces [
      commas (.node .enumConstant (.seq [modifiers, declaredName,
        optional (.part .arguments (expressionSub .arguments)),
        optional (.part .body (declarationSub .classBody))])),
      optional (mark ","),
      optional (.node .enumBodyDeclarations (.seq [mark ";", classMembers]))])
  | .annotationTypeBody =>
    .node .annotationTypeBody (braces [.many (.alt [
      mark ";", declarationSub .classType, declarationSub .interfaceType, declarationSub .annotationType,
      declarationSub .enumType,
      .node .annotationTypeElementDeclaration (.seq [modifiers,
        .part .type (typeSub (.unannotated .member)), .part .name (name ["_"]), mark "(", mark ")",
        optional (.part .dimensions (typeSub .dimensions)),
        optional (.seq [mark "default", .part .value (expressionSub .elementValue)]), mark ";"]),
      declarationSub (.field .constantDeclaration)])])
  | .method =>
    .node .methodDeclaration (.seq [modifiers,
      optional (.seq [.part .typeParameters (typeSub .parameters), annotations]),
      .part .type (typeSub (.unannotated .member)), .part .name (name ["_"]),
      .part .parameters (declarationSub .formalParameters),
      optional (.part .dimensions (typeSub .dimensions)), optional (declarationSub .throws),
      .alt [.part .body (statementSub .block), mark ";"]])
  | .constructor =>
    .node .constructorDeclaration (.seq [modifiers, typeParameters,
      .part .name (name memberStart), .part .parameters (declarationSub .formalParameters),
      optional (declarationSub .throws),
      .part .body (.node .constructorBody (braces [optional constructorCall,
        .many (statementSub .any)]))])
  | .compactConstructor =>
    .node .compactConstructorDeclaration (.seq [modifiers, .part .name (name memberStart),
      .part .body (statementSub .block)])
  | .field kind =>
    .node kind (.seq [modifiers, .part .type (typeSub (.unannotated .member)), declarators [], mark ";"])
  | .declarator reserved =>
    .node .variableDeclarator (.seq [variableName reserved,
      optional (.seq [mark "=", .part .value (.alt [expressionSub .initializer, expression])])])
  | .formalParameters =>
    .node .formalParameters (.alt [
      round [receiver],
      round [optional (.seq [receiver, mark ","]), commas parameter]])
  | .throws => .node .throws (.seq [mark "throws", commas1 (typeSub .type)])
where
  /-- The words that name no constructor. -/
  memberStart : List String := modifierWords ++ typeWords ++ primitiveTypes

end JavadocAudit.Grammar
