import JavadocAudit.Source.Grammar.Symbol

/-!
# Names and types
-/

namespace JavadocAudit.Grammar

/-- The words after a point that are no part of a type. -/
def pointWords : List String := ["class", "this", "super", "new"]

/-- A part of a type after a point. -/
def typePoint : Tail × R :=
  (⟨.scopedTypeIdentifier, .scope, []⟩,
    .seq [mark ".", annotations, .leaf .typeIdentifier (.name pointWords)])

/-- The arguments of a type, which no others follow. -/
def typeApplied : Tail × R :=
  (⟨.genericType, .element, [.typeIdentifier, .scopedTypeIdentifier]⟩, typeSub .arguments)

/-- The rules of names and types. -/
def typeRule : TypeSymbol → R
  | .name =>
    .chain (name []) [(⟨.scopedIdentifier, .scope, []⟩, .seq [mark ".", .part .name (name [])])]
  | .type =>
    .alt [.node .annotatedType (.seq [many1 (typeSub .annotationUse), typeSub (.unannotated .anywhere)]),
      typeSub (.unannotated .anywhere)]
  | .unannotated scope =>
    .chain (typeSub (.simple scope))
      [(⟨.arrayType, .element, []⟩, .part .dimensions (typeSub .dimensions))]
  | .simple scope =>
    .alt [.leaf .voidType (.mark "void"), .leaf .integralType (.oneOf integralTypes),
      .leaf .floatingPointType (.oneOf floatingPointTypes), .leaf .booleanType (.mark "boolean"),
      .chain (.leaf .typeIdentifier (.name (primitiveTypes ++ scope.reserved)))
        [typePoint, typeApplied]]
  | .arguments =>
    .node .typeArguments (.seq [mark "<",
      commas (.alt [
        .node .wildcard (.seq [annotations, mark "?",
          optional (.alt [.seq [mark "extends", typeSub .type],
            .seq [.leaf .superReference (.mark "super"), typeSub .type]])]),
        typeSub .type]),
      mark ">"])
  | .parameters =>
    .node .typeParameters (.seq [mark "<",
      commas1 (.node .typeParameter (.seq [annotations, .leaf .typeIdentifier (.name []),
        optional (.node .typeBound (.seq [mark "extends", typeSub .type,
          .many (.seq [mark "&", typeSub .type])]))])),
      mark ">"])
  | .dimensions => .node .dimensions (many1 (.seq [annotations, mark "[", mark "]"]))
  | .annotationUse =>
    .alt [
      .node .annotationCall (.seq [mark "@", .part .name (typeSub .name),
        .part .arguments (.node .annotationArgumentList (.alt [
          round [commas1 (.node .elementValuePair (.seq [name [], mark "=",
            .part .value (expressionSub .elementValue)]))],
          round [expressionSub .elementValue],
          round []]))]),
      .node .annotationMark (.seq [mark "@", .part .name (typeSub .name)])]

end JavadocAudit.Grammar
