import JavadocAudit.Source.Declaration
import JavadocAudit.Text.Lowercase
import JavadocAudit.Text.Uppercase

/-!
# Trivial accessors

A method is a trivial accessor of a property when its name, its parameters, its return type and its only
statement agree on the property: `int getBar() { return bar; }`, `boolean isBaz() { return this.baz; }`,
`boolean notQux() { return !qux; }`, `void setBar(int bar) { this.bar = bar; }`.  A method without one of
the prefixes may still be a getter under the plain name of the property.
-/

namespace JavadocAudit

/-- The forms of accessors. -/
inductive PropertyKind where
  | getter
  | getterNoPrefix
  | getterHas
  | getterIs
  | getterNot
  | setter
  deriving DecidableEq, Inhabited

/-- The name of a form in messages. -/
def PropertyKind.name : PropertyKind → String
  | .getter => "getter"
  | .getterNoPrefix => "getter_no_prefix"
  | .getterHas => "getter_has"
  | .getterIs => "getter_is"
  | .getterNot => "getter_not"
  | .setter => "setter"

/-- What a method returns, as far as accessors care. -/
inductive ReturnCategory where
  | void
  | boolean
  | other
  deriving DecidableEq, Inhabited

/-- The name of a category. -/
def ReturnCategory.name : ReturnCategory → String
  | .void => "void"
  | .boolean => "boolean"
  | .other => "other"

/-- A property that an accessor exposes. -/
structure Property where
  kind : PropertyKind
  name : String
  deriving DecidableEq, Inhabited

namespace Accessor

/-- A form of accessors: how its names begin, its number of parameters, and the category it returns;
`none` stands for anything but nothing. -/
structure Form where
  opening : String
  kind : PropertyKind
  parameters : Nat
  returns : Option ReturnCategory
  deriving DecidableEq, Inhabited

/-- The forms with an opening of their own. -/
def forms : List Form :=
  [⟨"get", .getter, 0, none⟩, ⟨"has", .getterHas, 0, some .boolean⟩,
    ⟨"is", .getterIs, 0, some .boolean⟩, ⟨"not", .getterNot, 0, some .boolean⟩,
    ⟨"set", .setter, 1, some .void⟩]

/-- The form of a getter that is named like its property. -/
def plainForm : Form := ⟨"", .getterNoPrefix, 0, none⟩

/-- The characters of a name after an opening that an upper case character follows. -/
def afterOpening? : List Char → List Char → Option (List Char)
  | [], c :: rest => if Text.isUppercase c then some (c :: rest) else none
  | a :: as, c :: rest => if a == c then afterOpening? as rest else none
  | _, [] => none

/-- The form that the name of a method announces. -/
def formOf? (name : String) : Option Form :=
  forms.find? fun form => (afterOpening? form.opening.toList name.toList).isSome

/-- The name with its first character in lower case. -/
def lowerFirst (name : String) : String :=
  match name.toList with
  | [] => name
  | c :: rest => String.ofList (Text.lowerForm c ++ rest)

/-- The name of the property that a method of a form is about. -/
def propertyName (form : Form) (name : String) : String :=
  lowerFirst (String.ofList (name.toList.drop form.opening.length))

/-- The texts of the types that hold a truth value. -/
def booleanTypes : List String := ["boolean", "Boolean", "java.lang.Boolean"]

/-- What a method returns.  Dimensions after its parameters make it an array. -/
def returnCategory (method : Node) : ReturnCategory :=
  match method.part? .dimensions, method.part? .type with
  | some _, _ => .other
  | none, none => .other
  | none, some type =>
    if type.kind == .voidType then .void
    else if booleanTypes.contains type.text then .boolean
    else .other

/-- The statements of a body, if there is one. -/
def statements? (method : Node) : Option (List Node) := (method.part? .body).map Node.contents

/-- The expression is the property: its name, or the field of that name of this object. -/
def names (property : String) (expr : Node) : Bool :=
  if expr.kind == .identifier then expr.text == property
  else if expr.kind == .fieldAccess then
    match expr.part? .object with
    | some object => object.kind == .thisReference && expr.partText .member == property
    | none => false
  else false

/-- The expression that a statement returns. -/
def returned? (statement : Node) : Option Node :=
  if statement.kind == .returnStatement then
    match statement.contents with
    | [expr] => some expr
    | _ => none
  else none

/-- The statement returns the property. -/
def returnsProperty (property : String) (statement : Node) : Bool :=
  match returned? statement with
  | some expr => names property expr
  | none => false

/-- The statement returns the negation of the property. -/
def returnsNegation (property : String) (statement : Node) : Bool :=
  match returned? statement with
  | some expr =>
    expr.kind == .unaryExpression && expr.partText .operator == "!" &&
      match expr.part? .operand with
      | some operand => names property operand
      | none => false
  | none => false

/-- The statement sets the field of this object to the parameter of the same name. -/
def setsProperty (property : String) (statement : Node) : Bool :=
  statement.kind == .expressionStatement &&
    match statement.contents with
    | [assignment] =>
      assignment.kind == .assignmentExpression && assignment.partText .operator == "=" &&
        match assignment.part? .left, assignment.part? .right with
        | some left, some right =>
          left.kind == .fieldAccess && names property left && right.kind == .identifier &&
            right.text == property
        | _, _ => false
    | _ => false

/-- The only statement of a method does what the form says. -/
def bodyFits (form : Form) (property : String) (statement : Node) : Bool :=
  match form.kind with
  | .setter => setsProperty property statement
  | .getterNot => returnsNegation property statement
  | _ => returnsProperty property statement

/-- The category of a method is the one that the form asks for. -/
def returnFits (form : Form) (category : ReturnCategory) : Bool :=
  match form.returns with
  | none => category != .void
  | some required => category == required

/-- The parameters of a method are those that the form asks for. -/
def parametersFit (form : Form) (property : String) (parameters : List Node) : Bool :=
  parameters.length == form.parameters &&
    match form.kind, parameters with
    | .setter, p :: _ => p.kind == .formalParameter && p.partText .name == property
    | _, _ => true

/-- The method is an accessor of the property in the form. -/
def fits (form : Form) (property : String) (method : Node) : Bool :=
  property != "" && parametersFit form property method.parameterList &&
    returnFits form (returnCategory method) &&
    match statements? method with
    | some [statement] => bodyFits form property statement
    | _ => false

/-- The property that a method exposes, if it is a trivial accessor.  A name that announces a form is
tried in that form only. -/
def classify (method : Node) : Option Property :=
  if method.kind == .methodDeclaration && method.declaredName != "" then
    let form := (formOf? method.declaredName).getD plainForm
    let property := propertyName form method.declaredName
    if fits form property method then some ⟨form.kind, property⟩ else none
  else none

end Accessor

end JavadocAudit
