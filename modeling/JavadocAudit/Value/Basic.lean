/-!
# Dynamic values

Options, requests and answers are exchanged as values of seven kinds.  Whole numbers and numbers with
a fraction or an exponent stay apart, since a whole number is accepted in places where the other kind
is named in an error.
-/

namespace JavadocAudit

/-- A value of an option or a request. -/
inductive Value where
  | null
  | bool (b : Bool)
  | int (n : Int)
  | float (x : Float)
  | text (s : String)
  | list (items : List Value)
  | object (fields : List (String × Value))
  deriving Inhabited

namespace Value

/-- The name of a value's kind in messages. -/
def kindName : Value → String
  | .null => "NoneType"
  | .bool _ => "bool"
  | .int _ => "int"
  | .float _ => "float"
  | .text _ => "str"
  | .list _ => "list"
  | .object _ => "dict"

/-- The last value of a field. -/
def lastField? (name : String) : List (String × Value) → Option Value
  | [] => none
  | (key, value) :: rest =>
    match lastField? name rest with
    | some later => some later
    | none => if key == name then some value else none

/-- The field of an object; the last one counts where the name is repeated. -/
def field? (v : Value) (name : String) : Option Value :=
  match v with
  | .object fields => lastField? name fields
  | _ => none

/-- The value is a text. -/
def asText? : Value → Option String
  | .text s => some s
  | _ => none

/-- The value is a list. -/
def asList? : Value → Option (List Value)
  | .list items => some items
  | _ => none

end Value

end JavadocAudit
