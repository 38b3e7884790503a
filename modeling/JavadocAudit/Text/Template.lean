/-!
# Message templates

A template is text with slots.  A percent sign and the letter `s` are a slot for the next argument, and
two percent signs print one.  A percent sign before anything else asks for an argument of some other
form, so a template that has a slot for each of its arguments does not fit them if it holds one.  A
template fits its arguments only if it has no such sign, every slot finds an argument and no argument is
left over; only then has the message a text.
-/

namespace JavadocAudit.Text

/-- The text of a template with its slots filled in order.  `signed` says that a percent sign has just
been read that prints nothing itself. -/
def fillAt : Bool → List Char → List String → Option (List Char)
  | false, [], [] => some []
  | false, [], _ :: _ => none
  | true, [], _ => none
  | false, c :: rest, args =>
    if c == '%' then fillAt true rest args
    else (fillAt false rest args).map (c :: ·)
  | true, c :: rest, args =>
    if c == '%' then (fillAt false rest args).map (c :: ·)
    else if c == 's' then
      match args with
      | [] => none
      | arg :: more => (fillAt false rest more).map (arg.toList ++ ·)
    else none

/-- The text of a template whose slots fit the arguments. -/
def fill? (template : String) (args : List String) : Option String :=
  (fillAt false template.toList args).map String.ofList

end JavadocAudit.Text
