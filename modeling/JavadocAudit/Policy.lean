import JavadocAudit.Settings
import JavadocAudit.Site

/-!
# Exemptions

Some constructs need no documentation: methods that override others, and whatever the settings exempt.
Of the rules that apply to a site, the first one in the order below is named.
-/

namespace JavadocAudit

/-- The rules of exemption. -/
inductive Exemption where
  | overriding
  | privateAccess
  | ofKind (kind : ConstructKind)
  | ofName
  | noargConstructor
  | trivialProperty (property : Property)
  | serialVersion
  deriving DecidableEq, Inhabited

/-- The name of a rule in messages. -/
def Exemption.reason : Exemption → String
  | .overriding => "override"
  | .privateAccess => "private"
  | .ofKind kind => kind.name
  | .ofName => "name"
  | .noargConstructor => "noarg_constructor"
  | .trivialProperty _ => "trivial_property"
  | .serialVersion => "serial_version_uid"

namespace Policy

/-- The toggle that exempts a kind of constructs; packages have none. -/
def kindToggle? : ConstructKind → Option Toggle
  | .type => some .exemptType
  | .field => some .exemptField
  | .enumConstant => some .exemptField
  | .method => some .exemptMethod
  | .constructor => some .exemptMethod
  | .annotationMember => some .exemptMethod
  | .package => none

/-- The settings exempt constructs of a kind. -/
def kindExempt (settings : Settings) (kind : ConstructKind) : Bool :=
  match kindToggle? kind with
  | some t => settings.isOn t
  | none => false

/-- The settings exempt constructs of a name; the empty name is never exempt. -/
def nameExempt (settings : Settings) (name : String) : Bool :=
  name != "" && Settings.matchesText settings.exemptName name

/-- The rule that exempts a construct for its kind, name, visibility or mark. -/
def exemption? (settings : Settings) (c : Construct) : Option Exemption :=
  if c.kind == .method && c.overrides then some .overriding
  else if settings.isOn .exemptPrivate && c.visibility == .privateLevel then some .privateAccess
  else if kindExempt settings c.kind then some (.ofKind c.kind)
  else if nameExempt settings c.name then some .ofName
  else none

/-- The rule that exempts a site for what it declares. -/
def siteExemption? (settings : Settings) (s : Site) : Option Exemption :=
  match s.construct.kind with
  | .constructor =>
    if settings.isOn .exemptNoargConstructor && s.parameters == 0 then some .noargConstructor else none
  | .method =>
    if settings.isOn .exemptTrivialProperties then s.property.map .trivialProperty else none
  | .field => if s.isSerialVersion then some .serialVersion else none
  | _ => none

/-- The first rule that exempts a site. -/
def ruling? (settings : Settings) (s : Site) : Option Exemption :=
  (exemption? settings s.construct).or (siteExemption? settings s)

end Policy

end JavadocAudit
