import JavadocAudit.Audit
import JavadocAudit.Proofs.Exemption

/-!
# Members, and the documentation they lack

A node of a source file is a *member* if the nodes around it are, from the root on, types and their
bodies, each type standing in the body of the one before it, possibly in the part of an enum body that
holds declarations.  The context of a member is read off these types: their names, and whether the
innermost one makes its members public (`Standing.Holds`, `CompilationUnit.Member`).

`Lacks settings unit a f` says without a look at any visit that the construct at the address `a` has to
be reported as `f`: it is a declaration of a file, no rule exempts it, and no comment documents it.
Nodes are told apart by their addresses, so two constructs that look alike are two.
-/

namespace JavadocAudit

/-! ### Documentation -/

namespace Node

theorem isComment_of_isDocumentation {n : Node} (h : n.isDocumentation = true) : n.isComment = true := by
  simp only [isDocumentation, Bool.and_eq_true] at h
  exact h.1.1

/-- The comments directly before a node document it if one of them is documentation. -/
theorem isDocumentedBy_eq (before : List Node) :
    isDocumentedBy before = (before.takeWhile isComment).any isDocumentation := by
  rw [isDocumentedBy, commentRun, List.any_reverse, Bool.or_eq_right_iff_imp]
  intro h
  cases before with
  | nil => cases h
  | cons n rest =>
    have hn : n.isDocumentation = true := by
      cases hn : n.isDocumentation with
      | true => rfl
      | false => simp [attachedDocumentation?, hn] at h
    rw [List.takeWhile_cons_of_pos (isComment_of_isDocumentation hn), List.any_cons, hn, Bool.true_or]

theorem isDocumentedBy_cons (n : Node) (before : List Node) :
    isDocumentedBy (n :: before) = (n.isDocumentation || (n.isComment && isDocumentedBy before)) := by
  rw [isDocumentedBy_eq, isDocumentedBy_eq, List.takeWhile_cons]
  cases hc : n.isComment with
  | true => simp
  | false =>
    have hn : n.isDocumentation = false := by simp [isDocumentation, hc]
    simp [hn]

end Node

/-! ### Members -/

/-- The way from a node down to another one: the numbers of the children to go through. -/
abbrev Address := List Nat

/-- `b` is the body of the declaration `n`, its first child in that part, and has the number `j`. -/
structure Node.BodyAt (n : Node) (j : Nat) (b : Node) : Prop where
  child : n.children[j]? = some b
  label : b.label = some .body
  first : ∀ i < j, ∀ c, n.children[i]? = some c → c.label ≠ some .body

/-- A node in its place: what surrounds it, the siblings before it, nearest first, and the node. -/
structure Standing where
  ctx : Site.Context
  before : List Node
  node : Node

/-- The child number `i` of a node whose children stand in the context `ctx`. -/
def Node.standing? (p : Node) (ctx : Site.Context) (i : Nat) : Option Standing :=
  p.children[i]?.map fun c => ⟨ctx, (p.children.take i).reverse, c⟩

namespace Standing

/-- The context of the members of a type: its name is the last one, its kind says whether they are
public unless they say otherwise, and a record lends its components to its compact constructors. -/
def inner (s : Standing) : Site.Context where
  owners := s.ctx.owners ++ [s.node.declaredName]
  interfaceLike := s.node.kind == .interfaceDeclaration || s.node.kind == .annotationTypeDeclaration
  components := if s.node.kind = .recordDeclaration then s.node.parameterList.length else 0

/-- **The members of a member**: `s.Holds a m` if the node `m` is reached from `s` along the address `a`
through bodies of types and the declarations of enum bodies. -/
inductive Holds : Standing → Address → Standing → Prop
  | self (s : Standing) : Holds s [] s
  | inType {s t m : Standing} {j i : Nat} {b : Node} {a : Address} (hk : s.node.kind.isType = true)
      (hb : s.node.BodyAt j b) (ht : b.standing? s.inner i = some t) (hm : Holds t a m) :
      Holds s (j :: i :: a) m
  | inEnumPart {s t m : Standing} {i : Nat} {a : Address} (hin : s.ctx.owners ≠ [])
      (hk : s.node.kind = .enumBodyDeclarations)
      (ht : s.node.standing? { s.ctx with components := 0 } i = some t) (hm : Holds t a m) :
      Holds s (i :: a) m

/-- The visibility of a member: the one it states, else the one that its context gives. -/
def visibility (s : Standing) : Visibility :=
  match s.node.declaredVisibility? with
  | some v => v
  | none => if s.ctx.interfaceLike then .publicLevel else .packageLevel

/-- The number of parameters of a constructor. -/
def parameters (s : Standing) : Nat :=
  if s.node.kind = .compactConstructorDeclaration then s.ctx.components
  else s.node.parameterList.length

/-- No comment documents the node. -/
def Undocumented (s : Standing) : Prop := Node.isDocumentedBy s.before = false

end Standing

/-- The members of a source file: its outermost nodes, and the members of these. -/
def CompilationUnit.Member (unit : CompilationUnit) (a : Address) (m : Standing) : Prop :=
  ∃ i t a', a = i :: a' ∧ unit.root.standing? {} i = some t ∧ t.Holds a' m

/-! ### Missing documentation -/

/-- The finding of a construct that stands where the node `n` starts. -/
def findingAt (path : String) (kind : ConstructKind) (name : String) (n : Node) : Finding where
  path := path
  line := some n.span.line
  column := some n.span.column
  name := name
  kind := kind

/-- **What has to be reported**: the construct at an address of a file lacks documentation, and the
finding that says so. -/
inductive Lacks (settings : Settings) (unit : CompilationUnit) : Address → Finding → Prop
  | package {i : Nat} {m : Standing} (hinfo : unit.isPackageInfo = true)
      (hm : unit.root.standing? {} i = some m) (hk : m.node.kind = .packageDeclaration)
      (hreq : Required settings .package .publicLevel m.node.packageName) (hdoc : m.Undocumented) :
      Lacks settings unit [i] (findingAt unit.path .package m.node.packageName m.node)
  | type {a : Address} {m : Standing} (hm : unit.Member a m) (hk : m.node.kind.isType = true)
      (hreq : Required settings .type m.visibility m.node.declaredName) (hdoc : m.Undocumented) :
      Lacks settings unit a (findingAt unit.path .type m.node.declaredName m.node)
  | method {a : Address} {m : Standing} (hm : unit.Member a m) (hin : m.ctx.owners ≠ [])
      (hk : m.node.kind = .methodDeclaration) (hover : Site.isOverride m.node = false)
      (hreq : Required settings .method m.visibility m.node.declaredName)
      (hplain : settings.isOn .exemptTrivialProperties = true → Accessor.classify m.node = none)
      (hdoc : m.Undocumented) :
      Lacks settings unit a (findingAt unit.path .method m.node.declaredName m.node)
  | constructor {a : Address} {m : Standing} {owner : String} (hm : unit.Member a m)
      (hin : m.ctx.owners.getLast? = some owner) (hk : m.node.kind.isConstructor = true)
      (hreq : Required settings .constructor m.visibility owner)
      (hargs : settings.isOn .exemptNoargConstructor = true → m.parameters ≠ 0)
      (hdoc : m.Undocumented) :
      Lacks settings unit a (findingAt unit.path .constructor owner m.node)
  | annotationMember {a : Address} {m : Standing} (hm : unit.Member a m) (hin : m.ctx.owners ≠ [])
      (hk : m.node.kind = .annotationTypeElementDeclaration)
      (hreq : Required settings .annotationMember m.visibility m.node.declaredName)
      (hdoc : m.Undocumented) :
      Lacks settings unit a (findingAt unit.path .annotationMember m.node.declaredName m.node)
  | enumConstant {a : Address} {m : Standing} (hm : unit.Member a m) (hin : m.ctx.owners ≠ [])
      (hk : m.node.kind = .enumConstant)
      (hreq : Required settings .enumConstant .publicLevel m.node.declaredName)
      (hdoc : m.Undocumented) :
      Lacks settings unit a (findingAt unit.path .enumConstant m.node.declaredName m.node)
  | field {a : Address} {m : Standing} {j : Nat} {v : Node} (hm : unit.Member a m)
      (hin : m.ctx.owners ≠ []) (hk : m.node.kind.isField = true)
      (hv : m.node.children[j]? = some v) (hl : v.label = some .declarator)
      (hreq : Required settings .field m.visibility v.declaredName)
      (hserial : Site.isSerialVersionOf m.node v = false) (hdoc : m.Undocumented) :
      Lacks settings unit (a ++ [j]) (findingAt unit.path .field v.declaredName v)

end JavadocAudit
