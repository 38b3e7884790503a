import JavadocAudit.Audit
import Mathlib.Data.List.Forall2

/-!
# What the audit reads of a tree

Of a declaration the audit reads its name, its modifiers, its parameters and its type; of a method it looks
at the only statement of its body too.  Some of these nodes are read as a whole, with all of their text
(`Node.isRead`); of the others the kind is looked at, or their children.

`Parallel P` says that a relation `P` between the nodes of two trees goes along with these looks: what is
found in one tree corresponds to what is found in the other.  Then all that a declaration says about itself
is the same in both trees, and so is the property that a method exposes (`Parallel.classify`).
-/

namespace JavadocAudit

/-! ### Kinds -/

namespace Kind

/-- The bodies of types, and the part of an enum body that holds declarations. -/
def holdsMembers : Kind → Bool
  | .classBody => true
  | .interfaceBody => true
  | .enumBody => true
  | .enumBodyDeclarations => true
  | .annotationTypeBody => true
  | _ => false

/-- The kinds of code that is a part of a declaration or stands among members. -/
def isCode : Kind → Bool
  | .constructorBody => true
  | .block => true
  | .staticInitializer => true
  | .argumentList => true
  | .classBody => true
  | _ => false

/-- The kinds of nodes that have such code among their children. -/
def holdsCode (kind : Kind) : Bool :=
  kind.isConstructor || kind == .methodDeclaration || kind == .enumConstant ||
    kind == .variableDeclarator || kind.holdsMembers

theorem holdsCode_of_isType {kind : Kind} (h : kind.isType = true) : kind.holdsCode = false := by
  revert h
  cases kind <;> decide

/-- Types that are made of other types and of annotations. -/
def isCompoundType : Kind → Bool
  | .scopedTypeIdentifier => true
  | .genericType => true
  | .arrayType => true
  | .annotatedType => true
  | _ => false

/-- A declaration, a parameter or an annotation, whose name is read. -/
def hasReadName (kind : Kind) : Bool :=
  kind.isType || kind.isConstructor || kind == .methodDeclaration || kind == .enumConstant ||
    kind == .annotationTypeElementDeclaration || kind == .formalParameter || kind == .annotationMark ||
    kind == .annotationCall

end Kind

/-! ### Texts that are read -/

namespace Node

/-- The audit reads the whole text of the node, which is a part of a node of the kind `kind` with the
label `label`. -/
def isRead (kind : Kind) (label : Option Label) (n : Node) : Bool :=
  n.isComment || n.kind == .token || n.kind == .identifier ||
    (kind == .packageDeclaration && n.kind == .scopedIdentifier) ||
    match n.label with
    | some .name => kind.hasReadName || label == some .declarator
    | some .type => kind == .methodDeclaration || kind.isField
    | some .operator => kind == .unaryExpression || kind == .assignmentExpression
    | some .member => kind == .fieldAccess
    | _ => false

theorem isRead_of_name {kind : Kind} {label : Option Label} {n : Node} (hn : n.label = some .name)
    (hr : kind.hasReadName = true ∨ label = some .declarator) : n.isRead kind label = true := by
  simp only [isRead, hn, Bool.or_eq_true, beq_iff_eq]
  exact Or.inr hr

/-- The nodes have one text.  Of the nodes that are read, only a type can have code in it, in the arguments
of an annotation; then there are braces in its text, and it is none of the words that the audit looks
for. -/
def SameText (old new : Node) : Prop :=
  new.text = old.text ∨ (old.label = some .type ∧ old.kind.isCompoundType = true ∧
    Text.holds '\x7b' old.text = true ∧ Text.holds '\x7b' new.text = true)

instance (old new : Node) : Decidable (old.SameText new) := inferInstanceAs (Decidable (_ ∨ _))

section

variable {old new : Node} (h : old.SameText new)
include h

/-- Nodes of one text are both one of some words, or neither is, if there are no braces in the words. -/
theorem SameText.contains {words : List String} (hw : ∀ w ∈ words, Text.holds '\x7b' w = false) :
    words.contains new.text = words.contains old.text := by
  have hcode : ∀ s, Text.holds '\x7b' s = true → words.contains s = false := by
    intro s hs
    rw [List.contains_eq_mem, decide_eq_false_iff_not]
    intro hmem
    rw [hw s hmem] at hs
    cases hs
  rcases h with htext | ⟨-, -, hold, hnew⟩
  · rw [htext]
  · rw [hcode _ hold, hcode _ hnew]

theorem SameText.eq (hplain : old.label ≠ some .type ∨ old.kind.isCompoundType = false) :
    new.text = old.text := by
  rcases h with htext | ⟨hl, hk, -⟩
  · exact htext
  · rcases hplain with hplain | hplain
    · exact absurd hl hplain
    · rw [hk] at hplain
      cases hplain

end

/-! ### Looks at the children -/

theorem part?_eq_head? (n : Node) (l : Label) : n.part? l = (n.parts l).head? := List.head?_filter.symm

theorem modifiers?_eq_head? (n : Node) :
    n.modifiers? = (n.children.filter (·.kind == .modifiers)).head? := List.head?_filter.symm

theorem holdsCode_of_modifiers? {n m : Node} (h : n.modifiers? = some m) : m.kind.holdsCode = false := by
  have hk := List.find?_some h
  rw [beq_iff_eq.mp hk]
  rfl

theorem filter_isParameter (n : Node) : n.namedChildren.filter isParameter = n.children.filter fun c =>
    (c.kind == .formalParameter || c.kind == .spreadParameter) && c.kind != .token := by
  rw [namedChildren, List.filter_filter]
  rfl

theorem find?_identifier (n : Node) : n.namedChildren.find? (fun c => c.kind == .scopedIdentifier ||
    c.kind == .identifier) = (n.children.filter fun c => (c.kind == .scopedIdentifier ||
      c.kind == .identifier) && c.kind != .token).head? := by
  rw [← List.head?_filter, namedChildren, List.filter_filter]
  rfl

/-- Only the tokens among the modifiers say something about the visibility. -/
theorem findSome?_visibilityWord? (row : List Node) : row.findSome? visibilityWord? =
    ((row.filter (·.kind == .token)).map visibilityWord?).findSome? id := by
  induction row with
  | nil => rfl
  | cons c rest ih =>
    rw [List.findSome?_cons, List.filter_cons]
    by_cases hk : c.kind = .token
    · rw [if_pos (by simp [hk]), List.map_cons, List.findSome?_cons, ih]
      rfl
    · rw [if_neg (by simpa using hk), visibilityWord?, if_neg (by simpa using hk), ih]

theorem contents_eq (n : Node) :
    n.contents = n.children.filter fun c => !c.kind.isComment && c.kind != .token := by
  rw [contents, namedChildren, List.filter_filter]
  rfl

/-! ### Nodes that correspond -/

/-- The nodes correspond, as children of nodes with the given kind and label, and have one text if it is
read. -/
def Reads (P : Node → Node → Prop) (kind : Kind) (label : Option Label) (c c' : Node) : Prop :=
  P c c' ∧ (c.isRead kind label = true → c.SameText c')

theorem Reads.text {P : Node → Node → Prop} {kind : Kind} {label : Option Label} {c c' : Node}
    (h : Reads P kind label c c') (hread : c.isRead kind label = true)
    (hplain : c.label ≠ some .type ∨ c.kind.isCompoundType = false) : c'.text = c.text :=
  (h.2 hread).eq hplain

/-- **The relation goes along with the looks of the audit** at the children of a node: at those with a
label, at the modifiers, at the parameters, and at those of some kinds. -/
structure Parallel (P : Node → Node → Prop) : Prop where
  kind : ∀ {old new : Node}, P old new → new.kind = old.kind
  /-- The parts with a label correspond one by one, but for code. -/
  parts : ∀ {old new : Node}, P old new → ∀ {l : Label}, l ∉ [Label.body, .arguments, .value] →
    List.Forall₂ (Reads P old.kind old.label) (old.parts l) (new.parts l)
  modifiers : ∀ {old new : Node}, P old new → (old.modifiers? = none ∧ new.modifiers? = none) ∨
    ∃ m m', old.modifiers? = some m ∧ new.modifiers? = some m' ∧ P m m'
  parameters : ∀ {old new : Node}, P old new →
    List.Forall₂ P old.parameterList new.parameterList
  /-- So do the children of some kinds, comments apart, of a node that holds no code. -/
  ofKind : ∀ {old new : Node}, P old new → old.kind.holdsCode = false → ∀ {p : Kind → Bool},
    (∀ k, k.isComment = true → p k = false) →
    List.Forall₂ (Reads P old.kind old.label) (old.children.filter (p ·.kind))
      (new.children.filter (p ·.kind))

/-- The first nodes of rows that correspond. -/
theorem head?_of_forall₂ {R : Node → Node → Prop} {row row' : List Node} (h : List.Forall₂ R row row') :
    (row.head? = none ∧ row'.head? = none) ∨
      ∃ c c', row.head? = some c ∧ row'.head? = some c' ∧ c ∈ row ∧ R c c' := by
  cases h with
  | nil => exact Or.inl ⟨rfl, rfl⟩
  | cons hc _ => exact Or.inr ⟨_, _, rfl, rfl, List.mem_cons_self, hc⟩

theorem map_of_forall₂ {α : Type} {R : Node → Node → Prop} {f g : Node → α} {row row' : List Node}
    (h : List.Forall₂ R row row') (hf : ∀ c ∈ row, ∀ c', R c c' → g c' = f c) :
    row'.map g = row.map f := by
  induction h with
  | nil => rfl
  | cons hc _ ih =>
    rw [List.map_cons, List.map_cons, hf _ List.mem_cons_self _ hc,
      ih fun c hmem => hf c (List.mem_cons_of_mem _ hmem)]

section

variable {P : Node → Node → Prop} (hP : Parallel P) {old new : Node} (h : P old new)
include hP h

/-- **The first part with a label** corresponds to that in the other tree. -/
theorem Parallel.part? {l : Label} (hplain : l ∉ [Label.body, .arguments, .value]) :
    (old.part? l = none ∧ new.part? l = none) ∨
      ∃ c c', old.part? l = some c ∧ new.part? l = some c' ∧ c.label = some l ∧
        Reads P old.kind old.label c c' := by
  rw [part?_eq_head?, part?_eq_head?]
  rcases head?_of_forall₂ (hP.parts h hplain) with hnone | ⟨c, c', hold, hnew, hmem, hc⟩
  · exact Or.inl hnone
  · exact Or.inr ⟨c, c', hold, hnew, beq_iff_eq.mp (List.mem_filter.mp hmem).2, hc⟩

theorem Parallel.partText {l : Label} (hplain : l ∉ [Label.body, .arguments, .value])
    (htype : l ≠ .type) (hread : ∀ c : Node, c.label = some l → c.isRead old.kind old.label = true) :
    new.partText l = old.partText l := by
  unfold Node.partText
  rcases hP.part? h hplain with ⟨hold, hnew⟩ | ⟨c, c', hold, hnew, hl, hc⟩
  · rw [hold, hnew]
  · rw [hold, hnew]
    exact hc.text (hread c hl) (Or.inl (by simpa [hl] using htype))

/-! ### What declarations say about themselves -/

theorem Parallel.declaredName (hr : old.kind.hasReadName = true ∨ old.label = some .declarator) :
    new.declaredName = old.declaredName :=
  hP.partText h (by decide) (by decide) fun _ hl => isRead_of_name hl hr

theorem Parallel.declaredVisibility? : new.declaredVisibility? = old.declaredVisibility? := by
  unfold Node.declaredVisibility?
  rcases hP.modifiers h with ⟨hold, hnew⟩ | ⟨m, m', hold, hnew, hm⟩
  · rw [hold, hnew]
  · have hrow := hP.ofKind hm (holdsCode_of_modifiers? hold) (p := (· == .token))
      (by intro k; cases k <;> decide)
    have hwords : (m'.children.filter (·.kind == .token)).map visibilityWord? =
        (m.children.filter (·.kind == .token)).map visibilityWord? := by
      refine map_of_forall₂ hrow fun c hmem c' hc => ?_
      have hk : c.kind = .token := beq_iff_eq.mp (List.mem_filter.mp hmem).2
      rw [visibilityWord?, visibilityWord?, hP.kind hc.1,
        hc.text (by simp [isRead, hk]) (Or.inr (by rw [hk]; rfl))]
    simp only [hold, hnew, findSome?_visibilityWord?, hwords]

theorem Parallel.annotationNames : new.annotationNames = old.annotationNames := by
  unfold Node.annotationNames
  rcases hP.modifiers h with ⟨hold, hnew⟩ | ⟨m, m', hold, hnew, hm⟩
  · rw [hold, hnew]
  · simp only [hold, hnew]
    have hrow := hP.ofKind hm (holdsCode_of_modifiers? hold)
      (p := fun k => k == .annotationMark || k == .annotationCall) (by intro k; cases k <;> decide)
    refine map_of_forall₂ hrow fun c hmem c' hc => hP.declaredName hc.1 (Or.inl ?_)
    have hkind : c.kind = .annotationMark ∨ c.kind = .annotationCall := by
      simpa [marksDeclaration] using (List.mem_filter.mp hmem).2
    rcases hkind with hk | hk <;> simp [Kind.hasReadName, hk]

theorem Parallel.packageName (hk : old.kind = .packageDeclaration) : new.packageName = old.packageName := by
  have hrow := hP.ofKind h (by rw [hk]; rfl)
    (p := fun k => (k == .scopedIdentifier || k == .identifier) && k != .token)
    (by intro k; cases k <;> decide)
  unfold Node.packageName
  rw [find?_identifier, find?_identifier]
  rcases head?_of_forall₂ hrow with ⟨hold, hnew⟩ | ⟨c, c', hold, hnew, hmem, hc⟩
  · rw [hold, hnew]
  · rw [hold, hnew]
    have hkind := (List.mem_filter.mp hmem).2
    simp only [Bool.and_eq_true, Bool.or_eq_true, beq_iff_eq] at hkind
    refine hc.text ?_ (Or.inr ?_) <;> rcases hkind.1 with hc | hc <;>
      simp [isRead, Kind.isCompoundType, hk, hc]

end

section

variable {P : Node → Node → Prop} (hP : Parallel P)
include hP

/-- A variable of a field is the version number of a serializable class in both trees. -/
theorem Parallel.isSerialVersionOf {old new v v' : Node} (h : P old new) (hk : old.kind.isField = true)
    (hv : P v v') (hl : v.label = some .declarator) :
    Site.isSerialVersionOf new v' = Site.isSerialVersionOf old v := by
  have hdimensions : (v'.part? .dimensions).isNone = (v.part? .dimensions).isNone := by
    rcases hP.part? hv (l := .dimensions) (by decide) with ⟨hold, hnew⟩ | ⟨_, _, hold, hnew, -⟩
    · rw [hold, hnew]
    · rw [hold, hnew]
      rfl
  have htype : ["long", "Long"].contains (new.partText .type) =
      ["long", "Long"].contains (old.partText .type) := by
    unfold Node.partText
    rcases hP.part? h (l := .type) (by decide) with ⟨hold, hnew⟩ | ⟨c, c', hold, hnew, hl, hc⟩
    · rw [hold, hnew]
    · simp only [hold, hnew]
      exact (hc.2 (by simp [isRead, hl, hk])).contains (by decide)
  rw [Site.isSerialVersionOf, Site.isSerialVersionOf, hP.declaredName hv (Or.inr hl), hdimensions, htype]

/-! ### Accessors -/

theorem Parallel.returnCategory {old new : Node} (h : P old new) (hk : old.kind = .methodDeclaration) :
    Accessor.returnCategory new = Accessor.returnCategory old := by
  unfold Accessor.returnCategory
  rcases hP.part? h (l := .dimensions) (by decide) with ⟨hold, hnew⟩ | ⟨_, _, hold, hnew, -⟩
  · rcases hP.part? h (l := .type) (by decide) with ⟨hold', hnew'⟩ | ⟨t, t', hold', hnew', hl, ht⟩
    · rw [hold, hnew, hold', hnew']
    · have hwords : Accessor.booleanTypes.contains t'.text = Accessor.booleanTypes.contains t.text :=
        (ht.2 (by simp [isRead, hl, hk])).contains (by decide)
      simp only [hold, hnew, hold', hnew', hP.kind ht.1, hwords]
  · rw [hold, hnew]

theorem Parallel.parametersFit (form : Accessor.Form) (property : String) {row row' : List Node}
    (h : List.Forall₂ P row row') :
    Accessor.parametersFit form property row' = Accessor.parametersFit form property row := by
  unfold Accessor.parametersFit
  rw [h.length_eq]
  cases h with
  | nil => rfl
  | @cons p p' _ _ hp _ =>
    cases form.kind with
    | setter =>
      simp only [hP.kind hp]
      by_cases hk : p.kind = .formalParameter
      · have hname : p'.partText .name = p.partText .name :=
          hP.declaredName hp (Or.inl (by simp [Kind.hasReadName, hk]))
        rw [hname]
      · simp only [beq_false_of_ne hk, Bool.false_and]
    | _ => rfl

/-- The contents of a statement correspond. -/
theorem Parallel.contents {old new : Node} (h : P old new) (hk : old.kind.holdsCode = false) :
    List.Forall₂ (Reads P old.kind old.label) old.contents new.contents := by
  rw [contents_eq, contents_eq]
  exact hP.ofKind h hk (p := fun k => !k.isComment && k != .token) fun k hk => by rw [hk]; rfl

section

variable {kind : Kind} {label : Option Label} {old new : Node} (property : String)

/-- An expression is the property in both trees. -/
theorem Parallel.names (h : Reads P kind label old new) :
    Accessor.names property new = Accessor.names property old := by
  simp only [Accessor.names, hP.kind h.1]
  split_ifs with hid hfield
  · have hk : old.kind = .identifier := beq_iff_eq.mp hid
    rw [h.text (by simp [isRead, hk]) (Or.inr (by rw [hk]; rfl))]
  · have hmember : new.partText .member = old.partText .member :=
      hP.partText h.1 (by decide) (by decide) fun c hl => by simp [isRead, hl, beq_iff_eq.mp hfield]
    rcases hP.part? h.1 (l := .object) (by decide) with ⟨hold, hnew⟩ | ⟨c, c', hold, hnew, -, hc⟩
    · rw [hold, hnew]
    · simp only [hold, hnew, hmember, hP.kind hc.1]
  · rfl

variable (h : P old new)
include h

omit property in
/-- **What a statement returns** corresponds. -/
theorem Parallel.returned? :
    (Accessor.returned? old = none ∧ Accessor.returned? new = none) ∨
      ∃ c c', Accessor.returned? old = some c ∧ Accessor.returned? new = some c' ∧
        Reads P old.kind old.label c c' := by
  simp only [Accessor.returned?, hP.kind h]
  split_ifs with hk
  · have hrow := hP.contents h (by rw [beq_iff_eq.mp hk]; rfl)
    revert hrow
    generalize old.contents = row, new.contents = row'
    rintro (_ | ⟨hc, _ | _⟩)
    · exact Or.inl ⟨rfl, rfl⟩
    · exact Or.inr ⟨_, _, rfl, rfl, hc⟩
    · exact Or.inl ⟨rfl, rfl⟩
  · exact Or.inl ⟨rfl, rfl⟩

theorem Parallel.returnsProperty :
    Accessor.returnsProperty property new = Accessor.returnsProperty property old := by
  unfold Accessor.returnsProperty
  rcases hP.returned? h with ⟨hold, hnew⟩ | ⟨c, c', hold, hnew, hc⟩
  · rw [hold, hnew]
  · simp only [hold, hnew, hP.names property hc]

theorem Parallel.returnsNegation :
    Accessor.returnsNegation property new = Accessor.returnsNegation property old := by
  unfold Accessor.returnsNegation
  rcases hP.returned? h with ⟨hold, hnew⟩ | ⟨c, c', hold, hnew, hc, -⟩
  · rw [hold, hnew]
  · simp only [hold, hnew, hP.kind hc]
    by_cases hk : c.kind = .unaryExpression
    · have hoperator : c'.partText .operator = c.partText .operator :=
        hP.partText hc (by decide) (by decide) fun _ hl => by simp [isRead, hl, hk]
      rcases hP.part? hc (l := .operand) (by decide) with
        ⟨hold', hnew'⟩ | ⟨o, o', hold', hnew', -, ho⟩
      · simp only [hoperator, hold', hnew']
      · simp only [hoperator, hold', hnew', hP.names property ho]
    · simp only [beq_false_of_ne hk, Bool.false_and]

theorem Parallel.setsProperty :
    Accessor.setsProperty property new = Accessor.setsProperty property old := by
  simp only [Accessor.setsProperty, hP.kind h]
  by_cases hk : old.kind = .expressionStatement
  · have hrow := hP.contents h (by rw [hk]; rfl)
    revert hrow
    generalize old.contents = row, new.contents = row'
    rintro (_ | @⟨c, c', _, _, ⟨hc, -⟩, _ | _⟩)
    · rfl
    · simp only [hP.kind hc]
      by_cases hassign : c.kind = .assignmentExpression
      · have hoperator : c'.partText .operator = c.partText .operator :=
          hP.partText hc (by decide) (by decide) fun _ hl => by simp [isRead, hl, hassign]
        rw [hoperator]
        rcases hP.part? hc (l := .left) (by decide) with ⟨hl, hl'⟩ | ⟨left, left', hl, hl', -, hleft⟩
        · rw [hl, hl']
        · rcases hP.part? hc (l := .right) (by decide) with
            ⟨hr, hr'⟩ | ⟨right, right', hr, hr', -, hright⟩
          · rw [hl, hl', hr, hr']
          · simp only [hl, hl', hr, hr', hP.kind hleft.1, hP.kind hright.1, hP.names property hleft]
            by_cases hid : right.kind = .identifier
            · rw [hright.text (by simp [isRead, hid]) (Or.inr (by rw [hid]; rfl))]
            · simp only [beq_false_of_ne hid, Bool.and_false, Bool.false_and]
      · simp only [beq_false_of_ne hassign, Bool.false_and]
    · rfl
  · simp only [beq_false_of_ne hk, Bool.false_and]

theorem Parallel.bodyFits (form : Accessor.Form) :
    Accessor.bodyFits form property new = Accessor.bodyFits form property old := by
  unfold Accessor.bodyFits
  split
  · exact hP.setsProperty property h
  · exact hP.returnsNegation property h
  · exact hP.returnsProperty property h

end

end

/-- Code is no statement of an accessor. -/
theorem bodyFits_of_isCode (form : Accessor.Form) (property : String) {n : Node}
    (h : n.kind.isCode = true) : Accessor.bodyFits form property n = false := by
  have hreturn : (n.kind == .returnStatement) = false :=
    beq_false_of_ne fun hk => by rw [hk] at h; cases h
  have hexpression : (n.kind == .expressionStatement) = false :=
    beq_false_of_ne fun hk => by rw [hk] at h; cases h
  unfold Accessor.bodyFits
  split <;> simp [Accessor.setsProperty, Accessor.returnsNegation, Accessor.returnsProperty,
    Accessor.returned?, hreturn, hexpression]

/-- The statements in the bodies of methods correspond, or both are code. -/
def SameBody (P : Node → Node → Prop) (old new : Node) : Prop :=
  (old.part? .body = none ∧ new.part? .body = none) ∨
    ∃ b b', old.part? .body = some b ∧ new.part? .body = some b' ∧
      List.Forall₂ (fun c c' => P c c' ∨ (c.kind.isCode = true ∧ c'.kind.isCode = true))
        b.contents b'.contents

section

variable {P : Node → Node → Prop} (hP : Parallel P) {old new : Node} (h : P old new)
  (hk : old.kind = .methodDeclaration) (hbody : SameBody P old new)
include hP h hk hbody

theorem Parallel.fits (form : Accessor.Form) (property : String) :
    Accessor.fits form property new = Accessor.fits form property old := by
  unfold Accessor.fits
  rw [hP.parametersFit form property (hP.parameters h), hP.returnCategory h hk]
  congr 1
  unfold Accessor.statements?
  rcases hbody with ⟨hold, hnew⟩ | ⟨b, b', hold, hnew, hrow⟩
  · rw [hold, hnew]
  · simp only [hold, hnew, Option.map_some]
    revert hrow
    generalize b.contents = row, b'.contents = row'
    rintro (_ | @⟨c, c', _, _, hc, _ | _⟩)
    · rfl
    · rcases hc with hc | ⟨hc, hc'⟩
      · exact hP.bodyFits property hc form
      · simp only [bodyFits_of_isCode form property hc, bodyFits_of_isCode form property hc']
    · rfl

/-- **The property that a method exposes** is the same in both trees. -/
theorem Parallel.classify : Accessor.classify new = Accessor.classify old := by
  unfold Accessor.classify
  rw [hP.kind h, hP.declaredName h (Or.inl (by simp [Kind.hasReadName, hk]))]
  simp only [hP.fits h hk hbody]

end

end Node

end JavadocAudit
