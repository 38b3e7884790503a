import JavadocAudit.Proofs.Reading

/-!
# Trees that differ in closed code

The audit does not look into the bodies of constructors, into initializers, into the values of variables,
nor into the arguments and bodies of enum constants; into the bodies of methods it looks for accessors
only.  This is *closed code* (`Node.isClosed`).

Two trees are alike (`Node.Alike`) if they differ in closed code only: it may be replaced by any other
code, with declarations and comments in it, while every other node stays what it is and starts at the same
line and column.  The texts of the nodes that are read as a whole stay too.  Trees that are alike are
parallel (`parallel_alike`): all that a declaration says about itself is the same in both, and so is the
property that a method exposes, if the bodies of methods stay (`Alike.classify`).
-/

namespace JavadocAudit.Node

/-! ### Closed code -/

/-- The node is closed code, as a child of a node of the kind `kind` with the label `label`: the body of a
constructor, an initializer, the value of a variable, or the arguments or the body of an enum constant;
with `methods`, the body of a method too. -/
def isClosed (methods : Bool) (kind : Kind) (label : Option Label) (n : Node) : Bool :=
  match n.label with
  | some .body =>
    (kind.isConstructor && (n.kind == .constructorBody || n.kind == .block)) ||
      (kind == .enumConstant && n.kind == .classBody) ||
      (methods && kind == .methodDeclaration && n.kind == .block)
  | some .arguments => kind == .enumConstant && n.kind == .argumentList
  -- a value is an expression, which modifiers are not
  | some .value => kind == .variableDeclarator && label == some .declarator && n.kind != .modifiers
  | some _ => false
  | none => kind.holdsMembers && (n.kind == .block || n.kind == .staticInitializer)

section

variable {methods : Bool} {kind : Kind} {label : Option Label} {n : Node}

theorem isClosed_of_label {l : Label} (hl : n.label = some l)
    (hplain : l ∉ [Label.body, .arguments, .value]) : n.isClosed methods kind label = false := by
  rw [isClosed, hl]
  cases l <;> simp at hplain <;> rfl

theorem isClosed_of_parent (hk : kind.holdsCode = false) : n.isClosed methods kind label = false := by
  simp only [Kind.holdsCode, Bool.or_eq_false_iff] at hk
  obtain ⟨⟨⟨⟨hcon, hmeth⟩, henum⟩, hvar⟩, hmem⟩ := hk
  unfold isClosed
  split <;> simp [hcon, hmeth, henum, hvar, hmem]

/-- Closed code is code, but for the values of variables. -/
theorem isCode_of_isClosed (hv : kind ≠ .variableDeclarator ∨ label ≠ some .declarator)
    (h : n.isClosed methods kind label = true) : n.kind.isCode = true ∧ n.label ≠ some .value := by
  unfold isClosed at h
  split at h <;> simp at h <;> grind [Kind.isCode]

theorem isClosed_of_kind (hv : kind ≠ .variableDeclarator ∨ label ≠ some .declarator)
    (hk : n.kind.isCode = false) : n.isClosed methods kind label = false := by
  rw [Bool.eq_false_iff]
  intro hclosed
  rw [(isCode_of_isClosed hv hclosed).1] at hk
  cases hk

theorem isClosed_of_modifiers (hk : n.kind = .modifiers) : n.isClosed methods kind label = false := by
  unfold isClosed
  split <;> simp [hk]

theorem ne_modifiers_of_isClosed (h : n.isClosed methods kind label = true) : n.kind ≠ .modifiers := by
  intro hk
  rw [isClosed_of_modifiers hk] at h
  cases h

end

/-! ### Trees that are alike -/

/-- The node has the kind and the label, and starts at the line and column where the span starts. -/
def StandsAs (n : Node) (kind : Kind) (label : Option Label) (span : Span) : Prop :=
  n.kind = kind ∧ n.label = label ∧ n.span.line = span.line ∧ n.span.column = span.column

instance (n : Node) (kind : Kind) (label : Option Label) (span : Span) :
    Decidable (n.StandsAs kind label span) := inferInstanceAs (Decidable (_ ∧ _))

/-- Both nodes are closed code in the same part, of one kind unless they are values. -/
def BothClosed (methods : Bool) (kind : Kind) (label : Option Label) (old new : Node) : Prop :=
  old.isClosed methods kind label = true ∧ new.isClosed methods kind label = true ∧
    new.label = old.label ∧ (new.kind = old.kind ∨ old.label = some .value)

instance (methods : Bool) (kind : Kind) (label : Option Label) (old new : Node) :
    Decidable (BothClosed methods kind label old new) := inferInstanceAs (Decidable (_ ∧ _))

mutual

/-- The trees differ in closed code only: every other node has the same kind, label and start point, and
the same text if it is read.  Blanks and the ends of nodes may differ. -/
def Alike (methods : Bool) : Node → Node → Prop
  | .leaf kind label span _ _, n => n.StandsAs kind label span ∧ n.children = []
  | .branch kind label span row, n =>
    n.StandsAs kind label span ∧ RowAlike methods kind label row n.children

/-- The same of the children of nodes with the given kind and label. -/
def RowAlike (methods : Bool) (kind : Kind) (label : Option Label) : List Node → List Node → Prop
  | [], row => row = []
  | _ :: _, [] => False
  | c :: rest, c' :: rest' =>
    (BothClosed methods kind label c c' ∨
      (c.Alike methods c' ∧ (c.isRead kind label = true → c.SameText c'))) ∧
    RowAlike methods kind label rest rest'

end

mutual

/-- Whether trees are alike is checked node by node. -/
def decideAlike (methods : Bool) : (old new : Node) → Decidable (old.Alike methods new)
  | .leaf kind label span _ _, n =>
    have := decidable_of_iff _ (List.isEmpty_iff (l := n.children))
    inferInstanceAs (Decidable (n.StandsAs kind label span ∧ n.children = []))
  | .branch kind label span row, n =>
    have := decideRowAlike methods kind label row n.children
    inferInstanceAs (Decidable
      (n.StandsAs kind label span ∧ RowAlike methods kind label row n.children))

/-- Whether rows are alike is checked node by node. -/
def decideRowAlike (methods : Bool) (kind : Kind) (label : Option Label) :
    (row row' : List Node) → Decidable (RowAlike methods kind label row row')
  | [], row => decidable_of_iff _ (List.isEmpty_iff (l := row))
  | _ :: _, [] => isFalse id
  | c :: rest, c' :: rest' =>
    have := c.decideAlike methods c'
    have := decideRowAlike methods kind label rest rest'
    inferInstanceAs (Decidable ((BothClosed methods kind label c c' ∨
      (c.Alike methods c' ∧ (c.isRead kind label = true → c.SameText c'))) ∧
      RowAlike methods kind label rest rest'))

end

instance (methods : Bool) (old new : Node) : Decidable (old.Alike methods new) :=
  old.decideAlike methods new

/-- The children of nodes with the given kind and label are both closed code, or alike. -/
def PartAlike (methods : Bool) (kind : Kind) (label : Option Label) (c c' : Node) : Prop :=
  BothClosed methods kind label c c' ∨ Reads (Alike methods) kind label c c'

theorem rowAlike_iff {methods : Bool} {kind : Kind} {label : Option Label} : ∀ {row row' : List Node},
    RowAlike methods kind label row row' ↔ List.Forall₂ (PartAlike methods kind label) row row'
  | [], row' => by rw [RowAlike, List.forall₂_nil_left_iff]
  | _ :: _, [] => by simp [RowAlike]
  | c :: rest, c' :: rest' => by
    rw [RowAlike, List.forall₂_cons, rowAlike_iff]
    rfl

section

variable {methods : Bool} {old new : Node} (h : old.Alike methods new)
include h

theorem Alike.standsAs : new.StandsAs old.kind old.label old.span := by
  cases old <;> exact h.1

theorem Alike.kind : new.kind = old.kind := h.standsAs.1

theorem Alike.label : new.label = old.label := h.standsAs.2.1

theorem Alike.line : new.span.line = old.span.line := h.standsAs.2.2.1

theorem Alike.column : new.span.column = old.span.column := h.standsAs.2.2.2

/-- **The children of trees that are alike** correspond one by one. -/
theorem Alike.row : List.Forall₂ (PartAlike methods old.kind old.label) old.children new.children := by
  cases old with
  | leaf =>
    rw [h.2]
    exact List.Forall₂.nil
  | branch => exact rowAlike_iff.mp h.2

end

/-! ### The parts of nodes that are alike -/

section

variable {methods : Bool} {kind : Kind} {label : Option Label} {c c' : Node}
  (h : PartAlike methods kind label c c')
include h

theorem PartAlike.label_eq : c'.label = c.label := by
  rcases h with h | h
  · exact h.2.2.1
  · exact h.1.label

theorem PartAlike.kind_eq (hv : kind ≠ .variableDeclarator ∨ label ≠ some .declarator) :
    c'.kind = c.kind := by
  rcases h with ⟨hclosed, -, -, hk⟩ | h
  · exact hk.resolve_right (isCode_of_isClosed hv hclosed).2
  · exact h.1.kind

theorem PartAlike.isModifiers_eq : (c'.kind == .modifiers) = (c.kind == .modifiers) := by
  rcases h with ⟨hclosed, hclosed', -⟩ | h
  · rw [beq_false_of_ne (ne_modifiers_of_isClosed hclosed),
      beq_false_of_ne (ne_modifiers_of_isClosed hclosed')]
  · rw [h.1.kind]

theorem PartAlike.reads (hopen : c.isClosed methods kind label = false) :
    Reads (Alike methods) kind label c c' := by
  rcases h with ⟨hclosed, -⟩ | h
  · rw [hopen] at hclosed
    cases hclosed
  · exact h

end

/-- The nodes that are chosen, in rows that correspond. -/
theorem filter_of_forall₂ {R : Node → Node → Prop} {p : Node → Bool} {row row' : List Node}
    (h : List.Forall₂ R row row') (hp : ∀ c c', R c c' → p c' = p c) :
    List.Forall₂ (fun c c' => R c c' ∧ p c = true) (row.filter p) (row'.filter p) := by
  induction h with
  | nil => exact List.Forall₂.nil
  | @cons c c' rest rest' hc _ ih =>
    rw [List.filter_cons, List.filter_cons, hp c c' hc]
    cases hpc : p c with
    | true => exact List.Forall₂.cons ⟨hc, hpc⟩ ih
    | false => exact ih

section

variable {methods : Bool} {old new : Node} (h : old.Alike methods new)
include h

/-- **The parts with a label** are alike one by one, unless they are closed code. -/
theorem Alike.parts {l : Label}
    (hopen : ∀ c : Node, c.label = some l → c.isClosed methods old.kind old.label = false) :
    List.Forall₂ (Reads (Alike methods) old.kind old.label) (old.parts l) (new.parts l) := by
  have hparts := filter_of_forall₂ h.row (p := fun c => c.label == some l)
    (fun c c' hc => by rw [hc.label_eq])
  exact hparts.imp fun c c' ⟨hc, hl⟩ => hc.reads (hopen c (beq_iff_eq.mp hl))

/-- **The modifiers** are alike. -/
theorem Alike.modifiers? : (old.modifiers? = none ∧ new.modifiers? = none) ∨
    ∃ m m', old.modifiers? = some m ∧ new.modifiers? = some m' ∧ m.Alike methods m' := by
  have hrow := filter_of_forall₂ h.row (p := fun c => c.kind == .modifiers)
    (fun c c' hc => hc.isModifiers_eq)
  rw [modifiers?_eq_head?, modifiers?_eq_head?]
  rcases head?_of_forall₂ hrow with hnone | ⟨m, m', hold, hnew, -, hm, hk⟩
  · exact Or.inl hnone
  · exact Or.inr ⟨m, m', hold, hnew, (hm.reads (isClosed_of_modifiers (beq_iff_eq.mp hk))).1⟩

/-- **The parameters** are alike one by one. -/
theorem Alike.parameterList : List.Forall₂ (Alike methods) old.parameterList new.parameterList := by
  have hparts := h.parts (l := .parameters) fun c hl => isClosed_of_label hl (by decide)
  unfold Node.parameterList
  rw [part?_eq_head?, part?_eq_head?]
  rcases head?_of_forall₂ hparts with ⟨hold, hnew⟩ | ⟨ps, ps', hold, hnew, hmem, hps⟩
  · rw [hold, hnew]
    exact List.Forall₂.nil
  · have hl : ps.label = some .parameters := beq_iff_eq.mp (List.mem_filter.mp hmem).2
    have hv : ps.kind ≠ .variableDeclarator ∨ ps.label ≠ some .declarator := Or.inr (by simp [hl])
    simp only [hold, hnew, filter_isParameter]
    have hchosen := filter_of_forall₂ hps.1.row (p := fun c =>
      (c.kind == .formalParameter || c.kind == .spreadParameter) && c.kind != .token)
      (fun c c' hc => by rw [hc.kind_eq hv])
    refine hchosen.imp fun c c' ⟨hc, hparameter⟩ => (hc.reads (isClosed_of_kind hv ?_)).1
    simp only [Bool.and_eq_true, Bool.or_eq_true, beq_iff_eq] at hparameter
    rcases hparameter.1 with hk | hk <;> rw [hk] <;> rfl

end

/-- **What the audit reads** of a node is the same in trees that are alike. -/
theorem parallel_alike (methods : Bool) : Parallel (Alike methods) where
  kind := Alike.kind
  parts h _ hplain := h.parts fun _ hl => isClosed_of_label hl hplain
  modifiers := Alike.modifiers?
  parameters := Alike.parameterList
  ofKind := by
    intro old new h hk p _
    have hchosen := filter_of_forall₂ h.row (p := fun c => p c.kind)
      (fun c c' hc => by rw [(hc.reads (isClosed_of_parent hk)).1.kind])
    exact hchosen.imp fun c c' hc => hc.1.reads (isClosed_of_parent hk)

/-- **The property that a method exposes** is the same in both trees if the bodies of methods stay. -/
theorem Alike.classify {old new : Node} (h : old.Alike false new) (hk : old.kind = .methodDeclaration) :
    Accessor.classify new = Accessor.classify old := by
  have hparts := h.parts (l := .body) fun c hl => by simp [isClosed, hl, hk, Kind.isConstructor]
  refine (parallel_alike false).classify h hk ?_
  unfold SameBody
  rw [part?_eq_head?, part?_eq_head?]
  rcases head?_of_forall₂ hparts with hnone | ⟨b, b', hold, hnew, hmem, hb⟩
  · exact Or.inl hnone
  · refine Or.inr ⟨b, b', hold, hnew, ?_⟩
    have hl : b.label = some .body := beq_iff_eq.mp (List.mem_filter.mp hmem).2
    have hv : b.kind ≠ .variableDeclarator ∨ b.label ≠ some .declarator := Or.inr (by simp [hl])
    rw [contents_eq, contents_eq]
    have hchosen := filter_of_forall₂ hb.1.row
      (p := fun c => !c.kind.isComment && c.kind != .token) (fun c c' hc => by rw [hc.kind_eq hv])
    refine hchosen.imp fun c c' hc => ?_
    rcases hc.1 with ⟨hclosed, hclosed', -⟩ | hc
    · exact Or.inr ⟨(isCode_of_isClosed hv hclosed).1, (isCode_of_isClosed hv hclosed').1⟩
    · exact Or.inl hc.1

end JavadocAudit.Node
