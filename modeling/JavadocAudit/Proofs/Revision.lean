import JavadocAudit.Proofs.Member
import JavadocAudit.Proofs.Reading

/-!
# Trees with comments put into them

A *revision* is a tree and the comments that were put into it, anywhere among the children of its nodes.
It holds every node as it was and as it is: the kind, the label and the text of a leaf stay, while the
place of a node and the blanks before it may change.  `Revision.old` and `Revision.new` are the two trees.

The audit reads some nodes as a whole: names, the types of methods and fields, operators and identifiers
(`Node.isRead`).  A revision is *sound* if these keep their texts, so that no comment is put into one of
them.  Every look at the children of a node passes over comments, so the nodes of a sound revision are
parallel (`parallel_revised`): all that a declaration says about itself is the same before and after.
-/

namespace JavadocAudit

/-! ### Revisions -/

mutual

/-- A node as it was and as it is. -/
inductive Revision where
  | leaf (kind : Kind) (label : Option Label) (oldSpan newSpan : Span) (oldGap newGap text : String)
  | branch (kind : Kind) (label : Option Label) (oldSpan newSpan : Span) (row : RevisedRow)

/-- The children of a node, with the comments that were put between them. -/
inductive RevisedRow where
  | nil
  | kept (child : Revision) (rest : RevisedRow)
  | added (comment : Node) (rest : RevisedRow)

end

mutual

/-- The node as it was. -/
def Revision.old : Revision → Node
  | .leaf kind label span _ gap _ text => .leaf kind label span gap text
  | .branch kind label span _ row => .branch kind label span row.old

/-- The children as they were. -/
def RevisedRow.old : RevisedRow → List Node
  | .nil => []
  | .kept child rest => child.old :: rest.old
  | .added _ rest => rest.old

end

mutual

/-- The node as it is. -/
def Revision.new : Revision → Node
  | .leaf kind label _ span _ gap text => .leaf kind label span gap text
  | .branch kind label _ span row => .branch kind label span row.new

/-- The children as they are. -/
def RevisedRow.new : RevisedRow → List Node
  | .nil => []
  | .kept child rest => child.new :: rest.new
  | .added comment rest => comment :: rest.new

end

mutual

/-- All comments that were put into a tree. -/
def Revision.additions : Revision → List Node
  | .leaf .. => []
  | .branch _ _ _ _ row => row.additions

/-- All comments that were put between nodes or into them. -/
def RevisedRow.additions : RevisedRow → List Node
  | .nil => []
  | .kept child rest => child.additions ++ rest.additions
  | .added comment rest => comment :: rest.additions

end

/-- The nodes that stay in a row. -/
def RevisedRow.children : RevisedRow → List Revision
  | .nil => []
  | .kept child rest => child :: rest.children
  | .added _ rest => rest.children

/-- The comments that were put right into a row. -/
def RevisedRow.comments : RevisedRow → List Node
  | .nil => []
  | .kept _ rest => rest.comments
  | .added comment rest => comment :: rest.comments

namespace Revision

/-- What the node is. -/
def kind : Revision → Kind
  | .leaf kind .. => kind
  | .branch kind .. => kind

/-- The part that the node plays in the construct around it. -/
def label : Revision → Option Label
  | .leaf _ label .. => label
  | .branch _ label .. => label

/-- The children of the node. -/
def row : Revision → RevisedRow
  | .leaf .. => .nil
  | .branch _ _ _ _ row => row

@[simp] theorem kind_old (r : Revision) : r.old.kind = r.kind := by cases r <;> rfl

@[simp] theorem kind_new (r : Revision) : r.new.kind = r.kind := by cases r <;> rfl

@[simp] theorem label_old (r : Revision) : r.old.label = r.label := by cases r <;> rfl

@[simp] theorem label_new (r : Revision) : r.new.label = r.label := by cases r <;> rfl

@[simp] theorem children_old (r : Revision) : r.old.children = r.row.old := by cases r <;> rfl

@[simp] theorem children_new (r : Revision) : r.new.children = r.row.new := by cases r <;> rfl

end Revision

/-! ### Sound revisions -/

mutual

/-- What was put into the tree are comments without a label, and each node that is read as a whole keeps
its text. -/
def Revision.Sound : Revision → Prop
  | .leaf .. => True
  | .branch kind label _ _ row => row.Sound kind label

/-- The same of the children of a node with the given kind and label. -/
def RevisedRow.Sound (kind : Kind) (label : Option Label) : RevisedRow → Prop
  | .nil => True
  | .kept child rest => child.Sound ∧
      (child.old.isRead kind label = true → child.new.text = child.old.text) ∧ rest.Sound kind label
  | .added comment rest => comment.isComment = true ∧ comment.label = none ∧ rest.Sound kind label

end

mutual

/-- Soundness is checked node by node. -/
def Revision.decideSound : (r : Revision) → Decidable r.Sound
  | .leaf .. => isTrue trivial
  | .branch kind label _ _ row => row.decideSound kind label

/-- Soundness of a row is checked node by node. -/
def RevisedRow.decideSound (kind : Kind) (label : Option Label) :
    (row : RevisedRow) → Decidable (row.Sound kind label)
  | .nil => isTrue trivial
  | .kept child rest =>
    have := child.decideSound
    have := rest.decideSound kind label
    inferInstanceAs (Decidable (child.Sound ∧
      (child.old.isRead kind label = true → child.new.text = child.old.text) ∧ rest.Sound kind label))
  | .added comment rest =>
    have := rest.decideSound kind label
    inferInstanceAs (Decidable (comment.isComment = true ∧ comment.label = none ∧ rest.Sound kind label))

end

instance (r : Revision) : Decidable r.Sound := r.decideSound

namespace RevisedRow

variable {kind : Kind} {label : Option Label}

theorem Sound.of_mem : ∀ {row : RevisedRow}, row.Sound kind label → ∀ c ∈ row.children,
    c.Sound ∧ (c.old.isRead kind label = true → c.new.text = c.old.text)
  | .nil, _, c, hc => absurd hc List.not_mem_nil
  | .kept child rest, h, c, hc => by
    rcases List.mem_cons.mp hc with rfl | hc
    · exact ⟨h.1, h.2.1⟩
    · exact Sound.of_mem h.2.2 c hc
  | .added _ rest, h, c, hc => Sound.of_mem (show rest.Sound kind label from h.2.2) c hc

theorem Sound.of_mem_comments : ∀ {row : RevisedRow}, row.Sound kind label → ∀ c ∈ row.comments,
    c.isComment = true ∧ c.label = none
  | .nil, _, c, hc => absurd hc List.not_mem_nil
  | .kept _ rest, h, c, hc => Sound.of_mem_comments (show rest.Sound kind label from h.2.2) c hc
  | .added comment rest, h, c, hc => by
    rcases List.mem_cons.mp hc with rfl | hc
    · exact ⟨h.1, h.2.1⟩
    · exact Sound.of_mem_comments (show rest.Sound kind label from h.2.2) c hc

/-! ### Looking at the children -/

theorem old_eq_map : ∀ row : RevisedRow, row.old = row.children.map Revision.old
  | .nil => rfl
  | .kept child rest => congrArg (child.old :: ·) (old_eq_map rest)
  | .added _ rest => old_eq_map rest

theorem filter_new {p : Node → Bool} : ∀ row : RevisedRow, (∀ c ∈ row.comments, p c = false) →
    row.new.filter p = (row.children.filter fun c => p c.new).map Revision.new
  | .nil, _ => rfl
  | .kept child rest, h => by
    rw [new, children, List.filter_cons, List.filter_cons, filter_new rest h]
    split_ifs <;> rfl
  | .added comment rest, h => by
    rw [new, children, List.filter_cons_of_neg (by simp [h comment List.mem_cons_self])]
    exact filter_new rest fun c hc => h c (List.mem_cons_of_mem _ hc)

/-- **A choice among the children** that goes by their kinds and labels and takes no comments chooses the
same ones before and after. -/
theorem filter_old_new (row : RevisedRow) {p : Node → Bool} (hp : ∀ r : Revision, p r.new = p r.old)
    (hc : ∀ c ∈ row.comments, p c = false) : ∃ chosen : List Revision,
    chosen.Sublist row.children ∧ (∀ c ∈ chosen, p c.old = true) ∧
      row.old.filter p = chosen.map Revision.old ∧ row.new.filter p = chosen.map Revision.new := by
  refine ⟨row.children.filter fun c => p c.old, List.filter_sublist, fun c hc => ?_, ?_, ?_⟩
  · exact (List.mem_filter.mp hc).2
  · rw [old_eq_map, List.filter_map]
    rfl
  · rw [filter_new row hc]
    simp only [hp]

end RevisedRow

namespace Revision

variable {r : Revision}

theorem Sound.row (h : r.Sound) : r.row.Sound r.kind r.label := by
  cases r with
  | leaf => trivial
  | branch => exact h

theorem Sound.child (h : r.Sound) {c : Revision} (hc : c ∈ r.row.children) : c.Sound :=
  (h.row.of_mem c hc).1

/-- The comments among the children are not chosen by a choice that takes no comments. -/
theorem Sound.comments_of_kind (h : r.Sound) {p : Kind → Bool} (hp : ∀ k, k.isComment = true → p k = false) :
    ∀ c ∈ r.row.comments, p c.kind = false :=
  fun c hc => hp c.kind (h.row.of_mem_comments c hc).1

theorem Sound.comments_of_label (h : r.Sound) (l : Label) :
    ∀ c ∈ r.row.comments, (c.label == some l) = false := by
  intro c hc
  rw [(h.row.of_mem_comments c hc).2]
  rfl

/-- **The parts with a label** are the same ones before and after. -/
theorem Sound.parts (h : r.Sound) (l : Label) : ∃ chosen : List Revision,
    chosen.Sublist r.row.children ∧ (∀ c ∈ chosen, c.label = some l) ∧
      r.old.parts l = chosen.map Revision.old ∧ r.new.parts l = chosen.map Revision.new := by
  obtain ⟨chosen, hsub, hmem, hold, hnew⟩ := RevisedRow.filter_old_new r.row
    (p := fun n => n.label == some l) (fun c => by simp) (h.comments_of_label l)
  refine ⟨chosen, hsub, fun c hc => by simpa using hmem c hc, ?_, ?_⟩
  · rw [Node.parts, children_old]; exact hold
  · rw [Node.parts, children_new]; exact hnew

/-- **The first part with a label** is the same one before and after, or there is none. -/
theorem Sound.part? (h : r.Sound) (l : Label) :
    (r.old.part? l = none ∧ r.new.part? l = none) ∨
      ∃ c ∈ r.row.children, r.old.part? l = some c.old ∧ r.new.part? l = some c.new := by
  obtain ⟨chosen, hsub, -, hold, hnew⟩ := h.parts l
  rw [Node.part?_eq_head?, Node.part?_eq_head?, hold, hnew]
  cases chosen with
  | nil => exact Or.inl ⟨rfl, rfl⟩
  | cons c _ => exact Or.inr ⟨c, hsub.subset List.mem_cons_self, rfl, rfl⟩

/-- **The children of some kinds** are the same ones before and after. -/
theorem Sound.ofKind (h : r.Sound) {p : Kind → Bool} (hp : ∀ k, k.isComment = true → p k = false) :
    ∃ chosen : List Revision, (∀ c ∈ chosen, c ∈ r.row.children) ∧
      r.old.children.filter (p ·.kind) = chosen.map Revision.old ∧
      r.new.children.filter (p ·.kind) = chosen.map Revision.new := by
  obtain ⟨chosen, hsub, -, hold, hnew⟩ := RevisedRow.filter_old_new r.row
    (p := fun n => p n.kind) (fun c => by simp) (h.comments_of_kind hp)
  rw [children_old, children_new]
  exact ⟨chosen, fun c hc => hsub.subset hc, hold, hnew⟩

/-! ### What declarations say about themselves -/

/-- The nodes are one node of a sound revision, as it was and as it is. -/
def Revised (old new : Node) : Prop := ∃ r : Revision, r.Sound ∧ r.old = old ∧ r.new = new

theorem Sound.revised (h : r.Sound) : Revised r.old r.new := ⟨r, h, rfl, rfl⟩

theorem Sound.reads (h : r.Sound) {chosen : List Revision} (hmem : ∀ c ∈ chosen, c ∈ r.row.children) :
    List.Forall₂ (Node.Reads Revised r.kind r.label) (chosen.map Revision.old)
      (chosen.map Revision.new) := by
  rw [List.forall₂_map_left_iff, List.forall₂_map_right_iff, List.forall₂_same]
  intro c hc
  obtain ⟨hsound, htext⟩ := h.row.of_mem c (hmem c hc)
  exact ⟨hsound.revised, fun hread => Or.inl (htext hread)⟩

/-- **The modifiers** are the same ones before and after. -/
theorem Sound.modifiers? (h : r.Sound) :
    (r.old.modifiers? = none ∧ r.new.modifiers? = none) ∨
      ∃ c ∈ r.row.children, r.old.modifiers? = some c.old ∧ r.new.modifiers? = some c.new := by
  obtain ⟨chosen, hmem, hold, hnew⟩ := h.ofKind (p := fun k => k == .modifiers)
    (by intro k; cases k <;> decide)
  rw [Node.modifiers?_eq_head?, Node.modifiers?_eq_head?, hold, hnew]
  cases chosen with
  | nil => exact Or.inl ⟨rfl, rfl⟩
  | cons c _ => exact Or.inr ⟨c, hmem c List.mem_cons_self, rfl, rfl⟩

/-- **The parameters** are the same ones before and after. -/
theorem Sound.parameterList (h : r.Sound) :
    List.Forall₂ Revised r.old.parameterList r.new.parameterList := by
  unfold Node.parameterList
  rcases h.part? .parameters with ⟨hold, hnew⟩ | ⟨ps, hps, hold, hnew⟩
  · rw [hold, hnew]
    exact List.Forall₂.nil
  · obtain ⟨chosen, hmem, hcold, hcnew⟩ := (h.child hps).ofKind
      (p := fun k => (k == .formalParameter || k == .spreadParameter) && k != .token)
      (by intro k; cases k <;> decide)
    simp only [hold, hnew, Node.filter_isParameter, hcold, hcnew]
    exact ((h.child hps).reads hmem).imp fun _ _ hc => hc.1

/-- **What the audit reads** of a node is the same before and after. -/
theorem parallel_revised : Node.Parallel Revised where
  kind := by
    rintro _ _ ⟨r, -, rfl, rfl⟩
    rw [kind_old, kind_new]
  parts := by
    rintro _ _ ⟨r, h, rfl, rfl⟩ l -
    obtain ⟨chosen, hsub, -, hold, hnew⟩ := h.parts l
    rw [hold, hnew, kind_old, label_old]
    exact h.reads fun c hc => hsub.subset hc
  modifiers := by
    rintro _ _ ⟨r, h, rfl, rfl⟩
    rcases h.modifiers? with hnone | ⟨c, hc, hold, hnew⟩
    · exact Or.inl hnone
    · exact Or.inr ⟨_, _, hold, hnew, (h.child hc).revised⟩
  parameters := by
    rintro _ _ ⟨r, h, rfl, rfl⟩
    exact h.parameterList
  ofKind := by
    rintro _ _ ⟨r, h, rfl, rfl⟩ - p hp
    obtain ⟨chosen, hmem, hold, hnew⟩ := h.ofKind hp
    rw [hold, hnew, kind_old, label_old]
    exact h.reads hmem

theorem declaredName_new (h : r.Sound)
    (hr : r.kind.hasReadName = true ∨ r.label = some .declarator) :
    r.new.declaredName = r.old.declaredName :=
  parallel_revised.declaredName h.revised (by rwa [kind_old, label_old])

theorem declaredVisibility?_new (h : r.Sound) :
    r.new.declaredVisibility? = r.old.declaredVisibility? :=
  parallel_revised.declaredVisibility? h.revised

theorem annotationNames_new (h : r.Sound) : r.new.annotationNames = r.old.annotationNames :=
  parallel_revised.annotationNames h.revised

theorem length_parameterList_new (h : r.Sound) :
    r.new.parameterList.length = r.old.parameterList.length :=
  h.parameterList.length_eq.symm

theorem packageName_new (h : r.Sound) (hk : r.kind = .packageDeclaration) :
    r.new.packageName = r.old.packageName :=
  parallel_revised.packageName h.revised (by rwa [kind_old])

/-- **The property that a method exposes** is the same before and after. -/
theorem classify_new (h : r.Sound) : Accessor.classify r.new = Accessor.classify r.old := by
  by_cases hk : r.kind = .methodDeclaration
  · refine parallel_revised.classify h.revised (by rwa [kind_old]) ?_
    rcases h.part? .body with hnone | ⟨b, hb, hold, hnew⟩
    · exact Or.inl hnone
    · refine Or.inr ⟨_, _, hold, hnew, ?_⟩
      obtain ⟨chosen, hmem, hcold, hcnew⟩ := (h.child hb).ofKind
        (p := fun k => !k.isComment && k != .token) fun k hk => by rw [hk]; rfl
      rw [Node.contents_eq, Node.contents_eq, hcold, hcnew]
      exact ((h.child hb).reads hmem).imp fun _ _ hc => Or.inl hc.1
  · simp [Accessor.classify, hk]

end Revision

end JavadocAudit
