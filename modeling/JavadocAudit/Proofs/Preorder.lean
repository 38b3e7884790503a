import JavadocAudit.Proofs.Coverage

/-!
# The nodes of a tree

The nodes of a tree are its root and the nodes of the trees below it (`mem_preorder_iff`), so what is below
a node of a tree is below its root (`preorder_subset`).
-/

namespace JavadocAudit.Node

variable {root n m : Node}

theorem preorder_eq (n : Node) : n.preorder = n :: preorderAll n.children := by
  cases n with
  | leaf => rw [preorder, children, preorderAll]
  | branch => rw [preorder, children]

theorem mem_preorderAll {ns : List Node} : m ∈ preorderAll ns ↔ ∃ n ∈ ns, m ∈ n.preorder := by
  induction ns with
  | nil => simp [preorderAll]
  | cons n rest ih => simp [preorderAll, ih]

theorem mem_preorder_iff : m ∈ n.preorder ↔ m = n ∨ ∃ c ∈ n.children, m ∈ c.preorder := by
  rw [preorder_eq, List.mem_cons, mem_preorderAll]

theorem mem_preorder_self (n : Node) : n ∈ n.preorder := mem_preorder_iff.mpr (.inl rfl)

/-- What is below a node of a tree is below its root. -/
theorem preorder_subset (h : n ∈ root.preorder) : n.preorder ⊆ root.preorder := by
  induction root using Node.descend with
  | h root ih _ =>
    rcases mem_preorder_iff.mp h with rfl | ⟨c, hc, hn⟩
    · exact List.Subset.refl _
    · exact fun m hm => mem_preorder_iff.mpr (.inr ⟨c, hc, ih c hc hn hm⟩)

theorem child_mem_preorder (h : n ∈ root.preorder) (hm : m ∈ n.children) : m ∈ root.preorder :=
  preorder_subset h (mem_preorder_iff.mpr (.inr ⟨m, hm, mem_preorder_self m⟩))

end JavadocAudit.Node
