import JavadocAudit.Proofs.Positions
import JavadocAudit.Source.Parse

/-!
# Faults are reported at the first one

The search for the first fault of a tree goes only into trees that hold one and not below a fault.  It still
finds what a search through all nodes in source order finds (`firstFault?_eq_find?`), since a tree holds a
fault exactly if one of its nodes is one (`hasFault_eq_any`).  So a tree is refused exactly if it has a
fault, and always at the place of the first one (`first_fault_reported`).
-/

namespace JavadocAudit

namespace Node

mutual

/-- A tree holds a fault exactly if one of its nodes is one. -/
theorem hasFault_eq_any : ∀ n : Node, n.hasFault = n.preorder.any isFault
  | .leaf kind label span gap text => by
    rw [hasFault, preorder, List.any_cons, List.any_nil, Bool.or_false]
    rfl
  | .branch kind label span children => by
    rw [hasFault, preorder, List.any_cons, anyFault_eq_any children]
    rfl

theorem anyFault_eq_any : ∀ ns : List Node, anyFault ns = (preorderAll ns).any isFault
  | [] => rfl
  | n :: rest => by
    rw [anyFault, preorderAll, List.any_append, hasFault_eq_any n, anyFault_eq_any rest]

end

mutual

/-- **The pruned search finds the first fault** in source order. -/
theorem firstFault?_eq_find? : ∀ n : Node, n.firstFault? = n.preorder.find? isFault
  | .leaf kind label span gap text => by
    rw [firstFault?, preorder, List.find?_cons]
    show (if kind.isFault = true then _ else _) = match kind.isFault with | true => _ | false => _
    cases kind.isFault <;> rfl
  | .branch kind label span children => by
    rw [firstFault?, preorder, List.find?_cons, firstFaultOf?_eq_find? children]
    show (if kind.isFault = true then _ else _) = match kind.isFault with | true => _ | false => _
    cases kind.isFault <;> rfl

theorem firstFaultOf?_eq_find? : ∀ ns : List Node, firstFaultOf? ns = (preorderAll ns).find? isFault
  | [] => rfl
  | n :: rest => by
    rw [firstFaultOf?, preorderAll, List.find?_append, firstFault?_eq_find? n, firstFaultOf?_eq_find? rest]
    by_cases h : n.hasFault = true
    · rw [if_pos h]
      cases n.preorder.find? isFault <;> rfl
    · -- a tree that is passed over holds no fault
      have hnone : n.preorder.find? isFault = none := by
        rw [hasFault_eq_any, List.any_eq_true] at h
        exact List.find?_eq_none.mpr fun m hm hfault => h ⟨m, hm, hfault⟩
      rw [if_neg h, hnone]
      rfl

end

end Node

namespace CompilationUnit

variable {path : String} {root : Node}

/-- A tree without faults is a unit. -/
theorem ofTree_of_no_fault (h : root.preorder.find? Node.isFault = none) :
    ofTree path root = .ok ⟨path, root⟩ := by
  have hfault : ¬root.hasFault = true := by
    rw [Node.hasFault_eq_any, List.any_eq_true]
    rintro ⟨n, hn, hfault⟩
    exact List.find?_eq_none.mp h n hn hfault
  rw [ofTree, if_neg hfault]

/-- A tree with faults is refused at the first one. -/
theorem ofTree_of_fault {fault : Node} (h : root.preorder.find? Node.isFault = some fault) :
    ofTree path root = .error ⟨path, some fault.span.line, some fault.span.column⟩ := by
  have hfault : root.hasFault = true := by
    rw [Node.hasFault_eq_any, List.any_eq_true]
    exact ⟨fault, List.mem_of_find?_eq_some h, List.find?_some h⟩
  simp only [ofTree, if_pos hfault, Node.firstFault?_eq_find?, h]

/-- What is refused is refused at the first fault. -/
theorem exists_fault_of_ofTree {e : ParseError} (h : ofTree path root = .error e) :
    ∃ fault, root.preorder.find? Node.isFault = some fault ∧
      e = ⟨path, some fault.span.line, some fault.span.column⟩ := by
  cases hfind : root.preorder.find? Node.isFault with
  | none =>
    rw [ofTree_of_no_fault hfind] at h
    cases h
  | some fault =>
    rw [ofTree_of_fault hfind] at h
    exact ⟨fault, rfl, (Except.error.inj h).symm⟩

/-- **Faults are reported at the first one.**  A tree is refused exactly if one of its nodes is a fault; the
first of them in source order is what the search finds, and the error has its line and column, so no error
is without a place.  If no node is a fault, the search finds nothing.  For the tree of a source text the
line is one more than the number of line feeds before the fault, and the column one more than the number of
bytes between. -/
theorem first_fault_reported (path : String) :
    (∀ root : Node,
      ((∃ e, ofTree path root = .error e) ↔ ∃ n ∈ root.preorder, n.isFault = true) ∧
      (∀ before fault after, root.preorder = before ++ fault :: after →
        (∀ n ∈ before, n.isFault = false) → fault.isFault = true →
          root.firstFault? = some fault ∧
            ofTree path root = .error ⟨path, some fault.span.line, some fault.span.column⟩) ∧
      (∀ e, ofTree path root = .error e → e.line ≠ none ∧ e.column ≠ none) ∧
      ((∀ n ∈ root.preorder, n.isFault = false) →
        root.firstFault? = none ∧ ofTree path root = .ok ⟨path, root⟩)) ∧
    ∀ bytes e, parse path bytes = .error e → ∃ fault before,
      (Grammar.parse (Text.glyphs bytes)).firstFault? = some fault ∧
      before <+: Text.glyphs bytes ∧ fault.span.start = Text.widthOf before ∧
      e = ⟨path, some (Text.lineAfter before), some (Text.columnAfter before)⟩ := by
  refine ⟨fun root => ⟨⟨?_, ?_⟩, ?_, ?_, ?_⟩, ?_⟩
  · rintro ⟨e, he⟩
    obtain ⟨fault, hfault, -⟩ := exists_fault_of_ofTree he
    exact ⟨fault, List.mem_of_find?_eq_some hfault, List.find?_some hfault⟩
  · rintro ⟨n, hn, hfault⟩
    obtain ⟨first, hfirst⟩ := Option.isSome_iff_exists.mp (List.find?_isSome.mpr ⟨n, hn, hfault⟩)
    exact ⟨_, ofTree_of_fault hfirst⟩
  · intro before fault after hroot hbefore hfault
    have hfind : root.preorder.find? Node.isFault = some fault := by
      refine List.find?_eq_some_iff_append.mpr ⟨hfault, before, after, hroot, fun n hn => ?_⟩
      rw [hbefore n hn]
      rfl
    exact ⟨(Node.firstFault?_eq_find? root).trans hfind, ofTree_of_fault hfind⟩
  · intro e he
    obtain ⟨fault, -, rfl⟩ := exists_fault_of_ofTree he
    exact ⟨nofun, nofun⟩
  · intro hnone
    have hfind : root.preorder.find? Node.isFault = none := by
      refine List.find?_eq_none.mpr fun n hn => ?_
      rw [hnone n hn]
      exact Bool.false_ne_true
    exact ⟨(Node.firstFault?_eq_find? root).trans hfind, ofTree_of_no_fault hfind⟩
  · intro bytes e he
    obtain ⟨fault, hfault, rfl⟩ := exists_fault_of_ofTree he
    obtain ⟨before, hbefore, hspot⟩ :=
      Grammar.parse_starts (Text.glyphs bytes) fault (List.mem_of_find?_eq_some hfault)
    rw [Spot.afterAll_origin] at hspot
    obtain ⟨hstart, hline, hcolumn⟩ := Spot.mk.inj hspot
    exact ⟨fault, before, (Node.firstFault?_eq_find? _).trans hfault, hbefore, hstart, by rw [hline, hcolumn]⟩

/-- A token that is missing in a construct. -/
def missingName : Node := .leaf .missing none ⟨7, 7, 2, 6⟩ "" ""

/-- A tree with a fault inside a construct, and an error with another one below it. -/
def brokenTree : Node :=
  .branch .program none ⟨0, 12, 1, 1⟩
    [.leaf .token none ⟨0, 1, 1, 1⟩ "" ";",
      .branch .classDeclaration none ⟨2, 9, 2, 1⟩ [.leaf .token none ⟨2, 7, 2, 1⟩ "\n" "class", missingName],
      .branch .error none ⟨10, 12, 2, 9⟩ [.leaf .missing none ⟨10, 10, 2, 9⟩ "" ""]]

/-- An empty statement, and on the next line a brace that stays open. -/
def openBrace : List UInt8 := [59, 10, 32, 123]

theorem brokenTree_reported :
    (∃ n ∈ brokenTree.preorder, n.isFault = true) ∧ brokenTree.firstFault? = some missingName ∧
    ofTree "A.java" brokenTree = .error ⟨"A.java", some 2, some 6⟩ ∧
    ∃ e fault before, parse "A.java" openBrace = .error e ∧
      (Grammar.parse (Text.glyphs openBrace)).firstFault? = some fault ∧ fault.span = ⟨4, 4, 2, 3⟩ ∧
      before <+: Text.glyphs openBrace ∧ fault.span.start = Text.widthOf before ∧
      e = ⟨"A.java", some (Text.lineAfter before), some (Text.columnAfter before)⟩ := by
  obtain ⟨htree, hsource⟩ := first_fault_reported "A.java"
  obtain ⟨hsome, hfirst, -, -⟩ := htree brokenTree
  obtain ⟨hfound, hreported⟩ := hfirst
    (brokenTree.preorder.take 4) missingName (brokenTree.preorder.drop 5) rfl (by decide) rfl
  have hspan : (Grammar.parse (Text.glyphs openBrace)).firstFault?.map (·.span) = some ⟨4, 4, 2, 3⟩ := by
    decide +kernel
  obtain ⟨found, hopen, hplace⟩ := Option.map_eq_some_iff.mp hspan
  rw [Node.firstFault?_eq_find?] at hopen
  obtain ⟨e, he⟩ := (htree (Grammar.parse (Text.glyphs openBrace))).1.mpr
    ⟨found, List.mem_of_find?_eq_some hopen, List.find?_some hopen⟩
  obtain ⟨fault, before, hfault, hrest⟩ := hsource openBrace e he
  have hsame : found = fault := by
    rw [Node.firstFault?_eq_find?, hopen] at hfault
    exact Option.some.inj hfault
  exact ⟨hsome.mp ⟨_, hreported⟩, hfound, hreported, e, fault, before, he, hfault, hsame ▸ hplace, hrest⟩

end CompilationUnit

end JavadocAudit
