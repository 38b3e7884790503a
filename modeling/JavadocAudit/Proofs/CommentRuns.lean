import Mathlib.Data.List.TakeWhile
import JavadocAudit.Proofs.Preorder

/-!
# The comments that document a node

The comments of a node are looked for in a roundabout way: its siblings are sorted, and the node is found
again among them by its stretch of text and its kind.  In a tree whose nodes have their children in source
order nothing is moved and nothing is confused (`orphanComments_eq`), so what is found is the run of
comments that ends right before the node (`endsRun_commentRun`), and such a run does not go beyond any
other node (`EndsRun.suffix_of_break`).  All ways to ask whether a node is documented then have one
answer, which depends on that run alone, and no two siblings share a comment (`documentation_runs`).

The visits to a file never look for comments that way: each site asks the siblings that were passed before
its declaration.  Every such declaration is a node of the tree, where the visits say that it stands
(`Standing.Holds.standsIn`), so both give one answer for every site (`CompilationUnit.documented_eq`).
-/

namespace JavadocAudit

/-! ### Runs of comments -/

/-- **The maximal run of comments at the end of a row**: the row ends with it, it has only comments, and no
comment stands right before it. -/
structure EndsRun (row run : List Node) : Prop where
  comments : ∀ c ∈ run, c.isComment = true
  maximal : ∃ front, row = front ++ run ∧ ∀ c, front.getLast? = some c → c.isComment = false

namespace EndsRun

variable {row run : List Node}

/-- The run stands behind every node that is no comment. -/
theorem suffix_of_break (h : EndsRun row run) {earlier later : List Node} {e : Node}
    (hrow : row = earlier ++ e :: later) (he : e.isComment = false) : run <:+ later := by
  obtain ⟨front, hfront, -⟩ := h.maximal
  have hnot : e ∉ run := fun hmem => by rw [h.comments e hmem] at he; cases he
  rcases List.append_eq_append_iff.mp (hfront.symm.trans hrow) with ⟨as, -, hrun⟩ | ⟨bs, -, hbs⟩
  · exact absurd (by rw [hrun]; simp) hnot
  · cases bs with
    | nil => exact absurd (by rw [← (show e :: later = run from hbs)]; simp) hnot
    | cons b bs =>
      obtain ⟨-, rfl⟩ := List.cons.inj hbs
      exact List.suffix_append bs run

/-- A row has one maximal run at its end. -/
theorem unique (h : EndsRun row run) {run' : List Node} (h' : EndsRun row run') : run' = run := by
  obtain ⟨front, hrow, hlast⟩ := h.maximal
  obtain ⟨front', hrow', hlast'⟩ := h'.maximal
  -- a longer run would have a comment where the shorter one has none before it
  have hnil : ∀ {run front as : List Node}, (∀ c ∈ run, c.isComment = true) →
      (∀ c, (front ++ as).getLast? = some c → c.isComment = false) → as <+: run → as = [] := by
    intro run front as hcomments hlast hstart
    rcases List.eq_nil_or_concat as with rfl | ⟨as, a, rfl⟩
    · rfl
    · have ha : a.isComment = true := hcomments a (hstart.subset (by simp))
      rw [hlast a (by simp)] at ha
      cases ha
  rcases List.append_eq_append_iff.mp (hrow.symm.trans hrow') with ⟨as, rfl, rfl⟩ | ⟨bs, rfl, rfl⟩
  · rw [hnil h.comments hlast' (List.prefix_append _ _), List.nil_append]
  · rw [hnil h'.comments hlast (List.prefix_append _ _), List.nil_append]

end EndsRun

namespace Node

theorem endsRun_commentRun (before : List Node) : EndsRun before.reverse (commentRun before) := by
  refine ⟨fun c hc => ?_, (before.dropWhile isComment).reverse, ?_, fun c hc => ?_⟩
  · exact List.mem_takeWhile_imp (List.mem_reverse.mp hc)
  · rw [commentRun, ← List.reverse_append, List.takeWhile_append_dropWhile]
  · rw [List.getLast?_reverse] at hc
    have := List.head?_dropWhile_not isComment before
    rw [hc] at this
    simpa using this

/-! ### Finding a node again among its siblings -/

section Row

variable {before after : List Node} {n : Node}
  (h : (before.reverse ++ n :: after).Pairwise fun a b => a.span.start < b.span.start)
include h

theorem byStart_eq : byStart (before.reverse ++ n :: after) = before.reverse ++ n :: after :=
  List.mergeSort_of_pairwise (h.imp fun hab => decide_eq_true (Nat.le_of_lt hab))

/-- No node before it has the stretch of text of the node. -/
theorem findIdx?_coincides : (before.reverse ++ n :: after).findIdx? n.coincides = some before.length := by
  have hbefore : before.reverse.findIdx? n.coincides = none := by
    rw [List.findIdx?_eq_none_iff]
    intro m hm
    have hlt : m.span.start < n.span.start :=
      (List.pairwise_append.mp h).2.2 m hm n List.mem_cons_self
    simp [coincides, Nat.ne_of_lt hlt]
  have hself : n.coincides n = true := by simp [coincides]
  rw [List.findIdx?_append, hbefore, List.findIdx?_cons, hself]
  simp

/-- **In source order** the comments that are found are those right before the node. -/
theorem orphanComments_eq :
    orphanComments (before.reverse ++ n :: after) n = commentRun before := by
  have htake : (before.reverse ++ n :: after).take before.length = before.reverse :=
    List.take_left' (List.length_reverse)
  simp only [orphanComments, byStart_eq h, findIdx?_coincides h, htake, List.reverse_reverse]

end Row

end Node

/-! ### Documentation -/

/-- The text of a documentation comment. -/
def IsDocumentationText (text : String) : Prop := (∃ rest, text = "/**" ++ rest) ∧ text ≠ "/**/"

theorem Node.isDocumentation_iff {c : Node} :
    c.isDocumentation = true ↔ c.isComment = true ∧ IsDocumentationText c.text := by
  have hopens : Text.opensWith "/**" c.text = true ↔ ∃ rest, c.text = "/**" ++ rest := by
    rw [Text.opensWith, List.isPrefixOf_iff_prefix]
    constructor
    · rintro ⟨rest, hrest⟩
      refine ⟨String.ofList rest, ?_⟩
      rw [← String.toList_inj, ← hrest, String.toList_append,
        String.toList_ofList, String.toList_ofList]
    · rintro ⟨rest, hrest⟩
      rw [hrest, String.toList_append]
      exact List.prefix_append _ _
  simp only [isDocumentation, Bool.and_eq_true, bne_iff_ne, hopens, IsDocumentationText, and_assoc]

/-- Every node of the tree has its children in source order, at different starts. -/
def Node.InSourceOrder (root : Node) : Prop :=
  ∀ n ∈ root.preorder, n.children.Pairwise fun a b => a.span.start < b.span.start

instance (root : Node) : Decidable root.InSourceOrder := inferInstanceAs (Decidable (∀ n ∈ _, _))

namespace Located

/-- **The nodes of a tree, where they stand**: the root, and the children of each. -/
inductive In (root : Node) : Located → Prop
  | root : In root ⟨.root, root⟩
  | child {l : Located} {before after : List Node} {n : Node} (hl : In root l)
      (hrow : l.node.children = before.reverse ++ n :: after) : In root ⟨.among before after, n⟩

/-- The nodes are children of one node of the tree. -/
def Siblings (root : Node) (l l' : Located) : Prop :=
  ∃ p, In root p ∧ l.row? = some p.node.children ∧ l'.row? = some p.node.children

variable {root : Node} {l l' : Located}

theorem In.mem_preorder (h : In root l) : l.node ∈ root.preorder := by
  induction h with
  | root => exact Node.mem_preorder_self root
  | child _ hrow ih => exact Node.child_mem_preorder ih (by rw [hrow]; simp)

/-- The row of a node that is not the root. -/
theorem row?_eq (hseat : l.seat ≠ .root) : ∃ after, l.row? = some (l.before.reverse ++ l.node :: after) := by
  obtain ⟨seat, n⟩ := l
  cases seat with
  | root => exact absurd rfl hseat
  | among before after => exact ⟨after, rfl⟩

/-- The row of a node of a tree is in order if the tree is. -/
theorem In.pairwise_row (h : In root l) (horder : root.InSourceOrder) {row : List Node}
    (hrow : l.row? = some row) : row.Pairwise fun a b => a.span.start < b.span.start := by
  cases h with
  | root => cases hrow
  | @child p before after n hp hchildren =>
    obtain rfl : before.reverse ++ n :: after = row := Option.some.inj hrow
    rw [← hchildren]
    exact horder p.node hp.mem_preorder

/-! ### The comments of a node in its tree -/

theorem In.orphanComments_eq (h : In root l) (horder : root.InSourceOrder) :
    l.orphanComments = Node.commentRun l.before := by
  by_cases hseat : l.seat = .root
  · simp [orphanComments, row?, before, hseat, Node.commentRun]
  · obtain ⟨after, hrow⟩ := row?_eq hseat
    simp only [orphanComments, hrow]
    exact Node.orphanComments_eq (h.pairwise_row horder hrow)

theorem In.endsRun (h : In root l) (horder : root.InSourceOrder) :
    EndsRun l.before.reverse l.orphanComments := by
  rw [h.orphanComments_eq horder]
  exact Node.endsRun_commentRun l.before

/-- In its tree, a node is documented just when the siblings before it say so. -/
theorem In.isDocumented_eq (h : In root l) (horder : root.InSourceOrder) :
    l.isDocumented = Node.isDocumentedBy l.before := by
  rw [isDocumented, h.orphanComments_eq horder, attachedDocumentation?, Node.isDocumentedBy]

theorem In.isDocumented_iff (h : In root l) (horder : root.InSourceOrder) :
    l.isDocumented = true ↔ ∃ c ∈ l.orphanComments, IsDocumentationText c.text := by
  rw [h.isDocumented_eq horder, Node.isDocumentedBy_eq, ← List.any_reverse, ← Node.commentRun,
    ← h.orphanComments_eq horder, List.any_eq_true]
  refine exists_congr fun c => and_congr_right fun hc => ?_
  rw [Node.isDocumentation_iff, and_iff_right ((h.endsRun horder).comments c hc)]

/-- The comment directly before a node is the last one of its comments. -/
theorem In.getLast?_of_attached (h : In root l) (horder : root.InSourceOrder) {c : Node}
    (hc : l.attachedDocumentation? = some c) : l.orphanComments.getLast? = some c := by
  rw [h.orphanComments_eq horder, Node.commentRun, List.getLast?_reverse]
  cases hbefore : l.before with
  | nil => simp [attachedDocumentation?, Node.attachedDocumentation?, hbefore] at hc
  | cons n rest =>
    have hn : n.isDocumentation = true ∧ n = c := by
      simpa [attachedDocumentation?, Node.attachedDocumentation?, hbefore] using hc
    rw [List.takeWhile_cons_of_pos (Node.isComment_of_isDocumentation hn.1), List.head?_cons, hn.2]

/-- A comment before another node does not reach beyond that node. -/
theorem In.not_mem_of_break (h : In root l) (horder : root.InSourceOrder) {earlier later : List Node}
    {e : Node} (hbefore : l.before.reverse = earlier ++ e :: later) (he : e.isComment = false) :
    ∀ c ∈ earlier, c ∉ l.orphanComments := by
  intro c hc hrun
  have hlater : c ∈ later := ((h.endsRun horder).suffix_of_break hbefore he).subset hrun
  have hseat : l.seat ≠ .root := fun hroot => by simp [before, hroot] at hbefore
  obtain ⟨after, hrow⟩ := row?_eq hseat
  have hrows := (List.pairwise_append.mp (h.pairwise_row horder hrow)).1
  rw [hbefore] at hrows
  -- the comment would stand before itself
  exact Nat.lt_irrefl _ ((List.pairwise_append.mp hrows).2.2 c hc c (List.mem_cons_of_mem e hlater))

theorem Siblings.symm (h : Siblings root l l') : Siblings root l' l := by
  obtain ⟨p, hp, hl, hl'⟩ := h
  exact ⟨p, hp, hl', hl⟩

theorem Siblings.left_in (h : Siblings root l l') : In root l := by
  obtain ⟨p, hp, hl, -⟩ := h
  obtain ⟨seat, n⟩ := l
  cases seat with
  | root => cases hl
  | among before after => exact .child hp (Option.some.inj hl).symm

/-- Two cuts of one row at a node: the later one has the node of the earlier one before it. -/
theorem exists_later_of_cut {b b' a a' as : List Node} {n n' : Node} (hb : b'.reverse = b.reverse ++ as)
    (ha : n :: a = as ++ n' :: a') (hne : (⟨.among b a, n⟩ : Located) ≠ ⟨.among b' a', n'⟩) :
    ∃ later, b'.reverse = b.reverse ++ n :: later := by
  cases as with
  | nil =>
    obtain ⟨rfl, rfl⟩ := List.cons.inj ha
    obtain rfl : b' = b := by simpa using hb
    exact absurd rfl hne
  | cons x later =>
    obtain ⟨rfl, -⟩ := List.cons.inj ha
    exact ⟨later, hb⟩

/-- Of two siblings, one stands before the other. -/
theorem Siblings.before_or_after (h : Siblings root l l') (hne : l ≠ l') :
    (∃ later, l'.before.reverse = l.before.reverse ++ l.node :: later) ∨
      ∃ later, l.before.reverse = l'.before.reverse ++ l'.node :: later := by
  obtain ⟨p, -, hl, hl'⟩ := h
  obtain ⟨seat, n⟩ := l
  obtain ⟨seat', n'⟩ := l'
  cases seat with
  | root => cases hl
  | among b a =>
    cases seat' with
    | root => cases hl'
    | among b' a' =>
      have hrows : b.reverse ++ n :: a = b'.reverse ++ n' :: a' := Option.some.inj (hl.trans hl'.symm)
      rcases List.append_eq_append_iff.mp hrows with ⟨as, hb', has⟩ | ⟨bs, hb, hbs⟩
      · exact .inl (exists_later_of_cut hb' has hne)
      · exact .inr (exists_later_of_cut hb hbs hne.symm)

/-- **No comment documents two declarations.** -/
theorem Siblings.disjoint (h : Siblings root l l') (horder : root.InSourceOrder) (hne : l ≠ l')
    (hl : l.node.isComment = false) (hl' : l'.node.isComment = false) :
    l.orphanComments.Disjoint l'.orphanComments := by
  -- the comments of the earlier one are before it, those of the later one are not
  have hcomments : ∀ {l l' : Located}, Siblings root l l' → l.node.isComment = false →
      (∃ later, l'.before.reverse = l.before.reverse ++ l.node :: later) →
      l.orphanComments.Disjoint l'.orphanComments := by
    intro l l' h hl hbefore c hc hc'
    obtain ⟨later, hbefore⟩ := hbefore
    obtain ⟨front, hfront, -⟩ := (h.left_in.endsRun horder).maximal
    have hmem : c ∈ l.before.reverse := by rw [hfront]; exact List.mem_append_right _ hc
    exact h.symm.left_in.not_mem_of_break horder hbefore hl c hmem hc'
  rcases h.before_or_after hne with hbefore | hbefore
  · exact hcomments h hl hbefore
  · exact fun c hc hc' => hcomments h.symm hl' hbefore hc' hc

/-- **What documents a node.**  In a tree in source order, the comments of a node are the maximal run that
ends right before it; the attached comment is the last of them, and the node is documented just when one
of them is a documentation comment.  They are behind every earlier node that is no comment, so no two
declarations of a row share one.  A root is not documented. -/
theorem documentation_runs (root : Node) (horder : root.InSourceOrder) :
    (∀ l, In root l → l.seat ≠ .root →
      (∀ run, run = l.orphanComments ↔ EndsRun l.before.reverse run) ∧
      (∀ c, l.attachedDocumentation? = some c → l.orphanComments.getLast? = some c) ∧
      (l.isDocumented = true ↔ ∃ c ∈ l.orphanComments, IsDocumentationText c.text) ∧
      (∀ earlier e later, l.before.reverse = earlier ++ e :: later → e.isComment = false →
        ∀ c ∈ earlier, c ∉ l.orphanComments) ∧
      Node.isDocumentedBy l.before = l.isDocumented) ∧
    (∀ l l', Siblings root l l' → l ≠ l' → l.node.isComment = false → l'.node.isComment = false →
      l.orphanComments.Disjoint l'.orphanComments) ∧
    isDocumented ⟨.root, root⟩ = false := by
  refine ⟨fun l h _ => ⟨fun run => ?_, fun c => h.getLast?_of_attached horder,
      h.isDocumented_iff horder, fun earlier e later => h.not_mem_of_break horder,
      (h.isDocumented_eq horder).symm⟩,
    fun l l' h => h.disjoint horder, ?_⟩
  · constructor
    · rintro rfl
      exact h.endsRun horder
    · exact fun hrun => (h.endsRun horder).unique hrun
  · rfl

/-- The comments before the first constant of an enum. -/
def constantComments : List Node :=
  [.leaf .blockComment none ⟨9, 17, 2, 1⟩ "\n" "/** d */", .leaf .lineComment none ⟨18, 22, 2, 10⟩ " " "// n"]

/-- The first constant, with the comments before it. -/
def firstConstant : Located where
  seat := .among (constantComments.reverse ++ [.leaf .token none ⟨7, 8, 1, 8⟩ " " "\x7b"])
    [.leaf .token none ⟨24, 25, 3, 2⟩ "" ",", .leaf .enumConstant none ⟨26, 27, 3, 4⟩ " " "B",
      .leaf .token none ⟨28, 29, 4, 1⟩ "\n" "\x7d"]
  node := .leaf .enumConstant none ⟨23, 24, 3, 1⟩ "\n" "A"

/-- The second constant, behind the comma. -/
def secondConstant : Located where
  seat := .among (.leaf .token none ⟨24, 25, 3, 2⟩ "" "," :: firstConstant.node :: firstConstant.before)
    [.leaf .token none ⟨28, 29, 4, 1⟩ "\n" "\x7d"]
  node := .leaf .enumConstant none ⟨26, 27, 3, 4⟩ " " "B"

/-- The body of the enum. -/
def constantsBody : Node := .branch .enumBody (some .body) ⟨7, 29, 1, 8⟩ (firstConstant.row?.getD [])

theorem constantsBody_runs :
    constantsBody.InSourceOrder ∧ Siblings constantsBody firstConstant secondConstant ∧
      constantComments = firstConstant.orphanComments ∧ firstConstant.isDocumented = true ∧
      firstConstant.orphanComments.Disjoint secondConstant.orphanComments ∧
      secondConstant.isDocumented = false := by
  have horder : constantsBody.InSourceOrder := by decide +kernel
  have hsiblings : Siblings constantsBody firstConstant secondConstant := ⟨_, .root, rfl, rfl⟩
  have hruns := documentation_runs constantsBody horder
  obtain ⟨hrun, -, -, -, hdoc⟩ := hruns.1 firstConstant hsiblings.left_in (by rintro ⟨⟩)
  obtain ⟨-, -, -, -, hdoc'⟩ := hruns.1 secondConstant hsiblings.symm.left_in (by rintro ⟨⟩)
  have hcomments : constantComments = firstConstant.orphanComments :=
    (hrun constantComments).mpr ⟨by decide, [.leaf .token none ⟨7, 8, 1, 8⟩ " " "\x7b"], rfl, by decide⟩
  exact ⟨horder, hsiblings, hcomments, hdoc.symm.trans (by decide +kernel),
    hruns.2.1 _ _ hsiblings (by rintro ⟨⟩) rfl rfl, hdoc'.symm.trans (by decide +kernel)⟩

end Located

/-! ### The sites of a file -/

/-- The member is a node of the tree, with the siblings that it has there before it. -/
def Standing.StandsIn (root : Node) (s : Standing) : Prop :=
  ∃ after, Located.In root ⟨.among s.before after, s.node⟩

/-- A child stands in the tree of its parent. -/
theorem Located.In.standsIn_child {root : Node} {l : Located} (hl : In root l) {ctx : Site.Context} {i : Nat}
    {t : Standing} (ht : l.node.standing? ctx i = some t) : t.StandsIn root := by
  obtain ⟨c, hc, rfl⟩ := Option.map_eq_some_iff.mp ht
  obtain ⟨hi, rfl⟩ := List.getElem?_eq_some_iff.mp hc
  refine ⟨l.node.children.drop (i + 1), .child hl ?_⟩
  rw [List.reverse_reverse, List.getElem_cons_drop, List.take_append_drop]

/-- What a member holds stands in the tree that the member stands in. -/
theorem Standing.Holds.standsIn {root : Node} {s m : Standing} {a : Address} (h : s.Holds a m)
    (hs : s.StandsIn root) : m.StandsIn root := by
  induction h with
  | self => exact hs
  | @inType s _ _ j _ b _ _ hb ht _ ih =>
    obtain ⟨_, hs⟩ := hs
    have hchild : s.node.standing? s.inner j = some ⟨s.inner, (s.node.children.take j).reverse, b⟩ := by
      rw [Node.standing?, hb.child, Option.map_some]
    obtain ⟨_, hbody⟩ := hs.standsIn_child hchild
    exact ih (hbody.standsIn_child ht)
  | inEnumPart _ _ ht _ ih =>
    obtain ⟨_, hs⟩ := hs
    exact ih (hs.standsIn_child ht)

theorem CompilationUnit.Member.standsIn {unit : CompilationUnit} {a : Address} {m : Standing}
    (h : unit.Member a m) : m.StandsIn unit.root := by
  obtain ⟨i, t, a', -, ht, hm⟩ := h
  exact hm.standsIn (Located.In.root.standsIn_child ht)

namespace Located

/-- The site is that of the declaration: of a package, of a member, or of one variable of a field. -/
inductive Shows (l : Located) : Site → Prop
  | package (hk : l.node.kind = .packageDeclaration) : Shows l (Site.ofPackage l.before l.node)
  | member {ctx : Site.Context} {a : Address} {x : Site} (h : Standing.Own ⟨ctx, l.before, l.node⟩ a x) :
      Shows l x

/-- In a tree in source order, the siblings that a site asks and the search among all siblings of its
declaration give one answer. -/
theorem In.documented_eq {root : Node} {l : Located} (h : In root l) (horder : root.InSourceOrder) {x : Site}
    (hx : l.Shows x) : x.documented = l.isDocumented := by
  rw [h.isDocumented_eq horder]
  cases hx with
  | package => rfl
  | member hown => cases hown <;> rfl

end Located

namespace CompilationUnit

/-- Every site is that of a declaration of the tree. -/
theorem exists_shows (unit : CompilationUnit) {x : Site} (hx : x ∈ unit.sites) :
    ∃ l, Located.In unit.root l ∧ l.seat ≠ .root ∧ l.Shows x := by
  obtain ⟨rows, hrows, -, hdeclares⟩ := unit.enumerates_sites
  rw [← hrows] at hx
  obtain ⟨⟨a, _⟩, hmem, rfl⟩ := List.mem_map.mp hx
  rcases (hdeclares a _).mp hmem with ⟨i, m, -, hm, hk, -, hx⟩ | ⟨_, _, m, -, hm, -, hown⟩
  · obtain ⟨after, hl⟩ := Located.In.root.standsIn_child hm
    exact ⟨_, hl, by rintro ⟨⟩, by rw [hx]; exact .package hk⟩
  · obtain ⟨after, hl⟩ := hm.standsIn
    exact ⟨_, hl, by rintro ⟨⟩, .member hown⟩

/-- **The visits and the search for comments agree.**  In a tree in source order, every site is that of a
declaration below the root, and is documented just when the comments found for that declaration document
it. -/
theorem documented_eq (unit : CompilationUnit) (horder : unit.root.InSourceOrder) :
    ∀ x ∈ unit.sites, ∃ l, Located.In unit.root l ∧ l.seat ≠ .root ∧ l.Shows x ∧
      x.documented = l.isDocumented := by
  intro x hx
  obtain ⟨l, hl, hseat, hshows⟩ := unit.exists_shows hx
  exact ⟨l, hl, hseat, hshows, hl.documented_eq horder hshows⟩

end CompilationUnit

end JavadocAudit
