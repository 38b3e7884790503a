import JavadocAudit.Proofs.Sorting
import JavadocAudit.Proofs.Walk
import Mathlib.Data.List.Perm.Subperm

/-!
# Comments that are put into a file

A comment that is put right before a node is *fresh* there.  Where documentation is put only before nodes
that are no comments, a node is documented after exactly if it was so before or documentation is fresh
there; no other node notices the comment (`settled_stops`).  So if the revision keeps the order of the
nodes (`KeepsOrder`), the findings after are those before, in their order, less those of declarations
that gained documentation (`findings_revised`).

The main result is about comments that are no documentation: they change nothing, wherever they are put
(`ordinary_comments_change_nothing`).
-/

namespace JavadocAudit

/-! ### Comments that were put before a node -/

/-- A comment that stays documents what it did before. -/
theorem Revision.isDocumentation_new {r : Revision}
    (h : r.kind.isComment = true → r.new.text = r.old.text) :
    r.new.isDocumentation = r.old.isDocumentation := by
  simp only [Node.isDocumentation, Node.isComment, kind_old, kind_new]
  cases hc : r.kind.isComment with
  | true => rw [h hc]
  | false => simp

/-- Documentation was put right before the node. -/
def Place.gainsDocumentation (p : Place) : Bool := p.fresh.any Node.isDocumentation

/-- The node is documented by what was put right before it, or by what documented it before. -/
def Place.Settled (p : Place) : Prop :=
  Node.isDocumentedBy p.news = (p.gainsDocumentation || Node.isDocumentedBy p.olds)

/-- Documentation is put only before nodes that are no comments. -/
def Revision.PutsBeforeCode (r : Revision) : Prop :=
  ∀ s ∈ r.stops, s.gainsDocumentation = true → s.node.kind.isComment = false

/-- Documentation that was put before a node that is no comment settles that node, and the nodes after it
are as they were. -/
theorem Revision.settled_stopsAs (r : Revision) : ∀ (role : Role) (a : Address)
    (fresh olds news : List Node), r.Sound →
    Node.isDocumentedBy news = (fresh.any Node.isDocumentation || Node.isDocumentedBy olds) →
    (∀ s ∈ r.stopsAs role a fresh olds news, s.gainsDocumentation = true →
      s.node.kind.isComment = false) →
    ∀ s ∈ r.stopsAs role a fresh olds news, s.Settled := by
  induction r using Revision.walk_induction (Q := fun row => ∀ (kind : Kind) (label : Option Label)
      (look : Look) (a : Address) (i : Nat) (fresh olds news : List Node), row.Sound kind label →
      Node.isDocumentedBy news = (fresh.any Node.isDocumentation || Node.isDocumentedBy olds) →
      (∀ s ∈ row.stopsFor look a i fresh olds news, s.gainsDocumentation = true →
        s.node.kind.isComment = false) →
      ∀ s ∈ row.stopsFor look a i fresh olds news, s.Settled) with
  | node r ih =>
    intro role a fresh olds news h hbefore hcomment s hs
    rw [r.stopsAs_eq] at hs hcomment
    rcases List.mem_cons.mp hs with rfl | hs
    · exact hbefore
    · exact ih _ _ _ _ _ _ _ _ h.row rfl (fun t ht => hcomment t (List.mem_cons_of_mem _ ht)) s hs
  | nil kind label look a i fresh olds news h hbefore hcomment s hs => simp [RevisedRow.stopsFor] at hs
  | kept child rest ihc ihr kind label look a i fresh olds news h hbefore hcomment s hs =>
    rw [RevisedRow.stopsFor] at hcomment
    rcases List.mem_append.mp hs with hs | hs
    · exact ihc _ _ _ _ _ h.1 hbefore (fun t ht => hcomment t (List.mem_append_left _ ht)) s hs
    · refine ihr kind label _ _ _ _ _ _ h.2.2 ?_ (fun t ht => hcomment t (List.mem_append_right _ ht)) s hs
      have hread : child.kind.isComment = true → child.new.text = child.old.text :=
        fun hc => h.2.1 (by simp [Node.isRead, Node.isComment, hc])
      rw [Node.isDocumentedBy_cons, Node.isDocumentedBy_cons, Revision.isDocumentation_new hread,
        List.any_nil, Bool.false_or, Node.isComment, Node.isComment, Revision.kind_new,
        Revision.kind_old]
      cases hfresh : fresh.any Node.isDocumentation with
      | false => rw [hbefore, hfresh, Bool.false_or]
      | true =>
        have hc : child.kind.isComment = false :=
          hcomment ⟨⟨_, fresh, olds, news, child⟩, _⟩
            (List.mem_append_left _ (by rw [child.stopsAs_eq]; exact List.mem_cons_self)) hfresh
        rw [hc, Bool.false_and, Bool.false_and]
  | added comment rest ih kind label look a i fresh olds news h hbefore hcomment s hs =>
    refine ih kind label look a i _ _ _ h.2.2 ?_ hcomment s hs
    have hc : comment.isComment = true := h.1
    rw [Node.isDocumentedBy_cons, hbefore, hc, List.any_cons, Bool.true_and, Bool.or_assoc]

/-- **Documentation of a node**: if documentation is put only before nodes that are no comments, a node
is documented after exactly if it was so before or documentation was put right before it. -/
theorem Revision.settled_stops {r : Revision} (h : r.Sound) (hcode : r.PutsBeforeCode) {s : Stop}
    (hs : s ∈ r.stops) : s.Settled :=
  r.settled_stopsAs _ _ _ _ _ h rfl hcode s hs

theorem Revision.settled_declaration {r : Revision} (h : r.Sound) (hcode : r.PutsBeforeCode)
    {s : Stop} (hs : s ∈ r.stops) : s.declaration.Settled := by
  obtain ⟨d, hd, hplace⟩ := exists_stop_declaration hs
  rw [← hplace]
  exact settled_stops h hcode hd

/-- The fresh comments of all stops are among those that were put into the tree, each once. -/
theorem Revision.subperm_fresh_stopsAs (r : Revision) : ∀ (role : Role) (a : Address)
    (fresh olds news : List Node),
    ((r.stopsAs role a fresh olds news).flatMap (·.fresh)).Subperm (fresh ++ r.additions) := by
  induction r using Revision.walk_induction (Q := fun row => ∀ (look : Look) (a : Address) (i : Nat)
      (fresh olds news : List Node),
      ((row.stopsFor look a i fresh olds news).flatMap (·.fresh)).Subperm
        (fresh ++ row.additions)) with
  | node r ih =>
    intro role a fresh olds news
    have hadditions : r.additions = r.row.additions := by cases r <;> rfl
    rw [r.stopsAs_eq, List.flatMap_cons, hadditions, List.subperm_append_left]
    exact ih (role.inside ⟨a, fresh, olds, news, r⟩) a 0 [] [] []
  | nil look a i fresh olds news => simp [RevisedRow.stopsFor]
  | kept child rest ihc ihr look a i fresh olds news =>
    rw [RevisedRow.stopsFor, RevisedRow.additions, List.flatMap_append, ← List.append_assoc]
    exact (ihc (look.role child.label) (a ++ [i]) fresh olds news).append
      (ihr (look.after child.label) a (i + 1) [] (child.old :: olds) (child.new :: news))
  | added comment rest ih look a i fresh olds news =>
    rw [RevisedRow.stopsFor, RevisedRow.additions]
    exact (ih look a i (comment :: fresh) olds (comment :: news)).trans
      List.perm_middle.symm.subperm

theorem Revision.subperm_fresh (r : Revision) :
    (r.stops.flatMap (·.fresh)).Subperm r.additions :=
  r.subperm_fresh_stopsAs (.body {}) [] [] [] []

/-! ### The order of the nodes -/

/-- The node `n` begins before the node `m` does. -/
def Node.startsBefore (n m : Node) : Prop :=
  n.span.line < m.span.line ∨ (n.span.line = m.span.line ∧ n.span.column < m.span.column)

instance (n m : Node) : Decidable (n.startsBefore m) := inferInstanceAs (Decidable (_ ∨ _))

/-- Of two nodes, the one that the walk comes to later begins before the other one after the revision
exactly if it did so before.  In source order, it never does. -/
def Revision.KeepsOrder (r : Revision) : Prop :=
  r.stops.Pairwise fun s t =>
    t.node.new.startsBefore s.node.new ↔ t.node.old.startsBefore s.node.old

instance (r : Revision) : Decidable r.KeepsOrder := inferInstanceAs (Decidable (List.Pairwise _ _))

theorem Audit.keyLe_finding (path : String) (x y : Site) :
    Finding.keyLe (Audit.finding path x).sortKey (Audit.finding path y).sortKey = true ↔
      ¬ (y.line < x.line ∨ (y.line = x.line ∧ y.column < x.column)) := by
  simp only [Finding.keyLe, Finding.sortKey, Audit.finding, Option.getD_some, lt_self_iff_false,
    decide_false, BEq.rfl, Int.ofNat_lt, Int.ofNat_le, Bool.true_and, Bool.false_or, Bool.or_eq_true,
    decide_eq_true_eq, Bool.and_eq_true, beq_iff_eq]
  omega

/-! ### Findings before and after -/

/-- The stops with a site, each with its site in the old edition. -/
def Revision.sited (r : Revision) (isPackageInfo : Bool) : List (Stop × Site) :=
  r.stops.filterMap fun s => (s.site? isPackageInfo .old).map (s, ·)

namespace Revision

variable {r : Revision}

theorem mem_sited {isPackageInfo : Bool} {s : Stop} {x : Site} :
    (s, x) ∈ r.sited isPackageInfo ↔ s ∈ r.stops ∧ s.site? isPackageInfo .old = some x := by
  simp only [sited, List.mem_filterMap, Option.map_eq_some_iff, Prod.mk.injEq]
  constructor
  · rintro ⟨t, ht, y, hy, rfl, rfl⟩
    exact ⟨ht, hy⟩
  · rintro ⟨hs, hx⟩
    exact ⟨s, hs, x, hx, rfl, rfl⟩

/-- The site of a stop is where the node was, and documented as its declaration was. -/
theorem restate_of_mem_sited (h : r.Sound) {isPackageInfo : Bool} {s : Stop} {x : Site}
    (hx : (s, x) ∈ r.sited isPackageInfo) : s.restate .old x = x := by
  obtain ⟨hs, hsite⟩ := mem_sited.mp hx
  have hrestate := site?_eq_map h hs isPackageInfo .old
  rw [hsite, Option.map_some] at hrestate
  exact (Option.some.inj hrestate).symm

theorem sites_eq_map_sited (h : r.Sound) (path : String) (e : Edition) : (r.unit path e).sites =
    (r.sited (r.unit path .old).isPackageInfo).map fun y => y.1.restate e y.2 := by
  rw [sites_eq_filterMap_stops h, sited, List.map_filterMap]
  refine List.filterMap_congr fun s hs => ?_
  rw [site?_eq_map h hs, Option.map_map]
  rfl

theorem findings_eq_sorted (h : r.Sound) (settings : Settings) (path : String) (e : Edition) :
    Audit.findings settings (r.unit path e) = Finding.sorted
      (((r.sited (r.unit path .old).isPackageInfo).filter
        fun y => Audit.isFinding settings (y.1.restate e y.2)).map
          fun y => Audit.finding path (y.1.restate e y.2)) := by
  rw [Audit.findings, Audit.visited, sites_eq_map_sited h, List.filter_map, List.map_map]
  rfl

theorem isFinding_new (h : r.Sound) (hcode : r.PutsBeforeCode) (settings : Settings) {s : Stop}
    (hs : s ∈ r.stops) (x : Site) : Audit.isFinding settings (s.restate .new x) =
      (Audit.isFinding settings (s.restate .old x) && !s.declaration.gainsDocumentation) := by
  have hsettled : Node.isDocumentedBy s.declaration.news =
      (s.declaration.gainsDocumentation || Node.isDocumentedBy s.declaration.olds) :=
    settled_declaration h hcode hs
  have hruling : Policy.ruling? settings (s.restate .new x) = Policy.ruling? settings (s.restate .old x) :=
    rfl
  show ((Policy.ruling? settings (s.restate .new x)).isNone &&
    !Node.isDocumentedBy s.declaration.news) = ((Policy.ruling? settings (s.restate .old x)).isNone &&
    !Node.isDocumentedBy s.declaration.olds && !s.declaration.gainsDocumentation)
  rw [hruling, hsettled, Bool.not_or, Bool.and_assoc, Bool.and_comm (!_) (!_)]

theorem KeepsOrder.pairwise_sited (h : r.KeepsOrder) (isPackageInfo : Bool) (path : String) :
    (r.sited isPackageInfo).Pairwise fun y z =>
      Finding.keyLe (Audit.finding path (y.1.restate .old y.2)).sortKey
          (Audit.finding path (z.1.restate .old z.2)).sortKey =
        Finding.keyLe (Audit.finding path (y.1.restate .new y.2)).sortKey
          (Audit.finding path (z.1.restate .new z.2)).sortKey := by
  rw [sited, List.pairwise_filterMap]
  refine List.Pairwise.imp ?_ h
  intro s t hst y hy z hz
  obtain ⟨x, -, rfl⟩ := Option.map_eq_some_iff.mp hy
  obtain ⟨x', -, rfl⟩ := Option.map_eq_some_iff.mp hz
  rw [Bool.eq_iff_iff, Audit.keyLe_finding, Audit.keyLe_finding]
  exact not_congr hst.symm

end Revision

/-- The kind and the name of what a finding is about. -/
def Finding.subject (f : Finding) : ConstructKind × String := (f.kind, f.name)

/-- **Findings after comments were put into a file**: those of before in their order, less those of the
declarations that gained documentation. -/
theorem Revision.findings_revised {r : Revision} (h : r.Sound) (horder : r.KeepsOrder)
    (hcode : r.PutsBeforeCode) (settings : Settings) (path : String) :
    ∃ ys : List (Stop × Site), ys.Perm ((r.sited (r.unit path .old).isPackageInfo).filter
        fun y => Audit.isFinding settings y.2) ∧
      Audit.findings settings (r.unit path .old) = ys.map (fun y => Audit.finding path y.2) ∧
      (Audit.findings settings (r.unit path .new)).map Finding.subject =
        (ys.filter fun y => !y.1.declaration.gainsDocumentation).map
          fun y => (Audit.finding path y.2).subject := by
  obtain ⟨zs, hperm, hsorted⟩ := Finding.sorted_map_alike
    (horder.pairwise_sited (r.unit path .old).isPackageInfo path)
  have hmem : ∀ z ∈ zs, z.1 ∈ r.stops ∧ z.1.restate .old z.2 = z.2 := by
    intro z hz
    have hsited := hperm.mem_iff.mp hz
    exact ⟨(mem_sited.mp hsited).1, restate_of_mem_sited h hsited⟩
  have hfilter : (zs.filter fun z => Audit.isFinding settings (z.1.restate .old z.2)) =
      zs.filter fun z => Audit.isFinding settings z.2 :=
    List.filter_congr fun z hz => by rw [(hmem z hz).2]
  refine ⟨zs.filter fun z => Audit.isFinding settings z.2, hperm.filter _, ?_, ?_⟩
  · rw [findings_eq_sorted h, (hsorted _).1, hfilter]
    refine List.map_congr_left fun z hz => ?_
    rw [(hmem z (List.mem_filter.mp hz).1).2]
  · rw [findings_eq_sorted h, (hsorted _).2, List.map_map, List.filter_filter]
    have hfilter' : (zs.filter fun z => Audit.isFinding settings (z.1.restate .new z.2)) =
        zs.filter fun z => !z.1.declaration.gainsDocumentation && Audit.isFinding settings z.2 :=
      List.filter_congr fun z hz => by
        rw [isFinding_new h hcode settings (hmem z hz).1, (hmem z hz).2, Bool.and_comm]
    rw [hfilter']
    rfl

/-! ### Comments that are no documentation -/

theorem Revision.gainsDocumentation_eq_false {r : Revision}
    (hplain : ∀ c ∈ r.additions, c.isDocumentation = false) {s : Stop} (hs : s ∈ r.stops) :
    s.gainsDocumentation = false := by
  rw [Place.gainsDocumentation, List.any_eq_false]
  intro c hc
  have hadded : c ∈ r.additions := r.subperm_fresh.subset (List.mem_flatMap.mpr ⟨s, hs, hc⟩)
  simp [hplain c hadded]

namespace Revision

/-- The nodes of the stops are those of the old tree, in source order. -/
theorem map_old_stopsAs (r : Revision) : ∀ (role : Role) (a : Address) (fresh olds news : List Node),
    (r.stopsAs role a fresh olds news).map (·.node.old) = r.old.preorder := by
  induction r using Revision.walk_induction (Q := fun row => ∀ (look : Look) (a : Address) (i : Nat)
      (fresh olds news : List Node),
      (row.stopsFor look a i fresh olds news).map (·.node.old) = Node.preorderAll row.old) with
  | node r ih =>
    intro role a fresh olds news
    rw [r.stopsAs_eq, List.map_cons, ih]
    cases r with
    | leaf => rw [Revision.old, Node.preorder, row, RevisedRow.old, Node.preorderAll]
    | branch => rw [Revision.old, Node.preorder, row]
  | nil look a i fresh olds news => rw [RevisedRow.stopsFor, RevisedRow.old, Node.preorderAll]; rfl
  | kept child rest ihc ihr look a i fresh olds news =>
    rw [RevisedRow.stopsFor, List.map_append, ihc, ihr, RevisedRow.old, Node.preorderAll]
  | added comment rest ih look a i fresh olds news => exact ih look a i _ _ _

end Revision

/-- **Ordinary comments change nothing.**  Put comments that are no documentation anywhere into a tree,
but not into what is read as a whole, and keep the order of its nodes.  Then all nodes are documented as
they were and expose the properties they did, and the findings are about the same constructs in the same
order, whatever the path and the settings. -/
theorem Revision.ordinary_comments_change_nothing (r : Revision) (h : r.Sound) (horder : r.KeepsOrder)
    (hplain : ∀ c ∈ r.additions, c.isDocumentation = false) :
    (∀ (settings : Settings) (path : String),
      (Audit.findings settings ⟨path, r.new⟩).map Finding.subject =
        (Audit.findings settings ⟨path, r.old⟩).map Finding.subject) ∧
    r.stops.map (·.node.old) = r.old.preorder ∧
    ∀ s ∈ r.stops, Accessor.classify s.node.new = Accessor.classify s.node.old ∧
      Node.isDocumentedBy s.news = Node.isDocumentedBy s.olds := by
  have hcode : r.PutsBeforeCode := fun s hs hgains => by
    rw [gainsDocumentation_eq_false hplain hs] at hgains
    cases hgains
  refine ⟨fun settings path => ?_, r.map_old_stopsAs _ _ _ _ _, fun s hs => ⟨?_, ?_⟩⟩
  · obtain ⟨ys, hys, hold, hnew⟩ := findings_revised h horder hcode settings path
    have hall : (ys.filter fun y => !y.1.declaration.gainsDocumentation) = ys := by
      refine List.filter_eq_self.mpr fun y hy => ?_
      have hsited := (List.mem_filter.mp (hys.mem_iff.mp hy)).1
      obtain ⟨d, hd, hplace⟩ := exists_stop_declaration (mem_sited.mp hsited).1
      rw [← hplace, gainsDocumentation_eq_false hplain hd, Bool.not_false]
    rw [hall] at hnew
    refine hnew.trans ?_
    rw [show (⟨path, r.old⟩ : CompilationUnit) = r.unit path .old from rfl, hold, List.map_map]
    rfl
  · exact classify_new (r.sound_stopsAs _ _ _ _ _ h s hs)
  · have hsettled : Node.isDocumentedBy s.news = (s.gainsDocumentation || Node.isDocumentedBy s.olds) :=
      settled_stops h hcode hs
    rw [hsettled, gainsDocumentation_eq_false hplain hs, Bool.false_or]

/-- A class with a documented accessor and a method that lacks documentation.  Comments were put between
the documentation and the accessor, into its body and into its statement. -/
def commentedClass : Revision :=
  .branch .program none ⟨0, 60, 1, 1⟩ ⟨0, 80, 1, 1⟩ <| .kept
    (.branch .classDeclaration none ⟨0, 60, 1, 1⟩ ⟨0, 80, 1, 1⟩ <|
      .kept (.leaf .token none ⟨0, 5, 1, 1⟩ ⟨0, 5, 1, 1⟩ "" "" "class") <|
      .kept (.leaf .identifier (some .name) ⟨6, 7, 1, 7⟩ ⟨6, 7, 1, 7⟩ " " " " "A") <| .kept
      (.branch .classBody (some .body) ⟨8, 60, 1, 9⟩ ⟨8, 80, 1, 9⟩ <|
        .kept (.leaf .blockComment none ⟨10, 18, 2, 1⟩ ⟨10, 18, 2, 1⟩ "\n" "\n" "/** d */") <|
        .added (.leaf .blockComment none ⟨19, 26, 2, 10⟩ " " "/* n */") <| .kept
        (.branch .methodDeclaration none ⟨19, 42, 3, 1⟩ ⟨27, 60, 3, 1⟩ <|
          .kept (.leaf .integralType (some .type) ⟨19, 22, 3, 1⟩ ⟨27, 30, 3, 1⟩ "\n" "\n" "int") <|
          .kept (.leaf .identifier (some .name) ⟨23, 24, 3, 5⟩ ⟨31, 32, 3, 5⟩ " " " " "x") <| .kept
          (.branch .block (some .body) ⟨27, 42, 3, 9⟩ ⟨35, 60, 3, 9⟩ <|
            .added (.leaf .lineComment none ⟨37, 41, 3, 11⟩ " " "// t") <| .kept
            (.branch .returnStatement none ⟨29, 38, 3, 11⟩ ⟨42, 58, 4, 1⟩ <|
              .kept (.leaf .token none ⟨29, 35, 3, 11⟩ ⟨42, 48, 4, 1⟩ " " "\n" "return") <|
              .added (.leaf .blockComment none ⟨49, 56, 4, 8⟩ " " "/* p */") <|
              .kept (.leaf .identifier none ⟨36, 37, 3, 18⟩ ⟨57, 58, 4, 16⟩ " " " " "x") .nil)
            .nil)
          .nil) <| .kept
        (.branch .methodDeclaration none ⟨43, 55, 4, 1⟩ ⟨62, 74, 5, 1⟩ <|
          .kept (.leaf .voidType (some .type) ⟨43, 47, 4, 1⟩ ⟨62, 66, 5, 1⟩ "\n" "\n" "void") <|
          .kept (.leaf .identifier (some .name) ⟨48, 49, 4, 6⟩ ⟨67, 68, 5, 6⟩ " " " " "f") .nil)
        .nil)
      .nil)
    .nil

theorem commentedClass_unchanged :
    commentedClass.Sound ∧ commentedClass.KeepsOrder ∧
      (∀ c ∈ commentedClass.additions, c.isDocumentation = false) ∧
      commentedClass.additions.length = 3 ∧
      ∀ settings path, (Audit.findings settings ⟨path, commentedClass.new⟩).map Finding.subject =
        (Audit.findings settings ⟨path, commentedClass.old⟩).map Finding.subject := by
  have hsound : commentedClass.Sound := by decide +kernel
  have horder : commentedClass.KeepsOrder := by decide +kernel
  have hplain : ∀ c ∈ commentedClass.additions, c.isDocumentation = false := by
    decide +kernel
  exact ⟨hsound, horder, hplain, rfl,
    (commentedClass.ordinary_comments_change_nothing hsound horder hplain).1⟩

end JavadocAudit
