import JavadocAudit.Proofs.Preorder
import JavadocAudit.Proofs.Sorting

/-!
# Visits in source order

Where a tree is laid out along its text, each node stands within its parent and behind the siblings before
it.  All sites of a member are then where nodes of its tree start (`Standing.Declares.within`), so the
sites of different members of a row cannot mix (`LaidOut.before_of_row`), and a type stands before its
body (`LaidOut.before_of_body`).  One induction over the tree shows that the visits go forward
(`LaidOut.goesForward`), another one that sites stand in the order of their addresses
(`before_of_declares`).  To sort findings that are in order already changes nothing;
`visits_in_source_order` puts this together.
-/

namespace JavadocAudit

/-! ### Layout -/

/-- **A tree is laid out along its text**: nodes of a row are not empty and stand one behind the other,
within the node around them; later starts have later points; and a type starts before its body. -/
structure Node.LaidOut (root : Node) : Prop where
  apart : ∀ n ∈ root.preorder, n.children.Pairwise fun a b => a.span.stop ≤ b.span.start
  solid : ∀ n ∈ root.preorder, ∀ c ∈ n.children, c.span.start < c.span.stop
  inside : ∀ n ∈ root.preorder, ∀ c ∈ n.children,
    n.span.start ≤ c.span.start ∧ c.span.stop ≤ n.span.stop
  points : ∀ a ∈ root.preorder, ∀ b ∈ root.preorder, a.span.start < b.span.start →
    a.span.line < b.span.line ∨ a.span.line = b.span.line ∧ a.span.column < b.span.column
  body : ∀ n ∈ root.preorder, n.kind.isType = true → ∀ b ∈ n.part? .body, n.span.start < b.span.start

/-- The site stands before another one. -/
def Site.Before (x y : Site) : Prop := x.line < y.line ∨ x.line = y.line ∧ x.column < y.column

/-- The site is where some node of the tree starts. -/
def Site.Within (x : Site) (n : Node) : Prop :=
  ∃ m ∈ n.preorder, x.line = m.span.line ∧ x.column = m.span.column

theorem Site.Within.mono {x : Site} {n c : Node} (h : x.Within c) (hc : c ∈ n.preorder) : x.Within n := by
  obtain ⟨m, hm, hx⟩ := h
  exact ⟨m, Node.preorder_subset hc hm, hx⟩

namespace Node.LaidOut

variable {root : Node} (h : root.LaidOut)
include h

/-- What is below a node starts within its stretch of text. -/
theorem start_within (c : Node) : ∀ n ∈ root.preorder, c ∈ n.children → ∀ m ∈ c.preorder,
    c.span.start ≤ m.span.start ∧ m.span.start < c.span.stop := by
  induction c using Node.descend with
  | h c ih _ =>
    intro n hn hc m hm
    rcases mem_preorder_iff.mp hm with rfl | ⟨d, hd, hmd⟩
    · exact ⟨Nat.le_refl _, h.solid n hn m hc⟩
    · have hcroot := child_mem_preorder hn hc
      have hdc := h.inside c hcroot d hd
      have hm := ih d hd c hcroot hd m hmd
      omega

theorem before_of_start {x y : Site} {m m' : Node} (hm : m ∈ root.preorder) (hm' : m' ∈ root.preorder)
    (hx : x.line = m.span.line ∧ x.column = m.span.column)
    (hy : y.line = m'.span.line ∧ y.column = m'.span.column)
    (hlt : m.span.start < m'.span.start) : x.Before y := by
  rw [Site.Before, hx.1, hx.2, hy.1, hy.2]
  exact h.points m hm m' hm' hlt

/-- The sites of one node of a row stand before those of the nodes behind it. -/
theorem before_of_row {p a b : Node} {i j : Nat} {x y : Site} (hp : p ∈ root.preorder)
    (ha : p.children[i]? = some a) (hb : p.children[j]? = some b) (hij : i < j) (hx : x.Within a)
    (hy : y.Within b) : x.Before y := by
  obtain ⟨m, hm, hx⟩ := hx
  obtain ⟨m', hm', hy⟩ := hy
  have hamem := List.mem_of_getElem? ha
  have hbmem := List.mem_of_getElem? hb
  have hapart : a.span.stop ≤ b.span.start := by
    obtain ⟨hi, rfl⟩ := List.getElem?_eq_some_iff.mp ha
    obtain ⟨hj, rfl⟩ := List.getElem?_eq_some_iff.mp hb
    exact List.pairwise_iff_getElem.mp (h.apart p hp) i j hi hj hij
  refine h.before_of_start (preorder_subset (child_mem_preorder hp hamem) hm)
    (preorder_subset (child_mem_preorder hp hbmem) hm') hx hy ?_
  calc m.span.start < a.span.stop := (h.start_within a p hp hamem m hm).2
    _ ≤ b.span.start := hapart
    _ ≤ m'.span.start := (h.start_within b p hp hbmem m' hm').1

/-- A type stands before the sites of its body. -/
theorem before_of_body {s : Standing} {j : Nat} {b : Node} {x y : Site} (hs : s.node ∈ root.preorder)
    (hk : s.node.kind.isType = true) (hb : s.node.BodyAt j b)
    (hx : x.line = s.node.span.line ∧ x.column = s.node.span.column) (hy : y.Within b) :
    x.Before y := by
  obtain ⟨m, hm, hy⟩ := hy
  have hbmem := List.mem_of_getElem? hb.child
  have hbody : s.node.span.start < b.span.start :=
    h.body s.node hs hk b (Standing.find?_body_iff.mpr ⟨j, hb⟩)
  refine h.before_of_start hs (preorder_subset (child_mem_preorder hs hbmem) hm) hx hy ?_
  exact Nat.lt_of_lt_of_le hbody (h.start_within b s.node hs hbmem m hm).1

end Node.LaidOut

/-! ### Where sites are -/

theorem Enumerates.exists_of_mem {α : Type} {xs : List α} {R : Address → α → Prop} {x : α}
    (h : Enumerates xs R) (hx : x ∈ xs) : ∃ a, R a x := by
  obtain ⟨l, rfl, -, hm⟩ := h
  obtain ⟨⟨a, _⟩, hmem, rfl⟩ := List.mem_map.mp hx
  exact ⟨a, (hm a _).mp hmem⟩

namespace Standing

theorem Holds.mem_preorder {s m : Standing} {a : Address} (h : s.Holds a m) :
    m.node ∈ s.node.preorder := by
  induction h with
  | self s => exact Node.mem_preorder_self s.node
  | inType hk hb ht _ ih =>
    have hbody := Node.child_mem_preorder (Node.mem_preorder_self _) (List.mem_of_getElem? hb.child)
    exact Node.preorder_subset (Node.child_mem_preorder hbody (standing_mem ht).1) ih
  | inEnumPart _ _ ht _ ih =>
    exact Node.preorder_subset
      (Node.child_mem_preorder (Node.mem_preorder_self _) (standing_mem ht).1) ih

theorem Own.within {s : Standing} {a : Address} {x : Site} (h : s.Own a x) : x.Within s.node := by
  cases h with
  | field _ hv _ =>
    exact ⟨_, Node.child_mem_preorder (Node.mem_preorder_self _) (List.mem_of_getElem? hv), rfl, rfl⟩
  | type | method | constructor | annotationMember | enumConstant =>
    exact ⟨_, Node.mem_preorder_self _, rfl, rfl⟩

theorem Declares.within {s : Standing} {a : Address} {x : Site} (h : s.Declares a x) :
    x.Within s.node := by
  obtain ⟨a₁, a₂, m, -, hm, ho⟩ := h
  exact ho.within.mono hm.mem_preorder

end Standing

/-- The sites of members in a row are where nodes of the row start. -/
theorem Site.within_of_mem_ofMembers {ctx : Site.Context} {p : Node} {x : Site} (hctx : ctx.owners ≠ [])
    (hx : x ∈ ofMembers ctx [] p.children) : x.Within p := by
  rw [ofMembers_eq] at hx
  obtain ⟨-, i, t, a, ht, -, ha⟩ := (Standing.enumerates_row p ctx (ofMember ctx) Standing.Declares
    fun i t ht => by
      obtain ⟨-, rfl⟩ := Standing.standing_mem ht
      exact Standing.enumerates_ofMember t.node t rfl (.inl hctx)).exists_of_mem hx
  exact ha.within.mono (Node.child_mem_preorder (Node.mem_preorder_self p) (Standing.standing_mem ht).1)

/-! ### The order of the visits -/

/-- The visits to the node, where it is a member, go forward. -/
def Node.GoesForward (n : Node) : Prop :=
  ∀ s : Standing, s.node = n → s.ctx.owners ≠ [] ∨ n.kind.isType = true →
    (Site.ofMember s.ctx s.before s.node).Pairwise Site.Before

namespace Node.LaidOut

variable {root : Node} (h : root.LaidOut)
include h

/-- The lists of the nodes of a row go forward if each does and stays within its node. -/
theorem pairwise_alongRow (f : List Node → Node → List Site) {p : Node} (hp : p ∈ root.preorder)
    (ctx : Site.Context) (hf : ∀ i t, p.standing? ctx i = some t →
      (f t.before t.node).Pairwise Site.Before ∧ ∀ x ∈ f t.before t.node, x.Within t.node) :
    (alongRow f [] p.children).Pairwise Site.Before := by
  -- over the rest of the row; what was passed is at the front of the children
  have hrow : ∀ cs before : List Node, p.children = before.reverse ++ cs →
      (alongRow f before cs).Pairwise Site.Before ∧ ∀ x ∈ alongRow f before cs,
        ∃ i, before.length ≤ i ∧ ∃ c, p.children[i]? = some c ∧ x.Within c := by
    intro cs
    induction cs with
    | nil => exact fun before _ => ⟨.nil, by simp [alongRow]⟩
    | cons n rest ih =>
      intro before hchildren
      have hn : p.children[before.length]? = some n := by simp [hchildren]
      have ht : p.standing? ctx before.length = some ⟨ctx, before, n⟩ := by
        simp [Node.standing?, hchildren]
      obtain ⟨hpairwise, hwithin⟩ := hf _ _ ht
      obtain ⟨hrest, hbehind⟩ := ih (n :: before) (by simp [hchildren])
      rw [alongRow]
      refine ⟨List.pairwise_append.mpr ⟨hpairwise, hrest, fun x hx y hy => ?_⟩, fun x hx => ?_⟩
      · obtain ⟨i, hi, c, hc, hy⟩ := hbehind y hy
        exact h.before_of_row hp hn hc hi (hwithin x hx) hy
      · rcases List.mem_append.mp hx with hx | hx
        · exact ⟨_, Nat.le_refl _, n, hn, hwithin x hx⟩
        · obtain ⟨i, hi, hc⟩ := hbehind x hx
          exact ⟨i, Nat.le_of_succ_le hi, hc⟩
  exact (hrow p.children [] rfl).1

theorem pairwise_ofPlainMember {n : Node} (hn : n ∈ root.preorder) (ctx : Site.Context)
    (before : List Node) : (Site.ofPlainMember ctx before n).Pairwise Site.Before := by
  unfold Site.ofPlainMember
  split_ifs
  · rw [Site.ofField, List.pairwise_map]
    refine ((h.apart n hn).sublist List.filter_sublist).imp_of_mem fun {a b} ha hb hab => ?_
    have ha := (List.mem_filter.mp ha).1
    have hb := (List.mem_filter.mp hb).1
    exact h.before_of_start (child_mem_preorder hn ha) (child_mem_preorder hn hb) ⟨rfl, rfl⟩ ⟨rfl, rfl⟩
      (Nat.lt_of_lt_of_le (h.solid n hn a ha) hab)
  all_goals simp

/-- The visits to the members of a row go forward if those to each of them do. -/
theorem pairwise_ofMembers {p : Node} (hp : p ∈ root.preorder) {ctx : Site.Context}
    (hctx : ctx.owners ≠ []) (hvisits : ∀ c ∈ p.children, c.GoesForward) :
    (Site.ofMembers ctx [] p.children).Pairwise Site.Before := by
  rw [Site.ofMembers_eq]
  refine h.pairwise_alongRow _ hp ctx fun i t ht => ?_
  obtain ⟨hmem, rfl⟩ := Standing.standing_mem ht
  refine ⟨hvisits t.node hmem t rfl (.inl hctx), fun x hx => ?_⟩
  obtain ⟨a, ha⟩ := (Standing.enumerates_ofMember t.node t rfl (.inl hctx)).exists_of_mem hx
  exact ha.within

/-- **The visits to a member go forward.**  The induction goes over the tree. -/
theorem goesForward (n : Node) : n ∈ root.preorder → n.GoesForward := by
  induction n using Node.descend with
  | h n ihc ihb =>
  rintro hn s rfl hs
  by_cases ht : s.node.kind.isType = true
  · rw [Site.ofMember_of_isType ht, Standing.enter_eq_inner, Site.ofBodyPart_eq, List.pairwise_cons]
    cases hf : s.node.children.find? (·.label == some .body) with
    | none => simp
    | some b =>
      obtain ⟨j, hb⟩ := Standing.find?_body_iff.mp hf
      have hmem := List.mem_of_getElem? hb.child
      have hbroot := child_mem_preorder hn hmem
      have hinner := s.inner_owners_ne_nil
      constructor
      · intro y hy
        exact h.before_of_body hn ht hb ⟨rfl, rfl⟩ (Site.within_of_mem_ofMembers hinner hy)
      · exact h.pairwise_ofMembers hbroot hinner fun c hc => ihb b hmem c hc (child_mem_preorder hbroot hc)
  · have hin : s.ctx.owners ≠ [] := hs.resolve_right ht
    by_cases he : s.node.kind = .enumBodyDeclarations
    · rw [Site.ofMember_of_enumPart he]
      exact h.pairwise_ofMembers hn hin fun c hc => ihc c hc (child_mem_preorder hn hc)
    · rw [Site.ofMember_of_plain (by simpa using ht) he]
      exact h.pairwise_ofPlainMember hn _ _

end Node.LaidOut

/-- **The visits to a file go forward.** -/
theorem CompilationUnit.pairwise_sites {unit : CompilationUnit} (h : unit.root.LaidOut) :
    unit.sites.Pairwise Site.Before := by
  have hroot := Node.mem_preorder_self unit.root
  rw [CompilationUnit.sites_eq]
  refine h.pairwise_alongRow _ hroot {} fun i t ht => ?_
  obtain ⟨hmem, hctx⟩ := Standing.standing_mem ht
  constructor
  · split_ifs with hp hinfo hk
    · simp
    · simp
    · have := h.goesForward t.node (Node.child_mem_preorder hroot hmem) t rfl (.inr hk)
      rwa [hctx] at this
    · simp
  · intro x hx
    obtain ⟨a, ⟨-, -, -, rfl⟩ | ⟨-, hdeclares⟩⟩ :=
      (CompilationUnit.enumerates_topLevel unit.isPackageInfo t hctx).exists_of_mem hx
    · exact ⟨t.node, Node.mem_preorder_self _, rfl, rfl⟩
    · exact hdeclares.within

/-! ### The order of addresses -/

namespace Standing

section Kinds

variable {s : Standing} {a : Address} {x : Site}

theorem Declares.of_isType (hk : s.node.kind.isType = true) (h : s.Declares a x) :
    (a = [] ∧ x = Site.ofType s.ctx s.before s.node) ∨ ∃ j b, s.node.BodyAt j b ∧ ∃ i t a',
      b.standing? s.inner i = some t ∧ a = j :: i :: a' ∧ t.Declares a' x := by
  have hf : s.node.kind.isField = false := by revert hk; cases s.node.kind <;> decide
  rcases declares_iff.mp h with ho | ⟨-, hbody⟩ | ⟨-, he, -⟩
  · exact .inl (Own.eq hf (.type hk) ho)
  · exact .inr hbody
  · rw [he] at hk
    cases hk

theorem Declares.of_enumPart (hk : s.node.kind = .enumBodyDeclarations) (h : s.Declares a x) :
    ∃ i t a', s.node.standing? { s.ctx with components := 0 } i = some t ∧ a = i :: a' ∧
      t.Declares a' x := by
  rcases declares_iff.mp h with ho | ⟨ht, -⟩ | ⟨-, -, hpart⟩
  · cases ho <;> simp_all [Kind.isType, Kind.isConstructor, Kind.isField]
  · rw [hk] at ht
    cases ht
  · exact hpart

theorem Declares.of_plain (ht : s.node.kind.isType = false) (hk : s.node.kind ≠ .enumBodyDeclarations)
    (h : s.Declares a x) : s.Own a x := by
  rcases declares_iff.mp h with ho | ⟨ht', -⟩ | ⟨-, hk', -⟩
  · exact ho
  · rw [ht] at ht'
    cases ht'
  · exact absurd hk' hk

end Kinds

variable {root : Node} (h : root.LaidOut)
include h

/-- Below a node, what has the smaller number comes first. -/
theorem before_of_row {p : Node} (hp : p ∈ root.preorder) {ctx : Site.Context} {i i' : Nat}
    {t t' : Standing} {a a' : Address} {x y : Site} (ht : p.standing? ctx i = some t)
    (ht' : p.standing? ctx i' = some t') (hx : t.Declares a x) (hy : t'.Declares a' y)
    (hlt : i :: a < i' :: a') (ih : t.Declares a' y → a < a' → x.Before y) : x.Before y := by
  rcases List.cons_lt_cons_iff.mp hlt with hi | ⟨rfl, ha⟩
  · exact h.before_of_row hp (getElem?_of_standing? ht) (getElem?_of_standing? ht') hi hx.within hy.within
  · obtain rfl : t = t' := Option.some.inj (ht.symm.trans ht')
    exact ih hy ha

/-- The variables of a field stand in the order of their numbers. -/
theorem before_of_own {s : Standing} (hs : s.node ∈ root.preorder) {a a' : Address} {x y : Site}
    (hx : s.Own a x) (hy : s.Own a' y) (hlt : a < a') : x.Before y := by
  cases hf : s.node.kind.isField with
  | false =>
    obtain ⟨rfl, -⟩ := Own.eq hf hx hy
    exact absurd hlt (List.lt_irrefl _)
  | true =>
    obtain ⟨j, v, rfl, hv, -, rfl⟩ := hx.of_isField hf
    obtain ⟨j', v', rfl, hv', -, rfl⟩ := hy.of_isField hf
    have hj : j < j' := by simpa [List.cons_lt_cons_iff] using hlt
    exact h.before_of_row hs hv hv' hj ⟨v, Node.mem_preorder_self v, rfl, rfl⟩
      ⟨v', Node.mem_preorder_self v', rfl, rfl⟩

/-- **The sites of a member stand in the order of their addresses.** -/
theorem before_of_declares (n : Node) : n ∈ root.preorder → ∀ s : Standing, s.node = n →
    ∀ a a' x y, s.Declares a x → s.Declares a' y → a < a' → x.Before y := by
  induction n using Node.descend with
  | h n ihc ihb =>
  rintro hn s rfl a a' x y hx hy hlt
  by_cases hk : s.node.kind.isType = true
  · rcases hx.of_isType hk with ⟨rfl, rfl⟩ | ⟨j, b, hb, i, t, c, ht, rfl, hxt⟩
    · rcases hy.of_isType hk with ⟨rfl, -⟩ | ⟨j, b, hb, i, t, c, ht, -, hyt⟩
      · exact absurd hlt (List.lt_irrefl _)
      · exact h.before_of_body hn hk hb ⟨rfl, rfl⟩ (hyt.within.mono
          (Node.child_mem_preorder (Node.mem_preorder_self b) (standing_mem ht).1))
    · rcases hy.of_isType hk with ⟨rfl, -⟩ | ⟨j', b', hb', i', t', c', ht', rfl, hyt⟩
      · exact absurd hlt (List.not_lt_nil _)
      · obtain ⟨rfl, rfl⟩ := bodyAt_unique hb hb'
        have hmem := List.mem_of_getElem? hb.child
        have hbroot := Node.child_mem_preorder hn hmem
        have htmem := (standing_mem ht).1
        refine before_of_row h hbroot ht ht' hxt hyt (by simpa [List.cons_lt_cons_iff] using hlt) ?_
        exact ihb b hmem t.node htmem (Node.child_mem_preorder hbroot htmem) t rfl c c' x y hxt
  · by_cases he : s.node.kind = .enumBodyDeclarations
    · obtain ⟨i, t, c, ht, rfl, hxt⟩ := hx.of_enumPart he
      obtain ⟨i', t', c', ht', rfl, hyt⟩ := hy.of_enumPart he
      have htmem := (standing_mem ht).1
      refine before_of_row h hn ht ht' hxt hyt hlt ?_
      exact ihc t.node htmem (Node.child_mem_preorder hn htmem) t rfl c c' x y hxt
    · have hk : s.node.kind.isType = false := by simpa using hk
      exact before_of_own h hn (hx.of_plain hk he) (hy.of_plain hk he) hlt

end Standing

/-- What a node outside of all types declares: a package, or a type and its members. -/
def Standing.DeclaresOutside (t : Standing) (a : Address) (x : Site) : Prop :=
  (t.node.kind = .packageDeclaration ∧ a = [] ∧ x = Site.ofPackage t.before t.node) ∨
    (t.node.kind.isType = true ∧ t.Declares a x)

theorem Standing.DeclaresOutside.within {t : Standing} {a : Address} {x : Site}
    (h : t.DeclaresOutside a x) : x.Within t.node := by
  rcases h with ⟨-, -, rfl⟩ | ⟨-, hx⟩
  · exact ⟨t.node, Node.mem_preorder_self _, rfl, rfl⟩
  · exact hx.within

theorem CompilationUnit.Declares.outside {unit : CompilationUnit} {a : Address} {x : Site}
    (h : unit.Declares a x) :
    ∃ i t a', unit.root.standing? {} i = some t ∧ a = i :: a' ∧ t.DeclaresOutside a' x := by
  rcases h with ⟨i, t, -, ht, hk, rfl, rfl⟩ | ⟨a₁, a₂, m, rfl, ⟨i, t, a', rfl, ht, hholds⟩, hm, hown⟩
  · exact ⟨i, t, [], ht, rfl, .inl ⟨hk, rfl, rfl⟩⟩
  · have hk := isType_of_holds (by rw [(Standing.standing_mem ht).2]) hholds hm
    exact ⟨i, t, a' ++ a₂, ht, rfl, .inr ⟨hk, a', a₂, m, rfl, hholds, hown⟩⟩

/-- **The sites of a file stand in the order of their addresses.** -/
theorem CompilationUnit.before_of_declares {unit : CompilationUnit} (h : unit.root.LaidOut)
    {a a' : Address} {x y : Site} (hx : unit.Declares a x) (hy : unit.Declares a' y) (hlt : a < a') :
    x.Before y := by
  have hroot := Node.mem_preorder_self unit.root
  obtain ⟨i, t, c, ht, rfl, hxt⟩ := hx.outside
  obtain ⟨i', t', c', ht', rfl, hyt⟩ := hy.outside
  rcases List.cons_lt_cons_iff.mp hlt with hi | ⟨rfl, hc⟩
  · exact h.before_of_row hroot (Standing.getElem?_of_standing? ht) (Standing.getElem?_of_standing? ht') hi
      hxt.within hyt.within
  · obtain rfl : t = t' := Option.some.inj (ht.symm.trans ht')
    rcases hyt with ⟨-, rfl, -⟩ | ⟨hk, hyt⟩
    · exact absurd hc (List.not_lt_nil _)
    · rcases hxt with ⟨hk', -⟩ | ⟨-, hxt⟩
      · rw [hk'] at hk
        cases hk
      · exact Standing.before_of_declares h t.node
          (Node.child_mem_preorder hroot (Standing.standing_mem ht).1) t rfl c c' x y hxt hyt hc

/-! ### The order of the findings -/

/-- The finding is at an earlier line and column than another one. -/
def Finding.StartsBefore (f g : Finding) : Prop :=
  ∃ line ∈ f.line, ∃ column ∈ f.column, ∃ line' ∈ g.line, ∃ column' ∈ g.column,
    line < line' ∨ line = line' ∧ column < column'

namespace Site.Before

variable {x y : Site} (h : x.Before y) (path : String)
include h

theorem startsBefore : (Audit.finding path x).StartsBefore (Audit.finding path y) := by
  refine ⟨_, rfl, _, rfl, _, rfl, _, rfl, ?_⟩
  rcases h with hline | ⟨hline, hcolumn⟩
  · exact .inl (Int.ofNat_lt.mpr hline)
  · exact .inr ⟨congrArg Int.ofNat hline, Int.ofNat_lt.mpr hcolumn⟩

theorem keyLe :
    Finding.keyLe (Audit.finding path x).sortKey (Audit.finding path y).sortKey = true := by
  rcases h with hline | ⟨hline, hcolumn⟩
  · simp [Finding.keyLe, Finding.sortKey, Audit.finding, hline]
  · simp [Finding.keyLe, Finding.sortKey, Audit.finding, hline, Nat.le_of_lt hcolumn]

end Site.Before

theorem Finding.StartsBefore.asymm {f g : Finding} (h : f.StartsBefore g) : ¬ g.StartsBefore f := by
  rintro ⟨l, hl, c, hc, l', hl', c', hc', hgf⟩
  obtain ⟨m, hm, d, hd, m', hm', d', hd', hfg⟩ := h
  obtain rfl : m = l' := Option.mem_unique hm hl'
  obtain rfl : d = c' := Option.mem_unique hd hc'
  obtain rfl : m' = l := Option.mem_unique hm' hl
  obtain rfl : d' = c := Option.mem_unique hd' hc
  omega

theorem Finding.StartsBefore.place_ne {f g : Finding} (h : f.StartsBefore g) :
    (f.line, f.column) ≠ (g.line, g.column) := by
  obtain ⟨l, hl, c, hc, l', hl', c', hc', hlt⟩ := h
  rw [Option.mem_def.mp hl, Option.mem_def.mp hc, Option.mem_def.mp hl', Option.mem_def.mp hc']
  simp only [ne_eq, Prod.mk.injEq, Option.some.injEq, not_and]
  omega

namespace Audit

section

variable {unit : CompilationUnit} (h : unit.root.LaidOut) (settings : Settings)
include h

theorem pairwise_visited {R : Finding → Finding → Prop}
    (hR : ∀ x y : Site, x.Before y → R (finding unit.path x) (finding unit.path y)) :
    (visited settings unit).Pairwise R := by
  rw [visited, List.pairwise_map]
  exact ((CompilationUnit.pairwise_sites h).sublist List.filter_sublist).imp (hR _ _)

theorem findings_eq_visited : findings settings unit = visited settings unit :=
  List.mergeSort_of_pairwise (pairwise_visited h settings fun _ _ hxy => hxy.keyLe unit.path)

/-- Findings stand in the order of the addresses of what they report. -/
theorem startsBefore_of_lacks {a a' : Address} {f g : Finding} (hf : Lacks settings unit a f)
    (hg : Lacks settings unit a' g) (hlt : a < a') : f.StartsBefore g := by
  obtain ⟨x, hx, -, rfl⟩ := hf.isFinding
  obtain ⟨y, hy, -, rfl⟩ := hg.isFinding
  exact (CompilationUnit.before_of_declares h hx hy hlt).startsBefore unit.path

/-- The visits find what lacks documentation in the order of addresses. -/
theorem visited_by_address : ∃ l : List (Address × Finding), l.map Prod.snd = visited settings unit ∧
    (l.map Prod.fst).Pairwise (· < ·) ∧ ∀ a f, (a, f) ∈ l ↔ Lacks settings unit a f := by
  obtain ⟨l, hl, hnodup, hmem⟩ :=
    unit.enumerates_sites.filter_map (isFinding settings) (finding unit.path)
  have hlacks : ∀ p ∈ l, Lacks settings unit p.1 p.2 := fun p hp => lacks_iff.mpr ((hmem p.1 p.2).mp hp)
  have hplaces : (l.map Prod.snd).Pairwise Finding.StartsBefore := by
    rw [hl]
    exact pairwise_visited h settings fun _ _ hxy => hxy.startsBefore unit.path
  refine ⟨l, hl, ?_, fun a f => (hmem a f).trans lacks_iff.symm⟩
  rw [List.pairwise_map] at hplaces ⊢
  have hne : l.Pairwise fun p q => p.1 ≠ q.1 := List.pairwise_map.mp hnodup
  refine (hplaces.and hne).imp_of_mem fun {p q} hp hq hpq => ?_
  rcases lt_trichotomy p.1 q.1 with hlt | heq | hgt
  · exact hlt
  · exact absurd heq hpq.2
  · -- the later address would stand first
    exact absurd hpq.1 (startsBefore_of_lacks h settings (hlacks q hq) (hlacks p hp) hgt).asymm

end

/-- **The visits are in source order.**  In a tree that is laid out along its text, the findings of the
visits go strictly forward, through all that lacks documentation in the order of addresses, so sorting
leaves them as they are, and no two of them are at one place.  The finding of a construct comes before
those of all constructs below it, and what is below one node comes before what is below a later
sibling. -/
theorem visits_in_source_order (settings : Settings) (unit : CompilationUnit) (h : unit.root.LaidOut) :
    (visited settings unit).Pairwise Finding.StartsBefore ∧
    (∃ l : List (Address × Finding), l.map Prod.snd = visited settings unit ∧
      (l.map Prod.fst).Pairwise (· < ·) ∧ ∀ a f, (a, f) ∈ l ↔ Lacks settings unit a f) ∧
    findings settings unit = visited settings unit ∧
    ((findings settings unit).map fun f => (f.line, f.column)).Nodup ∧
    (∀ a b f g, b ≠ [] → Lacks settings unit a f → Lacks settings unit (a ++ b) g → f.StartsBefore g) ∧
    ∀ a i j b c f g, i < j → Lacks settings unit (a ++ i :: b) f → Lacks settings unit (a ++ j :: c) g →
      f.StartsBefore g := by
  have hvisited := pairwise_visited h settings fun _ _ hxy => hxy.startsBefore unit.path
  refine ⟨hvisited, visited_by_address h settings, findings_eq_visited h settings, ?_,
    fun a b f g hb hf hg => ?_, fun a i j b c f g hij hf hg => ?_⟩
  · rw [findings_eq_visited h settings, List.Nodup, List.pairwise_map]
    exact hvisited.imp fun hfg => hfg.place_ne
  · obtain ⟨k, b, rfl⟩ := List.exists_cons_of_ne_nil hb
    have hlt : a ++ [] < a ++ k :: b := List.append_left_lt (List.nil_lt_cons k b)
    exact startsBefore_of_lacks h settings hf hg (by simpa using hlt)
  · have hlt : a ++ i :: b < a ++ j :: c := List.append_left_lt (List.cons_lt_cons_iff.mpr (.inl hij))
    exact startsBefore_of_lacks h settings hf hg hlt

/-- A class with a field of two variables and an enum with a method, and an interface behind it. -/
def layeredUnit : CompilationUnit where
  path := "A.java"
  root := .branch .program none ⟨0, 62, 1, 1⟩
    [.branch .classDeclaration none ⟨0, 47, 1, 1⟩
      [.leaf .token none ⟨0, 5, 1, 1⟩ "" "class",
        .leaf .identifier (some .name) ⟨6, 7, 1, 7⟩ " " "A",
        .branch .classBody (some .body) ⟨8, 47, 1, 9⟩
          [.leaf .token none ⟨8, 9, 1, 9⟩ " " "\x7b",
            .branch .fieldDeclaration none ⟨10, 19, 2, 1⟩
              [.leaf .integralType (some .type) ⟨10, 13, 2, 1⟩ "\n" "int",
                .branch .variableDeclarator (some .declarator) ⟨14, 15, 2, 5⟩
                  [.leaf .identifier (some .name) ⟨14, 15, 2, 5⟩ " " "x"],
                .leaf .token none ⟨15, 16, 2, 6⟩ "" ",",
                .branch .variableDeclarator (some .declarator) ⟨17, 18, 2, 8⟩
                  [.leaf .identifier (some .name) ⟨17, 18, 2, 8⟩ " " "y"],
                .leaf .token none ⟨18, 19, 2, 9⟩ "" ";"],
            .branch .enumDeclaration none ⟨20, 45, 3, 1⟩
              [.leaf .token none ⟨20, 24, 3, 1⟩ "\n" "enum",
                .leaf .identifier (some .name) ⟨25, 26, 3, 6⟩ " " "E",
                .branch .enumBody (some .body) ⟨27, 45, 3, 8⟩
                  [.leaf .token none ⟨27, 28, 3, 8⟩ " " "\x7b",
                    .branch .enumConstant none ⟨29, 30, 4, 1⟩
                      [.leaf .identifier (some .name) ⟨29, 30, 4, 1⟩ "\n" "P"],
                    .branch .enumBodyDeclarations none ⟨30, 43, 4, 2⟩
                      [.leaf .token none ⟨30, 31, 4, 2⟩ "" ";",
                        .branch .methodDeclaration none ⟨32, 43, 5, 1⟩
                          [.leaf .voidType (some .type) ⟨32, 36, 5, 1⟩ "\n" "void",
                            .leaf .identifier (some .name) ⟨37, 38, 5, 6⟩ " " "f",
                            .leaf .formalParameters (some .parameters) ⟨38, 40, 5, 7⟩ "" "()",
                            .leaf .block (some .body) ⟨41, 43, 5, 10⟩ " " "\x7b\x7d"]],
                    .leaf .token none ⟨44, 45, 6, 1⟩ "\n" "\x7d"]],
            .leaf .token none ⟨46, 47, 7, 1⟩ "\n" "\x7d"]],
      .branch .interfaceDeclaration none ⟨48, 62, 8, 1⟩
        [.leaf .token none ⟨48, 57, 8, 1⟩ "\n" "interface",
          .leaf .identifier (some .name) ⟨58, 59, 8, 11⟩ " " "B",
          .leaf .interfaceBody (some .body) ⟨60, 62, 8, 13⟩ " " "\x7b\x7d"]]

theorem layeredUnit_in_source_order :
    layeredUnit.root.LaidOut ∧
      (visited Settings.initial layeredUnit).map (·.name) = ["A", "x", "y", "E", "P", "f", "B"] ∧
      (visited Settings.initial layeredUnit).Pairwise Finding.StartsBefore ∧
      findings Settings.initial layeredUnit = visited Settings.initial layeredUnit := by
  have hlaid : layeredUnit.root.LaidOut := by
    constructor <;> decide +kernel
  have horder := visits_in_source_order Settings.initial layeredUnit hlaid
  exact ⟨hlaid, by decide +kernel, horder.1, horder.2.2.1⟩

end Audit

end JavadocAudit
