import JavadocAudit.Proofs.Member
import Mathlib.Data.List.Nodup

/-!
# The findings of a file are the constructs that lack documentation

The visits to a file are compared with `Lacks`, which knows of no visits.  `Enumerates xs R` says that a
list holds what a relation places at addresses, each address once.  Along a row of nodes such lists are
put together (`enumerates_alongRow`), so an induction over the tree shows that the sites of a member are
those of the members it holds (`enumerates_ofMember`), and the sites of a file those of its members and
its package (`enumerates_sites`).  The rules of exemption leave exactly the sites that `Lacks` asks for
(`lacks_iff`); `findings_perm_lacking` puts the two together.
-/

namespace JavadocAudit

/-! ### Lists with addresses -/

/-- The list holds what `R` places at addresses: each address has one element, and the list has it
once. -/
def Enumerates {α : Type} (xs : List α) (R : Address → α → Prop) : Prop :=
  ∃ l : List (Address × α), l.map Prod.snd = xs ∧ (l.map Prod.fst).Nodup ∧
    ∀ a x, (a, x) ∈ l ↔ R a x

namespace Enumerates

variable {α β : Type} {xs ys : List α} {R S : Address → α → Prop}

theorem congr (h : Enumerates xs R) (hRS : ∀ a x, R a x ↔ S a x) : Enumerates xs S := by
  obtain ⟨l, hl, hn, hm⟩ := h
  exact ⟨l, hl, hn, fun a x => (hm a x).trans (hRS a x)⟩

theorem nil (h : ∀ a x, ¬ R a x) : Enumerates [] R :=
  ⟨[], rfl, List.nodup_nil, fun a x => by simp [h a x]⟩

theorem single (x : α) : Enumerates [x] (fun a y => a = [] ∧ y = x) :=
  ⟨[([], x)], rfl, by simp, fun a y => by simp⟩

theorem append (h : Enumerates xs R) (h' : Enumerates ys S) (hd : ∀ a x y, R a x → ¬ S a y) :
    Enumerates (xs ++ ys) (fun a x => R a x ∨ S a x) := by
  obtain ⟨l, rfl, hn, hm⟩ := h
  obtain ⟨l', rfl, hn', hm'⟩ := h'
  refine ⟨l ++ l', by simp, ?_, fun a x => by rw [List.mem_append, hm, hm']⟩
  rw [List.map_append]
  refine hn.append hn' ?_
  rw [List.disjoint_iff_ne]
  intro a ha b hb hab
  subst hab
  obtain ⟨⟨_, x⟩, hx, rfl⟩ := List.mem_map.mp ha
  obtain ⟨⟨_, y⟩, hy, rfl⟩ := List.mem_map.mp hb
  exact hd _ x y ((hm _ x).mp hx) ((hm' _ y).mp hy)

/-- One step further from the root. -/
theorem under (i : Nat) (h : Enumerates xs R) :
    Enumerates xs (fun a x => ∃ a', a = i :: a' ∧ R a' x) := by
  obtain ⟨l, rfl, hn, hm⟩ := h
  refine ⟨l.map fun p => (i :: p.1, p.2), by simp [Function.comp_def], ?_, fun a x => ?_⟩
  · have : (l.map fun p => (i :: p.1, p.2)).map Prod.fst = (l.map Prod.fst).map (i :: ·) := by
      simp [Function.comp_def]
    rw [this]
    exact hn.map fun a b hab => List.tail_eq_of_cons_eq hab
  · simp only [List.mem_map, Prod.exists, Prod.mk.injEq]
    constructor
    · rintro ⟨a', y, hy, rfl, rfl⟩
      exact ⟨a', rfl, (hm _ _).mp hy⟩
    · rintro ⟨a', rfl, hR⟩
      exact ⟨a', x, (hm _ _).mpr hR, rfl, rfl⟩

theorem filter_map (h : Enumerates xs R) (p : α → Bool) (f : α → β) :
    Enumerates ((xs.filter p).map f) (fun a y => ∃ x, R a x ∧ p x = true ∧ y = f x) := by
  obtain ⟨l, rfl, hn, hm⟩ := h
  refine ⟨(l.filter (p ·.2)).map fun q => (q.1, f q.2), ?_, ?_, fun a y => ?_⟩
  · simp [List.filter_map, Function.comp_def]
  · have : ((l.filter (p ·.2)).map fun q => (q.1, f q.2)).map Prod.fst =
        (l.filter (p ·.2)).map Prod.fst := by simp [Function.comp_def]
    rw [this]
    exact hn.sublist (List.filter_sublist.map _)
  · simp only [List.mem_map, List.mem_filter, Prod.exists, Prod.mk.injEq]
    constructor
    · rintro ⟨a', x, ⟨hx, hp⟩, rfl, rfl⟩
      exact ⟨x, (hm _ _).mp hx, hp, rfl⟩
    · rintro ⟨x, hR, hp, rfl⟩
      exact ⟨a, x, ⟨(hm _ _).mpr hR, hp⟩, rfl, rfl⟩

end Enumerates

/-! ### Rows of nodes -/

/-- What `f` gives for the nodes of a row, each taken with the nodes before it, nearest first. -/
def alongRow {α : Type} (f : List Node → Node → List α) : List Node → List Node → List α
  | _, [] => []
  | before, n :: rest => f before n ++ alongRow f (n :: before) rest

/-- **Rows**: if the list of each node holds what its relation places, the list of the row holds what
they all place, below the numbers of the nodes. -/
theorem enumerates_alongRow {α : Type} (f : List Node → Node → List α)
    (R : Nat → Address → α → Prop) : ∀ (cs before : List Node) (k : Nat),
    (∀ i c, cs[i]? = some c → Enumerates (f ((cs.take i).reverse ++ before) c) (R (k + i))) →
      Enumerates (alongRow f before cs)
        (fun a x => ∃ i a', a = (k + i) :: a' ∧ i < cs.length ∧ R (k + i) a' x)
  | [], _, _, _ => Enumerates.nil fun a x => by rintro ⟨i, a', -, hi, -⟩; simp at hi
  | n :: rest, before, k, h => by
    have hn : Enumerates (f before n) (R k) := by simpa using h 0 n rfl
    have hrest : Enumerates (alongRow f (n :: before) rest) (fun a x =>
        ∃ i a', a = (k + 1 + i) :: a' ∧ i < rest.length ∧ R (k + 1 + i) a' x) := by
      refine enumerates_alongRow f R rest (n :: before) (k + 1) fun i c hc => ?_
      have := h (i + 1) c hc
      rw [show k + (i + 1) = k + 1 + i by omega] at this
      simpa using this
    refine ((hn.under k).append hrest ?_).congr fun a x => ?_
    · rintro a x y ⟨a', rfl, -⟩ ⟨i, b', hb, -⟩
      have := List.head_eq_of_cons_eq hb
      omega
    · constructor
      · rintro (⟨a', rfl, hR⟩ | ⟨i, a', rfl, hi, hR⟩)
        · exact ⟨0, a', rfl, by simp, hR⟩
        · refine ⟨i + 1, a', by rw [show k + (i + 1) = k + 1 + i by omega], by simpa using hi, ?_⟩
          rw [show k + (i + 1) = k + 1 + i by omega]
          exact hR
      · rintro ⟨i, a', rfl, hi, hR⟩
        rcases i with _ | i
        · exact Or.inl ⟨a', rfl, hR⟩
        · rw [show k + (i + 1) = k + 1 + i by omega] at hR ⊢
          exact Or.inr ⟨i, a', rfl, by simpa using hi, hR⟩

theorem Node.sizeOf_lt_of_mem_children {n c : Node} (h : c ∈ n.children) : sizeOf c < sizeOf n := by
  cases n with
  | leaf => simp [Node.children] at h
  | branch kind label span cs =>
    have := List.sizeOf_lt_of_mem (show c ∈ cs from h)
    simp only [Node.branch.sizeOf_spec]
    omega

/-- Induction over a tree, from the children of a node and the children of these to the node: the
members of a type are two levels below it. -/
theorem Node.descend {P : Node → Prop} (h : ∀ n : Node, (∀ c ∈ n.children, P c) →
    (∀ b ∈ n.children, ∀ c ∈ b.children, P c) → P n) (n : Node) : P n :=
  h n (fun c _ => Node.descend h c) (fun b _ c _ => Node.descend h c)
termination_by sizeOf n
decreasing_by
  · exact Node.sizeOf_lt_of_mem_children ‹_›
  · exact Nat.lt_trans (Node.sizeOf_lt_of_mem_children ‹c ∈ _›)
      (Node.sizeOf_lt_of_mem_children ‹b ∈ _›)

/-! ### Kinds of declarations -/

namespace Kind

variable {k : Kind}

theorem isField_iff : k.isField = true ↔ k = .fieldDeclaration ∨ k = .constantDeclaration := by
  unfold isField; split <;> simp_all

theorem isConstructor_iff :
    k.isConstructor = true ↔ k = .constructorDeclaration ∨ k = .compactConstructorDeclaration := by
  unfold isConstructor; split <;> simp_all

theorem isInterfaceLike_eq :
    k.isInterfaceLike = (k == .interfaceDeclaration || k == .annotationTypeDeclaration) := by
  unfold isInterfaceLike; split <;> simp_all

end Kind

/-! ### The sites of a member, case by case -/

namespace Site

variable {ctx : Context} {before : List Node} {n : Node}

theorem ofMembers_eq (ctx : Context) : ∀ before cs : List Node,
    ofMembers ctx before cs = alongRow (ofMember ctx) before cs
  | before, [] => by rw [ofMembers, alongRow]
  | before, n :: rest => by rw [ofMembers, alongRow, ofMembers_eq ctx (n :: before) rest]

theorem ofBody_eq (ctx : Context) (b : Node) : ofBody ctx b = ofMembers ctx [] b.children := by
  cases b with
  | leaf => rw [ofBody, Node.children, ofMembers]
  | branch => rw [ofBody, Node.children]

theorem ofBodyPart_eq (ctx : Context) : ∀ cs : List Node, ofBodyPart ctx cs =
    match cs.find? (·.label == some .body) with
    | some b => ofMembers ctx [] b.children
    | none => []
  | [] => by rw [ofBodyPart]; rfl
  | n :: rest => by
    rw [ofBodyPart, List.find?_cons]
    cases h : n.label == some .body with
    | true => rw [if_pos rfl, ofBody_eq]
    | false => rw [if_neg (by simp), ofBodyPart_eq ctx rest]

theorem ofMember_of_isType (h : n.kind.isType = true) :
    ofMember ctx before n = ofType ctx before n :: ofBodyPart (ctx.enter n) n.children := by
  cases n with
  | leaf kind => rw [ofMember, if_pos (by exact h), Node.children, ofBodyPart]
  | branch kind => rw [ofMember, if_pos (by exact h), Node.children]

theorem ofMember_of_enumPart (h : n.kind = .enumBodyDeclarations) :
    ofMember ctx before n = ofMembers { ctx with components := 0 } [] n.children := by
  cases n with
  | leaf kind =>
    cases h
    rw [ofMember, Node.children, ofMembers]
    rfl
  | branch kind =>
    cases h
    rw [ofMember, Node.children]
    rfl

theorem ofMember_of_plain (h : n.kind.isType = false) (h' : n.kind ≠ .enumBodyDeclarations) :
    ofMember ctx before n = ofPlainMember ctx before n := by
  cases n with
  | leaf kind => rw [ofMember, if_neg (by rw [show kind.isType = false from h]; simp)]
  | branch kind =>
    rw [ofMember, if_neg (by rw [show kind.isType = false from h]; simp),
      if_neg (by simpa [Node.kind] using h')]

end Site

/-! ### Sites and members -/

namespace Standing

/-- The sites of a declaration itself: one, or one for each variable of a field. -/
inductive Own : Standing → Address → Site → Prop
  | type {s : Standing} (hk : s.node.kind.isType = true) :
      Own s [] (Site.ofType s.ctx s.before s.node)
  | method {s : Standing} (hk : s.node.kind = .methodDeclaration) :
      Own s [] (Site.ofMethod s.ctx s.before s.node)
  | constructor {s : Standing} (hk : s.node.kind.isConstructor = true) :
      Own s [] (Site.ofConstructor s.ctx s.before s.node)
  | annotationMember {s : Standing} (hk : s.node.kind = .annotationTypeElementDeclaration) :
      Own s [] (Site.ofAnnotationMember s.ctx s.before s.node)
  | enumConstant {s : Standing} (hk : s.node.kind = .enumConstant) :
      Own s [] (Site.ofEnumConstant s.before s.node)
  | field {s : Standing} {j : Nat} {v : Node} (hk : s.node.kind.isField = true)
      (hv : s.node.children[j]? = some v) (hl : v.label = some .declarator) :
      Own s [j] (Site.ofDeclarator s.ctx s.before s.node v)

/-- The sites of a member and of the members that it holds. -/
def Declares (s : Standing) (a : Address) (x : Site) : Prop :=
  ∃ a₁ a₂ m, a = a₁ ++ a₂ ∧ s.Holds a₁ m ∧ m.Own a₂ x

variable {s : Standing}

/-- A declaration other than a field has at most one site. -/
theorem Own.eq {a b : Address} {x y : Site} (hf : s.node.kind.isField = false) (h : s.Own a x)
    (h' : s.Own b y) : b = a ∧ y = x := by
  have hc : s.node.kind.isConstructor = true → s.node.kind = .constructorDeclaration ∨
      s.node.kind = .compactConstructorDeclaration := Kind.isConstructor_iff.mp
  cases h <;> cases h' <;> grind [Kind.isType, Kind.isConstructor]

theorem Own.of_isField {m : Standing} {a : Address} {x : Site} (h : m.Own a x)
    (hf : m.node.kind.isField = true) : ∃ j v, a = [j] ∧ m.node.children[j]? = some v ∧
      v.label = some .declarator ∧ x = Site.ofDeclarator m.ctx m.before m.node v := by
  cases h with
  | field _ hv hl => exact ⟨_, _, rfl, hv, hl, rfl⟩
  | type hk => rcases Kind.isField_iff.mp hf with h | h <;> rw [h] at hk <;> cases hk
  | method hk | annotationMember hk | enumConstant hk => rw [hk] at hf; cases hf
  | constructor hk => rcases Kind.isField_iff.mp hf with h | h <;> rw [h] at hk <;> cases hk

theorem Own.enumerates {x : Site} (hf : s.node.kind.isField = false) (h : s.Own [] x) :
    Enumerates [x] s.Own :=
  (Enumerates.single x).congr fun a y =>
    ⟨fun hy => by rw [hy.1, hy.2]; exact h, fun hy => h.eq hf hy⟩

/-- The variables of a field, each at its number among the children. -/
theorem enumerates_parts {α : Type} (n : Node) (l : Label) (g : Node → α) :
    Enumerates ((n.parts l).map g)
      (fun a x => ∃ j v, n.children[j]? = some v ∧ v.label = some l ∧ a = [j] ∧ x = g v) := by
  have hrow : ∀ before cs : List Node, (cs.filter (·.label == some l)).map g =
      alongRow (fun _ c => if c.label = some l then [g c] else []) before cs := by
    intro before cs
    induction cs generalizing before with
    | nil => rfl
    | cons c rest ih =>
      rw [alongRow, ← ih, List.filter_cons]
      by_cases hc : c.label = some l <;> simp [hc]
  unfold Node.parts
  rw [hrow []]
  refine (enumerates_alongRow _ (fun j a x => ∃ v, n.children[j]? = some v ∧ v.label = some l ∧
    a = [] ∧ x = g v) n.children [] 0 fun i c hc => ?_).congr fun a x => ?_
  · rw [Nat.zero_add]
    by_cases hl : c.label = some l
    · rw [if_pos hl]
      refine (Enumerates.single (g c)).congr fun a x => ?_
      simp [hc, hl]
    · rw [if_neg hl]
      refine Enumerates.nil fun a x => ?_
      simp [hc, hl]
  · constructor
    · rintro ⟨j, a', rfl, -, v, hv, hl, rfl, rfl⟩
      exact ⟨0 + j, v, hv, hl, rfl, rfl⟩
    · rintro ⟨j, v, hv, hl, rfl, rfl⟩
      obtain ⟨hj, -⟩ := List.getElem?_eq_some_iff.mp hv
      exact ⟨j, [], by rw [Nat.zero_add], hj, v, by rw [Nat.zero_add]; exact hv, hl, rfl, rfl⟩

theorem enumerates_ofPlainMember (s : Standing) (hk : s.node.kind.isType = false) :
    Enumerates (Site.ofPlainMember s.ctx s.before s.node) s.Own := by
  unfold Site.ofPlainMember
  split_ifs with h1 h2 h3 h4 h5
  · refine (enumerates_parts s.node .declarator _).congr fun a x => ⟨?_, fun h => ?_⟩
    · rintro ⟨j, v, hv, hl, rfl, rfl⟩
      exact .field h1 hv hl
    · cases h with
      | field _ hv hl => exact ⟨_, _, hv, hl, rfl, rfl⟩
      | type h => rw [hk] at h; cases h
      | method h | annotationMember h | enumConstant h => rw [h] at h1; cases h1
      | constructor h => rcases Kind.isConstructor_iff.mp h with h | h <;> rw [h] at h1 <;> cases h1
  · exact Own.enumerates (by simpa using h1) (.method (by simpa using h2))
  · exact Own.enumerates (by simpa using h1) (.constructor h3)
  · exact Own.enumerates (by simpa using h1) (.annotationMember (by simpa using h4))
  · exact Own.enumerates (by simpa using h1) (.enumConstant (by simpa using h5))
  · refine Enumerates.nil fun a x h => ?_
    cases h <;> simp_all

/-- The sites of a member are its own and those of the members one step below it. -/
theorem declares_iff {a : Address} {x : Site} : s.Declares a x ↔ s.Own a x ∨
    (s.node.kind.isType = true ∧ ∃ j b, s.node.BodyAt j b ∧ ∃ i t a', b.standing? s.inner i = some t ∧
      a = j :: i :: a' ∧ t.Declares a' x) ∨
    (s.ctx.owners ≠ [] ∧ s.node.kind = .enumBodyDeclarations ∧ ∃ i t a',
      s.node.standing? { s.ctx with components := 0 } i = some t ∧ a = i :: a' ∧ t.Declares a' x) := by
  constructor
  · rintro ⟨a₁, a₂, m, rfl, hm, ho⟩
    cases hm with
    | self => exact Or.inl ho
    | inType hk hb ht hm => exact Or.inr (Or.inl ⟨hk, _, _, hb, _, _, _, ht, rfl, _, _, m, rfl, hm, ho⟩)
    | inEnumPart hin hk ht hm => exact Or.inr (Or.inr ⟨hin, hk, _, _, _, ht, rfl, _, _, m, rfl, hm, ho⟩)
  · rintro (ho | ⟨hk, j, b, hb, i, t, a', ht, rfl, a₁, a₂, m, rfl, hm, ho⟩ |
      ⟨hin, hk, i, t, a', ht, rfl, a₁, a₂, m, rfl, hm, ho⟩)
    · exact ⟨[], a, s, rfl, .self s, ho⟩
    · exact ⟨j :: i :: a₁, a₂, m, rfl, .inType hk hb ht hm, ho⟩
    · exact ⟨i :: a₁, a₂, m, rfl, .inEnumPart hin hk ht hm, ho⟩

/-- The list of a row whose nodes stand in one context. -/
theorem enumerates_row {α : Type} (p : Node) (ctx : Site.Context) (f : List Node → Node → List α)
    (R : Standing → Address → α → Prop)
    (h : ∀ i t, p.standing? ctx i = some t → Enumerates (f t.before t.node) (R t)) :
    Enumerates (alongRow f [] p.children)
      (fun a x => ∃ i t a', p.standing? ctx i = some t ∧ a = i :: a' ∧ R t a' x) := by
  refine (enumerates_alongRow f (fun i a x => ∃ t, p.standing? ctx i = some t ∧ R t a x)
    p.children [] 0 fun i c hc => ?_).congr fun a x => ?_
  · have ht : p.standing? ctx (0 + i) = some ⟨ctx, (p.children.take i).reverse, c⟩ := by
      rw [Nat.zero_add, Node.standing?, hc]; rfl
    rw [List.append_nil]
    exact (h _ _ ht).congr fun a x => ⟨fun hR => ⟨_, ht, hR⟩, fun ⟨t, ht', hR⟩ => by
      rw [ht] at ht'; cases ht'; exact hR⟩
  · simp only [Nat.zero_add]
    constructor
    · rintro ⟨i, a', rfl, -, t, ht, hR⟩
      exact ⟨i, t, a', ht, rfl, hR⟩
    · rintro ⟨i, t, a', ht, rfl, hR⟩
      refine ⟨i, a', rfl, ?_, t, ht, hR⟩
      by_contra hi
      rw [Node.standing?, List.getElem?_eq_none (by omega)] at ht
      cases ht

theorem enter_eq_inner (s : Standing) : s.ctx.enter s.node = s.inner := by
  simp only [Site.Context.enter, inner, Kind.isInterfaceLike_eq, beq_iff_eq]

theorem getElem?_of_standing? {p : Node} {ctx : Site.Context} {i : Nat} {t : Standing}
    (h : p.standing? ctx i = some t) : p.children[i]? = some t.node := by
  obtain ⟨c, hc, rfl⟩ := Option.map_eq_some_iff.mp h
  exact hc

theorem standing_mem {p : Node} {ctx : Site.Context} {i : Nat} {t : Standing}
    (h : p.standing? ctx i = some t) : t.node ∈ p.children ∧ t.ctx = ctx := by
  simp only [Node.standing?, Option.map_eq_some_iff] at h
  obtain ⟨c, hc, rfl⟩ := h
  exact ⟨List.mem_of_getElem? hc, rfl⟩

theorem inner_owners_ne_nil (s : Standing) : s.inner.owners ≠ [] := by simp [inner]

/-- The body among the children of a declaration. -/
theorem find?_body_iff {n b : Node} :
    n.children.find? (·.label == some .body) = some b ↔ ∃ j, n.BodyAt j b := by
  rw [List.find?_eq_some_iff_getElem]
  constructor
  · rintro ⟨hl, j, hj, hb, hfirst⟩
    refine ⟨j, ⟨List.getElem?_eq_some_iff.mpr ⟨hj, hb⟩, by simpa using hl, fun i hi c hc => ?_⟩⟩
    obtain ⟨hi', rfl⟩ := List.getElem?_eq_some_iff.mp hc
    simpa using hfirst i hi
  · rintro ⟨j, hc, hl, hfirst⟩
    obtain ⟨hj, hb⟩ := List.getElem?_eq_some_iff.mp hc
    exact ⟨by simp [hl], j, hj, hb, fun i hi => by
      simpa using hfirst i hi _ (List.getElem?_eq_getElem (by omega))⟩

theorem bodyAt_unique {n b b' : Node} {j j' : Nat} (h : n.BodyAt j b) (h' : n.BodyAt j' b') :
    j = j' ∧ b = b' := by
  have hj : j = j' := by
    rcases Nat.lt_trichotomy j j' with hlt | heq | hlt
    · exact absurd h.label (h'.first j hlt b h.child)
    · exact heq
    · exact absurd h'.label (h.first j' hlt b' h'.child)
  subst hj
  exact ⟨rfl, Option.some.inj (h.child.symm.trans h'.child)⟩

/-- The sites of the body of a type. -/
theorem enumerates_body (s : Standing) (ih : ∀ b ∈ s.node.children, ∀ i t,
      b.standing? s.inner i = some t → Enumerates (Site.ofMember t.ctx t.before t.node) t.Declares) :
    Enumerates (Site.ofBodyPart s.inner s.node.children) (fun a x => ∃ j b, s.node.BodyAt j b ∧
      ∃ i t a', b.standing? s.inner i = some t ∧ a = j :: i :: a' ∧ t.Declares a' x) := by
  rw [Site.ofBodyPart_eq]
  cases hf : s.node.children.find? (·.label == some .body) with
  | none =>
    refine Enumerates.nil ?_
    rintro a x ⟨j, b, hb, -⟩
    rw [find?_body_iff.mpr ⟨j, hb⟩] at hf
    cases hf
  | some b =>
    obtain ⟨j, hb⟩ := find?_body_iff.mp hf
    have hrow := enumerates_row b s.inner (Site.ofMember s.inner) Declares fun i t ht => by
      have := ih b (List.mem_of_getElem? hb.child) i t ht
      rwa [(standing_mem ht).2] at this
    show Enumerates (Site.ofMembers s.inner [] b.children) _
    rw [Site.ofMembers_eq]
    refine (hrow.under j).congr fun a x => ?_
    constructor
    · rintro ⟨_, rfl, i, t, a', ht, rfl, hd⟩
      exact ⟨j, b, hb, i, t, a', ht, rfl, hd⟩
    · rintro ⟨j', b', hb', i, t, a', ht, rfl, hd⟩
      obtain ⟨rfl, rfl⟩ := bodyAt_unique hb hb'
      exact ⟨_, rfl, i, t, a', ht, rfl, hd⟩

/-- **The sites of a member** are those that it declares.  The induction goes over the tree; a member is
either inside of some type, or a type itself. -/
theorem enumerates_ofMember (n : Node) : ∀ s : Standing, s.node = n →
    s.ctx.owners ≠ [] ∨ n.kind.isType = true →
      Enumerates (Site.ofMember s.ctx s.before s.node) s.Declares := by
  induction n using Node.descend with
  | h n ihc ihb =>
  rintro s rfl hs
  by_cases ht : s.node.kind.isType = true
  · have hf : s.node.kind.isField = false := by
      cases hk : s.node.kind.isField with
      | false => rfl
      | true => rcases Kind.isField_iff.mp hk with h | h <;> rw [h] at ht <;> cases ht
    rw [Site.ofMember_of_isType ht, enter_eq_inner]
    refine ((Own.enumerates hf (.type ht)).append (enumerates_body s fun b hb i t hst =>
      ihb b hb t.node (standing_mem hst).1 t rfl (Or.inl ?_)) ?_).congr fun a x => ?_
    · rw [(standing_mem hst).2]
      exact inner_owners_ne_nil s
    · rintro a x y ho ⟨j, b, -, i, t, a', -, rfl, -⟩
      cases (Own.eq hf (.type ht) ho).1
    · rw [declares_iff]
      have hne : s.node.kind ≠ .enumBodyDeclarations := fun h => by rw [h] at ht; cases ht
      simp [ht, hne]
  · have hin : s.ctx.owners ≠ [] := hs.resolve_right ht
    by_cases he : s.node.kind = .enumBodyDeclarations
    · rw [Site.ofMember_of_enumPart he, Site.ofMembers_eq]
      refine (enumerates_row s.node { s.ctx with components := 0 } _ Declares fun i t hst => ?_).congr
        fun a x => ?_
      · have := ihc t.node (standing_mem hst).1 t rfl (Or.inl (by rw [(standing_mem hst).2]; exact hin))
        rwa [(standing_mem hst).2] at this
      · have ho : ¬ s.Own a x := fun h => by cases h <;> simp_all [Kind.isConstructor, Kind.isField]
        rw [declares_iff]
        simp [he, hin, ho, Kind.isType]
    · rw [Site.ofMember_of_plain (by simpa using ht) he]
      refine (enumerates_ofPlainMember s (by simpa using ht)).congr fun a x => ?_
      rw [declares_iff]
      simp [ht, he]

end Standing

/-! ### The sites of a file -/

namespace CompilationUnit

/-- The sites of a file: of its members, and of its package if it describes one. -/
def Declares (unit : CompilationUnit) (a : Address) (x : Site) : Prop :=
  (∃ i m, unit.isPackageInfo = true ∧ unit.root.standing? {} i = some m ∧
    m.node.kind = .packageDeclaration ∧ a = [i] ∧ x = Site.ofPackage m.before m.node) ∨
  ∃ a₁ a₂ m, a = a₁ ++ a₂ ∧ unit.Member a₁ m ∧ (m.ctx.owners ≠ [] ∨ m.node.kind.isType = true) ∧
    m.Own a₂ x

/-- Outside of all types, only types hold members other than themselves. -/
theorem isType_of_holds {t m : Standing} {a : Address} (ht : t.ctx.owners = []) (h : t.Holds a m)
    (hm : m.ctx.owners ≠ [] ∨ m.node.kind.isType = true) : t.node.kind.isType = true := by
  cases h with
  | self => exact hm.resolve_left (fun h => h ht)
  | inType hk => exact hk
  | inEnumPart hin => exact absurd ht hin

/-- The members of a type are types or inside of one. -/
theorem owners_of_holds {t m : Standing} {a : Address} (h : t.Holds a m)
    (ht : t.ctx.owners ≠ [] ∨ t.node.kind.isType = true) :
    m.ctx.owners ≠ [] ∨ m.node.kind.isType = true := by
  induction h with
  | self => exact ht
  | @inType s _ _ _ _ _ _ _ _ hst _ ih =>
    exact ih (Or.inl (by rw [(Standing.standing_mem hst).2]; exact s.inner_owners_ne_nil))
  | inEnumPart hin _ hst _ ih => exact ih (Or.inl (by rw [(Standing.standing_mem hst).2]; exact hin))

/-- What a node outside of all types gives rise to. -/
theorem enumerates_topLevel (isPackageInfo : Bool) (t : Standing) (ht : t.ctx = {}) :
    Enumerates (if t.node.kind == .packageDeclaration then
        if isPackageInfo then [Site.ofPackage t.before t.node] else []
      else if t.node.kind.isType then Site.ofMember {} t.before t.node else [])
      (fun a x => (isPackageInfo = true ∧ t.node.kind = .packageDeclaration ∧ a = [] ∧
        x = Site.ofPackage t.before t.node) ∨ (t.node.kind.isType = true ∧ t.Declares a x)) := by
  by_cases hp : t.node.kind = .packageDeclaration
  · rw [if_pos (by simpa using hp)]
    split_ifs with hi
    · exact (Enumerates.single _).congr fun a x => by simp [hp, hi, Kind.isType]
    · exact Enumerates.nil fun a x => by simp [hp, hi, Kind.isType]
  · rw [if_neg (by simpa using hp)]
    split_ifs with hk
    · rw [← ht]
      exact (Standing.enumerates_ofMember t.node t rfl (Or.inr hk)).congr fun a x => by simp [hp, hk]
    · exact Enumerates.nil fun a x => by simp [hp, hk]

theorem sites_eq (unit : CompilationUnit) : unit.sites = alongRow (fun before n =>
    if n.kind == .packageDeclaration then
      if unit.isPackageInfo then [Site.ofPackage before n] else []
    else if n.kind.isType then Site.ofMember {} before n else []) [] unit.root.children := by
  have h : ∀ (b : Bool) (before cs : List Node), Site.ofTopLevel b before cs =
      alongRow (fun before n => if n.kind == .packageDeclaration then
        if b then [Site.ofPackage before n] else []
      else if n.kind.isType then Site.ofMember {} before n else []) before cs := by
    intro b before cs
    induction cs generalizing before with
    | nil => rfl
    | cons n rest ih => rw [Site.ofTopLevel, alongRow, ih]
  exact h _ _ _

/-- **The sites of a file** are those of its members and of its package. -/
theorem enumerates_sites (unit : CompilationUnit) : Enumerates unit.sites unit.Declares := by
  rw [sites_eq]
  refine (Standing.enumerates_row unit.root {} _ _ fun i t ht =>
    enumerates_topLevel unit.isPackageInfo t (Standing.standing_mem ht).2).congr fun a x => ?_
  constructor
  · rintro ⟨i, t, a', ht, rfl, ⟨hi, hk, rfl, rfl⟩ | ⟨hk, a₁, a₂, m, rfl, hm, ho⟩⟩
    · exact Or.inl ⟨i, t, hi, ht, hk, rfl, rfl⟩
    · exact Or.inr ⟨i :: a₁, a₂, m, rfl, ⟨i, t, a₁, rfl, ht, hm⟩, owners_of_holds hm (Or.inr hk), ho⟩
  · rintro (⟨i, t, hi, ht, hk, rfl, rfl⟩ | ⟨a₁, a₂, m, rfl, ⟨i, t, a', rfl, ht, hm⟩, hin, ho⟩)
    · exact ⟨i, t, [], ht, rfl, Or.inl ⟨hi, hk, rfl, rfl⟩⟩
    · have hk := isType_of_holds (by rw [(Standing.standing_mem ht).2]) hm hin
      exact ⟨i, t, a' ++ a₂, ht, rfl, Or.inr ⟨hk, a', a₂, m, rfl, hm, ho⟩⟩

end CompilationUnit

/-! ### Sites that lack documentation -/

namespace Standing

theorem visibility_eq (m : Standing) : m.visibility = Site.visibilityIn m.ctx m.node := by
  unfold visibility Site.visibilityIn
  cases m.node.declaredVisibility? with
  | none => rfl
  | some v => rfl

theorem parameters_eq (m : Standing) : m.parameters = Site.constructorParameters m.ctx m.node := by
  simp only [parameters, Site.constructorParameters, beq_iff_eq]

end Standing

theorem Audit.isFinding_iff {settings : Settings} {x : Site} : Audit.isFinding settings x = true ↔
    (¬ (x.construct.kind = .method ∧ x.construct.overrides = true) ∧
      Required settings x.construct.kind x.construct.visibility x.construct.name ∧
      Policy.siteExemption? settings x = none) ∧ x.documented = false := by
  rw [← Policy.ruling?_eq_none_iff, Audit.isFinding, Bool.and_eq_true, Option.isNone_iff_eq_none]
  simp

/-- What has to be reported is found on a visit. -/
theorem Lacks.isFinding {settings : Settings} {unit : CompilationUnit} {a : Address} {f : Finding}
    (h : Lacks settings unit a f) :
    ∃ x, unit.Declares a x ∧ Audit.isFinding settings x = true ∧ f = Audit.finding unit.path x := by
  cases h with
  | package hinfo hm hk hreq hdoc =>
    refine ⟨_, Or.inl ⟨_, _, hinfo, hm, hk, rfl, rfl⟩,
      Audit.isFinding_iff.mpr ⟨⟨?_, hreq, rfl⟩, hdoc⟩, rfl⟩
    simp [Site.ofPackage]
  | @type a m hm hk hreq hdoc =>
    rw [Standing.visibility_eq] at hreq
    refine ⟨_, Or.inr ⟨a, [], m, by simp, hm, Or.inr hk, .type hk⟩,
      Audit.isFinding_iff.mpr ⟨⟨?_, hreq, rfl⟩, hdoc⟩, rfl⟩
    simp [Site.ofType]
  | @method a m hm hin hk hover hreq hplain hdoc =>
    rw [Standing.visibility_eq] at hreq
    refine ⟨_, Or.inr ⟨a, [], m, by simp, hm, Or.inl hin, .method hk⟩,
      Audit.isFinding_iff.mpr ⟨⟨?_, hreq, ?_⟩, hdoc⟩, rfl⟩
    · simp [Site.ofMethod, hover]
    · simpa [Policy.siteExemption?, Site.ofMethod] using hplain
  | @constructor a m owner hm hin hk hreq hargs hdoc =>
    rw [Standing.visibility_eq] at hreq
    rw [Standing.parameters_eq] at hargs
    have hname : Site.constructorName m.ctx m.node = owner := by simp [Site.constructorName, hin]
    subst hname
    refine ⟨_, Or.inr ⟨a, [], m, by simp, hm, Or.inl (by rintro h; simp [h] at hin), .constructor hk⟩,
      Audit.isFinding_iff.mpr ⟨⟨?_, hreq, ?_⟩, hdoc⟩, rfl⟩
    · simp [Site.ofConstructor]
    · simpa [Policy.siteExemption?, Site.ofConstructor] using hargs
  | @annotationMember a m hm hin hk hreq hdoc =>
    rw [Standing.visibility_eq] at hreq
    refine ⟨_, Or.inr ⟨a, [], m, by simp, hm, Or.inl hin, .annotationMember hk⟩,
      Audit.isFinding_iff.mpr ⟨⟨?_, hreq, rfl⟩, hdoc⟩, rfl⟩
    simp [Site.ofAnnotationMember]
  | @enumConstant a m hm hin hk hreq hdoc =>
    refine ⟨_, Or.inr ⟨a, [], m, by simp, hm, Or.inl hin, .enumConstant hk⟩,
      Audit.isFinding_iff.mpr ⟨⟨?_, hreq, rfl⟩, hdoc⟩, rfl⟩
    simp [Site.ofEnumConstant]
  | @field a m j v hm hin hk hv hl hreq hserial hdoc =>
    rw [Standing.visibility_eq] at hreq
    refine ⟨_, Or.inr ⟨a, [j], m, rfl, hm, Or.inl hin, .field hk hv hl⟩,
      Audit.isFinding_iff.mpr ⟨⟨?_, hreq, ?_⟩, hdoc⟩, rfl⟩
    · simp [Site.ofDeclarator]
    · simp [Policy.siteExemption?, Site.ofDeclarator, hserial]

/-- What is found on a visit has to be reported. -/
theorem lacks_of_isFinding {settings : Settings} {unit : CompilationUnit} {a : Address} {x : Site}
    (hx : unit.Declares a x) (hf : Audit.isFinding settings x = true) :
    Lacks settings unit a (Audit.finding unit.path x) := by
  obtain ⟨⟨hover, hreq, hsite⟩, hdoc⟩ := Audit.isFinding_iff.mp hf
  rcases hx with ⟨i, m, hinfo, hm, hk, rfl, rfl⟩ | ⟨a₁, a₂, m, rfl, hm, hin, ho⟩
  · exact .package hinfo hm hk hreq hdoc
  · have hown : m.node.kind.isType = false → m.ctx.owners ≠ [] := fun h =>
      hin.resolve_right (by rw [h]; simp)
    cases ho with
    | type hk =>
      rw [List.append_nil]
      exact .type hm hk (by rw [Standing.visibility_eq]; exact hreq) hdoc
    | method hk =>
      rw [List.append_nil]
      refine .method hm (hown (by rw [hk]; rfl)) hk ?_
        (by rw [Standing.visibility_eq]; exact hreq) ?_ hdoc
      · simpa [Site.ofMethod] using hover
      · simpa [Policy.siteExemption?, Site.ofMethod] using hsite
    | constructor hk =>
      have hne : m.ctx.owners ≠ [] := hown (by
        rcases Kind.isConstructor_iff.mp hk with h | h <;> rw [h] <;> rfl)
      have hlast := List.getLast?_eq_getLast_of_ne_nil hne
      have hname : Site.constructorName m.ctx m.node = m.ctx.owners.getLast hne := by
        simp [Site.constructorName, hlast]
      rw [List.append_nil, Audit.finding, Site.ofConstructor, hname]
      refine .constructor hm hlast hk ?_ (fun hon hargs => ?_) hdoc
      · rw [Standing.visibility_eq, ← hname]
        exact hreq
      · rw [Standing.parameters_eq] at hargs
        simp [Policy.siteExemption?, Site.ofConstructor, hon, hargs] at hsite
    | annotationMember hk =>
      rw [List.append_nil]
      exact .annotationMember hm (hown (by rw [hk]; rfl)) hk
        (by rw [Standing.visibility_eq]; exact hreq) hdoc
    | enumConstant hk =>
      rw [List.append_nil]
      exact .enumConstant hm (hown (by rw [hk]; rfl)) hk hreq hdoc
    | field hk hv hl =>
      refine .field hm (hown ?_) hk hv hl (by rw [Standing.visibility_eq]; exact hreq) ?_ hdoc
      · rcases Kind.isField_iff.mp hk with h | h <;> rw [h] <;> rfl
      · rw [Bool.eq_false_iff]
        intro hserial
        simp [Policy.siteExemption?, Site.ofDeclarator, hserial] at hsite

/-- **What has to be reported is what the visits report.** -/
theorem lacks_iff {settings : Settings} {unit : CompilationUnit} {a : Address} {f : Finding} :
    Lacks settings unit a f ↔
      ∃ x, unit.Declares a x ∧ Audit.isFinding settings x = true ∧ f = Audit.finding unit.path x := by
  constructor
  · exact Lacks.isFinding
  · rintro ⟨x, hx, hf, rfl⟩
    exact lacks_of_isFinding hx hf

/-- **The findings of a file, as a multiset, are one for each construct that lacks documentation.**
The findings are those of a list of constructs, in another order: it has exactly the addresses of the
constructs that have to be reported, each once. -/
theorem findings_perm_lacking (settings : Settings) (unit : CompilationUnit) :
    ∃ l : List (Address × Finding), (Audit.findings settings unit).Perm (l.map Prod.snd) ∧
      (l.map Prod.fst).Nodup ∧ ∀ a f, (a, f) ∈ l ↔ Lacks settings unit a f := by
  obtain ⟨l, hl, hn, hm⟩ := unit.enumerates_sites.filter_map (Audit.isFinding settings)
    (Audit.finding unit.path)
  refine ⟨l, ?_, hn, fun a f => (hm a f).trans lacks_iff.symm⟩
  rw [hl]
  exact List.mergeSort_perm _ _

end JavadocAudit
