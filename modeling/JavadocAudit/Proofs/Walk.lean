import JavadocAudit.Proofs.Coverage
import JavadocAudit.Proofs.Revision

/-!
# One walk over both editions of a tree

The sites of the old and of the new edition of a tree are read off one walk over the revision.  The walk
stops at each node that stays (`Revision.stops`).  What a node is to the audit is its *role*: a member, a
body, a variable of a field, or nothing of interest.  It follows from the role of the node around it and
from its label, and it is the same in both editions.  A stop has at most one site (`Stop.site?`), and the
sites of an edition are those of the stops, in the order of the walk (`sites_eq_filterMap_stops`).

The two sites of a stop differ only in where they are and in whether they are documented
(`site?_eq_map`).
-/

namespace JavadocAudit

/-! ### Editions -/

/-- The two trees of a revision. -/
inductive Edition where
  | old
  | new

/-- One of two things, by the edition. -/
def Edition.pick {α : Type} (x y : α) : Edition → α
  | .old => x
  | .new => y

namespace Revision

/-- The node in an edition. -/
def tree (r : Revision) (e : Edition) : Node := e.pick r.old r.new

@[simp] theorem tree_old (r : Revision) : r.tree .old = r.old := rfl

@[simp] theorem tree_new (r : Revision) : r.tree .new = r.new := rfl

@[simp] theorem kind_tree (r : Revision) (e : Edition) : (r.tree e).kind = r.kind := by
  cases e <;> simp

@[simp] theorem label_tree (r : Revision) (e : Edition) : (r.tree e).label = r.label := by
  cases e <;> simp

@[simp] theorem children_tree (r : Revision) (e : Edition) :
    (r.tree e).children = e.pick r.row.old r.row.new := by
  cases e <;> simp [Edition.pick]

theorem Sound.enter_tree {r : Revision} (h : r.Sound) (hk : r.kind.isType = true) (ctx : Site.Context)
    (e : Edition) : ctx.enter (r.tree e) = ctx.enter r.old := by
  cases e with
  | old => rfl
  | new =>
    simp only [Site.Context.enter, tree_new, kind_new, kind_old, length_parameterList_new h,
      declaredName_new h (Or.inl (by simp [Kind.hasReadName, hk]))]

end Revision

/-! ### The walk -/

/-- A node that stays, in its row. -/
structure Place where
  /-- Where the node was. -/
  address : Address
  /-- The comments that were put right before the node, nearest first. -/
  fresh : List Node
  /-- The siblings that were before the node, nearest first. -/
  olds : List Node
  /-- The siblings that are before the node, nearest first. -/
  news : List Node
  node : Revision

/-- The siblings before a node in an edition. -/
def Place.before (p : Place) (e : Edition) : List Node := e.pick p.olds p.news

/-- What a node is to the audit. -/
inductive Role where
  | other
  | member (ctx : Site.Context)
  | body (ctx : Site.Context)
  | declarator (ctx : Site.Context) (field : Place)

/-- What the audit looks for among the children of a node. -/
inductive Look where
  | nothing
  | members (ctx : Site.Context)
  | bodyOf (ctx : Site.Context)
  | declarators (ctx : Site.Context) (field : Place)

/-- The role of a node with a given label. -/
def Look.role (label : Option Label) : Look → Role
  | .nothing => .other
  | .members ctx => .member ctx
  | .bodyOf ctx => if label = some .body then .body ctx else .other
  | .declarators ctx field => if label = some .declarator then .declarator ctx field else .other

/-- What is looked for after a node with a given label: a type has one body. -/
def Look.after (label : Option Label) : Look → Look
  | .bodyOf ctx => if label = some .body then .nothing else .bodyOf ctx
  | look => look

/-- What is looked for in a node with a given role. -/
def Role.inside (p : Place) : Role → Look
  | .member ctx =>
    if p.node.kind.isType then .bodyOf (ctx.enter p.node.old)
    else if ctx.owners = [] then .nothing
    else if p.node.kind = .enumBodyDeclarations then .members { ctx with components := 0 }
    else if p.node.kind.isField then .declarators ctx p
    else .nothing
  | .body ctx => .members ctx
  | _ => .nothing

/-- A stop of the walk: a node in its row, and its role. -/
structure Stop extends Place where
  role : Role

mutual

/-- The stops at a node and below it. -/
def Revision.stopsAs (role : Role) (a : Address) (fresh olds news : List Node) :
    Revision → List Stop
  | r@(.leaf ..) => [⟨⟨a, fresh, olds, news, r⟩, role⟩]
  | r@(.branch _ _ _ _ row) =>
    ⟨⟨a, fresh, olds, news, r⟩, role⟩ ::
      row.stopsFor (role.inside ⟨a, fresh, olds, news, r⟩) a 0 [] [] []

/-- The stops along the children of the node at `a`, from the number `i` on. -/
def RevisedRow.stopsFor (look : Look) (a : Address) (i : Nat) (fresh olds news : List Node) :
    RevisedRow → List Stop
  | .nil => []
  | .kept child rest =>
    child.stopsAs (look.role child.label) (a ++ [i]) fresh olds news ++
      rest.stopsFor (look.after child.label) a (i + 1) [] (child.old :: olds) (child.new :: news)
  | .added comment rest => rest.stopsFor look a i (comment :: fresh) olds (comment :: news)

end

/-- The stops of the walk over a file. -/
def Revision.stops (r : Revision) : List Stop := r.stopsAs (.body {}) [] [] [] []

theorem Revision.stopsAs_eq (role : Role) (a : Address) (fresh olds news : List Node) (r : Revision) :
    r.stopsAs role a fresh olds news = ⟨⟨a, fresh, olds, news, r⟩, role⟩ ::
      r.row.stopsFor (role.inside ⟨a, fresh, olds, news, r⟩) a 0 [] [] [] := by
  cases r with
  | leaf => rw [stopsAs, row, RevisedRow.stopsFor]
  | branch => rw [stopsAs, row]

/-- **Induction over a revision**, from the children of a node to the node and from the end of a row to
its start. -/
theorem Revision.walk_induction {P : Revision → Prop} {Q : RevisedRow → Prop}
    (node : ∀ r : Revision, Q r.row → P r) (nil : Q .nil)
    (kept : ∀ child rest, P child → Q rest → Q (.kept child rest))
    (added : ∀ comment rest, Q rest → Q (.added comment rest)) (r : Revision) : P r :=
  @Revision.rec P Q (fun _ _ _ _ _ _ _ => node _ nil) (fun _ _ _ _ _ h => node _ h) nil kept added r

/-! ### Sites along the walk -/

/-- The site of a member itself; a field has none, since its variables have theirs. -/
def Standing.site? (isPackageInfo : Bool) (s : Standing) : Option Site :=
  if s.node.kind.isType then some (Site.ofType s.ctx s.before s.node)
  else if s.ctx.owners = [] then
    if isPackageInfo && s.node.kind == .packageDeclaration then some (Site.ofPackage s.before s.node)
    else none
  else if s.node.kind.isField then none
  else (Site.ofPlainMember s.ctx s.before s.node).head?

/-- The site of a stop in an edition. -/
def Stop.site? (isPackageInfo : Bool) (e : Edition) (s : Stop) : Option Site :=
  match s.role with
  | .member ctx => Standing.site? isPackageInfo ⟨ctx, s.before e, s.node.tree e⟩
  | .declarator ctx field =>
    some (Site.ofDeclarator ctx (field.before e) (field.node.tree e) (s.node.tree e))
  | _ => none

section Sites

variable (isPackageInfo : Bool) (e : Edition)

/-- The sites of a node among members, and of the members in it. -/
def memberSites (ctx : Site.Context) (before : List Node) (n : Node) : List Site :=
  if ctx.owners = [] then
    if n.kind == .packageDeclaration then if isPackageInfo then [Site.ofPackage before n] else []
    else if n.kind.isType then Site.ofMember ctx before n else []
  else Site.ofMember ctx before n

/-- The sites of a node with a role, and of all that is in it. -/
def Role.sites (before : List Node) (n : Node) : Role → List Site
  | .other => []
  | .member ctx => memberSites isPackageInfo ctx before n
  | .body ctx => alongRow (memberSites isPackageInfo ctx) [] n.children
  | .declarator ctx field => [Site.ofDeclarator ctx (field.before e) (field.node.tree e) n]

/-- The sites among nodes in a row, and of all that is in them. -/
def Look.sites (before ns : List Node) : Look → List Site
  | .nothing => []
  | .members ctx => alongRow (memberSites isPackageInfo ctx) before ns
  | .bodyOf ctx =>
    match ns.find? (·.label == some .body) with
    | some b => alongRow (memberSites isPackageInfo ctx) [] b.children
    | none => []
  | .declarators ctx field => (ns.filter (·.label == some .declarator)).map
      (Site.ofDeclarator ctx (field.before e) (field.node.tree e))

variable {isPackageInfo e}

theorem memberSites_of_owners {ctx : Site.Context} (h : ctx.owners ≠ []) :
    memberSites isPackageInfo ctx = Site.ofMember ctx := by
  funext before n
  rw [memberSites, if_neg h]

theorem memberSites_of_isType {ctx : Site.Context} {before : List Node} {n : Node}
    (h : n.kind.isType = true) :
    memberSites isPackageInfo ctx before n = Site.ofMember ctx before n := by
  have hne : (n.kind == .packageDeclaration) = false := by
    cases hk : n.kind <;> simp_all [Kind.isType]
  simp [memberSites, h, hne]

/-- The sites of a plain member other than a field are at most one. -/
theorem toList_head?_ofPlainMember {ctx : Site.Context} {before : List Node} {n : Node}
    (h : n.kind.isField = false) :
    (Site.ofPlainMember ctx before n).head?.toList = Site.ofPlainMember ctx before n := by
  unfold Site.ofPlainMember
  rw [h]
  simp only [Bool.false_eq_true, ↓reduceIte]
  split_ifs <;> rfl

/-- **One step down**: the sites of a node are its own and those that are looked for in it. -/
theorem Stop.sites_inside (isPackageInfo : Bool) (e : Edition) (s : Stop) (h : s.node.Sound) :
    (s.site? isPackageInfo e).toList ++ (s.role.inside s.toPlace).sites isPackageInfo e []
      (s.node.tree e).children = s.role.sites isPackageInfo e (s.before e) (s.node.tree e) := by
  obtain ⟨p, role⟩ := s
  cases role with
  | other | body | declarator => simp [Stop.site?, Role.inside, Look.sites, Role.sites]
  | member ctx =>
    simp only [Stop.site?, Standing.site?, Role.inside, Role.sites, Revision.kind_tree]
    by_cases htype : p.node.kind.isType = true
    · have hin : (ctx.enter (p.node.tree e)).owners ≠ [] := by simp [Site.Context.enter]
      rw [memberSites_of_isType (by simpa using htype), Site.ofMember_of_isType (by simpa using htype),
        Site.ofBodyPart_eq, if_pos htype, if_pos htype, ← h.enter_tree htype ctx e, Look.sites]
      cases (p.node.tree e).children.find? (·.label == some .body) with
      | none => rfl
      | some b =>
        show _ :: alongRow (memberSites isPackageInfo _) [] b.children = _ :: Site.ofMembers _ [] b.children
        rw [memberSites_of_owners hin, Site.ofMembers_eq]
    · rw [if_neg htype, if_neg htype]
      by_cases hout : ctx.owners = []
      · rw [if_pos hout, if_pos hout, memberSites, if_pos hout]
        simp only [Revision.kind_tree, htype, Look.sites, List.append_nil]
        cases isPackageInfo <;> cases p.node.kind == .packageDeclaration <;> simp
      · rw [if_neg hout, if_neg hout, memberSites_of_owners hout]
        by_cases henum : p.node.kind = .enumBodyDeclarations
        · have hplain : Site.ofPlainMember ctx (p.before e) (p.node.tree e) = [] := by
            simp [Site.ofPlainMember, henum, Kind.isField, Kind.isConstructor]
          rw [if_pos henum, Site.ofMember_of_enumPart (by simpa using henum), Site.ofMembers_eq, hplain]
          simp only [Look.sites,
            memberSites_of_owners (show { ctx with components := 0 }.owners ≠ [] from hout)]
          simp
        · rw [if_neg henum, Site.ofMember_of_plain (by simpa using htype) (by simpa using henum)]
          by_cases hfield : p.node.kind.isField = true
          · rw [if_pos hfield, if_pos hfield, Site.ofPlainMember, if_pos (by simpa using hfield)]
            rfl
          · rw [if_neg hfield, if_neg hfield, Look.sites, List.append_nil]
            exact toList_head?_ofPlainMember (by simpa using hfield)

/-- **One step along a row.** -/
theorem Look.sites_cons (look : Look) (before : List Node) (n : Node) (ns : List Node) :
    (look.role n.label).sites isPackageInfo e before n ++
      (look.after n.label).sites isPackageInfo e (n :: before) ns =
        look.sites isPackageInfo e before (n :: ns) := by
  cases look with
  | nothing => rfl
  | members ctx => rfl
  | bodyOf ctx => by_cases hl : n.label = some .body <;> simp [role, after, sites, Role.sites, hl]
  | declarators ctx field =>
    by_cases hl : n.label = some .declarator <;> simp [role, after, sites, Role.sites, hl]

/-- **A comment in a row** has no sites. -/
theorem Look.sites_comment (look : Look) (before : List Node) {n : Node} (ns : List Node)
    (hc : n.isComment = true) (hl : n.label = none) :
    look.sites isPackageInfo e (n :: before) ns = look.sites isPackageInfo e before (n :: ns) := by
  have hnone : ∀ ctx, memberSites isPackageInfo ctx before n = [] := by
    intro ctx
    have hkind : n.kind = .lineComment ∨ n.kind = .blockComment := by
      cases hk : n.kind <;> simp_all [Node.isComment, Kind.isComment]
    have hplain : Site.ofMember ctx before n = [] := by
      rw [Site.ofMember_of_plain] <;> rcases hkind with hk | hk <;>
        simp [Site.ofPlainMember, hk, Kind.isType, Kind.isField, Kind.isConstructor]
    rcases hkind with hk | hk <;> simp [memberSites, hplain, hk]
  cases look with
  | nothing => rfl
  | members ctx => rw [sites, sites, alongRow, hnone, List.nil_append]
  | bodyOf ctx => simp [sites, hl]
  | declarators ctx field => simp [sites, hl]

/-- **The sites of a node**, and of all that is in it, are those of its stops. -/
theorem Revision.filterMap_stopsAs (r : Revision) : ∀ (role : Role) (a : Address)
    (fresh olds news : List Node), r.Sound →
    (r.stopsAs role a fresh olds news).filterMap (·.site? isPackageInfo e) =
      role.sites isPackageInfo e (e.pick olds news) (r.tree e) := by
  induction r using Revision.walk_induction (Q := fun row => ∀ (kind : Kind) (label : Option Label)
      (look : Look) (a : Address) (i : Nat) (fresh olds news : List Node), row.Sound kind label →
      (row.stopsFor look a i fresh olds news).filterMap (·.site? isPackageInfo e) =
        look.sites isPackageInfo e (e.pick olds news) (e.pick row.old row.new)) with
  | node r ih =>
    intro role a fresh olds news h
    have hstep := Stop.sites_inside isPackageInfo e ⟨⟨a, fresh, olds, news, r⟩, role⟩ h
    rw [Revision.children_tree, ← show e.pick ([] : List Node) [] = [] by cases e <;> rfl,
      ← ih r.kind r.label _ a 0 [] [] [] h.row] at hstep
    rw [r.stopsAs_eq, List.filterMap_eq_flatMap_toList, List.flatMap_cons,
      ← List.filterMap_eq_flatMap_toList]
    exact hstep
  | nil kind label look a i fresh olds news h => cases look <;> cases e <;> rfl
  | kept child rest ihc ihr kind label look a i fresh olds news h =>
    rw [RevisedRow.stopsFor, List.filterMap_append, ihc _ _ _ _ _ h.1,
      ihr kind label _ _ _ _ _ _ h.2.2]
    cases e with
    | old => simpa [Edition.pick, RevisedRow.old] using look.sites_cons olds child.old rest.old
    | new => simpa [Edition.pick, RevisedRow.new] using look.sites_cons news child.new rest.new
  | added comment rest ih kind label look a i fresh olds news h =>
    rw [RevisedRow.stopsFor, ih kind label _ _ _ _ _ _ h.2.2]
    cases e with
    | old => rfl
    | new => exact look.sites_comment news rest.new h.1 h.2.1

end Sites

/-- The file of an edition. -/
def Revision.unit (r : Revision) (path : String) (e : Edition) : CompilationUnit := ⟨path, r.tree e⟩

/-- **The sites of a file** in an edition are those of the stops of the walk. -/
theorem Revision.sites_eq_filterMap_stops {r : Revision} (h : r.Sound) (path : String) (e : Edition) :
    (r.unit path e).sites = r.stops.filterMap (·.site? (r.unit path .old).isPackageInfo e) := by
  rw [Revision.stops, Revision.filterMap_stopsAs r _ _ _ _ _ h, CompilationUnit.sites_eq]
  rfl

/-! ### The node around a node -/

/-- The stop `t` is at a child of the node of `s`. -/
structure Stop.Around (s t : Stop) : Prop where
  address : ∃ j, t.address = s.address ++ [j]
  role : t.role = .other ∨ t.role = (s.role.inside s.toPlace).role t.node.label

theorem Look.role_after (look : Look) (l l' : Option Label) :
    (look.after l).role l' = .other ∨ (look.after l).role l' = look.role l' := by
  cases look with
  | bodyOf ctx =>
    simp only [after]
    split_ifs with hl
    · exact Or.inl rfl
    · exact Or.inr rfl
  | _ => exact Or.inr rfl

/-- The walk stops around each node but the first. -/
theorem Revision.exists_around (r : Revision) : ∀ (role : Role) (a : Address)
    (fresh olds news : List Node), ∀ t ∈ r.stopsAs role a fresh olds news,
    t = ⟨⟨a, fresh, olds, news, r⟩, role⟩ ∨ ∃ s ∈ r.stopsAs role a fresh olds news, s.Around t := by
  induction r using Revision.walk_induction (Q := fun row => ∀ (look : Look) (a : Address) (i : Nat)
      (fresh olds news : List Node), ∀ t ∈ row.stopsFor look a i fresh olds news,
      ((∃ j, t.address = a ++ [j]) ∧ (t.role = .other ∨ t.role = look.role t.node.label)) ∨
        ∃ s ∈ row.stopsFor look a i fresh olds news, s.Around t) with
  | node r ih =>
    intro role a fresh olds news t ht
    rw [r.stopsAs_eq] at ht ⊢
    rcases List.mem_cons.mp ht with rfl | ht
    · exact Or.inl rfl
    · right
      rcases ih _ _ _ _ _ _ t ht with ⟨haddress, hrole⟩ | ⟨s, hs, haround⟩
      · exact ⟨_, List.mem_cons_self, haddress, hrole⟩
      · exact ⟨s, List.mem_cons_of_mem _ hs, haround⟩
  | nil look a i fresh olds news t ht => simp [RevisedRow.stopsFor] at ht
  | kept child rest ihc ihr look a i fresh olds news t ht =>
    rw [RevisedRow.stopsFor] at ht ⊢
    rcases List.mem_append.mp ht with ht | ht
    · rcases ihc _ _ _ _ _ t ht with rfl | ⟨s, hs, haround⟩
      · exact Or.inl ⟨⟨i, rfl⟩, Or.inr rfl⟩
      · exact Or.inr ⟨s, List.mem_append_left _ hs, haround⟩
    · rcases ihr _ _ _ _ _ _ t ht with ⟨haddress, hrole⟩ | ⟨s, hs, haround⟩
      · refine Or.inl ⟨haddress, hrole.elim Or.inl fun hrole => ?_⟩
        rw [hrole]
        exact look.role_after _ _
      · exact Or.inr ⟨s, List.mem_append_right _ hs, haround⟩
  | added comment rest ih look a i fresh olds news t ht => exact ih look a i _ _ _ t ht

theorem Revision.sound_stopsAs (r : Revision) : ∀ (role : Role) (a : Address)
    (fresh olds news : List Node), r.Sound → ∀ s ∈ r.stopsAs role a fresh olds news, s.node.Sound := by
  induction r using Revision.walk_induction (Q := fun row => ∀ (kind : Kind) (label : Option Label)
      (look : Look) (a : Address) (i : Nat) (fresh olds news : List Node), row.Sound kind label →
      ∀ s ∈ row.stopsFor look a i fresh olds news, s.node.Sound) with
  | node r ih =>
    intro role a fresh olds news h s hs
    rw [r.stopsAs_eq] at hs
    rcases List.mem_cons.mp hs with rfl | hs
    · exact h
    · exact ih _ _ _ _ _ _ _ _ h.row s hs
  | nil kind label look a i fresh olds news h s hs => simp [RevisedRow.stopsFor] at hs
  | kept child rest ihc ihr kind label look a i fresh olds news h s hs =>
    rcases List.mem_append.mp hs with hs | hs
    · exact ihc _ _ _ _ _ h.1 s hs
    · exact ihr kind label _ _ _ _ _ _ h.2.2 s hs
  | added comment rest ih kind label look a i fresh olds news h s hs =>
    exact ih kind label look a i _ _ _ h.2.2 s hs

/-- A variable stands in a field. -/
structure Stop.VariableOf (s : Stop) (field : Place) : Prop where
  label : s.node.label = some .declarator
  address : ∃ j, s.address = field.address ++ [j]
  kind : field.node.kind.isField = true

theorem Role.inside_eq_declarators {role : Role} {p field : Place} {ctx : Site.Context}
    (h : role.inside p = .declarators ctx field) :
    role = .member ctx ∧ field = p ∧ p.node.kind.isField = true := by
  cases role with
  | other | body | declarator => cases h
  | member ctx' =>
    simp only [inside] at h
    split_ifs at h with htype hout henum hfield
    injection h with hctx hp
    exact ⟨by rw [hctx], hp.symm, hfield⟩

/-- The field of a variable is a member at which the walk stops. -/
theorem Revision.field_of_declarator {r : Revision} {t : Stop} (ht : t ∈ r.stops) {ctx : Site.Context}
    {field : Place} (hrole : t.role = .declarator ctx field) :
    t.VariableOf field ∧ ⟨field, .member ctx⟩ ∈ r.stops := by
  rcases r.exists_around _ _ _ _ _ t ht with rfl | ⟨s, hs, ⟨haddress, hother⟩⟩
  · cases hrole
  · rw [hrole] at hother
    have hlook := hother.resolve_left (by simp)
    cases hinside : s.role.inside s.toPlace with
    | nothing | members => rw [hinside] at hlook; cases hlook
    | bodyOf ctx' =>
      rw [hinside, Look.role] at hlook
      split_ifs at hlook
    | declarators ctx' field' =>
      obtain ⟨hmember, hplace, hkind⟩ := Role.inside_eq_declarators hinside
      rw [hinside, Look.role] at hlook
      split_ifs at hlook with hl
      injection hlook with hctx hfield
      subst hctx hfield hplace
      refine ⟨⟨hl, haddress, hkind⟩, ?_⟩
      rw [← hmember]
      exact hs

/-! ### The two sites of a stop -/

/-- The declaration that a stop belongs to: for a variable, its field. -/
def Stop.declaration (s : Stop) : Place :=
  match s.role with
  | .declarator _ field => field
  | _ => s.toPlace

theorem Revision.exists_stop_declaration {r : Revision} {s : Stop} (hs : s ∈ r.stops) :
    ∃ d ∈ r.stops, d.toPlace = s.declaration := by
  cases hrole : s.role with
  | declarator ctx field =>
    exact ⟨_, (field_of_declarator hs hrole).2, by rw [Stop.declaration, hrole]⟩
  | other | member | body => exact ⟨s, hs, by rw [Stop.declaration, hrole]⟩

namespace Revision

variable {r : Revision}

theorem Sound.declaredName_tree (h : r.Sound) (e : Edition)
    (hr : r.kind.hasReadName = true ∨ r.label = some .declarator) :
    (r.tree e).declaredName = r.old.declaredName := by
  cases e with
  | old => rfl
  | new => exact declaredName_new h hr

theorem Sound.visibilityIn_tree (h : r.Sound) (e : Edition) (ctx : Site.Context) :
    Site.visibilityIn ctx (r.tree e) = Site.visibilityIn ctx r.old := by
  cases e with
  | old => rfl
  | new => simp only [Site.visibilityIn, tree_new, declaredVisibility?_new h]

theorem Sound.isOverride_tree (h : r.Sound) (e : Edition) :
    Site.isOverride (r.tree e) = Site.isOverride r.old := by
  cases e with
  | old => rfl
  | new => simp only [Site.isOverride, tree_new, annotationNames_new h]

theorem Sound.classify_tree (h : r.Sound) (e : Edition) :
    Accessor.classify (r.tree e) = Accessor.classify r.old := by
  cases e with
  | old => rfl
  | new => exact classify_new h

theorem Sound.packageName_tree (h : r.Sound) (e : Edition) (hk : r.kind = .packageDeclaration) :
    (r.tree e).packageName = r.old.packageName := by
  cases e with
  | old => rfl
  | new => exact packageName_new h hk

theorem Sound.constructorParameters_tree (h : r.Sound) (e : Edition) (ctx : Site.Context) :
    Site.constructorParameters ctx (r.tree e) = Site.constructorParameters ctx r.old := by
  cases e with
  | old => rfl
  | new =>
    simp only [Site.constructorParameters, tree_new, kind_new, kind_old, length_parameterList_new h]

theorem Sound.isSerialVersionOf_tree (h : r.Sound) (e : Edition) {v : Revision}
    (hk : r.kind.isField = true) (hv : v.Sound) (hl : v.label = some .declarator) :
    Site.isSerialVersionOf (r.tree e) (v.tree e) = Site.isSerialVersionOf r.old v.old := by
  cases e with
  | old => rfl
  | new =>
    exact parallel_revised.isSerialVersionOf h.revised (by rwa [kind_old]) hv.revised (by rwa [label_old])

end Revision

/-- The site in an edition, from the site in the old one: where it is, and whether it is documented. -/
def Stop.restate (s : Stop) (e : Edition) (x : Site) : Site :=
  { x with
    line := (s.node.tree e).span.line
    column := (s.node.tree e).span.column
    documented := Node.isDocumentedBy (s.declaration.before e) }

/-- **The sites of a stop** differ only in where they are and in whether they are documented. -/
theorem Revision.site?_eq_map {r : Revision} (h : r.Sound) {s : Stop} (hs : s ∈ r.stops)
    (isPackageInfo : Bool) (e : Edition) :
    s.site? isPackageInfo e = (s.site? isPackageInfo .old).map (s.restate e) := by
  have hall : ∀ t ∈ r.stops, t.node.Sound := r.sound_stopsAs _ _ _ _ _ h
  obtain ⟨p, role⟩ := s
  have hsound : p.node.Sound := hall _ hs
  cases role with
  | other | body => rfl
  | declarator ctx field =>
    obtain ⟨⟨hl, -, hk⟩, hmem⟩ := field_of_declarator hs rfl
    have hfield : field.node.Sound := hall _ hmem
    simp only [Stop.site?, Option.map_some, Stop.restate, Site.ofDeclarator, Revision.tree_old,
      hsound.declaredName_tree e (Or.inr hl), hfield.visibilityIn_tree e,
      hfield.isSerialVersionOf_tree e hk hsound hl, Stop.declaration]
  | member ctx =>
    have hname : p.node.kind.hasReadName = true →
        (p.node.tree e).declaredName = p.node.old.declaredName :=
      fun hk => hsound.declaredName_tree e (Or.inl hk)
    have hvisibility := hsound.visibilityIn_tree e ctx
    simp only [Stop.site?, Standing.site?, Revision.kind_tree]
    split_ifs with htype hout hpackage hfield
    · simp only [Option.map_some, Stop.restate, Site.ofType, Revision.tree_old,
        hname (by simp [Kind.hasReadName, htype]), hvisibility, Stop.declaration]
    · have hk : p.node.kind = .packageDeclaration := by simp_all
      simp only [Option.map_some, Stop.restate, Site.ofPackage, Revision.tree_old,
        hsound.packageName_tree e hk, Stop.declaration]
    · rfl
    · rfl
    · simp only [Site.ofPlainMember, Revision.kind_tree, hfield, Bool.false_eq_true, if_false]
      split_ifs with hmethod hconstructor hannotation hconstant
      · simp only [List.head?_cons, Option.map_some, Stop.restate, Site.ofMethod, Revision.tree_old,
          hname (by simp [Kind.hasReadName, hmethod]), hvisibility, hsound.isOverride_tree e,
          hsound.classify_tree e, Stop.declaration]
      · simp only [List.head?_cons, Option.map_some, Stop.restate, Site.ofConstructor,
          Revision.tree_old, Site.constructorName, hname (by simp [Kind.hasReadName, hconstructor]),
          hvisibility, hsound.constructorParameters_tree e ctx, Stop.declaration]
      · simp only [List.head?_cons, Option.map_some, Stop.restate, Site.ofAnnotationMember,
          Revision.tree_old, hname (by simp [Kind.hasReadName, hannotation]), hvisibility,
          Stop.declaration]
      · simp only [List.head?_cons, Option.map_some, Stop.restate, Site.ofEnumConstant,
          Revision.tree_old, hname (by simp [Kind.hasReadName, hconstant]), Stop.declaration]
      · rfl

end JavadocAudit
