import JavadocAudit.Proofs.AddedComments

/-!
# Documentation that is put before one declaration

The stops of the walk over a revision have the addresses of the nodes of the old tree, so each construct
that has to be reported is the site of the stop at its address, and there are no others
(`mem_sited_iff_declares`).  A comment that is all that was put into a tree is fresh at one stop.  If it
is documentation and stands right before a declaration, exactly the findings of that declaration go away
(`documentation_fixes_one_declaration`).
-/

namespace JavadocAudit

/-! ### Addresses of stops -/

/-- What is below a node has a later address. -/
theorem Address.lt_of_below {a b : Address} {j : Nat} (h : a ++ [j] <+: b) : a < b := by
  obtain ⟨rest, rfl⟩ := h
  have hlt : a ++ [] < a ++ (j :: rest) := List.append_left_lt (List.nil_lt_cons j rest)
  simpa using hlt

/-- What is below one child has an earlier address than what is below a later child. -/
theorem Address.lt_of_row {a b c : Address} {i j : Nat} (hb : a ++ [i] <+: b) (hc : a ++ [j] <+: c)
    (hij : i < j) : b < c := by
  obtain ⟨rest, rfl⟩ := hb
  obtain ⟨rest', rfl⟩ := hc
  rw [List.append_assoc, List.append_assoc]
  exact List.append_left_lt (List.cons_lt_cons_iff.mpr (.inl hij))

/-- The stops below a node have longer addresses, and the walk goes through them in order. -/
theorem Revision.address_stopsAs (r : Revision) : ∀ (role : Role) (a : Address)
    (fresh olds news : List Node), (∀ s ∈ r.stopsAs role a fresh olds news, a <+: s.address) ∧
      (r.stopsAs role a fresh olds news).Pairwise fun s t => s.address < t.address := by
  induction r using Revision.walk_induction (Q := fun row => ∀ (look : Look) (a : Address) (i : Nat)
      (fresh olds news : List Node),
      (∀ s ∈ row.stopsFor look a i fresh olds news, ∃ j, i ≤ j ∧ a ++ [j] <+: s.address) ∧
        (row.stopsFor look a i fresh olds news).Pairwise fun s t => s.address < t.address) with
  | node r ih =>
    intro role a fresh olds news
    obtain ⟨hbelow, hascending⟩ := ih (role.inside ⟨a, fresh, olds, news, r⟩) a 0 [] [] []
    rw [r.stopsAs_eq]
    refine ⟨fun s hs => ?_, List.pairwise_cons.mpr ⟨fun s hs => ?_, hascending⟩⟩
    · rcases List.mem_cons.mp hs with rfl | hs
      · exact List.prefix_rfl
      · obtain ⟨j, -, hj⟩ := hbelow s hs
        exact (List.prefix_append a [j]).trans hj
    · obtain ⟨j, -, hj⟩ := hbelow s hs
      exact Address.lt_of_below hj
  | nil look a i fresh olds news => simp [RevisedRow.stopsFor]
  | kept child rest ihc ihr look a i fresh olds news =>
    obtain ⟨hchild, hascending⟩ := ihc (look.role child.label) (a ++ [i]) fresh olds news
    obtain ⟨hrest, hascending'⟩ := ihr (look.after child.label) a (i + 1) [] (child.old :: olds)
      (child.new :: news)
    rw [RevisedRow.stopsFor]
    refine ⟨fun s hs => ?_, List.pairwise_append.mpr ⟨hascending, hascending', fun s hs t ht => ?_⟩⟩
    · rcases List.mem_append.mp hs with hs | hs
      · exact ⟨i, Nat.le_refl i, hchild s hs⟩
      · obtain ⟨j, hj, hpre⟩ := hrest s hs
        exact ⟨j, by omega, hpre⟩
    · obtain ⟨j, hj, hpre⟩ := hrest t ht
      exact Address.lt_of_row (hchild s hs) hpre hj
  | added comment rest ih look a i fresh olds news => exact ih look a i _ _ _

/-- **The walk goes through the addresses in order.** -/
theorem Revision.ascending_stops (r : Revision) : (r.stops.map (·.address)).Pairwise (· < ·) :=
  List.pairwise_map.mpr (r.address_stopsAs _ _ _ _ _).2

theorem Revision.nodup_stops (r : Revision) : (r.stops.map (·.address)).Nodup :=
  r.ascending_stops.imp fun h => ne_of_lt h

/-- Stops with one address are one. -/
theorem Revision.stop_eq {r : Revision} {s t : Stop} (hs : s ∈ r.stops) (ht : t ∈ r.stops)
    (h : s.address = t.address) : s = t :=
  List.inj_on_of_nodup_map r.nodup_stops hs ht h

/-- If one comment was put into a tree, it is fresh at one stop at most. -/
theorem Revision.fresh_eq_nil {r : Revision} {doc : Node} (hadded : r.additions = [doc]) {s t : Stop}
    (hs : s ∈ r.stops) (hfresh : s.fresh = [doc]) (ht : t ∈ r.stops) (hne : t.address ≠ s.address) :
    t.fresh = [] := by
  have hlength : (r.stops.flatMap (·.fresh)).length ≤ 1 := by
    simpa [hadded] using r.subperm_fresh.length_le
  obtain ⟨l₁, l₂, hsplit⟩ := List.append_of_mem hs
  rw [hsplit] at hlength ht
  have hother : t ∈ l₁ ∨ t ∈ l₂ := by
    rcases List.mem_append.mp ht with ht | ht
    · exact Or.inl ht
    · rcases List.mem_cons.mp ht with rfl | ht
      · exact absurd rfl hne
      · exact Or.inr ht
  simp only [List.flatMap_append, List.flatMap_cons, List.length_append, hfresh, List.length_singleton]
    at hlength
  have hnil₁ : l₁.flatMap (·.fresh) = [] := List.length_eq_zero_iff.mp (by omega)
  have hnil₂ : l₂.flatMap (·.fresh) = [] := List.length_eq_zero_iff.mp (by omega)
  rcases hother with ht | ht
  · exact List.flatMap_eq_nil_iff.mp hnil₁ t ht
  · exact List.flatMap_eq_nil_iff.mp hnil₂ t ht

/-! ### Constructs are sites of stops -/

/-- The stops in a node at which the walk stops are stops of the walk. -/
theorem Revision.stopsFor_subset (r : Revision) : ∀ (role : Role) (a : Address)
    (fresh olds news : List Node), ∀ t ∈ r.stopsAs role a fresh olds news,
    t.node.row.stopsFor (t.role.inside t.toPlace) t.address 0 [] [] [] ⊆
      r.stopsAs role a fresh olds news := by
  induction r using Revision.walk_induction (Q := fun row => ∀ (look : Look) (a : Address) (i : Nat)
      (fresh olds news : List Node), ∀ t ∈ row.stopsFor look a i fresh olds news,
      t.node.row.stopsFor (t.role.inside t.toPlace) t.address 0 [] [] [] ⊆
        row.stopsFor look a i fresh olds news) with
  | node r ih =>
    intro role a fresh olds news t ht
    rw [r.stopsAs_eq] at ht ⊢
    refine List.Subset.trans ?_ (List.subset_cons_self _ _)
    rcases List.mem_cons.mp ht with rfl | ht
    · exact List.Subset.refl _
    · exact ih _ _ _ _ _ _ t ht
  | nil look a i fresh olds news t ht => simp [RevisedRow.stopsFor] at ht
  | kept child rest ihc ihr look a i fresh olds news t ht =>
    rw [RevisedRow.stopsFor] at ht ⊢
    rcases List.mem_append.mp ht with ht | ht
    · exact List.Subset.trans (ihc _ _ _ _ _ t ht) (List.subset_append_left _ _)
    · exact List.Subset.trans (ihr _ _ _ _ _ _ t ht) (List.subset_append_right _ _)
  | added comment rest ih look a i fresh olds news t ht => exact ih look a i _ _ _ t ht

/-- The walk stops at each node of a row that stays. -/
theorem RevisedRow.exists_stop : ∀ (row : RevisedRow) (look : Look) {a : Address} (i : Nat)
    (fresh olds news : List Node) {j : Nat} {n : Node}, row.old[j]? = some n →
    (∀ k < j, ∀ c, row.old[k]? = some c → look.after c.label = look) →
    ∃ t ∈ row.stopsFor look a i fresh olds news, t.address = a ++ [i + j] ∧
      t.role = look.role n.label ∧ t.olds = (row.old.take j).reverse ++ olds ∧ t.node.old = n
  | .nil, look, a, i, fresh, olds, news, j, n, hn, _ => by simp [RevisedRow.old] at hn
  | .kept child rest, look, a, i, fresh, olds, news, 0, n, hn, _ => by
    have hn : child.old = n := by simpa [RevisedRow.old] using hn
    refine ⟨⟨⟨a ++ [i], fresh, olds, news, child⟩, look.role child.label⟩, ?_, rfl, ?_, rfl, hn⟩
    · rw [RevisedRow.stopsFor, child.stopsAs_eq]
      exact List.mem_append_left _ List.mem_cons_self
    · rw [← hn, Revision.label_old]
  | .kept child rest, look, a, i, fresh, olds, news, j + 1, n, hn, hafter => by
    have hlook : look.after child.label = look := by
      simpa using hafter 0 (Nat.succ_pos j) child.old rfl
    obtain ⟨t, ht, haddress, hrole, holds, hnode⟩ := exists_stop rest look (a := a) (i + 1) []
      (child.old :: olds) (child.new :: news) (show rest.old[j]? = some n from hn)
      fun k hk c hc => hafter (k + 1) (by omega) c hc
    refine ⟨t, ?_, ?_, hrole, ?_, hnode⟩
    · rw [RevisedRow.stopsFor, hlook]
      exact List.mem_append_right _ ht
    · rw [haddress, show i + 1 + j = i + (j + 1) by omega]
    · rw [holds, RevisedRow.old]
      simp
  | .added comment rest, look, a, i, fresh, olds, news, j, n, hn, hafter =>
    exists_stop rest look i (comment :: fresh) olds (comment :: news) hn hafter

/-- The walk stops at the children of a node at which it stops. -/
theorem Revision.exists_child_stop {r : Revision} {t : Stop} (ht : t ∈ r.stops) {j : Nat} {n : Node}
    (hn : t.node.old.children[j]? = some n)
    (hafter : ∀ k < j, ∀ c, t.node.old.children[k]? = some c →
      (t.role.inside t.toPlace).after c.label = t.role.inside t.toPlace) :
    ∃ t' ∈ r.stops, t'.address = t.address ++ [j] ∧
      t'.role = (t.role.inside t.toPlace).role n.label ∧
      t'.olds = (t.node.old.children.take j).reverse ∧ t'.node.old = n := by
  rw [Revision.children_old] at hn hafter ⊢
  obtain ⟨t', ht', haddress, hrole, holds, hnode⟩ := t.node.row.exists_stop _ (a := t.address) 0
    [] [] [] hn hafter
  refine ⟨t', r.stopsFor_subset _ _ _ _ _ t ht ht', ?_, hrole, ?_, hnode⟩
  · rw [haddress, Nat.zero_add]
  · rw [holds, List.append_nil]

namespace Standing

/-- The site of a declaration other than a field. -/
theorem Own.site?_eq {m : Standing} {a : Address} {x : Site} (h : m.Own a x)
    (hin : m.ctx.owners ≠ [] ∨ m.node.kind.isType = true) (hf : m.node.kind.isField = false)
    (isPackageInfo : Bool) : a = [] ∧ m.site? isPackageInfo = some x := by
  have howners : m.node.kind.isType = false → m.ctx.owners ≠ [] := fun h =>
    hin.resolve_right (by rw [h]; simp)
  cases h with
  | type hk => exact ⟨rfl, by rw [site?, if_pos hk]⟩
  | method hk | annotationMember hk | enumConstant hk =>
    have hin := howners (by rw [hk]; rfl)
    refine ⟨rfl, ?_⟩
    simp [site?, Site.ofPlainMember, hin, hk, Kind.isType, Kind.isField, Kind.isConstructor]
  | constructor hk =>
    refine ⟨rfl, ?_⟩
    rcases Kind.isConstructor_iff.mp hk with hk' | hk' <;>
    · have hin := howners (by rw [hk']; rfl)
      simp [site?, Site.ofPlainMember, hin, hk', Kind.isType, Kind.isField, Kind.isConstructor]
  | field hk => rw [hk] at hf; cases hf

end Standing

/-- The stop is at a member of the old edition. -/
structure Stop.StandsAs (t : Stop) (s : Standing) : Prop where
  role : t.role = .member s.ctx
  olds : t.olds = s.before
  node : t.node.old = s.node

theorem Stop.StandsAs.site?_eq {t : Stop} {m : Standing} (h : t.StandsAs m)
    (isPackageInfo : Bool) : t.site? isPackageInfo .old = m.site? isPackageInfo := by
  rw [Stop.site?, h.role]
  show Standing.site? isPackageInfo ⟨m.ctx, t.olds, t.node.old⟩ = _
  rw [h.olds, h.node]

namespace Revision

variable {r : Revision}

/-- Where members are looked for, the walk stops at them. -/
theorem exists_stop_of_standing {t : Stop} (ht : t ∈ r.stops) {ctx : Site.Context}
    (hlook : t.role.inside t.toPlace = .members ctx) {i : Nat} {s : Standing}
    (hs : t.node.old.standing? ctx i = some s) :
    ∃ t' ∈ r.stops, t'.address = t.address ++ [i] ∧ t'.StandsAs s := by
  simp only [Node.standing?, Option.map_eq_some_iff] at hs
  obtain ⟨n, hn, rfl⟩ := hs
  obtain ⟨t', ht', haddress, hrole, holds, hnode⟩ := exists_child_stop ht hn fun k _ c _ => by
    rw [hlook]; rfl
  rw [hlook] at hrole
  exact ⟨t', ht', haddress, hrole, holds, hnode⟩

/-- **The walk stops at each member.** -/
theorem exists_stop_of_holds {s m : Standing} {b : Address} (h : s.Holds b m) : ∀ t ∈ r.stops,
    t.StandsAs s → ∃ t' ∈ r.stops, t'.address = t.address ++ b ∧ t'.StandsAs m := by
  induction h with
  | self s => exact fun t ht hts => ⟨t, ht, by simp, hts⟩
  | @inType s t₂ m j i b a hk hb hst hm ih =>
    intro t ht hts
    have hkind : t.node.kind.isType = true := by rw [← kind_old, hts.node]; exact hk
    have hlook : t.role.inside t.toPlace = .bodyOf s.inner := by
      rw [hts.role, Role.inside, if_pos hkind, hts.node, Standing.enter_eq_inner]
    obtain ⟨t₁, ht₁, haddress, hrole, -, hnode⟩ := exists_child_stop ht (j := j) (n := b)
      (by rw [hts.node]; exact hb.child) fun k hk c hc => by
        rw [hlook, Look.after, if_neg (hb.first k hk c (by rw [← hts.node]; exact hc))]
    have hlook₁ : t₁.role.inside t₁.toPlace = .members s.inner := by
      rw [hrole, hlook, Look.role, if_pos hb.label, Role.inside]
    obtain ⟨t₂, ht₂, haddress₂, hts₂⟩ := exists_stop_of_standing ht₁ hlook₁ (by rw [hnode]; exact hst)
    obtain ⟨t', ht', haddress', hm'⟩ := ih t₂ ht₂ hts₂
    refine ⟨t', ht', ?_, hm'⟩
    rw [haddress', haddress₂, haddress]
    simp
  | @inEnumPart s t₁ m i a hin hk hst hm ih =>
    intro t ht hts
    have hkind : t.node.kind = .enumBodyDeclarations := by rw [← kind_old, hts.node]; exact hk
    have hlook : t.role.inside t.toPlace = .members { s.ctx with components := 0 } := by
      rw [hts.role, Role.inside, if_neg (by simp [hkind, Kind.isType]), if_neg hin, if_pos hkind]
    obtain ⟨t₁, ht₁, haddress, hts₁⟩ := exists_stop_of_standing ht hlook (by rw [hts.node]; exact hst)
    obtain ⟨t', ht', haddress', hm'⟩ := ih t₁ ht₁ hts₁
    refine ⟨t', ht', ?_, hm'⟩
    rw [haddress', haddress]
    simp

/-- The walk stops at each member of the file. -/
theorem exists_stop_of_member {path : String} {a : Address} {m : Standing}
    (hm : (r.unit path .old).Member a m) : ∃ t ∈ r.stops, t.address = a ∧ t.StandsAs m := by
  obtain ⟨i, s, b, rfl, hs, hholds⟩ := hm
  have hroot : (⟨⟨[], [], [], [], r⟩, .body {}⟩ : Stop) ∈ r.stops := by
    rw [stops, r.stopsAs_eq]
    exact List.mem_cons_self
  obtain ⟨t, ht, haddress, hts⟩ := exists_stop_of_standing hroot rfl hs
  obtain ⟨t', ht', haddress', hm'⟩ := exists_stop_of_holds hholds t ht hts
  refine ⟨t', ht', ?_, hm'⟩
  rw [haddress', haddress]
  rfl

/-- **Each construct of the file is the site of a stop** at its address. -/
theorem exists_stop_of_declares {path : String} {a : Address} {x : Site}
    (h : (r.unit path .old).Declares a x) :
    ∃ t ∈ r.stops, t.address = a ∧ t.site? (r.unit path .old).isPackageInfo .old = some x := by
  rcases h with ⟨i, m, hinfo, hm, hk, rfl, rfl⟩ | ⟨a₁, a₂, m, rfl, hm, hin, ho⟩
  · obtain ⟨t, ht, haddress, hts⟩ := exists_stop_of_member ⟨i, m, [], rfl, hm, .self m⟩
    have hctx : m.ctx.owners = [] := by rw [(Standing.standing_mem hm).2]
    refine ⟨t, ht, haddress, ?_⟩
    rw [hts.site?_eq, Standing.site?, if_neg (by simp [hk, Kind.isType]), if_pos hctx, hinfo, hk]
    rfl
  · obtain ⟨t, ht, haddress, hts⟩ := exists_stop_of_member hm
    cases hf : m.node.kind.isField with
    | false =>
      obtain ⟨rfl, hsite⟩ := ho.site?_eq hin hf (r.unit path .old).isPackageInfo
      exact ⟨t, ht, by rw [haddress, List.append_nil], by rw [hts.site?_eq, hsite]⟩
    | true =>
      obtain ⟨j, v, rfl, hv, hl, rfl⟩ := ho.of_isField hf
      have hnot : m.node.kind.isType = false ∧ m.node.kind ≠ .enumBodyDeclarations := by
        rcases Kind.isField_iff.mp hf with hk | hk <;> rw [hk] <;> exact ⟨rfl, by simp⟩
      have howners : m.ctx.owners ≠ [] := hin.resolve_right (by rw [hnot.1]; simp)
      have hlook : t.role.inside t.toPlace = .declarators m.ctx t.toPlace := by
        rw [hts.role, Role.inside, ← kind_old, hts.node, if_neg (by simp [hnot.1]), if_neg howners,
          if_neg hnot.2, if_pos hf]
      obtain ⟨t', ht', haddress', hrole, -, hnode⟩ := exists_child_stop ht
        (by rw [hts.node]; exact hv) fun k _ c _ => by rw [hlook]; rfl
      refine ⟨t', ht', by rw [haddress', haddress], ?_⟩
      rw [hlook, Look.role, if_pos hl] at hrole
      rw [Stop.site?, hrole]
      show some (Site.ofDeclarator m.ctx t.olds t.node.old t'.node.old) = _
      rw [hts.olds, hts.node, hnode]

theorem ascending_sited (r : Revision) (isPackageInfo : Bool) :
    ((r.sited isPackageInfo).map (·.1.address)).Pairwise (· < ·) := by
  have hsub : ((r.sited isPackageInfo).map (·.1.address)).Sublist (r.stops.map (·.address)) := by
    unfold sited
    induction r.stops with
    | nil => exact List.Sublist.slnil
    | cons s stops ih =>
      rw [List.filterMap_cons, List.map_cons]
      cases s.site? isPackageInfo .old with
      | none => exact ih.cons _
      | some x => exact ih.cons_cons _
  exact r.ascending_stops.sublist hsub

theorem nodup_sited (r : Revision) (isPackageInfo : Bool) :
    ((r.sited isPackageInfo).map (·.1.address)).Nodup :=
  (r.ascending_sited isPackageInfo).imp fun h => ne_of_lt h

/-- **The sites of the stops are the constructs of the file**, each at its address. -/
theorem mem_sited_iff_declares (h : r.Sound) {path : String} {a : Address} {x : Site} :
    (∃ s, (s, x) ∈ r.sited (r.unit path .old).isPackageInfo ∧ s.address = a) ↔
      (r.unit path .old).Declares a x := by
  -- the constructs are among the sites, and there are as many of them
  obtain ⟨l, hsites, hnodup, hl⟩ := (r.unit path .old).enumerates_sites
  let tagged := (r.sited (r.unit path .old).isPackageInfo).map fun y => (y.1.address, y.2)
  have hmem : ∀ b y, (b, y) ∈ tagged ↔
      ∃ s, (s, y) ∈ r.sited (r.unit path .old).isPackageInfo ∧ s.address = b := by
    intro b y
    simp only [tagged, List.mem_map, Prod.exists, Prod.mk.injEq]
    constructor
    · rintro ⟨s, y, hs, rfl, rfl⟩
      exact ⟨s, hs, rfl⟩
    · rintro ⟨s, hs, rfl⟩
      exact ⟨s, y, hs, rfl, rfl⟩
  have hsub : l ⊆ tagged := by
    rintro ⟨b, y⟩ hb
    obtain ⟨t, ht, haddress, hsite⟩ := exists_stop_of_declares ((hl b y).mp hb)
    exact (hmem b y).mpr ⟨t, mem_sited.mpr ⟨ht, hsite⟩, haddress⟩
  have hlength : tagged.length ≤ l.length := by
    have hall := congrArg List.length (hsites.trans (sites_eq_map_sited h path .old))
    simp only [List.length_map] at hall
    simp only [tagged, List.length_map, hall, le_refl]
  have hperm : l.Perm tagged :=
    (List.subperm_of_subset hnodup.of_map hsub).perm_of_length_le hlength
  rw [← hmem, ← hl, hperm.mem_iff]

end Revision

/-! ### One declaration -/

/-- The construct at `b` is declared by the declaration at `a`: for a field, it is one of its
variables. -/
def Standing.declaresAt (m : Standing) (a b : Address) : Bool :=
  if m.node.kind.isField then b.dropLast == a else b == a

namespace Revision

variable {r : Revision}

/-- What is looked for in a field are its variables, or nothing. -/
theorem inside_of_isField {n : Stop} {m : Standing} (hm : n.StandsAs m)
    (hf : m.node.kind.isField = true) :
    n.role.inside n.toPlace = .declarators m.ctx n.toPlace ∨ n.role.inside n.toPlace = .nothing := by
  have hkind : n.node.kind = m.node.kind := by rw [← kind_old, hm.node]
  have hnot : m.node.kind.isType = false ∧ m.node.kind ≠ .enumBodyDeclarations := by
    rcases Kind.isField_iff.mp hf with hk | hk <;> rw [hk] <;> exact ⟨rfl, by simp⟩
  rw [hm.role, Role.inside, hkind, if_neg (by simp [hnot.1]), if_neg hnot.2, if_pos hf]
  split_ifs with howners
  · exact Or.inr rfl
  · exact Or.inl rfl

/-- The child of a field that is a site is one of its variables. -/
theorem role_of_field_child {n s : Stop} {m : Standing} (hn : n ∈ r.stops) (hm : n.StandsAs m)
    (hf : m.node.kind.isField = true) (hs : s ∈ r.stops) (haddress : s.address.dropLast = n.address)
    (hne : s.address ≠ []) : s.role = .other ∨ s.role = .declarator m.ctx n.toPlace := by
  rcases r.exists_around _ _ _ _ _ s hs with rfl | ⟨q, hq, ⟨j, hj⟩, hrole⟩
  · exact absurd rfl hne
  · have hqn : q = n := stop_eq hq hn (by rw [← haddress, hj, List.dropLast_concat])
    subst hqn
    refine hrole.elim Or.inl fun hrole => ?_
    rcases inside_of_isField hm hf with hlook | hlook <;> rw [hlook] at hrole
    · rw [hrole, Look.role]
      split_ifs
      · exact Or.inr rfl
      · exact Or.inl rfl
    · exact Or.inl hrole

/-- A site belongs to a declaration exactly if it is declared there. -/
theorem declaration_address_eq_iff {n s : Stop} {m : Standing} {x : Site} {isPackageInfo : Bool}
    (hn : n ∈ r.stops) (hm : n.StandsAs m) (hroot : n.address ≠ [])
    (hs : (s, x) ∈ r.sited isPackageInfo) :
    s.declaration.address = n.address ↔ m.declaresAt n.address s.address = true := by
  obtain ⟨hs, hsite⟩ := mem_sited.mp hs
  have hkind : n.node.kind = m.node.kind := by rw [← kind_old, hm.node]
  cases hrole : s.role with
  | other | body => rw [Stop.site?, hrole] at hsite; cases hsite
  | member ctx =>
    have hdeclaration : s.declaration = s.toPlace := by rw [Stop.declaration, hrole]
    rw [hdeclaration, Standing.declaresAt]
    split_ifs with hf
    · -- a field has no site of its own, and its children are no members
      rw [beq_iff_eq]
      constructor
      · intro haddress
        rw [stop_eq hs hn haddress, hm.site?_eq, Standing.site?] at hsite
        rcases Kind.isField_iff.mp hf with hk | hk <;> simp [hk, Kind.isType, Kind.isField] at hsite
      · intro haddress
        have hne : s.address ≠ [] := by
          intro hnil
          rw [hnil] at haddress
          exact hroot haddress.symm
        rcases role_of_field_child hn hm hf hs haddress hne with h | h <;> rw [hrole] at h <;> cases h
    · rw [beq_iff_eq]
  | declarator ctx field =>
    obtain ⟨⟨-, ⟨j, hj⟩, hk⟩, hfield⟩ := field_of_declarator hs hrole
    have hdeclaration : s.declaration = field := by rw [Stop.declaration, hrole]
    rw [hdeclaration, Standing.declaresAt]
    split_ifs with hf
    · rw [beq_iff_eq, hj, List.dropLast_concat]
    · -- the field is not the declaration, and a variable is no member
      rw [beq_iff_eq]
      constructor
      · intro haddress
        have hplace : field = n.toPlace := congrArg Stop.toPlace (stop_eq hfield hn haddress)
        rw [hplace, hkind] at hk
        exact absurd hk hf
      · intro haddress
        rw [stop_eq hs hn haddress, hm.role] at hrole
        cases hrole

/-- The node before which the only comment was put is the only one that gains documentation. -/
theorem gainsDocumentation_iff {doc : Node} (hdoc : doc.isDocumentation = true)
    (hadded : r.additions = [doc]) {n s : Stop} (hn : n ∈ r.stops) (hfresh : n.fresh = [doc])
    (hs : s ∈ r.stops) : s.gainsDocumentation = true ↔ s.address = n.address := by
  constructor
  · intro hgains
    by_contra hne
    rw [Place.gainsDocumentation, fresh_eq_nil hadded hn hfresh hs hne] at hgains
    cases hgains
  · intro haddress
    rw [stop_eq hs hn haddress, Place.gainsDocumentation, hfresh]
    simp [hdoc]

/-- The stop at the address of a member is at that member. -/
theorem standsAs_of_member {path : String} {n : Stop} {m : Standing} (hn : n ∈ r.stops)
    (hm : (r.unit path .old).Member n.address m) : n.StandsAs m ∧ n.address ≠ [] := by
  obtain ⟨t, ht, haddress, hstands⟩ := exists_stop_of_member hm
  rw [stop_eq ht hn haddress] at hstands
  obtain ⟨i, _, b, hcons, -⟩ := hm
  exact ⟨hstands, by rw [hcons]; simp⟩

/-- A finding is not declared by a documented declaration. -/
theorem not_documented_of_isFinding (h : r.Sound) {settings : Settings} {isPackageInfo : Bool}
    {n s : Stop} {m : Standing} {x : Site} (hn : n ∈ r.stops) (hm : n.StandsAs m)
    (hx : (s, x) ∈ r.sited isPackageInfo) (hfinding : Audit.isFinding settings x = true)
    (haddress : s.declaration.address = n.address) : Node.isDocumentedBy m.before = false := by
  obtain ⟨d, hd, hplace⟩ := exists_stop_declaration (mem_sited.mp hx).1
  have hdn : d = n := stop_eq hd hn (by rw [hplace, haddress])
  have hdocumented : x.documented = Node.isDocumentedBy m.before := by
    rw [← restate_of_mem_sited h hx, ← hm.olds, ← hdn, hplace]
    rfl
  rw [← hdocumented]
  exact (Audit.isFinding_iff.mp hfinding).2

/-- The findings of stops, each with its address. -/
def tagged (path : String) (ys : List (Stop × Site)) : List (Address × Finding) :=
  ys.map fun y => (y.1.address, Audit.finding path y.2)

section Tagged

variable {settings : Settings} {path : String} {ys : List (Stop × Site)}
  (hperm : ys.Perm ((r.sited (r.unit path .old).isPackageInfo).filter
    fun y => Audit.isFinding settings y.2))
include hperm

theorem nodup_tagged : ((tagged path ys).map Prod.fst).Nodup := by
  rw [tagged, List.map_map]
  exact (hperm.map _).nodup_iff.mpr ((r.nodup_sited _).sublist (List.filter_sublist.map _))

/-- The findings of the stops are those of the constructs that lack documentation. -/
theorem mem_tagged_iff_lacks (h : r.Sound) {a : Address} {f : Finding} :
    (a, f) ∈ tagged path ys ↔ Lacks settings (r.unit path .old) a f := by
  rw [lacks_iff, tagged, List.mem_map]
  constructor
  · rintro ⟨⟨s, x⟩, hy, heq⟩
    obtain ⟨rfl, rfl⟩ := Prod.mk.inj heq
    obtain ⟨hsited, hfinding⟩ := List.mem_filter.mp (hperm.mem_iff.mp hy)
    exact ⟨x, (mem_sited_iff_declares h).mp ⟨s, hsited, rfl⟩, hfinding, rfl⟩
  · rintro ⟨x, hx, hfinding, rfl⟩
    obtain ⟨s, hsited, rfl⟩ := (mem_sited_iff_declares h).mpr hx
    exact ⟨(s, x), hperm.mem_iff.mpr (List.mem_filter.mpr ⟨hsited, hfinding⟩), rfl⟩

/-- One address has one finding at most. -/
theorem length_filter_tagged_le (a : Address) : ((tagged path ys).filter (·.1 == a)).length ≤ 1 := by
  have hnodup : (((tagged path ys).filter (·.1 == a)).map Prod.fst).Nodup :=
    (nodup_tagged hperm).sublist (List.filter_sublist.map _)
  have hsub : ((tagged path ys).filter (·.1 == a)).map Prod.fst ⊆ [a] := by
    intro b hb
    obtain ⟨e, he, rfl⟩ := List.mem_map.mp hb
    simpa using (List.mem_filter.mp he).2
  simpa using (List.subperm_of_subset hnodup hsub).length_le

end Tagged

/-- **Documentation of one declaration fixes exactly that declaration.**  Put one documentation comment,
and nothing else, right before a declaration `m`, and keep the order of the nodes.  The findings before
are those of the constructs that lack documentation, each with its address, and the findings after are
about the same constructs in the same order, less those that `m` declares.  There is at most one of these
unless `m` is a field, and none if it was documented already. -/
theorem documentation_fixes_one_declaration (r : Revision) (settings : Settings) (path : String)
    (doc : Node) (n : Stop) (m : Standing) (h : r.Sound) (horder : r.KeepsOrder)
    (hdoc : doc.isDocumentation = true) (hadded : r.additions = [doc]) (hn : n ∈ r.stops)
    (hfresh : n.fresh = [doc]) (hm : (CompilationUnit.mk path r.old).Member n.address m)
    (hcode : m.node.isComment = false) :
    ∃ l : List (Address × Finding),
      l.map Prod.snd = Audit.findings settings ⟨path, r.old⟩ ∧ (l.map Prod.fst).Nodup ∧
      (∀ a f, (a, f) ∈ l ↔ Lacks settings ⟨path, r.old⟩ a f) ∧
      (Audit.findings settings ⟨path, r.new⟩).map Finding.subject =
        (l.filter fun e => !m.declaresAt n.address e.1).map (·.2.subject) ∧
      (m.node.kind.isField = false → (l.filter fun e => m.declaresAt n.address e.1).length ≤ 1) ∧
      (Node.isDocumentedBy m.before = true → l.filter (fun e => m.declaresAt n.address e.1) = []) := by
  obtain ⟨hstands, hroot⟩ := standsAs_of_member hn
    (show (r.unit path .old).Member n.address m from hm)
  have hputs : r.PutsBeforeCode := by
    intro s hs hgains
    rw [stop_eq hs hn ((gainsDocumentation_iff hdoc hadded hn hfresh hs).mp hgains), ← kind_old,
      hstands.node]
    exact hcode
  obtain ⟨ys, hperm, hold, hnew⟩ := findings_revised h horder hputs settings path
  have hys : ∀ y ∈ ys, y ∈ r.sited (r.unit path .old).isPackageInfo ∧
      Audit.isFinding settings y.2 = true :=
    fun y hy => List.mem_filter.mp (hperm.mem_iff.mp hy)
  have hgains : ∀ y ∈ ys, y.1.declaration.gainsDocumentation = m.declaresAt n.address y.1.address := by
    intro y hy
    obtain ⟨d, hd, hplace⟩ := exists_stop_declaration (mem_sited.mp (hys y hy).1).1
    rw [Bool.eq_iff_iff, ← declaration_address_eq_iff hn hstands hroot (hys y hy).1, ← hplace]
    exact gainsDocumentation_iff hdoc hadded hn hfresh hd
  refine ⟨tagged path ys, ?_, nodup_tagged hperm, fun a f => mem_tagged_iff_lacks hperm h, ?_, ?_, ?_⟩
  · rw [tagged, List.map_map]
    exact hold.symm
  · rw [tagged, List.filter_map, List.map_map]
    refine hnew.trans (congrArg _ (List.filter_congr fun y hy => ?_))
    rw [hgains y hy]
    rfl
  · intro hf
    simp only [Standing.declaresAt, hf, Bool.false_eq_true, if_false]
    exact length_filter_tagged_le hperm n.address
  · intro hdocumented
    rw [List.filter_eq_nil_iff]
    intro e he hdeclares
    obtain ⟨y, hy, rfl⟩ := List.mem_map.mp he
    have hnot := not_documented_of_isFinding h hn hstands (hys y hy).1 (hys y hy).2
      ((declaration_address_eq_iff hn hstands hroot (hys y hy).1).mpr hdeclares)
    rw [hnot] at hdocumented
    cases hdocumented

/-- A documentation comment. -/
def shortDocumentation : Node := .leaf .blockComment none ⟨10, 18, 2, 1⟩ "\n" "/** d */"

/-- A field of two variables. -/
def pairField : Revision :=
  .branch .fieldDeclaration none ⟨10, 19, 2, 1⟩ ⟨19, 28, 3, 1⟩ <|
    .kept (.leaf .integralType (some .type) ⟨10, 13, 2, 1⟩ ⟨19, 22, 3, 1⟩ "\n" "\n" "int") <| .kept
    (.branch .variableDeclarator (some .declarator) ⟨14, 15, 2, 5⟩ ⟨23, 24, 3, 5⟩ <|
      .kept (.leaf .identifier (some .name) ⟨14, 15, 2, 5⟩ ⟨23, 24, 3, 5⟩ " " " " "x") .nil) <| .kept
    (.branch .variableDeclarator (some .declarator) ⟨17, 18, 2, 8⟩ ⟨26, 27, 3, 8⟩ <|
      .kept (.leaf .identifier (some .name) ⟨17, 18, 2, 8⟩ ⟨26, 27, 3, 8⟩ " " " " "y") .nil)
    .nil

/-- A class with the field and a method.  Documentation was put before the field. -/
def documentedField : Revision :=
  .branch .program none ⟨0, 40, 1, 1⟩ ⟨0, 50, 1, 1⟩ <| .kept
    (.branch .classDeclaration none ⟨0, 40, 1, 1⟩ ⟨0, 50, 1, 1⟩ <|
      .kept (.leaf .identifier (some .name) ⟨6, 7, 1, 7⟩ ⟨6, 7, 1, 7⟩ " " " " "A") <| .kept
      (.branch .classBody (some .body) ⟨8, 40, 1, 9⟩ ⟨8, 50, 1, 9⟩ <|
        .added shortDocumentation <| .kept pairField <| .kept
        (.branch .methodDeclaration none ⟨20, 31, 3, 1⟩ ⟨29, 40, 4, 1⟩ <|
          .kept (.leaf .voidType (some .type) ⟨20, 24, 3, 1⟩ ⟨29, 33, 4, 1⟩ "\n" "\n" "void") <|
          .kept (.leaf .identifier (some .name) ⟨25, 26, 3, 6⟩ ⟨34, 35, 4, 6⟩ " " " " "f") .nil)
        .nil)
      .nil)
    .nil

/-- The walk at the field. -/
def pairFieldStop : Stop :=
  ⟨⟨[0, 1, 0], [shortDocumentation], [], [shortDocumentation], pairField⟩, .member { owners := ["A"] }⟩

/-- The field as a member. -/
def pairFieldStanding : Standing := ⟨{ owners := ["A"] }, [], pairField.old⟩

theorem documentedField_fixed :
    documentedField.Sound ∧ documentedField.KeepsOrder ∧ shortDocumentation.isDocumentation = true ∧
      documentedField.additions = [shortDocumentation] ∧ pairFieldStop ∈ documentedField.stops ∧
      pairFieldStop.fresh = [shortDocumentation] ∧
      (CompilationUnit.mk "A.java" documentedField.old).Member pairFieldStop.address pairFieldStanding ∧
      pairFieldStanding.node.isComment = false ∧
      ∃ l : List (Address × Finding),
        l.map Prod.snd = Audit.findings {} ⟨"A.java", documentedField.old⟩ ∧
        (Audit.findings {} ⟨"A.java", documentedField.new⟩).map Finding.subject =
          (l.filter fun e => !pairFieldStanding.declaresAt [0, 1, 0] e.1).map (·.2.subject) := by
  have hsound : documentedField.Sound := by decide +kernel
  have horder : documentedField.KeepsOrder := by decide +kernel
  have hdoc : shortDocumentation.isDocumentation = true := by decide +kernel
  have hmem : pairFieldStop ∈ documentedField.stops :=
    List.mem_of_getElem? (i := 4) rfl
  have hmember : (CompilationUnit.mk "A.java" documentedField.old).Member pairFieldStop.address
      pairFieldStanding := by
    refine ⟨0, _, [1, 0], rfl, rfl, .inType rfl ⟨rfl, rfl, ?_⟩ rfl (.self _)⟩
    intro i hi c hc
    obtain rfl : i = 0 := by omega
    cases hc
    simp [label]
  obtain ⟨l, hold, -, -, hnew, -⟩ := documentation_fixes_one_declaration documentedField {} "A.java"
    shortDocumentation pairFieldStop pairFieldStanding hsound horder hdoc rfl hmem rfl hmember rfl
  exact ⟨hsound, horder, hdoc, rfl, hmem, rfl, hmember, rfl, l, hold, hnew⟩

end Revision

end JavadocAudit
