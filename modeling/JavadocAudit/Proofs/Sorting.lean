import JavadocAudit.Discovery
import JavadocAudit.Finding
import Mathlib.Data.List.Sort
import Mathlib.Data.Prod.Lex
import Mathlib.Data.String.Basic

/-!
# Findings and paths in order

The key of a finding is its path, its line and its column, and `lexKey` compares keys in that order,
paths by the codes of their characters.  Sorting findings keeps the order of those with one key, so a
part of the findings that was in order before is found again as it was (`filter_sorted`), and it makes
no difference whether findings are chosen before or after they are sorted (`sorted_filter`).  A part of
the findings stays a part when both are sorted (`sorted_sublist`).  A set of texts is sorted without
repetition (`mem_sortedSet`, `pairwise_sortedSet`).
-/

namespace JavadocAudit

/-! ### Findings -/

namespace Finding

/-- A key as an element of the lexicographic order. -/
def lexKey (k : String × Int × Int) : String ×ₗ Int ×ₗ Int := toLex (k.1, toLex k.2)

/-- The finding `a` stands strictly before `b`. -/
def Precedes (a b : Finding) : Prop := lexKey a.sortKey < lexKey b.sortKey

theorem lexKey_injective {k k' : String × Int × Int} (h : lexKey k = lexKey k') : k = k' := by
  have h1 := congrArg (fun x => (ofLex x).1) h
  have h2 := congrArg (fun x => ofLex (ofLex x).2) h
  exact Prod.ext h1 h2

theorem keyLe_iff {k k' : String × Int × Int} : keyLe k k' = true ↔ lexKey k ≤ lexKey k' := by
  obtain ⟨p, l, c⟩ := k
  obtain ⟨p', l', c'⟩ := k'
  simp only [keyLe, lexKey, Bool.or_eq_true, Bool.and_eq_true, decide_eq_true_eq, beq_iff_eq,
    Prod.Lex.toLex_le_toLex]

theorem keyLe_trans (a b c : Finding) (h : keyLe a.sortKey b.sortKey = true)
    (h' : keyLe b.sortKey c.sortKey = true) : keyLe a.sortKey c.sortKey = true :=
  keyLe_iff.mpr ((keyLe_iff.mp h).trans (keyLe_iff.mp h'))

theorem keyLe_total (a b : Finding) :
    (keyLe a.sortKey b.sortKey || keyLe b.sortKey a.sortKey) = true := by
  rw [Bool.or_eq_true, keyLe_iff, keyLe_iff]
  exact le_total _ _

theorem sorted_perm (fs : List Finding) : (sorted fs).Perm fs := List.mergeSort_perm fs _

theorem mem_sorted {f : Finding} {fs : List Finding} : f ∈ sorted fs ↔ f ∈ fs :=
  (sorted_perm fs).mem_iff

theorem pairwise_sorted (fs : List Finding) :
    (sorted fs).Pairwise fun a b => keyLe a.sortKey b.sortKey = true :=
  List.pairwise_mergeSort keyLe_trans keyLe_total fs

/-- **Stability**: findings that are chosen by a property and were in order stay as they were. -/
theorem filter_sorted {fs : List Finding} {p : Finding → Bool}
    (h : (fs.filter p).Pairwise fun a b => keyLe a.sortKey b.sortKey = true) :
    (sorted fs).filter p = fs.filter p := by
  have hsub : (fs.filter p).Sublist (sorted fs) :=
    List.sublist_mergeSort keyLe_trans keyLe_total h List.filter_sublist
  have hsub' : (fs.filter p).Sublist ((sorted fs).filter p) := by
    have := hsub.filter p
    rwa [List.filter_filter, show (fun a => p a && p a) = p by simp] at this
  exact (hsub'.eq_of_length ((sorted_perm fs).filter p).length_eq.symm).symm

/-- The findings are in strict order exactly if no two of them have one key. -/
theorem pairwise_precedes_sorted_iff {fs : List Finding} :
    (sorted fs).Pairwise Precedes ↔ (fs.map sortKey).Nodup := by
  have hperm : (sorted fs).map sortKey |>.Perm (fs.map sortKey) := (sorted_perm fs).map _
  rw [← hperm.nodup_iff, List.Nodup, List.pairwise_map]
  constructor
  · exact List.Pairwise.imp fun h he => absurd h (by rw [Precedes, he]; exact lt_irrefl _)
  · intro h
    refine (pairwise_sorted fs).imp₂ (fun a b hle hne => ?_) h
    exact lt_of_le_of_ne (keyLe_iff.mp hle) fun he => hne (lexKey_injective he)

/-- **One more finding in front**: it comes after those that precede it strictly, and before all
others, also those with its own key. -/
theorem sorted_cons_split (f : Finding) (fs : List Finding) : ∃ l₁ l₂,
    sorted (f :: fs) = l₁ ++ f :: l₂ ∧ sorted fs = l₁ ++ l₂ ∧
      (∀ x ∈ l₁, keyLe f.sortKey x.sortKey = false) ∧
      ∀ x ∈ l₂, keyLe f.sortKey x.sortKey = true := by
  obtain ⟨l₁, l₂, hcons, hrest, hl₁⟩ := List.mergeSort_cons keyLe_trans keyLe_total f fs
  have hpair := pairwise_sorted (f :: fs)
  rw [show sorted (f :: fs) = l₁ ++ f :: l₂ from hcons] at hpair
  refine ⟨l₁, l₂, hcons, hrest, fun x hx => by simpa using hl₁ x hx, fun x hx => ?_⟩
  exact (List.pairwise_cons.mp (List.pairwise_append.mp hpair).2.1).1 x hx

theorem sorted_cons_eq {f : Finding} {fs l₁ l₂ : List Finding} (h : sorted fs = l₁ ++ l₂)
    (h₁ : ∀ x ∈ l₁, keyLe f.sortKey x.sortKey = false)
    (h₂ : ∀ x ∈ l₂, keyLe f.sortKey x.sortKey = true) : sorted (f :: fs) = l₁ ++ f :: l₂ := by
  obtain ⟨m₁, m₂, hcons, hrest, hm₁, hm₂⟩ := sorted_cons_split f fs
  have hsplit : l₁ = m₁ ∧ l₂ = m₂ := by
    -- what one split has on the left and the other one on the right would be on both sides of `f`
    rcases List.append_eq_append_iff.mp (h.symm.trans hrest) with ⟨as, rfl, rfl⟩ | ⟨as, rfl, rfl⟩
    · cases as with
      | nil => simp
      | cons a as => exact absurd (h₂ a (by simp)) (by rw [hm₁ a (by simp)]; simp)
    · cases as with
      | nil => simp
      | cons a as => exact absurd (hm₂ a (by simp)) (by rw [h₁ a (by simp)]; simp)
  rw [hcons, hsplit.1, hsplit.2]

/-- **Sorting goes through a choice**: to sort some of the findings is to choose them after sorting. -/
theorem sorted_filter (p : Finding → Bool) (fs : List Finding) :
    sorted (fs.filter p) = (sorted fs).filter p := by
  induction fs with
  | nil => simp [sorted]
  | cons f fs ih =>
    obtain ⟨l₁, l₂, hcons, hrest, h₁, h₂⟩ := sorted_cons_split f fs
    rw [hrest, List.filter_append] at ih
    rw [hcons, List.filter_append, List.filter_cons, List.filter_cons]
    split_ifs with hp
    · exact sorted_cons_eq ih (fun x hx => h₁ x (List.mem_filter.mp hx).1)
        fun x hx => h₂ x (List.mem_filter.mp hx).1
    · exact ih

/-- **Sorting keeps parts**: a part of the findings is a part of them after both are sorted. -/
theorem sorted_sublist {fs gs : List Finding} (h : fs.Sublist gs) :
    (sorted fs).Sublist (sorted gs) := by
  induction h with
  | slnil => exact List.Sublist.refl _
  | @cons fs gs f _ ih =>
    obtain ⟨l₁, l₂, hcons, hrest, -, -⟩ := sorted_cons_split f gs
    rw [hrest] at ih
    rw [hcons]
    exact ih.trans ((List.sublist_cons_self f l₂).append_left l₁)
  | @cons_cons fs gs f _ ih =>
    -- what stands before `f` and what stands after it are told apart by their keys
    have hsplit : ∀ l₁ l₂ : List Finding, (∀ x ∈ l₁, keyLe f.sortKey x.sortKey = false) →
        (∀ x ∈ l₂, keyLe f.sortKey x.sortKey = true) →
        (l₁ ++ l₂).filter (fun x => !keyLe f.sortKey x.sortKey) = l₁ ∧
          (l₁ ++ l₂).filter (fun x => keyLe f.sortKey x.sortKey) = l₂ := by
      intro l₁ l₂ h₁ h₂
      rw [List.filter_append, List.filter_append, List.filter_eq_self.mpr (by simpa using h₁),
        List.filter_eq_nil_iff.mpr (by simpa using h₂), List.filter_eq_nil_iff.mpr (by simpa using h₁),
        List.filter_eq_self.mpr h₂, List.append_nil, List.nil_append]
      exact ⟨rfl, rfl⟩
    obtain ⟨l₁, l₂, hcons, hrest, h₁, h₂⟩ := sorted_cons_split f gs
    obtain ⟨m₁, m₂, hcons', hrest', h₁', h₂'⟩ := sorted_cons_split f fs
    rw [hrest, hrest'] at ih
    have hbefore := ih.filter fun x => !keyLe f.sortKey x.sortKey
    have hafter := ih.filter fun x => keyLe f.sortKey x.sortKey
    rw [(hsplit l₁ l₂ h₁ h₂).1, (hsplit m₁ m₂ h₁' h₂').1] at hbefore
    rw [(hsplit l₁ l₂ h₁ h₂).2, (hsplit m₁ m₂ h₁' h₂').2] at hafter
    rw [hcons, hcons']
    exact hbefore.append (hafter.cons_cons f)

/-- **Two ways to sort alike**: if the findings that `f` and `g` make of two elements are in the same
order whenever one element stands before the other, sorting arranges the elements alike, all of them
and any choice of them. -/
theorem sorted_map_alike {α : Type} {f g : α → Finding} {xs : List α}
    (h : xs.Pairwise fun x y =>
      keyLe (f x).sortKey (f y).sortKey = keyLe (g x).sortKey (g y).sortKey) :
    ∃ ys : List α, ys.Perm xs ∧ ∀ p : α → Bool,
      sorted ((xs.filter p).map f) = (ys.filter p).map f ∧
        sorted ((xs.filter p).map g) = (ys.filter p).map g := by
  induction xs with
  | nil => exact ⟨[], .nil, fun p => ⟨by simp [sorted], by simp [sorted]⟩⟩
  | cons x xs ih =>
    obtain ⟨hx, hxs⟩ := List.pairwise_cons.mp h
    obtain ⟨ys, hperm, hys⟩ := ih hxs
    have hall : sorted (xs.map f) = ys.map f := by simpa using (hys fun _ => true).1
    obtain ⟨l₁, l₂, -, hrest, h₁, h₂⟩ := sorted_cons_split (f x) (xs.map f)
    obtain ⟨y₁, y₂, rfl, rfl, rfl⟩ := List.map_eq_append_iff.mp (hall.symm.trans hrest)
    have hbefore : ∀ y ∈ y₁, keyLe (f x).sortKey (f y).sortKey = false :=
      fun y hy => h₁ _ (List.mem_map_of_mem hy)
    have hafter : ∀ y ∈ y₂, keyLe (f x).sortKey (f y).sortKey = true :=
      fun y hy => h₂ _ (List.mem_map_of_mem hy)
    have hsame : ∀ y ∈ y₁ ++ y₂,
        keyLe (g x).sortKey (g y).sortKey = keyLe (f x).sortKey (f y).sortKey :=
      fun y hy => (hx y (hperm.mem_iff.mp hy)).symm
    refine ⟨y₁ ++ x :: y₂, List.perm_middle.trans (hperm.cons x), fun p => ?_⟩
    have hy := hys p
    rw [List.filter_append, List.map_append, List.map_append] at hy
    rw [List.filter_cons, List.filter_append, List.filter_cons]
    split_ifs with hp
    · simp only [List.map_cons, List.map_append]
      refine ⟨sorted_cons_eq hy.1 ?_ ?_, sorted_cons_eq hy.2 ?_ ?_⟩
      all_goals
        intro z hz
        obtain ⟨y, hmem, rfl⟩ := List.mem_map.mp hz
        have hmem := (List.mem_filter.mp hmem).1
      · exact hbefore y hmem
      · exact hafter y hmem
      · rw [hsame y (List.mem_append_left _ hmem)]
        exact hbefore y hmem
      · rw [hsame y (List.mem_append_right _ hmem)]
        exact hafter y hmem
    · rw [List.map_append, List.map_append]
      exact hy

end Finding

/-! ### Paths -/

namespace Discovery

theorem mem_sortedSet {p : String} {ps : List String} : p ∈ sortedSet ps ↔ p ∈ ps := by
  rw [sortedSet, List.mem_eraseDups, List.mem_mergeSort]

theorem pairwise_eraseDups : ∀ {ps : List String}, ps.Pairwise (· ≤ ·) →
    ps.eraseDups.Pairwise (· < ·)
  | [], _ => by simp
  | p :: ps, h => by
    obtain ⟨hp, hps⟩ := List.pairwise_cons.mp h
    rw [List.eraseDups_cons, List.pairwise_cons]
    refine ⟨fun q hq => ?_, pairwise_eraseDups (hps.filter _)⟩
    obtain ⟨hq, hne⟩ := List.mem_filter.mp (List.mem_eraseDups.mp hq)
    exact lt_of_le_of_ne (hp q hq) fun he => by simp [he] at hne
termination_by ps => ps.length
decreasing_by exact Nat.lt_succ_of_le (List.length_filter_le _ ps)

/-- **The texts of a sorted set are strictly ascending.** -/
theorem pairwise_sortedSet (ps : List String) : (sortedSet ps).Pairwise (· < ·) := by
  refine pairwise_eraseDups ?_
  have hle : ∀ a b : String, (!decide (b < a)) = true ↔ a ≤ b := fun a b => by
    rw [Bool.not_eq_true', decide_eq_false_iff_not, not_lt]
  have h : (ps.mergeSort fun a b => !decide (b < a)).Pairwise fun a b => (!decide (b < a)) = true :=
    List.pairwise_mergeSort
      (fun a b c hab hbc => (hle a c).mpr (((hle a b).mp hab).trans ((hle b c).mp hbc)))
      (fun a b => by rw [Bool.or_eq_true, hle, hle]; exact le_total a b) ps
  exact h.imp fun {a b} hab => (hle a b).mp hab

theorem nodup_sortedSet (ps : List String) : (sortedSet ps).Nodup :=
  (pairwise_sortedSet ps).imp fun h => ne_of_lt h

/-- The set of fewer texts is a part of that of more. -/
theorem sortedSet_sublist {ps qs : List String} (h : ps ⊆ qs) :
    (sortedSet ps).Sublist (sortedSet qs) := by
  have hsub : sortedSet ps ⊆ sortedSet qs := fun p hp => mem_sortedSet.mpr (h (mem_sortedSet.mp hp))
  exact List.sublist_of_subperm_of_pairwise (List.subperm_of_subset (nodup_sortedSet ps) hsub)
    (pairwise_sortedSet ps) (pairwise_sortedSet qs)

end Discovery

end JavadocAudit
