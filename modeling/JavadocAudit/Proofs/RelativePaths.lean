import JavadocAudit.Finding
import JavadocAudit.Proofs.PathNames
import Mathlib.Data.List.Induction

/-!
# Relative paths lead back

The components of an absolute path name are plain names (`plain_of_mem_components`).  To go on from a
directory is to climb along the components of the rest (`components_append_slash`): two points for each
component to be left take these back (`foldl_climb_points`), and plain names are put behind what remains
(`foldl_climb_plain`).  `way_cases` says what the way from one directory to another looks like; it leaves
exactly what the two do not have in common (`stripCommon_spec`).  So a path that is shown relative to a
directory leads from there to the place that the path names (`displayPath_leads_back`).
-/

namespace JavadocAudit.Path

/-- A component that names something: none of the points, and not empty. -/
structure Plain (c : String) : Prop where
  ne_empty : c ≠ ""
  ne_point : c ≠ "."
  ne_points : c ≠ ".."
  noSlash : '/' ∉ c.toList

/-- `common` is the longest list with which both `as` and `bs` begin. -/
structure LongestCommon (as bs common : List String) : Prop where
  left : common <+: as
  right : common <+: bs
  longest : ∀ other, other <+: as → other <+: bs → other <+: common

/-! ### Components without slashes -/

theorem noSlash_of_mem_splitSlashes {s x : List Char} (h : x ∈ splitSlashes s) : '/' ∉ x := by
  induction s generalizing x with
  | nil =>
    obtain rfl : x = [] := by simpa [splitSlashes] using h
    exact List.not_mem_nil
  | cons c rest ih =>
    obtain ⟨first, more, hs⟩ := List.exists_cons_of_ne_nil (splitSlashes_ne_nil rest)
    rw [hs] at ih
    rw [splitSlashes, hs] at h
    simp only [beq_iff_eq] at h
    split_ifs at h with hc
    · rcases List.mem_cons.mp h with rfl | hx
      · exact List.not_mem_nil
      · exact ih hx
    · rcases List.mem_cons.mp h with rfl | hx
      · rw [List.mem_cons, not_or]
        exact ⟨Ne.symm hc, ih List.mem_cons_self⟩
      · exact ih (List.mem_cons_of_mem _ hx)

theorem noSlash_of_mem_split {p c : String} (h : c ∈ split p) : '/' ∉ c.toList := by
  obtain ⟨x, hx, rfl⟩ := List.mem_map.mp h
  rw [String.toList_ofList]
  exact noSlash_of_mem_splitSlashes hx

/-- Components that are put together are found again. -/
theorem split_ofComponents {cs : List String} (hne : cs ≠ []) (h : ∀ c ∈ cs, '/' ∉ c.toList) :
    split (ofComponents cs) = cs := by
  induction cs with
  | nil => exact absurd rfl hne
  | cons c rest ih =>
    obtain ⟨hc, hrest⟩ := List.forall_mem_cons.mp h
    unfold ofComponents at ih ⊢
    by_cases hnil : rest = []
    · rw [hnil, String.intercalate_singleton, split_of_noSlash hc]
    · rw [String.intercalate_cons_of_ne_nil hnil, split_append_slash, split_of_noSlash hc,
        ih hnil hrest, List.singleton_append]

/-- A path name without empty components is not empty and does not begin at the root. -/
theorem not_isAbsolute_of_split {p : String} (h : "" ∉ split p) : p ≠ "" ∧ isAbsolute p = false := by
  constructor
  · rintro rfl
    exact h (by simp [split, splitSlashes])
  · rw [isAbsolute, Text.opensWith, Bool.eq_false_iff]
    intro hp
    obtain ⟨rest, hrest⟩ := List.isPrefixOf_iff_prefix.mp hp
    have hsplit : splitSlashes p.toList = [] :: splitSlashes rest := by
      rw [← hrest]
      exact splitSlashes_append [] rest
    refine h ?_
    rw [split, hsplit]
    exact List.mem_cons_self

/-! ### Climbing -/

theorem climb_of_plain {c : String} (hc : Plain c) (done : List String) :
    climb done c = done ++ [c] := by
  simp [climb, hc.ne_empty, hc.ne_point, hc.ne_points]

theorem foldl_climb_plain {cs : List String} (h : ∀ c ∈ cs, Plain c) (done : List String) :
    cs.foldl climb done = done ++ cs := by
  induction cs generalizing done with
  | nil => rw [List.foldl_nil, List.append_nil]
  | cons c rest ih =>
    obtain ⟨hc, hrest⟩ := List.forall_mem_cons.mp h
    rw [List.foldl_cons, climb_of_plain hc, ih hrest, List.append_assoc, List.singleton_append]

theorem foldl_climb_points (done up : List String) :
    (List.replicate up.length "..").foldl climb (done ++ up) = done := by
  induction up using List.reverseRecOn with
  | nil => rw [List.append_nil]; rfl
  | append_singleton init last ih =>
    have hback : climb (done ++ (init ++ [last])) ".." = done ++ init := by
      rw [← List.append_assoc]
      simp [climb]
    rw [List.length_append, List.length_singleton, List.replicate_succ, List.foldl_cons, hback, ih]

theorem plain_climb {done : List String} {c : String} (hdone : ∀ x ∈ done, Plain x)
    (hc : '/' ∉ c.toList) : ∀ x ∈ climb done c, Plain x := by
  unfold climb
  split_ifs with hskip hback
  · exact hdone
  · exact fun x hx => hdone x (List.dropLast_subset _ hx)
  · have hplain : Plain c := ⟨by simp_all, by simp_all, by simpa using hback, hc⟩
    intro x hx
    rcases List.mem_append.mp hx with hx | hx
    · exact hdone x hx
    · rwa [List.mem_singleton.mp hx]

/-- **The components of an absolute path name are plain.**  Climbing along components without slashes
keeps what was reached plain. -/
theorem plain_of_mem_components {p c : String} (h : c ∈ components p) : Plain c := by
  have hrun : ∀ cs done : List String, (∀ x ∈ cs, '/' ∉ x.toList) → (∀ x ∈ done, Plain x) →
      ∀ x ∈ cs.foldl climb done, Plain x := by
    intro cs
    induction cs with
    | nil => exact fun done _ hdone => hdone
    | cons c rest ih =>
      intro done hcs hdone
      obtain ⟨hc, hrest⟩ := List.forall_mem_cons.mp hcs
      exact ih (climb done c) hrest (plain_climb hdone hc)
  exact hrun (split p) [] (fun x hx => noSlash_of_mem_split hx) (by simp) c h

theorem components_append_slash (p q : String) :
    components (p ++ "/" ++ q) = (split q).foldl climb (components p) := by
  rw [components, split_append_slash, List.foldl_append, components]

/-! ### The way from one directory to another -/

theorem stripCommon_spec (as bs : List String) : ∃ common, as = common ++ (stripCommon as bs).1 ∧
    bs = common ++ (stripCommon as bs).2 ∧ LongestCommon as bs common := by
  fun_induction stripCommon as bs with
  | case1 a as b bs h ih =>
    obtain rfl : a = b := by simpa using h
    obtain ⟨common, has, hbs, hlongest⟩ := ih
    refine ⟨a :: common, by rw [List.cons_append, ← has], by rw [List.cons_append, ← hbs],
      List.cons_prefix_cons.mpr ⟨rfl, hlongest.left⟩, List.cons_prefix_cons.mpr ⟨rfl, hlongest.right⟩, ?_⟩
    rintro (_ | ⟨x, other⟩) hleft hright
    · exact List.nil_prefix
    · obtain ⟨rfl, has'⟩ := List.cons_prefix_cons.mp hleft
      have hbs' := (List.cons_prefix_cons.mp hright).2
      exact List.cons_prefix_cons.mpr ⟨rfl, hlongest.longest other has' hbs'⟩
  | case2 a as b bs h =>
    refine ⟨[], rfl, rfl, List.nil_prefix, List.nil_prefix, ?_⟩
    rintro (_ | ⟨x, other⟩) hleft hright
    · exact List.nil_prefix
    · -- both lists would begin with `x`
      obtain ⟨rfl, -⟩ := List.cons_prefix_cons.mp hleft
      obtain ⟨rfl, -⟩ := List.cons_prefix_cons.mp hright
      simp at h
  | case3 as bs h =>
    refine ⟨[], rfl, rfl, List.nil_prefix, List.nil_prefix, ?_⟩
    rintro (_ | ⟨x, other⟩) hleft hright
    · exact List.nil_prefix
    · obtain ⟨as', rfl⟩ := hleft
      obtain ⟨bs', rfl⟩ := hright
      exact absurd rfl (h x _ x _ rfl)

/-- What two lists do not have in common is empty on both sides exactly if they are equal. -/
theorem LongestCommon.eq_iff {as bs common up down : List String} (h : LongestCommon as bs common)
    (has : as = common ++ up) (hbs : bs = common ++ down) : bs = as ↔ up = [] ∧ down = [] := by
  constructor
  · intro heq
    -- the whole list is a common beginning
    have hall : as <+: common := h.longest as List.prefix_rfl (heq ▸ List.prefix_rfl)
    have hcommon : common = as := h.left.eq_of_length_le hall.length_le
    subst hcommon
    exact ⟨by simpa using has, by simpa [heq] using hbs⟩
  · rintro ⟨rfl, rfl⟩
    rw [has, hbs]

/-- **What a way looks like**: a point if nothing is left of both places, and otherwise two points for
each component of the start that is not in common, and then the rest of the target. -/
theorem way_cases (start : List String) {target : List String} (htarget : ∀ c ∈ target, '/' ∉ c.toList) :
    ∃ common up down, start = common ++ up ∧ target = common ++ down ∧
      LongestCommon start target common ∧
      ((up = [] ∧ down = [] ∧ way start target = ".") ∨
        (¬ (up = [] ∧ down = []) ∧
          split (way start target) = List.replicate up.length ".." ++ down)) := by
  obtain ⟨common, hstart, hdown, hlongest⟩ := stripCommon_spec start target
  generalize hup : (stripCommon start target).1 = up at hstart
  generalize hrest : (stripCommon start target).2 = down at hdown
  refine ⟨common, up, down, hstart, hdown, hlongest, ?_⟩
  have hway : way start target = if List.replicate up.length ".." ++ down = [] then "."
      else ofComponents (List.replicate up.length ".." ++ down) := by
    rw [← List.map_const', ← hup, ← hrest, way]
    split
    next hstrip =>
      rw [hstrip]
      split
      · next hnone => rw [if_pos hnone]
      · next hsome => rw [if_neg hsome]
  by_cases hnil : up = [] ∧ down = []
  · obtain ⟨rfl, rfl⟩ := hnil
    exact .inl ⟨rfl, rfl, hway⟩
  · have hsteps : List.replicate up.length ".." ++ down ≠ [] := by simpa using hnil
    have hjoined : way start target = ofComponents (List.replicate up.length ".." ++ down) := by
      rw [hway, if_neg hsteps]
    refine .inr ⟨hnil, ?_⟩
    rw [hjoined, split_ofComponents hsteps]
    intro c hc
    rcases List.mem_append.mp hc with hc | hc
    · rw [List.eq_of_mem_replicate hc]
      decide
    · exact htarget c (by rw [hdown]; exact List.mem_append_right _ hc)

section Way

variable (start : List String) {target : List String} (h : ∀ c ∈ target, Plain c)
include h

theorem way_noEmpty : "" ∉ split (way start target) := by
  obtain ⟨common, up, down, -, hdown, -, ⟨-, -, hpoint⟩ | ⟨-, hsplit⟩⟩ :=
    way_cases start fun c hc => (h c hc).noSlash
  · rw [hpoint, split_point]
    decide
  · rw [hsplit, List.mem_append, not_or]
    refine ⟨fun hmem => absurd (List.eq_of_mem_replicate hmem) (by decide), fun hmem => ?_⟩
    exact (h "" (by rw [hdown]; exact List.mem_append_right _ hmem)).ne_empty rfl

/-- **A way leads from its start to its target.** -/
theorem foldl_climb_way : (split (way start target)).foldl climb start = target := by
  obtain ⟨common, up, down, hup, hdown, -, ⟨rfl, rfl, hpoint⟩ | ⟨-, hsplit⟩⟩ :=
    way_cases start fun c hc => (h c hc).noSlash
  · rw [hpoint, split_point, hup, hdown]
    simp [climb]
  · have hplain : ∀ c ∈ down, Plain c := fun c hc =>
      h c (by rw [hdown]; exact List.mem_append_right _ hc)
    rw [hsplit, List.foldl_append, hup, foldl_climb_points, foldl_climb_plain hplain, hdown]

end Way

/-! ### Paths that are shown -/

/-- **A path that is shown relative to a directory leads back.**  For an absolute path and an absolute
directory, what is shown is not empty and does not begin at the root.  It is a point if the two are one
place; otherwise it has two points for each component of the directory behind the longest common
beginning, and then the components of the path behind it, all of them plain.  Seen from the directory, it
has the components of the path. -/
theorem displayPath_leads_back (cwd start p : String) (hstart : isAbsolute start = true)
    (hp : isAbsolute p = true) :
    Finding.displayPath cwd start true p ≠ "" ∧
    isAbsolute (Finding.displayPath cwd start true p) = false ∧
    (∃ common, LongestCommon (components start) (components p) common ∧
      (components p = components start → Finding.displayPath cwd start true p = ".") ∧
      (components p ≠ components start → split (Finding.displayPath cwd start true p) =
        List.replicate ((components start).length - common.length) ".." ++
          (components p).drop common.length) ∧
      ∀ c ∈ (components p).drop common.length, Plain c) ∧
    components (start ++ "/" ++ Finding.displayPath cwd start true p) = components p := by
  have hshown : Finding.displayPath cwd start true p = way (components start) (components p) := by
    simp only [Finding.displayPath, hp, Bool.and_true, if_true, relativeTo, absoluteComponents, join,
      hstart]
  have hplain : ∀ c ∈ components p, Plain c := fun c hc => plain_of_mem_components hc
  obtain ⟨common, up, down, hup, hdown, hlongest, hway⟩ :=
    way_cases (components start) fun c hc => (hplain c hc).noSlash
  have hlength : (components start).length - common.length = up.length := by
    rw [hup, List.length_append, Nat.add_sub_cancel_left]
  have hdrop : (components p).drop common.length = down := by rw [hdown, List.drop_left]
  have hsame := hlongest.eq_iff hup hdown
  obtain ⟨hne, hrelative⟩ := not_isAbsolute_of_split (way_noEmpty (components start) hplain)
  rw [components_append_slash, hshown]
  refine ⟨hne, hrelative, ⟨common, hlongest, fun h => ?_, fun h => ?_, fun c hc => ?_⟩,
    foldl_climb_way _ hplain⟩
  · rcases hway with ⟨-, -, hpoint⟩ | ⟨hnil, -⟩
    · exact hpoint
    · exact absurd (hsame.mp h) hnil
  · rcases hway with ⟨hup', hdown', -⟩ | ⟨-, hsplit⟩
    · exact absurd (hsame.mpr ⟨hup', hdown'⟩) h
    · rw [hsplit, hlength, hdrop]
  · exact hplain c (List.mem_of_mem_drop hc)

/-- Two points go past the root, a slash is repeated, and the directory ends in one. -/
theorem displayPath_past_root :
    isAbsolute "/a//d/e/../f/" = true ∧ isAbsolute "/../a/./b/../c/D.java" = true ∧
      Finding.displayPath "/" "/a//d/e/../f/" true "/../a/./b/../c/D.java" = "../../c/D.java" ∧
      components ("/a//d/e/../f/" ++ "/" ++
        Finding.displayPath "/" "/a//d/e/../f/" true "/../a/./b/../c/D.java") =
          components "/../a/./b/../c/D.java" := by
  have hstart : isAbsolute "/a//d/e/../f/" = true := by decide
  have hp : isAbsolute "/../a/./b/../c/D.java" = true := by decide
  exact ⟨hstart, hp, by decide +kernel, (displayPath_leads_back "/" _ _ hstart hp).2.2.2⟩

end JavadocAudit.Path
