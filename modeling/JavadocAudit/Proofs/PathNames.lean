import JavadocAudit.Path
import Mathlib.Data.List.TakeWhile
import Mathlib.Tactic.SplitIfs

/-!
# How path names are taken apart

A slash between two texts puts their components one after the other (`split_append_slash`), and a text
without slashes is one component (`split_of_noSlash`).  A name is joined to a directory with a slash, or
at once if the directory ends in one (`join_eq`); the part before the last component is empty, made of
slashes, or followed by a slash (`dirName_cases`).
-/

namespace JavadocAudit

theorem Text.closesWith_iff {ending s : String} :
    Text.closesWith ending s = true ↔ ∃ t, s = t ++ ending := by
  rw [Text.closesWith, List.isSuffixOf_iff_suffix]
  constructor
  · rintro ⟨init, h⟩
    refine ⟨String.ofList init, ?_⟩
    rw [← String.toList_inj, String.toList_append, String.toList_ofList, h]
  · rintro ⟨t, rfl⟩
    exact ⟨t.toList, String.toList_append.symm⟩

namespace Path

/-! ### Components -/

theorem splitSlashes_ne_nil (s : List Char) : splitSlashes s ≠ [] := by
  cases s with
  | nil => simp [splitSlashes]
  | cons c rest =>
    simp only [splitSlashes]
    split
    · simp
    · split_ifs <;> simp

theorem splitSlashes_append (a b : List Char) :
    splitSlashes (a ++ '/' :: b) = splitSlashes a ++ splitSlashes b := by
  induction a with
  | nil =>
    obtain ⟨first, more, h⟩ := List.exists_cons_of_ne_nil (splitSlashes_ne_nil b)
    simp [splitSlashes, h]
  | cons c rest ih =>
    obtain ⟨first, more, h⟩ := List.exists_cons_of_ne_nil (splitSlashes_ne_nil rest)
    rw [List.cons_append, splitSlashes, splitSlashes, ih, h]
    simp only [List.cons_append]
    split_ifs <;> rfl

theorem splitSlashes_of_noSlash {s : List Char} (h : '/' ∉ s) : splitSlashes s = [s] := by
  induction s with
  | nil => rfl
  | cons c rest ih =>
    rw [List.mem_cons, not_or] at h
    rw [splitSlashes, ih h.2]
    simp [Ne.symm h.1]

theorem split_ne_nil (p : String) : split p ≠ [] := by
  simp [split, splitSlashes_ne_nil]

theorem split_append_slash (p q : String) : split (p ++ "/" ++ q) = split p ++ split q := by
  have h : (p ++ "/" ++ q).toList = p.toList ++ '/' :: q.toList := by simp [String.toList_append]
  rw [split, h, splitSlashes_append, List.map_append]
  rfl

theorem split_of_noSlash {p : String} (h : '/' ∉ p.toList) : split p = [p] := by
  simp [split, splitSlashes_of_noSlash h]

theorem splitSlashes_of_slashes {s : List Char} (h : ∀ c ∈ s, c = '/') :
    ∀ x ∈ splitSlashes s, x = [] := by
  induction s with
  | nil => simp [splitSlashes]
  | cons c rest ih =>
    obtain ⟨hc, hrest⟩ := List.forall_mem_cons.mp h
    obtain ⟨first, more, hs⟩ := List.exists_cons_of_ne_nil (splitSlashes_ne_nil rest)
    have ih' := ih hrest
    rw [hs] at ih'
    rw [splitSlashes, hs, hc]
    simpa using ih'

/-- Slashes alone have empty components only. -/
theorem split_of_slashes {p : String} (h : ∀ c ∈ p.toList, c = '/') : ∀ x ∈ split p, x = "" := by
  intro x hx
  obtain ⟨y, hy, rfl⟩ := List.mem_map.mp hx
  rw [splitSlashes_of_slashes h y hy]

/-- A text shows the component before its first slash. -/
theorem first_component_inj {x y p q : String} (hx : '/' ∉ x.toList) (hy : '/' ∉ y.toList)
    (h : x ++ "/" ++ p = y ++ "/" ++ q) : x = y := by
  have := congrArg split h
  rw [split_append_slash, split_append_slash, split_of_noSlash hx, split_of_noSlash hy] at this
  exact (List.cons.inj this).1

theorem split_point : split "." = ["."] := split_of_noSlash (by decide)

theorem isAbsolute_append {p : String} (q : String) (hp : p ≠ "") :
    isAbsolute (p ++ q) = isAbsolute p := by
  have hne : p.toList ≠ [] := by simpa using hp
  obtain ⟨c, rest, h⟩ := List.exists_cons_of_ne_nil hne
  simp [isAbsolute, Text.opensWith, String.toList_append, h, List.isPrefixOf]

theorem isAbsolute_eq_false {p : String} (h : '/' ∉ p.toList) : isAbsolute p = false := by
  rw [isAbsolute, Text.opensWith, Bool.eq_false_iff]
  intro hp
  have hsub := (List.isPrefixOf_iff_prefix.mp hp).subset
  exact h (hsub (by simp))

/-! ### Joining a name to a directory -/

/-- What stands before the names in a directory: its path name with a slash at the end. -/
def stem (p : String) : String := if Text.closesWith "/" p then p else p ++ "/"

theorem join_eq {p name : String} (hp : p ≠ "") (hn : '/' ∉ name.toList) :
    join p name = stem p ++ name := by
  unfold join stem
  rw [isAbsolute_eq_false hn, if_neg (by simp)]
  by_cases h : Text.closesWith "/" p = true <;> simp [h, hp]

theorem stem_cases (p : String) : ∃ q, stem p = q ++ "/" ∧ (p = q ∨ p = q ++ "/") := by
  unfold stem
  split_ifs with h
  · obtain ⟨q, hq⟩ := Text.closesWith_iff.mp h
    exact ⟨q, hq, Or.inr hq⟩
  · exact ⟨p, rfl, Or.inl rfl⟩

theorem stem_of_join {p name : String} (hp : p ≠ "") (hne : name ≠ "") (hn : '/' ∉ name.toList) :
    stem (join p name) = stem p ++ name ++ "/" := by
  rw [join_eq hp hn, stem, if_neg]
  intro h
  obtain ⟨init, hinit⟩ := Text.closesWith_iff.mp h
  have hend : name.toList.getLast? = some '/' := by
    have := congrArg (·.toList.getLast?) hinit
    simpa [String.toList_append, hne] using this
  exact hn (List.mem_of_getLast? hend)

theorem join_ne_empty {p name : String} (hp : p ≠ "") (hn : '/' ∉ name.toList) : join p name ≠ "" := by
  obtain ⟨q, hq, -⟩ := stem_cases p
  rw [join_eq hp hn, hq]
  simp

theorem isAbsolute_join {p name : String} (hp : p ≠ "") (hn : '/' ∉ name.toList) :
    isAbsolute (join p name) = isAbsolute p := by
  obtain ⟨q, hq, rfl | rfl⟩ := stem_cases p
  · rw [join_eq hp hn, hq, String.append_assoc, isAbsolute_append _ hp]
  · rw [join_eq hp hn, hq, isAbsolute_append _ hp]

theorem holds_join {c : Char} {p name : String} (hp : p ≠ "") (hn : '/' ∉ name.toList) (hc : c ≠ '/') :
    Text.holds c (join p name) = (Text.holds c p || Text.holds c name) := by
  obtain ⟨q, hq, rfl | rfl⟩ := stem_cases p <;>
    rw [join_eq hp hn, hq] <;> simp [Text.holds, String.toList_append, hc]

/-- The components of a joined path name are those of the directory, less an empty one at its end, and
the name. -/
theorem split_join {p name : String} (hp : p ≠ "") (hn : '/' ∉ name.toList) :
    ∃ xs, split (join p name) = xs ++ [name] ∧ (split p = xs ∨ split p = xs ++ [""]) := by
  obtain ⟨q, hq, h⟩ := stem_cases p
  refine ⟨split q, by rw [join_eq hp hn, hq, split_append_slash, split_of_noSlash hn], ?_⟩
  rcases h with rfl | rfl
  · exact Or.inl rfl
  · have := split_append_slash q ""
    rw [String.append_empty, split_of_noSlash (p := "") (by simp)] at this
    exact Or.inr this

/-! ### The part before the last component -/

/-- The slashes at the front of a text that begins with one. -/
theorem takeWhile_slashes {s : List Char} (hne : s ≠ []) (hfirst : s.head hne = '/') :
    ∃ k, s.takeWhile (· == '/') = List.replicate (k + 1) '/' := by
  have hpos : 0 < (s.takeWhile (· == '/')).length := by
    obtain ⟨c, rest, hc⟩ := List.exists_cons_of_ne_nil hne
    have hc' : c = '/' := by simpa [hc] using hfirst
    simp [hc, hc']
  refine ⟨(s.takeWhile (· == '/')).length - 1, List.eq_replicate_iff.mpr ⟨by omega, ?_⟩⟩
  intro c hc
  simpa using List.mem_takeWhile_imp hc

/-- The part before the last component is empty, made of slashes, or followed by a slash. -/
theorem dirName_cases (p : String) :
    (dirName p = "" ∧ '/' ∉ p.toList) ∨
      (dirName p ≠ "" ∧ (∀ c ∈ (dirName p).toList, c = '/') ∧ ∃ q, p = dirName p ++ q) ∨
      (dirName p ≠ "" ∧ ∃ q, p = dirName p ++ "/" ++ q) := by
  set head := p.toList.reverse.dropWhile (· != '/') with hhead
  set trimmed := head.dropWhile (· == '/') with htrimmed
  obtain ⟨base, hp⟩ : ∃ base, p.toList = head.reverse ++ base :=
    ⟨(p.toList.reverse.takeWhile (· != '/')).reverse, by
      rw [hhead, ← List.reverse_append, List.takeWhile_append_dropWhile, List.reverse_reverse]⟩
  have hdir : dirName p = String.ofList (if trimmed.isEmpty then head.reverse else trimmed.reverse) :=
    rfl
  by_cases ht : trimmed = []
  · rw [ht, List.isEmpty_nil, if_pos rfl] at hdir
    have hall : ∀ c ∈ head, c = '/' := by simpa [htrimmed] using ht
    by_cases hh : head = []
    · have hno : ∀ c ∈ p.toList, c ≠ '/' := by simpa [hhead] using hh
      exact Or.inl ⟨by rw [hdir, hh]; rfl, fun h => hno _ h rfl⟩
    · refine Or.inr (Or.inl ⟨by simpa [hdir] using hh, by simpa [hdir] using hall,
        String.ofList base, ?_⟩)
      rw [← String.toList_inj, String.toList_append, hdir, String.toList_ofList, String.toList_ofList]
      exact hp
  · rw [if_neg (by simpa using ht)] at hdir
    have hne : head ≠ [] := fun h => ht (by rw [htrimmed, h]; rfl)
    have hfirst : head.head hne = '/' := by simpa using List.head_dropWhile_not (· != '/') hne
    -- at least one slash was trimmed
    obtain ⟨k, hk⟩ := takeWhile_slashes hne hfirst
    have hhead' : head.reverse = trimmed.reverse ++ '/' :: List.replicate k '/' := by
      rw [← List.takeWhile_append_dropWhile (p := (· == '/')) (l := head), List.reverse_append, hk,
        List.reverse_replicate, List.replicate_succ]
    refine Or.inr (Or.inr ⟨by simpa [hdir] using ht, String.ofList (List.replicate k '/' ++ base), ?_⟩)
    rw [← String.toList_inj, hp, hhead', hdir]
    simp [String.toList_append]

end Path

end JavadocAudit
