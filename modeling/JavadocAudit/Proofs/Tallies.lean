import JavadocAudit.Proofs.Surfaces
import Mathlib.Algebra.GroupWithZero.Nat
import Mathlib.Data.Finset.Card

/-!
# Summaries count findings

A table of counts is built by adding one key after the other.  `Tally.Counts` says what the table of a list
of keys is: its keys ascend, they are those of the list, and each of them stands with the number of times
that it occurs.  Adding a key keeps this true (`Counts.add`), so it holds of the whole list
(`counts_ofList`), and it determines the table (`Counts.unique`).

Hence the summary of a report depends on which findings there are and not on their order, and the counts of
two reports add up (`Summary.ofReport_counts`).
-/

namespace JavadocAudit

namespace Tally

/-- The keys of a table. -/
def keys (t : Tally) : List String := t.map (·.1)

/-- **What the table of a list of keys is.** -/
structure Counts (list : List String) (t : Tally) : Prop where
  ascending : t.keys.Pairwise (· < ·)
  mem_keys : ∀ k, k ∈ t.keys ↔ k ∈ list
  count : ∀ k, t.count k = list.count k

/-! ### Adding a key -/

theorem keys_cons (e : String × Nat) (t : Tally) : keys (e :: t) = e.1 :: t.keys := rfl

theorem count_cons (k : String) (n : Nat) (t : Tally) (key : String) :
    count ((k, n) :: t) key = if key = k then n else t.count key := by
  by_cases h : key = k
  · subst h
    rw [if_pos rfl, count, List.lookup_cons_self, Option.getD_some]
  · rw [if_neg h, count, List.lookup_cons, beq_eq_false_iff_ne.mpr h, count]

theorem count_eq_zero {t : Tally} {key : String} (h : key ∉ t.keys) : t.count key = 0 := by
  induction t with
  | nil => rfl
  | cons e rest ih =>
    obtain ⟨k, n⟩ := e
    rw [keys_cons, List.mem_cons, not_or] at h
    rw [count_cons, if_neg h.1, ih h.2]

variable {key : String} {t : Tally}

theorem mem_iff_of_nodup {k : String} {n : Nat} (h : t.keys.Nodup) :
    (k, n) ∈ t ↔ k ∈ t.keys ∧ n = t.count k := by
  induction t with
  | nil => simp [keys]
  | cons e rest ih =>
    obtain ⟨k', m⟩ := e
    obtain ⟨hnew, hrest⟩ := List.nodup_cons.mp h
    have hrest := ih hrest
    rw [List.mem_cons, hrest, keys_cons, List.mem_cons, count_cons, Prod.mk.injEq]
    by_cases hk : k = k'
    · subst hk
      have hnot : k ∉ keys rest := hnew
      simp [hnot]
    · simp [hk]

theorem mem_keys_add {k : String} : k ∈ (add key t).keys ↔ k = key ∨ k ∈ t.keys := by
  fun_induction add key t with
  | case1 => simp [keys]
  | case2 k' n rest h =>
    have heq : key = k' := beq_iff_eq.mp h
    simp only [keys_cons, List.mem_cons, heq, or_self_left]
  | case3 k' n rest h hlt => simp only [keys_cons, List.mem_cons]
  | case4 k' n rest h hlt ih =>
    simp only [keys_cons, List.mem_cons, ih]
    exact or_left_comm

theorem ascending_add (h : t.keys.Pairwise (· < ·)) : (add key t).keys.Pairwise (· < ·) := by
  fun_induction add key t with
  | case1 => exact List.pairwise_singleton _ _
  | case2 k' n rest heq => exact h
  | case3 k' n rest hne hlt =>
    have hrest : ∀ k ∈ keys rest, k' < k := (List.pairwise_cons.mp h).1
    refine List.pairwise_cons.mpr ⟨fun k hk => ?_, h⟩
    rcases List.mem_cons.mp hk with rfl | hk
    · exact hlt
    · exact hlt.trans (hrest k hk)
  | case4 k' n rest hne hlt ih =>
    obtain ⟨hfirst, hrest⟩ := List.pairwise_cons.mp h
    have hkey : k' < key := lt_of_le_of_ne (not_lt.mp hlt) fun heq => hne (beq_iff_eq.mpr heq.symm)
    refine List.pairwise_cons.mpr ⟨fun k hk => ?_, ih hrest⟩
    rcases mem_keys_add.mp hk with rfl | hk
    · exact hkey
    · exact hfirst k hk

theorem count_add (h : t.keys.Pairwise (· < ·)) (k : String) :
    (add key t).count k = t.count k + if k = key then 1 else 0 := by
  fun_induction add key t with
  | case1 => rw [count_cons]; split <;> rfl
  | case2 k' n rest heq =>
    obtain rfl : key = k' := beq_iff_eq.mp heq
    rw [count_cons, count_cons]
    split <;> rfl
  | case3 k' n rest hne hlt =>
    rw [count_cons]
    split
    · next hk =>
      -- the key is smaller than all keys of the table, so it is new
      have hnew : key ∉ keys ((k', n) :: rest) := by
        intro hmem
        rcases List.mem_cons.mp hmem with heq | hmem
        · exact absurd hlt (heq ▸ lt_irrefl _)
        · exact absurd (hlt.trans ((List.pairwise_cons.mp h).1 key hmem)) (lt_irrefl _)
      rw [hk, count_eq_zero hnew]
    · rfl
  | case4 k' n rest hne hlt ih =>
    rw [count_cons, count_cons, ih (List.pairwise_cons.mp h).2]
    split
    · next hk =>
      have hkey : k ≠ key := by
        rintro rfl
        exact hne (beq_iff_eq.mpr hk)
      rw [if_neg hkey, Nat.add_zero]
    · rfl

theorem sum_add : ((add key t).map (·.2)).sum = (t.map (·.2)).sum + 1 := by
  fun_induction add key t with
  | case1 => rfl
  | case2 k' n rest heq => simp only [List.map_cons, List.sum_cons]; omega
  | case3 k' n rest hne hlt => simp only [List.map_cons, List.sum_cons]; omega
  | case4 k' n rest hne hlt ih => simp only [List.map_cons, List.sum_cons, ih]; omega

/-- One step: the table of a list, with one more key. -/
theorem Counts.add {list : List String} (h : Counts list t) : Counts (list ++ [key]) (add key t) where
  ascending := ascending_add h.ascending
  mem_keys k := by rw [mem_keys_add, h.mem_keys, List.mem_append, List.mem_singleton, or_comm]
  count k := by
    rw [count_add h.ascending, h.count, List.count_append, List.count_singleton]
    simp only [beq_iff_eq, @eq_comm _ k key]

/-! ### The table of a list -/

theorem ofList_append_singleton (list : List String) : ofList (list ++ [key]) = add key (ofList list) := by
  rw [ofList, List.foldl_append]
  rfl

theorem counts_ofList (list : List String) : Counts list (ofList list) := by
  induction list using List.reverseRecOn with
  | nil => exact ⟨.nil, fun _ => Iff.rfl, fun _ => rfl⟩
  | append_singleton list key ih =>
    rw [ofList_append_singleton]
    exact ih.add

theorem sum_ofList (list : List String) : ((ofList list).map (·.2)).sum = list.length := by
  induction list using List.reverseRecOn with
  | nil => rfl
  | append_singleton list key ih =>
    rw [ofList_append_singleton, sum_add, ih, List.length_append, List.length_singleton]

namespace Counts

variable {list list' : List String} {t' : Tally}

theorem nodup_keys (h : Counts list t) : t.keys.Nodup := h.ascending.imp fun hlt => ne_of_lt hlt

/-- A key stands with the number of its occurrences. -/
theorem mem_iff (h : Counts list t) {k : String} {n : Nat} :
    (k, n) ∈ t ↔ k ∈ list ∧ n = list.count k := by
  rw [← h.mem_keys, ← h.count, mem_iff_of_nodup h.nodup_keys]

/-- The keys of a list in any order give one table. -/
theorem unique (h : Counts list t) (h' : Counts list' t') (hperm : list.Perm list') : t = t' := by
  have hmem : ∀ e, e ∈ t ↔ e ∈ t' := by
    rintro ⟨k, n⟩
    rw [h.mem_iff, h'.mem_iff, hperm.mem_iff, hperm.count_eq]
  have hsorted : t.Pairwise fun a b => a.1 < b.1 := List.pairwise_map.mp h.ascending
  have hsorted' : t'.Pairwise fun a b => a.1 < b.1 := List.pairwise_map.mp h'.ascending
  refine List.Perm.eq_of_pairwise (fun a b _ _ hab hba => absurd (hab.trans hba) (lt_irrefl _))
    hsorted hsorted' ?_
  exact (List.perm_ext_iff_of_nodup h.nodup_keys.of_map h'.nodup_keys.of_map).mpr hmem

theorem isEmpty_eq (h : Counts list t) : t.isEmpty = list.isEmpty := by
  rw [Bool.eq_iff_iff, List.isEmpty_iff, List.isEmpty_iff, ← List.map_eq_nil_iff (f := (·.1)),
    List.eq_nil_iff_forall_not_mem, List.eq_nil_iff_forall_not_mem]
  exact forall_congr' fun k => not_congr (h.mem_keys k)

theorem length_eq (h : Counts list t) : t.length = list.toFinset.card := by
  have hkeys : t.keys.toFinset = list.toFinset := by
    ext k
    rw [List.mem_toFinset, List.mem_toFinset, h.mem_keys]
  rw [← hkeys, List.toFinset_card_of_nodup h.nodup_keys, keys, List.length_map]

end Counts

end Tally

/-! ### How texts begin -/

theorem Text.opensWith_append (opening s : String) : opensWith opening (opening ++ s) = true := by
  rw [opensWith, List.isPrefixOf_iff_prefix, String.toList_append]
  exact List.prefix_append _ _

/-- Two texts neither of which begins with the other begin differently, whatever follows. -/
theorem Text.opensWith_append_eq_false {opening s : String} (h : opensWith opening s = false)
    (h' : opensWith s opening = false) (more : String) : opensWith opening (s ++ more) = false := by
  rw [← Bool.not_eq_true, opensWith, List.isPrefixOf_iff_prefix] at h h' ⊢
  rw [String.toList_append]
  intro hmore
  rcases List.prefix_or_prefix_of_prefix hmore (List.prefix_append _ _) with hle | hle
  · exact h hle
  · exact h' hle

/-! ### The summary of a report -/

theorem ConstructKind.name_inj {a b : ConstructKind} : a.name = b.name ↔ a = b := by
  refine ⟨fun h => ?_, fun h => h ▸ rfl⟩
  have ha := a.ofName?_name
  rw [h, b.ofName?_name] at ha
  exact (Option.some.inj ha).symm

namespace Summary

/-- **A table counts findings by a key**: its keys ascend, they are those of the findings, and each of them
stands with the number of findings that have it. -/
structure CountsBy (key : Finding → String) (findings : List Finding) (t : Tally) : Prop where
  ascending : (t.map (·.1)).Pairwise (· < ·)
  keys : ∀ k, k ∈ t.map (·.1) ↔ ∃ f ∈ findings, key f = k
  entries : ∀ k n, (k, n) ∈ t → n = (findings.filter fun f => key f = k).length
  sum : (t.map (·.2)).sum = findings.length

theorem count_map (key : Finding → String) (findings : List Finding) (k : String) :
    (findings.map key).count k = (findings.filter fun f => key f = k).length := by
  rw [List.count_eq_countP, List.countP_map, List.countP_eq_length_filter]
  rfl

theorem countsBy_ofList (key : Finding → String) (findings : List Finding) :
    CountsBy key findings (Tally.ofList (findings.map key)) := by
  have h := Tally.counts_ofList (findings.map key)
  refine ⟨h.ascending, fun k => ?_, fun k n hmem => ?_, ?_⟩
  · exact (h.mem_keys k).trans List.mem_map
  · rw [(h.mem_iff.mp hmem).2, count_map]
  · rw [Tally.sum_ofList, List.length_map]

theorem ofReport_perm {r : Report} {findings : List Finding} (h : findings.Perm r.findings) :
    ofReport { r with findings := findings } = ofReport r := by
  have htable : ∀ key : Finding → String,
      Tally.ofList (findings.map key) = Tally.ofList (r.findings.map key) := fun key =>
    (Tally.counts_ofList _).unique (Tally.counts_ofList _) (h.map key)
  simp only [ofReport, h.length_eq, htable]

theorem count_ofList_append (key : Finding → String) (fs gs : List Finding) (k : String) :
    (Tally.ofList ((fs ++ gs).map key)).count k =
      (Tally.ofList (fs.map key)).count k + (Tally.ofList (gs.map key)).count k := by
  simp only [(Tally.counts_ofList _).count, List.map_append, List.count_append]

/-- The line with the totals. -/
def totalsLine (r : Report) : String :=
  "Checked " ++ toString r.files.length ++ " files: " ++ toString r.findings.length ++ " missing, " ++
    toString r.errors.length ++ " unparseable"

/-- The line with the numbers of findings of each kind. -/
def kindsLine (r : Report) : String :=
  "  By kind: " ++ ", ".intercalate ((ofReport r).perKind.map entryText)

/-- The line with the number of files that have findings. -/
def filesLine (r : Report) : String :=
  "  Files with findings: " ++ toString (r.findings.map (·.path)).toFinset.card

theorem lines_ofReport (r : Report) : (ofReport r).lines =
    totalsLine r :: if r.findings = [] then [] else [kindsLine r, filesLine r] := by
  have hkinds := Tally.counts_ofList (r.findings.map (·.kind.name))
  have hfiles := Tally.counts_ofList (r.findings.map (·.path))
  unfold lines ofReport
  simp only [hkinds.isEmpty_eq, hfiles.isEmpty_eq, hfiles.length_eq, List.isEmpty_iff, List.map_eq_nil_iff]
  split
  · rfl
  · rfl

theorem mem_lines_iff {r : Report} {line : String} : line ∈ (ofReport r).lines ↔
    line = totalsLine r ∨ r.findings ≠ [] ∧ (line = kindsLine r ∨ line = filesLine r) := by
  rw [lines_ofReport, List.mem_cons]
  by_cases h : r.findings = []
  · rw [if_pos h]
    simp only [List.not_mem_nil, or_false, h, ne_eq, not_true_eq_false, false_and]
  · rw [if_neg h]
    simp only [List.mem_cons, List.not_mem_nil, or_false, h, ne_eq, not_false_eq_true, true_and]

/-- Each line is told apart from the others by how it begins. -/
theorem opensWith_lines (r : Report) :
    (Text.opensWith "  By kind: " (totalsLine r) = false ∧
      Text.opensWith "  By kind: " (kindsLine r) = true) ∧
    Text.opensWith "  Files with findings: " (totalsLine r) = false ∧
    Text.opensWith "  Files with findings: " (kindsLine r) = false ∧
    Text.opensWith "  Files with findings: " (filesLine r) = true := by
  obtain ⟨more, hmore⟩ : ∃ more, totalsLine r = "Checked " ++ more := by
    simp only [totalsLine, String.append_assoc]
    exact ⟨_, rfl⟩
  rw [hmore]
  refine ⟨⟨?_, ?_⟩, ?_, ?_, ?_⟩
  · exact Text.opensWith_append_eq_false (by decide) (by decide) more
  · exact Text.opensWith_append _ _
  · exact Text.opensWith_append_eq_false (by decide) (by decide) more
  · exact Text.opensWith_append_eq_false (by decide) (by decide) _
  · exact Text.opensWith_append _ _

theorem exists_line_iff {r : Report} {opening line : String}
    (htotals : Text.opensWith opening (totalsLine r) = false)
    (hline : line = kindsLine r ∨ line = filesLine r) (hopens : Text.opensWith opening line = true) :
    (∃ line ∈ (ofReport r).lines, Text.opensWith opening line = true) ↔ 0 < (ofReport r).total := by
  have hpos : 0 < (ofReport r).total ↔ r.findings ≠ [] := List.length_pos_iff
  rw [hpos]
  constructor
  · rintro ⟨other, hother, hopens'⟩
    rcases mem_lines_iff.mp hother with rfl | ⟨hsome, -⟩
    · rw [htotals] at hopens'
      cases hopens'
    · exact hsome
  · intro hsome
    exact ⟨line, mem_lines_iff.mpr (.inr ⟨hsome, hline⟩), hopens⟩

theorem eq_filesLine {r : Report} {line : String} (hline : line ∈ (ofReport r).lines)
    (hopens : Text.opensWith "  Files with findings: " line = true) : line = filesLine r := by
  obtain ⟨-, htotals, hkinds, -⟩ := opensWith_lines r
  rcases mem_lines_iff.mp hline with rfl | ⟨-, rfl | rfl⟩
  · rw [htotals] at hopens
    cases hopens
  · rw [hkinds] at hopens
    cases hopens
  · rfl

/-- **A summary is an exact count.**  Both tables count the findings of the report, by kind and by path, and
the order of the findings makes no difference.  The tables of the findings of two reports together have the
sums of the counts.  The lines on kinds and files are there exactly if there are findings, and the number of
files is that of the distinct paths. -/
theorem ofReport_counts (r : Report) :
    CountsBy (·.kind.name) r.findings (ofReport r).perKind ∧
    CountsBy (·.path) r.findings (ofReport r).perFile ∧
    (∀ kind, (ofReport r).perKind.count kind.name = (r.findings.filter fun f => f.kind = kind).length) ∧
    (ofReport r).total = r.findings.length ∧ (ofReport r).filesChecked = r.files.length ∧
    (ofReport r).filesFailed = r.errors.length ∧
    (∀ findings, findings.Perm r.findings → ofReport { r with findings := findings } = ofReport r) ∧
    (∀ r' both : Report, both.findings = r.findings ++ r'.findings → ∀ k,
      (ofReport both).perKind.count k = (ofReport r).perKind.count k + (ofReport r').perKind.count k ∧
      (ofReport both).perFile.count k = (ofReport r).perFile.count k + (ofReport r').perFile.count k) ∧
    ((∃ line ∈ (ofReport r).lines, Text.opensWith "  By kind: " line = true) ↔ 0 < (ofReport r).total) ∧
    ((∃ line ∈ (ofReport r).lines, Text.opensWith "  Files with findings: " line = true) ↔
      0 < (ofReport r).total) ∧
    ∀ line ∈ (ofReport r).lines, Text.opensWith "  Files with findings: " line = true →
      line = "  Files with findings: " ++ toString (r.findings.map (·.path)).toFinset.card := by
  obtain ⟨⟨htotals, hkinds⟩, htotals', -, hfiles⟩ := opensWith_lines r
  refine ⟨countsBy_ofList _ _, countsBy_ofList _ _, fun kind => ?_, rfl, rfl, rfl,
    fun findings h => ofReport_perm h, fun r' both h k => ?_, exists_line_iff htotals (.inl rfl) hkinds,
    exists_line_iff htotals' (.inr rfl) hfiles, fun line hline hopens => eq_filesLine hline hopens⟩
  · have hcount := (Tally.counts_ofList (r.findings.map (·.kind.name))).count kind.name
    simp only [count_map, ConstructKind.name_inj] at hcount
    exact hcount
  · rw [ofReport, ofReport, ofReport, h]
    exact ⟨count_ofList_append _ _ _ k, count_ofList_append _ _ _ k⟩

/-- Findings of two kinds in two files, not in order. -/
def mixedReport : Report where
  files := ["a.java", "b.java", "c.java"]
  findings := [⟨"b.java", some 3, some 5, "run", .method⟩, ⟨"a.java", some 1, some 1, "A", .type⟩,
    ⟨"b.java", some 1, some 1, "B", .type⟩]
  errors := [⟨"c.java", "c.java:1:1: syntax error"⟩]

theorem mixedReport_counted :
    mixedReport.findings.reverse.Perm mixedReport.findings ∧
    ofReport { mixedReport with findings := mixedReport.findings.reverse } = ofReport mixedReport ∧
    CountsBy (·.path) mixedReport.findings [("a.java", 1), ("b.java", 2)] ∧
    (ofReport { findings := mixedReport.findings ++ mixedReport.findings }).perFile.count "b.java" = 4 ∧
    "  Files with findings: 2" ∈ (ofReport mixedReport).lines := by
  obtain ⟨-, hfiles, -, -, -, -, hperm, hboth, -, hline, hshown⟩ := ofReport_counts mixedReport
  have hreverse := List.reverse_perm mixedReport.findings
  have htable : (ofReport mixedReport).perFile = [("a.java", 1), ("b.java", 2)] := by decide +kernel
  have hcount : (ofReport mixedReport).perFile.count "b.java" = 2 := by decide +kernel
  have hcard : (mixedReport.findings.map (·.path)).toFinset.card = 2 := by decide +kernel
  obtain ⟨line, hmem, hopens⟩ := hline.mpr (by decide)
  have htext := hshown line hmem hopens
  rw [hcard] at htext
  refine ⟨hreverse, hperm _ hreverse, htable ▸ hfiles, ?_, ?_⟩
  · rw [(hboth mixedReport _ rfl "b.java").2, hcount]
  · rw [htext] at hmem
    exact hmem

end Summary

end JavadocAudit
