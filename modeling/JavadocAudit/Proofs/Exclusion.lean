import JavadocAudit.Proofs.Accounting
import Mathlib.Data.List.Flatten

/-!
# Excluding more paths

If a wider pattern excludes paths, a scan enters fewer directories (`Leads.mono`), so that fewer files
are collected (`files_sublist`).  What each of these yields stays as it was, and directories are looked
at on the disk whether or not their files are excluded, so fewer files give fewer findings of directories
(`extraFindings_sublist`).  `exclusion_only_removes` says it for whole runs: the report of the wider
pattern is a part of the other one, and has all that the other one says about the files that are left.
-/

namespace JavadocAudit

/-! ### Collecting files -/

namespace Discovery

variable {d : Disk} {narrow wide : String → Bool}

section

variable (h : ∀ s, narrow s = true → wide s = true)
include h

theorem stays_of_wider {s : String} (hs : wide s = false) : narrow s = false := by
  by_contra hn
  rw [h s (by simpa using hn)] at hs
  cases hs

/-- The way of a scan stays open if less is excluded. -/
theorem Leads.mono {p q : String} {es fs : List (String × Entry)} (hl : Leads wide p es q fs) :
    Leads narrow p es q fs := by
  induction hl with
  | here p es => exact .here p es
  | down entry entered kept _ ih => exact .down entry entered (stays_of_wider h kept) ih

theorem mem_expand_of_wider {p path : String} (hm : ⟨path, false⟩ ∈ expand d wide p) :
    ⟨path, false⟩ ∈ expand d narrow p := by
  obtain ⟨hp, ⟨hfolder, rfl⟩ | ⟨hfolder, hscan⟩⟩ := mem_expand.mp hm
  · exact mem_expand.mpr ⟨stays_of_wider h hp, Or.inl ⟨hfolder, rfl⟩⟩
  · obtain ⟨es, hfind⟩ := Disk.isFolder_iff.mp hfolder
    refine mem_expand.mpr ⟨stays_of_wider h hp, Or.inr ⟨hfolder, ?_⟩⟩
    rw [scan_of_folder hfind, mem_scanEntry] at hscan ⊢
    obtain ⟨q, fs, name, e, hleads, hmem, hname, hfile, heq⟩ := hscan
    obtain ⟨rfl, hx⟩ := Found.mk.inj heq
    refine ⟨q, fs, name, e, hleads.mono h, hmem, hname, hfile, ?_⟩
    rw [stays_of_wider h hx.symm]

/-- **Fewer files are collected** if more is excluded. -/
theorem files_sublist {given : List String} {c c' : Collected} (hc : collect d narrow given = .ok c)
    (hc' : collect d wide given = .ok c') : c'.files.Sublist c.files := by
  rw [files_of_collect hc, files_of_collect hc']
  refine sortedSet_sublist fun path hpath => ?_
  obtain ⟨p, hp, hm⟩ := List.mem_flatMap.mp (mem_kept.mp hpath)
  exact mem_kept.mpr (List.mem_flatMap.mpr ⟨p, hp, mem_expand_of_wider h hm⟩)

end

end Discovery

/-! ### Reports -/

namespace Report

/-- The report `r` is what is left of the report `full`: its files are some of those of `full`, with
all that `full` says about them, and nothing is new. -/
structure LeftOf (r full : Report) : Prop where
  files : r.files.Sublist full.files
  findings : r.findings.Sublist full.findings
  errors : r.errors.Sublist full.errors
  /-- The findings of a file that is left are those it had. -/
  findings_of : ∀ f ∈ r.files, r.findings.filter (·.path == f) = full.findings.filter (·.path == f)
  /-- The errors of a file that is left are those it had. -/
  errors_of : ∀ f ∈ r.files, r.errors.filter (·.path == f) = full.errors.filter (·.path == f)
  exitCode : r.exitCode ≤ full.exitCode

theorem exitCode_le {r full : Report} (hf : r.findings.Sublist full.findings)
    (he : r.errors.Sublist full.errors) : r.exitCode ≤ full.exitCode := by
  unfold exitCode
  cases hfe : full.errors with
  | cons e rest =>
    rw [if_pos (show (!(e :: rest).isEmpty) = true from rfl)]
    split_ifs <;> omega
  | nil =>
    have hre : r.errors = [] := List.sublist_nil.mp (hfe ▸ he)
    cases hff : full.findings with
    | cons f rest =>
      rw [hre]
      split_ifs <;> simp_all
    | nil =>
      have hrf : r.findings = [] := List.sublist_nil.mp (hff ▸ hf)
      rw [hre, hrf]

end Report

namespace Check

variable {d : Disk} {settings : Settings}

/-- Fewer files have fewer directories without a description of their package. -/
theorem extraFindings_sublist {files files' : List String} (h : files' ⊆ files) :
    (extraFindings d settings files').Sublist (extraFindings d settings files) := by
  unfold extraFindings
  split_ifs with hon
  · refine (Discovery.sortedSet_sublist fun folder hf => ?_).map folderFinding
    obtain ⟨hmem, hinfo⟩ := List.mem_filter.mp hf
    exact List.mem_filter.mpr ⟨List.map_subset _ h hmem, hinfo⟩
  · exact List.Sublist.refl _

/-- **Excluding more only removes.**  Let a run be repeated with a pattern that excludes every path that
was excluded before.  Then the files, the findings and the errors of its report are some of those before,
in their order, each file that is left keeps its findings and errors, and the exit code is not larger.
No finding of a directory is new either. -/
theorem exclusion_only_removes (settings : Settings) (wider : Option Matcher) (given : List String)
    (hgiven : ∀ p ∈ Discovery.givenPaths d given, d.pathExists p = true)
    (hwider : ∀ s, Settings.matchesText settings.exclude s = true → Settings.matchesText wider s = true) :
    ∃ out out', paths d settings given = .ok out ∧
      paths d { settings with exclude := wider } given = .ok out' ∧ out'.report.LeftOf out.report := by
  obtain ⟨c, out, hc, hout, hn, hfiles, hreport⟩ := paths_ok settings hgiven
  obtain ⟨c', out', hc', hout', hn', hfiles', hreport'⟩ :=
    paths_ok { settings with exclude := wider } hgiven
  have hsub : c'.files.Sublist c.files := Discovery.files_sublist hwider hc hc'
  -- no rule of the audit reads the pattern of excluded paths
  have hsame : findingsOf d { settings with exclude := wider } = findingsOf d settings := rfl
  have hextra : extraFindings d { settings with exclude := wider } = extraFindings d settings := rfl
  rw [hsame, hextra] at hreport'
  have hfindings : out'.report.findings.Sublist out.report.findings := by
    rw [hreport, hreport']
    exact Finding.sorted_sublist ((hsub.flatMap _).append (extraFindings_sublist hsub.subset))
  have herrors : out'.report.errors.Sublist out.report.errors := by
    rw [hreport, hreport']
    exact hsub.flatMap _
  refine ⟨out, out', hout, hout', ⟨?_, hfindings, herrors, fun f hf => ?_, fun f hf => ?_,
    Report.exitCode_le hfindings herrors⟩⟩
  · rw [hreport, hreport']
    exact hsub
  · rw [hreport'] at hf ⊢
    rw [hreport, filter_findings hn hfiles (hsub.subset hf), filter_findings hn' hfiles' hf]
  · rw [hreport'] at hf ⊢
    rw [hreport, filter_errors hn (hsub.subset hf), filter_errors hn' hf]

/-- Of a file that parses and one that does not, the pattern excludes the second. -/
theorem mixedDisk_without_failed :
    (∀ p ∈ Discovery.givenPaths mixedDisk ["A.java", "B.java"], mixedDisk.pathExists p = true) ∧
      ∃ m out out', Matcher.compile [] "B" = .ok m ∧
        paths mixedDisk Settings.initial ["A.java", "B.java"] = .ok out ∧
        paths mixedDisk { Settings.initial with exclude := some m } ["A.java", "B.java"] = .ok out' ∧
        out'.report.LeftOf out.report ∧ "B.java" ∈ out.report.files ∧ "B.java" ∉ out'.report.files := by
  have hgiven : ∀ p ∈ Discovery.givenPaths mixedDisk ["A.java", "B.java"],
      mixedDisk.pathExists p = true := by decide +kernel
  have hisFile : ∀ p ∈ Discovery.givenPaths mixedDisk ["A.java", "B.java"],
      mixedDisk.isFile p = true := by decide +kernel
  obtain ⟨m, hm, hmatch⟩ : ∃ m, Matcher.compile [] "B" = .ok m ∧ m.search "B.java" = true :=
    ⟨_, rfl, by decide +kernel⟩
  obtain ⟨out, out', hout, hout', hleft⟩ := exclusion_only_removes (d := mixedDisk) Settings.initial
    (some m) ["A.java", "B.java"] hgiven (fun s hs => by cases hs)
  obtain ⟨c, out₁, hc, hout₁, -, -, hreport⟩ := paths_ok Settings.initial hgiven
  obtain ⟨c', out₁', hc', hout₁', -, -, hreport'⟩ :=
    paths_ok { Settings.initial with exclude := some m } hgiven
  rw [hout] at hout₁
  rw [hout'] at hout₁'
  cases hout₁
  cases hout₁'
  refine ⟨hgiven, m, out, out', hm, hout, hout', hleft, ?_, ?_⟩
  · rw [hreport, Discovery.mem_files_of_isFile hc hisFile]
    exact ⟨by decide, rfl⟩
  · rw [hreport', Discovery.mem_files_of_isFile hc' hisFile]
    rintro ⟨-, hx⟩
    rw [show Settings.matchesText (some m) "B.java" = m.search "B.java" from rfl, hmatch] at hx
    cases hx

end Check

end JavadocAudit
