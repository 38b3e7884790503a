import JavadocAudit.Proofs.Accounting

/-!
# Which constructs are reported twice

Two findings with one key are two directories that are shown under one path, since those of a file are at
different points of it and bear its path.  Directories are told apart before they are shown, and only
the working directory has two names that are shown alike, the empty one and the point
(`names_of_shown_eq`).  So a report is in strict order unless files of the working directory are given
under both names and it has no description of its package (`findings_strict_iff`).
-/

namespace JavadocAudit

/-- The constructs of a file begin at different points. -/
def CompilationUnit.DistinctPoints (unit : CompilationUnit) : Prop :=
  (unit.sites.map fun s => (s.line, s.column)).Nodup

instance (unit : CompilationUnit) : Decidable unit.DistinctPoints :=
  inferInstanceAs (Decidable (List.Nodup _))

namespace Check

/-- If the file parses, its constructs begin at different points. -/
def PointsDiffer (d : Disk) (path : String) : Prop :=
  ∀ unit, parseFile d path = .ok unit → unit.DistinctPoints

instance (d : Disk) (path : String) : Decidable (PointsDiffer d path) :=
  match h : parseFile d path with
  | .error _ => isTrue fun unit h' => by rw [h] at h'; cases h'
  | .ok unit => decidable_of_iff unit.DistinctPoints
      ⟨fun hu unit' h' => by rw [h] at h'; cases h'; exact hu, fun hu => hu unit h⟩

variable {d : Disk} {settings : Settings}

/-! ### The findings of files -/

/-- The findings of a file have different keys if its constructs begin at different points. -/
theorem nodup_keys_findings {unit : CompilationUnit} (h : unit.DistinctPoints) :
    ((Audit.findings settings unit).map Finding.sortKey).Nodup := by
  have hperm : ((Audit.findings settings unit).map Finding.sortKey).Perm
      ((Audit.visited settings unit).map Finding.sortKey) :=
    (Finding.sorted_perm _).map _
  have hkeys : (Audit.visited settings unit).map Finding.sortKey =
      ((unit.sites.filter (Audit.isFinding settings)).map fun s => (s.line, s.column)).map
        fun p => (unit.path, (p.1 : Int), (p.2 : Int)) := by
    rw [Audit.visited, List.map_map, List.map_map]
    rfl
  have hinj : Function.Injective fun p : Nat × Nat => (unit.path, (p.1 : Int), (p.2 : Int)) := by
    intro p q hpq
    simp only [Prod.mk.injEq, Int.natCast_inj, true_and] at hpq
    exact Prod.ext hpq.1 hpq.2
  rw [hperm.nodup_iff, hkeys]
  exact List.Nodup.map hinj (h.sublist (List.filter_sublist.map _))

theorem path_of_mem_keys {path : String} {k : String × Int × Int}
    (h : k ∈ (findingsOf d settings path).map Finding.sortKey) : k.1 = path := by
  obtain ⟨x, hx, rfl⟩ := List.mem_map.mp h
  exact path_of_mem_findingsOf hx

/-- **The findings of files** have different keys. -/
theorem nodup_keys_findingsOf {files : List String} (hn : files.Nodup)
    (hpoints : ∀ f ∈ files, PointsDiffer d f) :
    ((files.flatMap (findingsOf d settings)).map Finding.sortKey).Nodup := by
  rw [List.map_flatMap, List.nodup_flatMap]
  constructor
  · intro f hf
    cases hp : parseFile d f with
    | error e => rw [findingsOf_error hp]; exact List.nodup_nil
    | ok unit => rw [findingsOf_ok hp]; exact nodup_keys_findings (hpoints f hf unit hp)
  · refine hn.imp fun {f g} hne k hk hk' => hne ?_
    rw [← path_of_mem_keys hk, path_of_mem_keys hk']

/-! ### The findings of directories -/

theorem shown_of_ne {folder : String} (h : folder ≠ "") : shown folder = folder := by
  rw [shown, if_neg (by simpa using h)]

/-- Two names of directories that are shown alike are one, or those of the working directory. -/
theorem names_of_shown_eq {a b : String} (h : shown a = shown b) :
    a = b ∨ (a = "" ∧ b = ".") ∨ (a = "." ∧ b = "") := by
  by_cases ha : a = ""
  · by_cases hb : b = ""
    · exact Or.inl (ha.trans hb.symm)
    · rw [ha, shown_of_ne hb] at h
      exact Or.inr (Or.inl ⟨ha, h.symm⟩)
  · by_cases hb : b = ""
    · rw [hb, shown_of_ne ha] at h
      exact Or.inr (Or.inr ⟨h, hb⟩)
    · rw [shown_of_ne ha, shown_of_ne hb] at h
      exact Or.inl h

/-- What tells directories apart as they are shown tells all of them apart but the two names of the
working directory. -/
theorem nodup_map_shown_iff {β : Type} {g : String → β} (hg : ∀ a b, g a = g b ↔ shown a = shown b)
    {folders : List String} (hn : folders.Nodup) :
    (folders.map g).Nodup ↔ ¬ ("" ∈ folders ∧ "." ∈ folders) := by
  constructor
  · rintro h ⟨hempty, hpoint⟩
    have : "" = "." := List.inj_on_of_nodup_map h hempty hpoint ((hg _ _).mpr (by decide))
    exact absurd this (by decide)
  · intro h
    refine hn.map_on fun a ha b hb hab => ?_
    rcases names_of_shown_eq ((hg a b).mp hab) with hab | ⟨rfl, rfl⟩ | ⟨rfl, rfl⟩
    · exact hab
    · exact absurd ⟨ha, hb⟩ h
    · exact absurd ⟨hb, ha⟩ h

theorem folderFinding_inj_iff (a b : String) :
    folderFinding a = folderFinding b ↔ shown a = shown b := by
  constructor
  · intro h
    rw [← folderFinding_path, h, folderFinding_path]
  · intro h
    show Finding.mk (shown a) none none (shown a) .package = _
    rw [h]
    rfl

theorem folderFinding_key_inj_iff (a b : String) :
    (folderFinding a).sortKey = (folderFinding b).sortKey ↔ shown a = shown b := by
  rw [Finding.sortKey, Finding.sortKey, folderFinding_path, folderFinding_path, Prod.mk.injEq]
  exact and_iff_left rfl

/-- Files are given under both names of the working directory, which lacks the description of its package
that the settings ask for. -/
structure ShownTwice (d : Disk) (settings : Settings) (files : List String) : Prop where
  asked : settings.isOn .requirePackageInfo = true
  lacks : d.isFile packageInfoName = false
  plain : ∃ f ∈ files, Path.dirName f = ""
  pointed : ∃ f ∈ files, Path.dirName f = "."

/-- The working directory has a description of its package, or has none, under either of its names. -/
theorem isFile_pointed_info : d.isFile (Path.join "." packageInfoName) = d.isFile packageInfoName := by
  have hjoin : Path.join "." packageInfoName = "." ++ "/" ++ packageInfoName := by decide +kernel
  rw [Disk.isFile, Disk.isFile, hjoin, Disk.find_pointed (by decide)]

theorem shownTwice_iff {files : List String} : ShownTwice d settings files ↔
    settings.isOn .requirePackageInfo = true ∧ "" ∈ Discovery.foldersWithoutInfo d files ∧
      "." ∈ Discovery.foldersWithoutInfo d files := by
  have hempty : Path.join "" packageInfoName = packageInfoName := by decide +kernel
  rw [mem_foldersWithoutInfo, mem_foldersWithoutInfo, isFile_pointed_info, hempty]
  constructor
  · rintro ⟨asked, lacks, plain, pointed⟩
    exact ⟨asked, ⟨plain, lacks⟩, pointed, lacks⟩
  · rintro ⟨asked, ⟨plain, lacks⟩, pointed, -⟩
    exact ⟨asked, lacks, plain, pointed⟩

/-- The findings of directories differ, as far as `g` tells, unless the working directory is shown
twice. -/
theorem nodup_extraFindings_iff {β : Type} {g : Finding → β} {files : List String}
    (hg : ∀ a b, g (folderFinding a) = g (folderFinding b) ↔ shown a = shown b) :
    ((extraFindings d settings files).map g).Nodup ↔ ¬ ShownTwice d settings files := by
  rw [shownTwice_iff]
  by_cases hon : settings.isOn .requirePackageInfo = true
  · rw [extraFindings, if_pos hon, folderFindings, List.map_map, and_iff_right hon]
    exact nodup_map_shown_iff hg (Discovery.nodup_sortedSet _)
  · rw [extraFindings, if_neg hon]
    exact iff_of_true List.nodup_nil fun h => hon h.1

/-! ### Reports -/

/-- **The keys of a report differ** unless the working directory is shown twice. -/
theorem nodup_keys_iff {files : List String} (hn : files.Nodup)
    (hfiles : ∀ f ∈ files, d.isFile f = true)
    (hpoints : ∀ f ∈ files, PointsDiffer d f) :
    ((files.flatMap (findingsOf d settings) ++ extraFindings d settings files).map
      Finding.sortKey).Nodup ↔ ¬ ShownTwice d settings files := by
  rw [← nodup_extraFindings_iff folderFinding_key_inj_iff, List.map_append]
  refine ⟨fun h => h.of_append_right, fun h => (nodup_keys_findingsOf hn hpoints).append h ?_⟩
  -- a directory is not under the path of a file
  intro k hk hk'
  obtain ⟨x, hx, rfl⟩ := List.mem_map.mp hk
  obtain ⟨y, hy, hxy⟩ := List.mem_map.mp hk'
  obtain ⟨f, hf, hx⟩ := List.mem_flatMap.mp hx
  have hpath : y.path = f := (congrArg Prod.fst hxy).trans (path_of_mem_findingsOf hx)
  exact path_notMem_of_mem_extraFindings hfiles hy (hpath ▸ hf)

/-- **No finding is repeated** unless the working directory is shown twice. -/
theorem nodup_findings_iff {files : List String} (hn : files.Nodup)
    (hfiles : ∀ f ∈ files, d.isFile f = true)
    (hpoints : ∀ f ∈ files, PointsDiffer d f) :
    (files.flatMap (findingsOf d settings) ++ extraFindings d settings files).Nodup ↔
      ¬ ShownTwice d settings files := by
  constructor
  · intro h
    rw [← nodup_extraFindings_iff (g := id) folderFinding_inj_iff, List.map_id]
    exact h.of_append_right
  · exact fun h => ((nodup_keys_iff hn hfiles hpoints).mpr h).of_map _

/-- **When a report is in strict order**: exactly if the working directory is not shown twice, where the
constructs of each file begin at different points.  Then no finding is repeated, and else one is. -/
theorem findings_strict_iff (settings : Settings) (given : List String)
    (hgiven : ∀ p ∈ Discovery.givenPaths d given, d.pathExists p = true) :
    ∃ c out, Discovery.collect d (Settings.matchesText settings.exclude) given = .ok c ∧
      paths d settings given = .ok out ∧
      ((∀ f ∈ c.files, PointsDiffer d f) →
        (out.report.findings.Pairwise Finding.Precedes ↔ ¬ ShownTwice d settings c.files) ∧
        (out.report.findings.Nodup ↔ ¬ ShownTwice d settings c.files)) := by
  obtain ⟨c, out, hc, hout, hn, hfiles, hreport⟩ := paths_ok settings hgiven
  refine ⟨c, out, hc, hout, fun hpoints => ?_⟩
  rw [hreport]
  constructor
  · rw [Finding.pairwise_precedes_sorted_iff, nodup_keys_iff hn hfiles hpoints]
  · rw [(Finding.sorted_perm _).nodup_iff, nodup_findings_iff hn hfiles hpoints]

/-- A disk with a file in the working directory and one below it. -/
def splitDisk : Disk where
  root := [("A.java", .file [0x3b]), ("p", .folder [("B.java", .file [])])]
  cwd := []

theorem splitDisk_strict :
    (∀ p ∈ Discovery.givenPaths splitDisk ["A.java", "p/B.java"], splitDisk.pathExists p = true) ∧
      ∃ c out, Discovery.collect splitDisk (Settings.matchesText none) ["A.java", "p/B.java"] = .ok c ∧
        paths splitDisk packageInfoAsked ["A.java", "p/B.java"] = .ok out ∧
        (∀ f ∈ c.files, PointsDiffer splitDisk f) ∧
        out.report.findings.Pairwise Finding.Precedes ∧ out.report.findings.Nodup := by
  have hgiven : ∀ p ∈ Discovery.givenPaths splitDisk ["A.java", "p/B.java"],
      splitDisk.pathExists p = true := by decide +kernel
  obtain ⟨c, out, hc, hout, hstrict⟩ :=
    findings_strict_iff packageInfoAsked ["A.java", "p/B.java"] hgiven
  have hfiles : ∀ f ∈ c.files, f = "A.java" ∨ f = "p/B.java" := by
    intro f hf
    have hmem := ((Discovery.mem_files_of_isFile hc (by decide +kernel)).mp hf).1
    simpa [Discovery.givenPaths] using hmem
  have hpoints : ∀ f ∈ c.files, PointsDiffer splitDisk f := by
    intro f hf
    rcases hfiles f hf with rfl | rfl <;> decide +kernel
  have hnot : ¬ ShownTwice splitDisk packageInfoAsked c.files := by
    rintro ⟨-, -, -, f, hf, hdir⟩
    rcases hfiles f hf with rfl | rfl <;> exact absurd hdir (by decide +kernel)
  exact ⟨hgiven, c, out, hc, hout, hpoints, (hstrict hpoints).1.mpr hnot, (hstrict hpoints).2.mpr hnot⟩

/-- A disk with two files in the working directory. -/
def pointedDisk : Disk where
  root := [("A.java", .file []), ("B.java", .file [])]
  cwd := []

theorem pointedDisk_repeats :
    (∀ p ∈ Discovery.givenPaths pointedDisk ["A.java", "./B.java"], pointedDisk.pathExists p = true) ∧
      ∃ c out, Discovery.collect pointedDisk (Settings.matchesText none) ["A.java", "./B.java"] = .ok c ∧
        paths pointedDisk packageInfoAsked ["A.java", "./B.java"] = .ok out ∧
        (∀ f ∈ c.files, PointsDiffer pointedDisk f) ∧
        ¬ out.report.findings.Pairwise Finding.Precedes ∧ ¬ out.report.findings.Nodup := by
  have hgiven : ∀ p ∈ Discovery.givenPaths pointedDisk ["A.java", "./B.java"],
      pointedDisk.pathExists p = true := by decide +kernel
  obtain ⟨c, out, hc, hout, hn, hisFile, hreport⟩ := paths_ok packageInfoAsked hgiven
  have hfiles : ∀ f, f ∈ c.files ↔ f = "A.java" ∨ f = "./B.java" := by
    intro f
    rw [Discovery.mem_files_of_isFile hc (by decide +kernel), and_iff_left (by rfl)]
    simp [Discovery.givenPaths]
  have hpoints : ∀ f ∈ c.files, PointsDiffer pointedDisk f := by
    intro f hf
    rcases (hfiles f).mp hf with rfl | rfl <;> decide +kernel
  have htwice : ShownTwice pointedDisk packageInfoAsked c.files :=
    ⟨rfl, by decide +kernel, ⟨"A.java", (hfiles _).mpr (Or.inl rfl), by decide +kernel⟩,
      ⟨"./B.java", (hfiles _).mpr (Or.inr rfl), by decide +kernel⟩⟩
  refine ⟨hgiven, c, out, hc, hout, hpoints, ?_, ?_⟩
  · rw [hreport, Finding.pairwise_precedes_sorted_iff, nodup_keys_iff hn hisFile hpoints]
    exact not_not.mpr htwice
  · rw [hreport, (Finding.sorted_perm _).nodup_iff, nodup_findings_iff hn hisFile hpoints]
    exact not_not.mpr htwice

end Check

end JavadocAudit
