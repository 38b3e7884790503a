import JavadocAudit.Check
import JavadocAudit.Proofs.SourceFiles

/-!
# A report accounts for the files of a run

A run adds to its report what one file after the other yields: an error if the file does not parse, and
its findings if it does (`addFile_ok`, `foldlM_addFile`).  These findings bear the path of their file,
and those of directories the path of a directory, so the parts of the report can be told apart after it
is sorted as a whole, and each part has kept its order.  `paths_accounts` says so for every run.
-/

namespace JavadocAudit

/-! ### Exit codes -/

namespace Report

theorem exitCode_eq_two {r : Report} : r.exitCode = 2 ↔ r.errors ≠ [] := by
  unfold exitCode
  cases r.errors <;> cases r.findings <;> simp

theorem exitCode_eq_one {r : Report} : r.exitCode = 1 ↔ r.errors = [] ∧ r.findings ≠ [] := by
  unfold exitCode
  cases r.errors <;> cases r.findings <;> simp

theorem exitCode_eq_zero {r : Report} : r.exitCode = 0 ↔ r.errors = [] ∧ r.findings = [] := by
  unfold exitCode
  cases r.errors <;> cases r.findings <;> simp

end Report

namespace Check

variable {d : Disk} {settings : Settings}

/-! ### What one file yields -/

/-- The findings of a file that parses. -/
def findingsOf (d : Disk) (settings : Settings) (path : String) : List Finding :=
  match parseFile d path with
  | .ok unit => Audit.findings settings unit
  | .error _ => []

/-- The error of a file that does not parse. -/
def errorsOf (d : Disk) (path : String) : List FileError :=
  match parseFile d path with
  | .error (.parse e) => [⟨path, e.message⟩]
  | _ => []

theorem findingsOf_ok {path : String} {unit : CompilationUnit} (h : parseFile d path = .ok unit) :
    findingsOf d settings path = Audit.findings settings unit := by
  rw [findingsOf, h]

theorem findingsOf_error {path : String} {e : FileFailure} (h : parseFile d path = .error e) :
    findingsOf d settings path = [] := by
  rw [findingsOf, h]

theorem errorsOf_ok {path : String} {unit : CompilationUnit} (h : parseFile d path = .ok unit) :
    errorsOf d path = [] := by
  rw [errorsOf, h]

theorem errorsOf_error {path : String} {e : ParseError} (h : parseFile d path = .error (.parse e)) :
    errorsOf d path = [⟨path, e.message⟩] := by
  rw [errorsOf, h]

/-- A file that is there parses, or fails to parse. -/
theorem parseFile_of_isFile {path : String} (h : d.isFile path = true) :
    (∃ e, parseFile d path = .error (.parse e)) ∨ ∃ unit, parseFile d path = .ok unit := by
  obtain ⟨bytes, hb⟩ := Disk.isFile_iff.mp h
  have hread : d.read path = .ok bytes := by rw [Disk.read, hb]
  cases hp : CompilationUnit.parse path bytes with
  | error e => exact Or.inl ⟨e, by simp only [parseFile, hread, hp]⟩
  | ok unit => exact Or.inr ⟨unit, by simp only [parseFile, hread, hp]⟩

theorem path_of_parseFile {path : String} {unit : CompilationUnit} (h : parseFile d path = .ok unit) :
    unit.path = path := by
  unfold parseFile at h
  split at h
  · cases h
  · next bytes _ =>
    cases hp : CompilationUnit.parse path bytes with
    | error e => rw [hp] at h; cases h
    | ok unit' =>
      rw [hp] at h
      cases h
      unfold CompilationUnit.parse CompilationUnit.ofTree at hp
      split_ifs at hp
      · split at hp <;> cases hp
      · cases hp; rfl

theorem path_of_mem_findings {unit : CompilationUnit} {x : Finding}
    (h : x ∈ Audit.findings settings unit) : x.path = unit.path := by
  rw [Audit.findings, Finding.mem_sorted, Audit.visited, List.mem_map] at h
  obtain ⟨site, -, rfl⟩ := h
  rfl

theorem path_of_mem_findingsOf {path : String} {x : Finding} (h : x ∈ findingsOf d settings path) :
    x.path = path := by
  cases hp : parseFile d path with
  | error e => rw [findingsOf_error hp] at h; cases h
  | ok unit =>
    rw [findingsOf_ok hp] at h
    rw [path_of_mem_findings h, path_of_parseFile hp]

theorem path_of_mem_errorsOf {path : String} {x : FileError} (h : x ∈ errorsOf d path) :
    x.path = path := by
  unfold errorsOf at h
  split at h
  · rw [List.mem_singleton.mp h]
  · cases h

theorem pairwise_findingsOf (path : String) : (findingsOf d settings path).Pairwise fun a b =>
    Finding.keyLe a.sortKey b.sortKey = true := by
  cases hp : parseFile d path with
  | error e => rw [findingsOf_error hp]; exact List.Pairwise.nil
  | ok unit => rw [findingsOf_ok hp]; exact Finding.pairwise_sorted _

/-! ### Runs -/

/-- **One step of a run** adds what its file yields. -/
theorem addFile_ok {path : String} (h : d.isFile path = true) (done : Outcome) :
    ∃ out, addFile d settings done path = .ok out ∧ out.report.files = done.report.files ∧
      out.report.findings = done.report.findings ++ findingsOf d settings path ∧
      out.report.errors = done.report.errors ++ errorsOf d path := by
  unfold addFile
  rcases parseFile_of_isFile h with ⟨e, hp⟩ | ⟨unit, hp⟩
  · rw [findingsOf_error hp, errorsOf_error hp, List.append_nil]
    simp only [hp]
    exact ⟨_, rfl, rfl, rfl, rfl⟩
  · rw [findingsOf_ok hp, errorsOf_ok hp, List.append_nil]
    simp only [hp]
    exact ⟨_, rfl, rfl, rfl, rfl⟩

/-- **A run over files** adds what they yield, one after the other. -/
theorem foldlM_addFile (settings : Settings) {files : List String}
    (h : ∀ f ∈ files, d.isFile f = true) (start : Outcome) :
    ∃ out, files.foldlM (addFile d settings) start = .ok out ∧
      out.report.files = start.report.files ∧
      out.report.findings = start.report.findings ++ files.flatMap (findingsOf d settings) ∧
      out.report.errors = start.report.errors ++ files.flatMap (errorsOf d) := by
  induction files generalizing start with
  | nil => exact ⟨start, rfl, rfl, (List.append_nil _).symm, (List.append_nil _).symm⟩
  | cons path rest ih =>
    obtain ⟨hpath, hrest⟩ := List.forall_mem_cons.mp h
    obtain ⟨mid, hmid, hfiles, hfindings, herrors⟩ := addFile_ok (d := d) hpath start
    obtain ⟨out, hout, hfiles', hfindings', herrors'⟩ := ih hrest mid
    refine ⟨out, ?_, hfiles'.trans hfiles, ?_, ?_⟩
    · rw [List.foldlM_cons, hmid]
      exact hout
    · rw [hfindings', hfindings, List.flatMap_cons, List.append_assoc]
    · rw [herrors', herrors, List.flatMap_cons, List.append_assoc]

/-- The findings that a run adds at its end. -/
def extraFindings (d : Disk) (settings : Settings) (files : List String) : List Finding :=
  if settings.isOn .requirePackageInfo then folderFindings d files else []

/-- A run over paths of which some are missing fails at the first of these. -/
theorem paths_missing (settings : Settings) {given : List String} {p : String}
    (h : (Discovery.givenPaths d given).find? (fun p => !d.pathExists p) = some p) :
    paths d settings given = .error ⟨p, "File not found"⟩ := by
  simp only [paths, Discovery.collect, h]

/-- **The report of a run** over existing paths: there is one, it is made of what the files yield and the
findings of their directories, and the files are files. -/
theorem paths_ok (settings : Settings) {given : List String}
    (hgiven : ∀ p ∈ Discovery.givenPaths d given, d.pathExists p = true) :
    ∃ c out, Discovery.collect d (Settings.matchesText settings.exclude) given = .ok c ∧
      paths d settings given = .ok out ∧ c.files.Nodup ∧ (∀ f ∈ c.files, d.isFile f = true) ∧
      out.report = {
        files := c.files
        findings := Finding.sorted
          (c.files.flatMap (findingsOf d settings) ++ extraFindings d settings c.files)
        errors := c.files.flatMap (errorsOf d) } := by
  obtain ⟨c, hc⟩ : ∃ c, Discovery.collect d (Settings.matchesText settings.exclude) given = .ok c :=
    Discovery.collect_ok hgiven
  have hisFile : ∀ f ∈ c.files, d.isFile f = true := by
    intro f hf
    obtain ⟨p, hp, hf⟩ := List.mem_flatMap.mp ((Discovery.mem_files_iff hc).mp hf)
    exact Discovery.isFile_of_mem_expand (hgiven p hp) hf
  obtain ⟨out, hout, houtFiles, hfindings, herrors⟩ := foldlM_addFile settings hisFile
    ⟨{ files := c.files }, c.excluded.map ("excluded " ++ ·)⟩
  refine ⟨c, { out with report := { out.report with
    findings := Finding.sorted (out.report.findings ++ extraFindings d settings c.files) } },
    hc, ?_, Discovery.files_of_collect hc ▸ Discovery.nodup_sortedSet _, hisFile, ?_⟩
  · simp only [paths, hc, hout]
    rfl
  · simp only [houtFiles, hfindings, herrors, List.nil_append]

/-! ### The parts of a report -/

/-- What files yield under their own keys is found again by the key. -/
theorem filter_flatMap_key {α : Type} {key : α → String} {yields : String → List α}
    (hkey : ∀ f, ∀ x ∈ yields f, key x = f) {files : List String} (hn : files.Nodup) {f : String}
    (hf : f ∈ files) : (files.flatMap yields).filter (fun x => key x == f) = yields f := by
  have hown : (yields f).filter (fun x => key x == f) = yields f :=
    List.filter_eq_self.mpr fun x hx => by simp [hkey f x hx]
  have hother : ∀ rest : List String, f ∉ rest →
      (rest.flatMap yields).filter (fun x => key x == f) = [] := by
    intro rest hrest
    refine List.filter_eq_nil_iff.mpr fun x hx => ?_
    obtain ⟨g, hg, hx⟩ := List.mem_flatMap.mp hx
    simpa [hkey g x hx] using fun he : g = f => hrest (he ▸ hg)
  obtain ⟨before, after, rfl⟩ := List.append_of_mem hf
  obtain ⟨-, hn', hdisj⟩ := List.nodup_append.mp hn
  have hbefore : f ∉ before := fun h => hdisj f h f List.mem_cons_self rfl
  rw [List.flatMap_append, List.flatMap_cons, List.filter_append, List.filter_append, hown,
    hother before hbefore, hother after (List.nodup_cons.mp hn').1, List.nil_append, List.append_nil]

theorem errors_sublist (files : List String) :
    ((files.flatMap (errorsOf d)).map (·.path)).Sublist files := by
  induction files with
  | nil => exact List.Sublist.slnil
  | cons f rest ih =>
    rw [List.flatMap_cons, List.map_append]
    unfold errorsOf
    split
    · exact ih.cons_cons f
    · exact ih.cons f

theorem errors_eq_nil_iff {files : List String} (h : ∀ f ∈ files, d.isFile f = true) :
    files.flatMap (errorsOf d) = [] ↔ ∀ f ∈ files, ∃ unit, parseFile d f = .ok unit := by
  rw [List.flatMap_eq_nil_iff]
  refine forall₂_congr fun f hf => ?_
  rcases parseFile_of_isFile (h f hf) with ⟨e, hp⟩ | ⟨unit, hp⟩
  · simp [errorsOf_error hp, hp]
  · simp [errorsOf_ok hp, hp]

theorem errors_ne_nil_iff {files : List String} :
    files.flatMap (errorsOf d) ≠ [] ↔ ∃ f ∈ files, ∃ e, parseFile d f = .error (.parse e) := by
  rw [Ne, List.flatMap_eq_nil_iff]
  constructor
  · intro h
    obtain ⟨f, hf, hne⟩ : ∃ f ∈ files, errorsOf d f ≠ [] := by simpa using h
    obtain ⟨x, hx⟩ := List.exists_mem_of_ne_nil _ hne
    unfold errorsOf at hx
    split at hx
    · next e hp => exact ⟨f, hf, e, hp⟩
    · cases hx
  · rintro ⟨f, hf, e, hp⟩ hall
    have hnil := hall f hf
    rw [errorsOf_error hp] at hnil
    cases hnil

/-- The path under which a directory is shown. -/
def shown (folder : String) : String := if folder.isEmpty then "." else folder

theorem folderFinding_path (folder : String) : (folderFinding folder).path = shown folder := rfl

theorem folderFinding_name (folder : String) : (folderFinding folder).name = shown folder := rfl

theorem mem_foldersWithoutInfo {files : List String} {folder : String} :
    folder ∈ Discovery.foldersWithoutInfo d files ↔
      (∃ f ∈ files, Path.dirName f = folder) ∧ d.isFile (Path.join folder packageInfoName) = false := by
  rw [Discovery.foldersWithoutInfo, Discovery.mem_sortedSet, List.mem_filter, List.mem_map,
    Bool.not_eq_true']

theorem mem_extraFindings_iff {files : List String} {x : Finding}
    (hon : settings.isOn .requirePackageInfo = true) :
    x ∈ extraFindings d settings files ↔ ∃ f ∈ files,
      d.isFile (Path.join (Path.dirName f) packageInfoName) = false ∧
        x = folderFinding (Path.dirName f) := by
  rw [extraFindings, if_pos hon, folderFindings, List.mem_map]
  simp only [mem_foldersWithoutInfo]
  constructor
  · rintro ⟨_, ⟨⟨f, hf, rfl⟩, hinfo⟩, rfl⟩
    exact ⟨f, hf, hinfo, rfl⟩
  · rintro ⟨f, hf, hinfo, rfl⟩
    exact ⟨_, ⟨⟨f, hf, rfl⟩, hinfo⟩, rfl⟩

/-- The findings that a run adds are asked for and are about packages as a whole. -/
theorem of_mem_extraFindings {files : List String} {x : Finding}
    (h : x ∈ extraFindings d settings files) :
    settings.isOn .requirePackageInfo = true ∧ x.line = none ∧ x.column = none ∧ x.kind = .package := by
  by_cases hon : settings.isOn .requirePackageInfo = true
  · obtain ⟨f, -, -, rfl⟩ := (mem_extraFindings_iff hon).mp h
    exact ⟨hon, rfl, rfl, rfl⟩
  · rw [extraFindings, if_neg hon] at h
    cases h

/-- The directory of a file is shown under a path that is not that of a file. -/
theorem isFile_shown {f : String} (hf : d.isFile f = true) :
    d.isFile (shown (Path.dirName f)) = false := by
  obtain ⟨bytes, hb⟩ := Disk.isFile_iff.mp hf
  obtain ⟨entries, he⟩ := Disk.find_dirName hb
  rw [Disk.isFile, shown, he]
  rfl

/-- What a run over a disk reports: nothing of a file is lost or mixed with that of another one, and a
file that does not parse leaves the others alone. -/
structure Accounts (d : Disk) (settings : Settings) (r : Report) : Prop where
  /-- Each file was read, and parses or fails to parse. -/
  read : ∀ f ∈ r.files, (∃ e, parseFile d f = .error (.parse e)) ∨ ∃ unit, parseFile d f = .ok unit
  /-- A file that does not parse is one error and has no findings. -/
  failed : ∀ f ∈ r.files, ∀ e, parseFile d f = .error (.parse e) →
    r.errors.filter (·.path == f) = [⟨f, e.message⟩] ∧ r.findings.filter (·.path == f) = []
  /-- A file that parses is no error and has the findings of its audit, in their order. -/
  audited : ∀ f ∈ r.files, ∀ unit, parseFile d f = .ok unit →
    r.errors.filter (·.path == f) = [] ∧
      r.findings.filter (·.path == f) = Audit.findings settings unit
  /-- The errors are in the order of the files. -/
  errors_in_order : (r.errors.map (·.path)).Sublist r.files
  /-- The other findings are asked for and are about packages as a whole. -/
  others : ∀ x ∈ r.findings, x.path ∉ r.files →
    settings.isOn .requirePackageInfo = true ∧ x.line = none ∧ x.column = none ∧ x.kind = .package
  /-- They name the directories of files that have no description of their package. -/
  folders : settings.isOn .requirePackageInfo = true → ∀ folder,
    (∃ x ∈ r.findings, x.path ∉ r.files ∧ x.path = folder ∧ x.name = folder) ↔
      ∃ f ∈ r.files, folder = shown (Path.dirName f) ∧
        d.isFile (Path.join (Path.dirName f) packageInfoName) = false
  /-- The exit code is two if some file does not parse. -/
  exit_two : r.exitCode = 2 ↔ ∃ f ∈ r.files, ∃ e, parseFile d f = .error (.parse e)
  /-- It is one if all files parse and something was found. -/
  exit_one : r.exitCode = 1 ↔
    (∀ f ∈ r.files, ∃ unit, parseFile d f = .ok unit) ∧ r.findings ≠ []
  /-- It is zero if all files parse and nothing was found. -/
  exit_zero : r.exitCode = 0 ↔
    (∀ f ∈ r.files, ∃ unit, parseFile d f = .ok unit) ∧ r.findings = []

section Parts

variable {files : List String} (hn : files.Nodup) (hfiles : ∀ f ∈ files, d.isFile f = true)
include hfiles

theorem path_notMem_of_mem_extraFindings {x : Finding} (h : x ∈ extraFindings d settings files) :
    x.path ∉ files := by
  obtain ⟨f, hf, -, rfl⟩ := (mem_extraFindings_iff (of_mem_extraFindings h).1).mp h
  intro hmem
  rw [folderFinding_path] at hmem
  have hfolder := isFile_shown (hfiles f hf)
  rw [hfiles _ hmem] at hfolder
  cases hfolder

include hn

/-- **The findings of a file** stand in the report as they were. -/
theorem filter_findings {f : String} (hf : f ∈ files) :
    (Finding.sorted (files.flatMap (findingsOf d settings) ++ extraFindings d settings files)).filter
      (·.path == f) = findingsOf d settings f := by
  have hextra : (extraFindings d settings files).filter (·.path == f) = [] :=
    List.filter_eq_nil_iff.mpr fun x hx => by
      simpa using fun he : x.path = f => path_notMem_of_mem_extraFindings hfiles hx (he ▸ hf)
  have hparts : (files.flatMap (findingsOf d settings) ++ extraFindings d settings files).filter
      (·.path == f) = findingsOf d settings f := by
    rw [List.filter_append, hextra, List.append_nil]
    exact filter_flatMap_key (fun _ _ hx => path_of_mem_findingsOf hx) hn hf
  rw [Finding.filter_sorted (hparts ▸ pairwise_findingsOf f), hparts]

omit hfiles in
/-- **The errors of a file** stand in the report alone. -/
theorem filter_errors {f : String} (hf : f ∈ files) :
    (files.flatMap (errorsOf d)).filter (·.path == f) = errorsOf d f :=
  filter_flatMap_key (fun _ _ hx => path_of_mem_errorsOf hx) hn hf

end Parts

/-- A finding under no path of a file is that of a directory. -/
theorem mem_findings_iff {files : List String} {x : Finding} (hx : x.path ∉ files) :
    x ∈ Finding.sorted (files.flatMap (findingsOf d settings) ++ extraFindings d settings files) ↔
      x ∈ extraFindings d settings files := by
  rw [Finding.mem_sorted, List.mem_append]
  refine or_iff_right fun h => hx ?_
  obtain ⟨f, hf, h⟩ := List.mem_flatMap.mp h
  rw [path_of_mem_findingsOf h]
  exact hf

/-- **A report accounts for the files of its run**, on every disk, for all settings and for every list of
existing paths. -/
theorem paths_accounts (settings : Settings) (given : List String)
    (hgiven : ∀ p ∈ Discovery.givenPaths d given, d.pathExists p = true) :
    ∃ c out, Discovery.collect d (Settings.matchesText settings.exclude) given = .ok c ∧
      paths d settings given = .ok out ∧ out.report.files = c.files ∧
      Accounts d settings out.report := by
  obtain ⟨c, out, hc, hout, hn, hfiles, hreport⟩ := paths_ok settings hgiven
  refine ⟨c, out, hc, hout, by rw [hreport], ?_⟩
  rw [hreport]
  constructor
  · exact fun f hf => parseFile_of_isFile (hfiles f hf)
  · intro f hf e hp
    rw [filter_errors hn hf, filter_findings hn hfiles hf, errorsOf_error hp, findingsOf_error hp]
    exact ⟨rfl, rfl⟩
  · intro f hf unit hp
    rw [filter_errors hn hf, filter_findings hn hfiles hf, errorsOf_ok hp, findingsOf_ok hp]
    exact ⟨rfl, rfl⟩
  · exact errors_sublist c.files
  · intro x hx hpath
    exact of_mem_extraFindings ((mem_findings_iff hpath).mp hx)
  · intro hon folder
    constructor
    · rintro ⟨x, hx, hpath, rfl, -⟩
      obtain ⟨f, hf, hinfo, rfl⟩ := (mem_extraFindings_iff hon).mp ((mem_findings_iff hpath).mp hx)
      exact ⟨f, hf, folderFinding_path _, hinfo⟩
    · rintro ⟨f, hf, hfolder, hinfo⟩
      have hx : folderFinding (Path.dirName f) ∈ extraFindings d settings c.files :=
        (mem_extraFindings_iff hon).mpr ⟨f, hf, hinfo, rfl⟩
      have hpath := path_notMem_of_mem_extraFindings hfiles hx
      rw [hfolder]
      exact ⟨_, (mem_findings_iff hpath).mpr hx, hpath, folderFinding_path _, folderFinding_name _⟩
  · rw [Report.exitCode_eq_two, errors_ne_nil_iff]
  · rw [Report.exitCode_eq_one, errors_eq_nil_iff hfiles]
  · rw [Report.exitCode_eq_zero, errors_eq_nil_iff hfiles]

/-- The settings that ask for descriptions of packages alone. -/
def packageInfoAsked : Settings := { isOn := fun t => t == .requirePackageInfo }

/-- A disk with a file that parses and one that does not. -/
def mixedDisk : Disk where
  root := [("A.java", .file "class A\x7b\x7d".toUTF8.toList), ("B.java", .file [0x7d])]
  cwd := []

/-- The class in the file that parses is found, and so is the directory without a description; the other
file makes the exit code two. -/
theorem mixedDisk_accounts :
    (∀ p ∈ Discovery.givenPaths mixedDisk ["A.java", "B.java"], mixedDisk.pathExists p = true) ∧
      ∃ c out, Discovery.collect mixedDisk (Settings.matchesText none) ["A.java", "B.java"] = .ok c ∧
        paths mixedDisk packageInfoAsked ["A.java", "B.java"] = .ok out ∧ out.report.files = c.files ∧
        Accounts mixedDisk packageInfoAsked out.report ∧
        out.report.findings.filter (·.path == "A.java") = [⟨"A.java", some 1, some 1, "A", .type⟩] ∧
        (∃ x ∈ out.report.findings, x.path ∉ out.report.files ∧ x.path = "." ∧ x.name = ".") ∧
        out.report.exitCode = 2 := by
  have hgiven : ∀ p ∈ Discovery.givenPaths mixedDisk ["A.java", "B.java"],
      mixedDisk.pathExists p = true := by decide +kernel
  obtain ⟨c, out, hc, hout, hreport, haccounts⟩ :=
    paths_accounts packageInfoAsked ["A.java", "B.java"] hgiven
  have hfiles : ∀ f ∈ Discovery.givenPaths mixedDisk ["A.java", "B.java"], f ∈ out.report.files := by
    intro f hf
    rw [hreport, Discovery.mem_files_of_isFile hc (by decide +kernel)]
    exact ⟨hf, rfl⟩
  have hA : "A.java" ∈ out.report.files := hfiles _ (by decide)
  have hB : "B.java" ∈ out.report.files := hfiles _ (by decide)
  refine ⟨hgiven, c, out, hc, hout, hreport, haccounts, ?_, ?_, haccounts.exit_two.mpr ?_⟩
  · have hclass : (parseFile mixedDisk "A.java").toOption.map (Audit.visited packageInfoAsked) =
        some [⟨"A.java", some 1, some 1, "A", .type⟩] := by decide +kernel
    rcases haccounts.read _ hA with ⟨e, he⟩ | ⟨unit, hunit⟩
    · rw [he] at hclass
      cases hclass
    · rw [hunit] at hclass
      rw [(haccounts.audited _ hA _ hunit).2, Audit.findings, Option.some.inj hclass]
      exact List.mergeSort_singleton _
  · exact (haccounts.folders rfl ".").mpr ⟨"A.java", hA, by decide +kernel, by decide +kernel⟩
  · have hfails : (parseFile mixedDisk "B.java").toOption.isNone = true := by decide +kernel
    rcases haccounts.read _ hB with ⟨e, he⟩ | ⟨unit, hunit⟩
    · exact ⟨_, hB, e, he⟩
    · rw [hunit] at hfails
      cases hfails

end Check

end JavadocAudit
