import JavadocAudit.Proofs.Accounting

/-!
# Runs that fail

A run fails exactly if a given path is missing, and it names the first one.  What it names does not
depend on the settings, and not on what the files hold: paths are resolved through directories and links
alone (`resolve_emptied`), so the run has read no file when it fails.  If no path is missing, all that is
collected are files that can be read, and those that do not parse are errors of the report.
`fails_at_first_missing` puts this together.
-/

namespace JavadocAudit

/-! ### Disks with empty files -/

mutual

/-- The entry with all files emptied. -/
def Entry.emptied : Entry → Entry
  | .file _ => .file []
  | .folder entries => .folder (emptiedAll entries)
  | .link target => .link target

/-- The entries of a directory with all files emptied. -/
def Entry.emptiedAll : List (String × Entry) → List (String × Entry)
  | [] => []
  | (name, e) :: rest => (name, e.emptied) :: emptiedAll rest

end

/-- The disk with all files emptied: what is left are the names, the directories and the links. -/
def Disk.emptied (d : Disk) : Disk := { d with root := Entry.emptiedAll d.root }

theorem Entry.lookup_emptiedAll (name : String) : ∀ entries : List (String × Entry),
    (emptiedAll entries).lookup name = (entries.lookup name).map emptied
  | [] => by rw [emptiedAll]; rfl
  | (key, e) :: rest => by
    rw [emptiedAll, List.lookup_cons, List.lookup_cons, lookup_emptiedAll name rest]
    cases name == key <;> rfl

theorem Entry.at?_emptied (components : List String) (e : Entry) :
    e.emptied.at? components = (e.at? components).map emptied := by
  induction components generalizing e with
  | nil => rw [at?_nil, at?_nil, Option.map_some]
  | cons name rest ih =>
    cases e with
    | file bytes => simp [emptied, at?]
    | link target => simp [emptied, at?]
    | folder entries =>
      rw [emptied, at?, at?, lookup_emptiedAll]
      cases entries.lookup name with
      | none => rfl
      | some inner => exact ih inner

namespace Disk

variable {d : Disk}

theorem at?_emptied (d : Disk) (place : List String) :
    d.emptied.at? place = (d.at? place).map Entry.emptied := by
  unfold at?
  rw [← Entry.at?_emptied, Entry.emptied, emptied]

theorem walk_emptied (d : Disk) (last : Bool) (follow : List String → List String → Resolved) :
    ∀ place components : List String,
      d.emptied.walk last follow place components = d.walk last follow place components
  | place, [] => by rw [walk, walk]
  | place, name :: rest => by
    rw [walk, walk, at?_emptied]
    cases d.at? place with
    | none => rfl
    | some e =>
      cases e with
      | file bytes => rfl
      | link target => rfl
      | folder entries =>
        simp only [Option.map_some, Entry.emptied, Entry.lookup_emptiedAll,
          walk_emptied d last follow place rest, walk_emptied d last follow place.dropLast rest]
        cases entries.lookup name with
        | none => rfl
        | some inner =>
          cases inner with
          | link target => rfl
          | file bytes =>
            simp only [Option.map_some, Entry.emptied, walk_emptied d last follow (place ++ [name]) rest]
          | folder inner =>
            simp only [Option.map_some, Entry.emptied, walk_emptied d last follow (place ++ [name]) rest]

theorem walkLinks_emptied (d : Disk) (last : Bool) (links : Nat) :
    d.emptied.walkLinks last links = d.walkLinks last links := by
  induction links with
  | zero => rfl
  | succ links ih =>
    funext place components
    rw [walkLinks, walkLinks, ih, walk_emptied]

/-- **Path names are resolved without a look into files.** -/
theorem resolve_emptied (d : Disk) (last : Bool) (path : String) :
    d.emptied.resolve last path = d.resolve last path := by
  rw [resolve, resolve, walkLinks_emptied]
  rfl

theorem pathExists_emptied (d : Disk) (path : String) :
    d.emptied.pathExists path = d.pathExists path := by
  unfold pathExists find
  rw [resolve_emptied]
  cases d.resolve true path with
  | error fault => rfl
  | ok place =>
    simp only [at?_emptied]
    cases d.at? place <;> rfl

/-- The same paths exist on disks that differ only in what their files hold. -/
theorem pathExists_congr {d d' : Disk} (h : d'.emptied = d.emptied) (path : String) :
    d'.pathExists path = d.pathExists path := by
  rw [← pathExists_emptied, h, pathExists_emptied]

end Disk

/-! ### Missing paths -/

namespace Check

variable {d : Disk} {settings : Settings} {given : List String}

/-- The path is the first of the given ones that does not exist. -/
def FirstMissing (d : Disk) (given : List String) (path : String) : Prop :=
  ∃ before after, given = before ++ path :: after ∧ (∀ p ∈ before, d.pathExists p = true) ∧
    d.pathExists path = false

theorem firstMissing_iff {path : String} : FirstMissing d given path ↔
    given.find? (fun p => !d.pathExists p) = some path := by
  rw [List.find?_eq_some_iff_append]
  constructor
  · rintro ⟨before, after, rfl, hbefore, hpath⟩
    exact ⟨by rw [hpath]; rfl, before, after, rfl, fun p hp => by rw [hbefore p hp]; rfl⟩
  · rintro ⟨hpath, before, after, rfl, hbefore⟩
    exact ⟨before, after, rfl, fun p hp => by simpa using hbefore p hp, by simpa using hpath⟩

theorem FirstMissing.congr {path : String} {d' : Disk} (h : FirstMissing d given path)
    (hd : d'.emptied = d.emptied) : FirstMissing d' given path := by
  obtain ⟨before, after, hgiven, hbefore, hpath⟩ := h
  refine ⟨before, after, hgiven, fun p hp => ?_, ?_⟩
  · rw [Disk.pathExists_congr hd, hbefore p hp]
  · rw [Disk.pathExists_congr hd, hpath]

/-- A run fails at the first missing path. -/
theorem FirstMissing.paths_eq {path : String} (h : FirstMissing d given path) (settings : Settings) :
    paths d settings given = .error ⟨path, "File not found"⟩ := by
  refine paths_missing settings ?_
  have hne : given ≠ [] := by
    obtain ⟨before, after, rfl, -⟩ := h
    simp
  rw [Discovery.givenPaths, if_neg (by simpa using hne)]
  exact firstMissing_iff.mp h

theorem exists_firstMissing {p : String} (hp : p ∈ given) (hmissing : d.pathExists p = false) :
    ∃ path, FirstMissing d given path := by
  have hsome : (given.find? fun p => !d.pathExists p).isSome = true :=
    List.find?_isSome.mpr ⟨p, hp, by rw [hmissing]; rfl⟩
  obtain ⟨path, hpath⟩ := Option.isSome_iff_exists.mp hsome
  exact ⟨path, firstMissing_iff.mpr hpath⟩

/-- The paths of a run exist if the given ones do, and so does the working directory. -/
theorem givenPaths_exist (hcwd : d.isFolder d.workingDirectory = true)
    (h : ∀ p ∈ given, d.pathExists p = true) :
    ∀ p ∈ Discovery.givenPaths d given, d.pathExists p = true := by
  unfold Discovery.givenPaths
  split_ifs with hempty
  · obtain ⟨entries, hfind⟩ := Disk.isFolder_iff.mp hcwd
    exact List.forall_mem_singleton.mpr (Disk.pathExists_iff.mpr ⟨_, hfind⟩)
  · exact h

/-- What a run over existing paths does with a file: it is no directory, can be read, and is an error of
the report if it does not parse. -/
structure Handles (d : Disk) (settings : Settings) (r : Report) (path : String) : Prop where
  noFolder : d.isFolder path = false
  readable : ∃ bytes, d.read path = .ok bytes
  /-- The file is not one that could not be read. -/
  noInputError : ∀ e, file d settings path ≠ .error (.input e)
  /-- A file that does not parse is recorded. -/
  recorded : ∀ e, file d settings path = .error (.parse e) → ⟨path, e.message⟩ ∈ r.errors

theorem handles_of_isFile {files : List String} {r : Report} {path : String}
    (hr : r.errors = files.flatMap (errorsOf d)) (hmem : path ∈ files) (h : d.isFile path = true) :
    Handles d settings r path := by
  obtain ⟨bytes, hfind⟩ := Disk.isFile_iff.mp h
  refine ⟨?_, ⟨bytes, ?_⟩, fun e he => ?_, fun e he => ?_⟩
  · rw [Disk.isFolder, hfind]
    rfl
  · rw [Disk.read, hfind]
  · rcases parseFile_of_isFile h with ⟨e', hp⟩ | ⟨unit, hp⟩ <;> simp [file, hp] at he
  · rcases parseFile_of_isFile h with ⟨e', hp⟩ | ⟨unit, hp⟩
    · simp only [file, hp, Except.error.injEq, FileFailure.parse.injEq] at he
      rw [hr, ← he]
      exact List.mem_flatMap.mpr ⟨path, hmem, by rw [errorsOf_error hp]; exact List.mem_singleton_self _⟩
    · simp [file, hp] at he

/-- **A run fails exactly if a given path is missing**, and it fails at the first one.  Its message names
that path whatever the settings are and whatever the files hold, so none of them has been read.  Else
there is a report: each collected file is no directory and can be read, and a file that does not parse is
one of its errors. -/
theorem fails_at_first_missing (d : Disk) (settings : Settings) (given : List String)
    (hcwd : d.isFolder d.workingDirectory = true) :
    ((∃ e, paths d settings given = .error e) ↔ ∃ p ∈ given, d.pathExists p = false) ∧
    (∀ p, FirstMissing d given p → ∀ d' : Disk, d'.emptied = d.emptied → ∀ settings' : Settings,
      ∃ e, paths d' settings' given = .error e ∧ e.message = "File not found: " ++ p) ∧
    ((∀ p ∈ given, d.pathExists p = true) →
      ∃ c out, Discovery.collect d (Settings.matchesText settings.exclude) given = .ok c ∧
        paths d settings given = .ok out ∧ out.report.files = c.files ∧
        ∀ f ∈ c.files, Handles d settings out.report f) := by
  have hruns : (∀ p ∈ given, d.pathExists p = true) →
      ∃ c out, Discovery.collect d (Settings.matchesText settings.exclude) given = .ok c ∧
        paths d settings given = .ok out ∧ out.report.files = c.files ∧
        ∀ f ∈ c.files, Handles d settings out.report f := by
    intro hgiven
    obtain ⟨c, out, hc, hout, -, hfiles, hreport⟩ := paths_ok settings (givenPaths_exist hcwd hgiven)
    refine ⟨c, out, hc, hout, by rw [hreport], fun f hf => ?_⟩
    exact handles_of_isFile (by rw [hreport]) hf (hfiles f hf)
  refine ⟨⟨?_, ?_⟩, ?_, hruns⟩
  · rintro ⟨e, he⟩
    by_contra hnone
    have hgiven : ∀ p ∈ given, d.pathExists p = true := by simpa using hnone
    obtain ⟨c, out, -, hout, -⟩ := hruns hgiven
    rw [hout] at he
    cases he
  · rintro ⟨p, hp, hmissing⟩
    obtain ⟨path, hpath⟩ := exists_firstMissing hp hmissing
    exact ⟨_, hpath.paths_eq settings⟩
  · intro p hp d' hd settings'
    exact ⟨_, (hp.congr hd).paths_eq settings', rfl⟩

/-- A path below a file is missing, although the file before it does not parse. -/
theorem mixedDisk_fails :
    mixedDisk.isFolder mixedDisk.workingDirectory = true ∧
      FirstMissing mixedDisk ["B.java", "A.java/C", ""] "A.java/C" ∧
      ∃ e, paths mixedDisk Settings.initial ["B.java", "A.java/C", ""] = .error e ∧
        e.message = "File not found: A.java/C" := by
  have hcwd : mixedDisk.isFolder mixedDisk.workingDirectory = true := by decide +kernel
  have hfirst : FirstMissing mixedDisk ["B.java", "A.java/C", ""] "A.java/C" :=
    ⟨["B.java"], [""], rfl, by decide +kernel, by decide +kernel⟩
  exact ⟨hcwd, hfirst, (fails_at_first_missing mixedDisk Settings.initial
    ["B.java", "A.java/C", ""] hcwd).2.1 _ hfirst mixedDisk rfl Settings.initial⟩

end Check

end JavadocAudit
