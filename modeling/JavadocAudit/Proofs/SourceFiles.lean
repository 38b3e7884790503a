import JavadocAudit.Discovery
import JavadocAudit.Proofs.Resolution
import JavadocAudit.Proofs.Sorting
import Mathlib.Data.List.Nodup

/-!
# The source files that paths stand for

A scan goes down from a directory through the directories in it that it may enter (`Leads`), and lists
the source files of those that it comes to (`mem_scanEntry`).  On a file system, where the names in a
directory are proper and differ, the listed path names lead to the entries from which they were made
(`Leads.find`), and each of them is made once, since a path name shows the way that led to it
(`nodup_scanEntry`).  `collect_files_iff` says which files a list of paths stands for.
-/

namespace JavadocAudit

/-! ### File systems -/

namespace Entry

/-- What a file system promises of an entry: the names in a directory are proper and differ. -/
inductive WellFormed : Entry → Prop
  | file (bytes : List UInt8) : WellFormed (.file bytes)
  | link (target : String) : WellFormed (.link target)
  | folder {entries : List (String × Entry)} (names : (entries.map Prod.fst).Nodup)
      (proper : ∀ x ∈ entries, ProperName x.1) (inner : ∀ x ∈ entries, WellFormed x.2) :
      WellFormed (.folder entries)

theorem WellFormed.names {entries : List (String × Entry)} (h : (Entry.folder entries).WellFormed) :
    (entries.map Prod.fst).Nodup := by
  cases h; assumption

theorem WellFormed.proper {entries : List (String × Entry)} {name : String} {e : Entry}
    (h : (Entry.folder entries).WellFormed) (hm : (name, e) ∈ entries) : ProperName name := by
  cases h with
  | folder _ proper _ => exact proper _ hm

theorem WellFormed.inner {entries : List (String × Entry)} {name : String} {e : Entry}
    (h : (Entry.folder entries).WellFormed) (hm : (name, e) ∈ entries) : e.WellFormed := by
  cases h with
  | folder _ _ inner => exact inner _ hm

/-- Entries are looked up by their names. -/
theorem lookup_of_mem {entries : List (String × Entry)} {name : String} {e : Entry}
    (h : (entries.map Prod.fst).Nodup) (hm : (name, e) ∈ entries) : entries.lookup name = some e := by
  induction entries with
  | nil => cases hm
  | cons x rest ih =>
    obtain ⟨key, old⟩ := x
    rw [List.map_cons, List.nodup_cons] at h
    rw [List.lookup_cons]
    rcases List.mem_cons.mp hm with heq | hm
    · cases heq
      rw [beq_self_eq_true]
    · have hne : name ≠ key := fun he => h.1 (List.mem_map.mpr ⟨_, hm, he⟩)
      rw [beq_eq_false_iff_ne.mpr hne]
      exact ih h.2 hm

theorem mem_of_lookup {entries : List (String × Entry)} {name : String} {e : Entry}
    (h : entries.lookup name = some e) : (name, e) ∈ entries := by
  obtain ⟨before, after, rfl, -⟩ := List.lookup_eq_some_iff.mp h
  simp

theorem WellFormed.at? {e inner : Entry} {components : List String} (h : e.WellFormed)
    (hat : e.at? components = some inner) : inner.WellFormed := by
  induction components generalizing e with
  | nil =>
    rw [at?_nil] at hat
    cases hat
    exact h
  | cons name rest ih =>
    obtain ⟨entries, rfl⟩ := isFolder_of_at?_cons hat
    rw [Entry.at?] at hat
    cases hl : entries.lookup name with
    | none => rw [hl] at hat; cases hat
    | some next =>
      rw [hl] at hat
      exact ih (h.inner (mem_of_lookup hl)) hat

/-- What holds of files and links, and of directories whose entries it holds of, holds of all
entries. -/
theorem induction_on {P : Entry → Prop} (file : ∀ bytes, P (.file bytes))
    (link : ∀ target, P (.link target))
    (folder : ∀ entries, (∀ x ∈ entries, P x.2) → P (.folder entries)) : ∀ e, P e
  | .file bytes => file bytes
  | .link target => link target
  | .folder entries => folder entries fun x hx => by
    have hlt : sizeOf x.2 < 1 + sizeOf entries := by
      have h := List.sizeOf_lt_of_mem hx
      obtain ⟨name, e⟩ := x
      rw [Prod.mk.sizeOf_spec] at h
      show sizeOf e < _
      omega
    exact induction_on file link folder x.2
termination_by e => sizeOf e

end Entry

namespace Disk

/-- The disk is a file system. -/
def WellFormed (d : Disk) : Prop := (Entry.folder d.root).WellFormed

theorem WellFormed.find {d : Disk} {path : String} {e : Entry} (hd : d.WellFormed)
    (h : d.find path = .ok e) : e.WellFormed := by
  obtain ⟨place, -, he⟩ := find_ok_iff.mp h
  exact Entry.WellFormed.at? hd he

theorem isFile_iff {d : Disk} {path : String} :
    d.isFile path = true ↔ ∃ bytes, d.find path = .ok (.file bytes) := by
  unfold isFile
  cases d.find path with
  | error fault => simp
  | ok e => cases e <;> simp [Entry.isFile]

theorem isFolder_iff {d : Disk} {path : String} :
    d.isFolder path = true ↔ ∃ entries, d.find path = .ok (.folder entries) := by
  unfold isFolder
  cases d.find path with
  | error fault => simp
  | ok e => cases e <;> simp [Entry.isFolder]

theorem pathExists_iff {d : Disk} {path : String} :
    d.pathExists path = true ↔ ∃ e, d.find path = .ok e := by
  unfold pathExists
  cases d.find path <;> simp

theorem ne_empty_of_find {d : Disk} {path : String} {e : Entry} (h : d.find path = .ok e) :
    path ≠ "" := by
  obtain ⟨place, hr, -⟩ := find_ok_iff.mp h
  exact (resolve_ok hr).1

/-- The name of an entry leads to a file exactly if the entry is one, or a link that leads to one. -/
theorem isFile_join_iff {d : Disk} {path name : String} {entries : List (String × Entry)} {e : Entry}
    (hd : d.WellFormed) (h : d.find path = .ok (.folder entries)) (hm : (name, e) ∈ entries) :
    d.isFile (Path.join path name) = true ↔
      (∃ bytes, e = .file bytes) ∨
        (∃ target, e = .link target) ∧ ∃ bytes, d.find (Path.join path name) = .ok (.file bytes) := by
  have hw : (Entry.folder entries).WellFormed := hd.find h
  have hfind : (∀ target, e ≠ .link target) → d.find (Path.join path name) = .ok e :=
    find_join h (hw.proper hm) (Entry.lookup_of_mem hw.names hm)
  rw [isFile_iff]
  cases e with
  | file bytes => simp [hfind]
  | folder inner => simp [hfind]
  | link target => simp

end Disk

namespace Discovery

variable {d : Disk} {exclude : String → Bool}

/-! ### The directories that a scan comes to -/

/-- The way of a scan from the directory `p` with the entries `es` to the directory `q` with the entries
`fs`.  It goes down through directories that are entries, not through links, and enters neither those of
version control nor excluded ones. -/
inductive Leads (exclude : String → Bool) :
    String → List (String × Entry) → String → List (String × Entry) → Prop
  | here (p : String) (es : List (String × Entry)) : Leads exclude p es p es
  | down {p q name : String} {es fs inner : List (String × Entry)} (entry : (name, .folder inner) ∈ es)
      (entered : name ∉ skippedFolders) (kept : exclude (Path.join p name) = false)
      (rest : Leads exclude (Path.join p name) inner q fs) : Leads exclude p es q fs

/-- A scan of the directory `p` with the entries `es` meets a source file `f` in a directory that it
comes to. -/
def Meets (d : Disk) (exclude : String → Bool) (p : String) (es : List (String × Entry)) (f : Found) :
    Prop :=
  ∃ q fs name e, Leads exclude p es q fs ∧ (name, e) ∈ fs ∧ isSourceName name = true ∧
    d.isFile (Path.join q name) = true ∧ f = ⟨Path.join q name, exclude (Path.join q name)⟩

theorem mem_sourceFiles {p : String} {es : List (String × Entry)} {f : Found} :
    f ∈ es.filterMap (sourceFile? d exclude p) ↔
      ∃ name e, (name, e) ∈ es ∧ isSourceName name = true ∧ d.isFile (Path.join p name) = true ∧
        f = ⟨Path.join p name, exclude (Path.join p name)⟩ := by
  rw [List.mem_filterMap]
  constructor
  · rintro ⟨⟨name, e⟩, hm, hf⟩
    simp only [sourceFile?, Option.ite_none_right_eq_some, Bool.and_eq_true, Option.some.injEq] at hf
    exact ⟨name, e, hm, hf.1.1, hf.1.2, hf.2.symm⟩
  · rintro ⟨name, e, hm, hname, hfile, rfl⟩
    exact ⟨(name, e), hm, by simp [sourceFile?, hname, hfile]⟩

/-- The scan of a directory among the entries of `p`, if it is entered. -/
def scanInner (d : Disk) (exclude : String → Bool) (p : String) (x : String × Entry) : List Found :=
  if skippedFolders.contains x.1 || exclude (Path.join p x.1) then []
  else scanEntry d exclude (Path.join p x.1) x.2

theorem scanFolders_eq (p : String) (es : List (String × Entry)) :
    scanFolders d exclude p es = es.flatMap (scanInner d exclude p) := by
  induction es with
  | nil => rw [scanFolders, List.flatMap_nil]
  | cons x rest ih =>
    obtain ⟨name, e⟩ := x
    rw [scanFolders, List.flatMap_cons, ih, scanInner]

theorem mem_scanInner {p name : String} {e : Entry} {f : Found} :
    f ∈ scanInner d exclude p (name, e) ↔
      (name ∉ skippedFolders ∧ exclude (Path.join p name) = false) ∧
        f ∈ scanEntry d exclude (Path.join p name) e := by
  unfold scanInner
  split_ifs with h
  · simp only [Bool.or_eq_true, List.contains_iff_mem] at h
    simp only [List.not_mem_nil, false_iff]
    rintro ⟨⟨hname, hkept⟩, -⟩
    rcases h with h | h
    · exact hname h
    · rw [hkept] at h; cases h
  · simp only [Bool.or_eq_true, List.contains_iff_mem, not_or, Bool.not_eq_true] at h
    exact (and_iff_right h).symm

/-- **A scan lists the source files of the directories that it comes to.** -/
theorem mem_scanEntry {p : String} {es : List (String × Entry)} {f : Found} :
    f ∈ scanEntry d exclude p (.folder es) ↔ Meets d exclude p es f := by
  constructor
  · suffices h : ∀ e, ∀ p es, e = Entry.folder es → f ∈ scanEntry d exclude p e →
        Meets d exclude p es f from h _ p es rfl
    intro e
    induction e using Entry.induction_on with
    | file bytes => rintro p es ⟨⟩
    | link target => rintro p es ⟨⟩
    | folder entries ih =>
      rintro p es ⟨⟩ hf
      rw [scanEntry, List.mem_append, scanFolders_eq, List.mem_flatMap] at hf
      rcases hf with hf | ⟨⟨name, e⟩, hm, hf⟩
      · obtain ⟨name, e, hm, hf⟩ := mem_sourceFiles.mp hf
        exact ⟨p, entries, name, e, .here p entries, hm, hf⟩
      · obtain ⟨⟨hname, hkept⟩, hf⟩ := mem_scanInner.mp hf
        cases e with
        | file bytes => rw [scanEntry] at hf; cases hf
        | link target => rw [scanEntry] at hf; cases hf
        | folder inner =>
          obtain ⟨q, fs, name', e', hleads, hrest⟩ := ih _ hm _ inner rfl hf
          exact ⟨q, fs, name', e', .down hm hname hkept hleads, hrest⟩
  · rintro ⟨q, fs, name, e, hleads, hm, hf⟩
    induction hleads with
    | here p es =>
      rw [scanEntry]
      exact List.mem_append_left _ (mem_sourceFiles.mpr ⟨name, e, hm, hf⟩)
    | down hentry hname hkept _ ih =>
      rw [scanEntry, scanFolders_eq]
      exact List.mem_append_right _
        (List.mem_flatMap.mpr ⟨_, hentry, mem_scanInner.mpr ⟨⟨hname, hkept⟩, ih hm hf⟩⟩)

/-! ### Each path is listed once -/

/-- On the way of a scan the entries stay well formed, and the path names grow at their end. -/
theorem Leads.stem {p q : String} {es fs : List (String × Entry)} (h : Leads exclude p es q fs)
    (hw : (Entry.folder es).WellFormed) (hp : p ≠ "") :
    (Entry.folder fs).WellFormed ∧ q ≠ "" ∧ ∃ r, Path.stem q = Path.stem p ++ r := by
  induction h with
  | here p es => exact ⟨hw, hp, "", by rw [String.append_empty]⟩
  | @down p q name es fs inner hentry _ _ _ ih =>
    have hname := hw.proper hentry
    obtain ⟨hw', hq, r, hr⟩ := ih (hw.inner hentry) (Path.join_ne_empty hp hname.noSlash)
    refine ⟨hw', hq, name ++ "/" ++ r, ?_⟩
    rw [hr, Path.stem_of_join hp hname.ne_empty hname.noSlash]
    simp only [String.append_assoc]

/-- The path names that the scan of a directory lists begin with that of the directory. -/
theorem path_of_mem_scanEntry {p : String} {e : Entry} {f : Found} (hw : e.WellFormed) (hp : p ≠ "")
    (h : f ∈ scanEntry d exclude p e) : ∃ r, f.path = Path.stem p ++ r := by
  cases e with
  | file bytes => rw [scanEntry] at h; cases h
  | link target => rw [scanEntry] at h; cases h
  | folder es =>
    obtain ⟨q, fs, name, e, hleads, hm, -, -, rfl⟩ := mem_scanEntry.mp h
    obtain ⟨hw', hq, r, hr⟩ := hleads.stem hw hp
    refine ⟨r ++ name, ?_⟩
    rw [Path.join_eq hq (hw'.proper hm).noSlash, hr, String.append_assoc]

/-- The path names that are listed below an entry show its name. -/
theorem path_of_mem_scanInner {p name : String} {e : Entry} {f : Found} (hn : ProperName name)
    (hw : e.WellFormed) (hp : p ≠ "") (h : f ∈ scanInner d exclude p (name, e)) :
    ∃ r, f.path = Path.stem p ++ (name ++ "/" ++ r) := by
  obtain ⟨r, hr⟩ := path_of_mem_scanEntry hw (Path.join_ne_empty hp hn.noSlash) (mem_scanInner.mp h).2
  refine ⟨r, ?_⟩
  rw [hr, Path.stem_of_join hp hn.ne_empty hn.noSlash]
  simp only [String.append_assoc]

/-- The source files of a directory have the path names of some of its entries, in their order. -/
theorem sourceFiles_sublist (p : String) (es : List (String × Entry)) :
    ((es.filterMap (sourceFile? d exclude p)).map (·.path)).Sublist
      ((es.map Prod.fst).map (Path.join p)) := by
  induction es with
  | nil => exact List.Sublist.slnil
  | cons x rest ih =>
    rw [List.filterMap_cons, List.map_cons, List.map_cons]
    by_cases h : (isSourceName x.1 && d.isFile (Path.join p x.1)) = true
    · simp only [sourceFile?, if_pos h, List.map_cons]
      exact ih.cons_cons _
    · simp only [sourceFile?, if_neg h]
      exact ih.cons _

theorem nodup_sourceFiles {p : String} {es : List (String × Entry)}
    (hw : (Entry.folder es).WellFormed) (hp : p ≠ "") :
    ((es.filterMap (sourceFile? d exclude p)).map (·.path)).Nodup := by
  refine (hw.names.map_on ?_).sublist (sourceFiles_sublist p es)
  intro x hx y hy hxy
  obtain ⟨⟨x, e⟩, hxe, rfl⟩ := List.mem_map.mp hx
  obtain ⟨⟨y, e'⟩, hye, rfl⟩ := List.mem_map.mp hy
  rw [Path.join_eq hp (hw.proper hxe).noSlash, Path.join_eq hp (hw.proper hye).noSlash] at hxy
  exact (String.append_right_inj _).mp hxy

/-- Below directories with two names different path names are listed. -/
theorem disjoint_scanInner {p : String} {es : List (String × Entry)} {x y : String × Entry}
    (hw : (Entry.folder es).WellFormed) (hp : p ≠ "") (hx : x ∈ es) (hy : y ∈ es) (hne : x.1 ≠ y.1) :
    List.Disjoint ((scanInner d exclude p x).map (·.path)) ((scanInner d exclude p y).map (·.path)) := by
  intro path h h'
  obtain ⟨f, hf, rfl⟩ := List.mem_map.mp h
  obtain ⟨f', hf', hff'⟩ := List.mem_map.mp h'
  obtain ⟨r, hr⟩ := path_of_mem_scanInner (hw.proper hx) (hw.inner hx) hp hf
  obtain ⟨r', hr'⟩ := path_of_mem_scanInner (hw.proper hy) (hw.inner hy) hp hf'
  rw [hr, hr', String.append_right_inj] at hff'
  exact hne (Path.first_component_inj (hw.proper hx).noSlash (hw.proper hy).noSlash hff'.symm)

/-- Below a directory there is one more slash than in it. -/
theorem disjoint_sourceFiles {p : String} {es : List (String × Entry)}
    (hw : (Entry.folder es).WellFormed) (hp : p ≠ "") :
    List.Disjoint ((es.filterMap (sourceFile? d exclude p)).map (·.path))
      (es.flatMap fun x => (scanInner d exclude p x).map (·.path)) := by
  intro path h h'
  obtain ⟨f, hf, rfl⟩ := List.mem_map.mp h
  obtain ⟨name, e, hm, -, -, rfl⟩ := mem_sourceFiles.mp hf
  obtain ⟨x, hx, h'⟩ := List.mem_flatMap.mp h'
  obtain ⟨f', hf', hff'⟩ := List.mem_map.mp h'
  obtain ⟨r, hr⟩ := path_of_mem_scanInner (hw.proper hx) (hw.inner hx) hp hf'
  have hno := (hw.proper hm).noSlash
  rw [hr, Path.join_eq hp hno, String.append_right_inj] at hff'
  rw [← hff'] at hno
  exact hno (by simp [String.toList_append])

/-- **A scan lists each path name once.** -/
theorem nodup_scanEntry {p : String} {e : Entry} (hw : e.WellFormed) (hp : p ≠ "") :
    ((scanEntry d exclude p e).map (·.path)).Nodup := by
  induction hw generalizing p with
  | file bytes => rw [scanEntry]; exact List.nodup_nil
  | link target => rw [scanEntry]; exact List.nodup_nil
  | @folder entries names proper inner ih =>
    rw [scanEntry, scanFolders_eq, List.map_append, List.map_flatMap]
    have hw : (Entry.folder entries).WellFormed := .folder names proper inner
    refine (nodup_sourceFiles hw hp).append (List.nodup_flatMap.mpr ⟨?_, ?_⟩) (disjoint_sourceFiles hw hp)
    · rintro ⟨name, e⟩ hm
      unfold scanInner
      split_ifs
      · exact List.nodup_nil
      · exact ih _ hm (Path.join_ne_empty hp (hw.proper hm).noSlash)
    · rw [List.Nodup, List.pairwise_map] at names
      exact names.imp_of_mem fun hx hy hne => disjoint_scanInner hw hp hx hy hne

/-- **The way of a scan is that of the path name**: it leads to the entries that the scan comes to. -/
theorem Leads.find {p q : String} {es fs : List (String × Entry)} (hd : d.WellFormed)
    (h : Leads exclude p es q fs) (hp : d.find p = .ok (.folder es)) : d.find q = .ok (.folder fs) := by
  induction h with
  | here p es => exact hp
  | down hentry _ _ _ ih =>
    have hw := hd.find hp
    exact ih (Disk.find_join hp (hw.proper hentry) (Entry.lookup_of_mem hw.names hentry) (by simp))

/-! ### What paths stand for -/

/-- The paths among those found that are not excluded. -/
def kept (found : List Found) : List String := (found.filter fun f => !f.excluded).map (·.path)

theorem mem_kept {path : String} {found : List Found} : path ∈ kept found ↔ ⟨path, false⟩ ∈ found := by
  simp only [kept, List.mem_map, List.mem_filter, Bool.not_eq_true']
  constructor
  · rintro ⟨⟨path, excluded⟩, ⟨hm, rfl⟩, rfl⟩
    exact hm
  · exact fun h => ⟨_, ⟨h, rfl⟩, rfl⟩

theorem collect_ok {given : List String} (h : ∀ p ∈ givenPaths d given, d.pathExists p = true) :
    ∃ c, collect d exclude given = .ok c := by
  have hnone : (givenPaths d given).find? (fun p => !d.pathExists p) = none := by
    simpa using h
  simp only [collect, hnone]
  exact ⟨_, rfl⟩

theorem files_of_collect {given : List String} {c : Collected} (h : collect d exclude given = .ok c) :
    c.files = sortedSet (kept ((givenPaths d given).flatMap (expand d exclude))) := by
  simp only [collect] at h
  split at h
  · cases h
  · cases h; rfl

theorem mem_files_iff {given : List String} {c : Collected} {path : String}
    (h : collect d exclude given = .ok c) :
    path ∈ c.files ↔ ⟨path, false⟩ ∈ (givenPaths d given).flatMap (expand d exclude) := by
  rw [files_of_collect h, mem_sortedSet, mem_kept]

/-- A path stands for what a scan lists if it leads to a directory, and else for itself. -/
theorem mem_expand {p path : String} : ⟨path, false⟩ ∈ expand d exclude p ↔
    exclude p = false ∧ ((d.isFolder p = false ∧ path = p) ∨
      (d.isFolder p = true ∧ ⟨path, false⟩ ∈ scan d exclude p)) := by
  unfold expand
  cases hx : exclude p <;> cases hf : d.isFolder p <;> simp

theorem scan_of_folder {p : String} {es : List (String × Entry)} (h : d.find p = .ok (.folder es)) :
    scan d exclude p = scanEntry d exclude p (.folder es) := by
  rw [scan, h]

/-- The files that existing paths stand for are files. -/
theorem isFile_of_mem_expand {p path : String} (hp : d.pathExists p = true)
    (h : ⟨path, false⟩ ∈ expand d exclude p) : d.isFile path = true := by
  obtain ⟨e, he⟩ := Disk.pathExists_iff.mp hp
  obtain ⟨-, ⟨hfolder, rfl⟩ | ⟨hfolder, hscan⟩⟩ := mem_expand.mp h
  · rw [Disk.isFile_iff, he]
    cases e with
    | file bytes => exact ⟨bytes, rfl⟩
    | link target => exact absurd rfl (Disk.find_ne_link he target)
    | folder entries => rw [Disk.isFolder_iff.mpr ⟨entries, he⟩] at hfolder; cases hfolder
  · obtain ⟨entries, hfind⟩ := Disk.isFolder_iff.mp hfolder
    rw [scan_of_folder hfind] at hscan
    obtain ⟨q, fs, name, e, -, -, -, hfile, heq⟩ := mem_scanEntry.mp hscan
    rw [(Found.mk.inj heq).1]
    exact hfile

/-- Given files stand for themselves. -/
theorem mem_files_of_isFile {given : List String} {c : Collected} {path : String}
    (h : collect d exclude given = .ok c) (hfiles : ∀ p ∈ givenPaths d given, d.isFile p = true) :
    path ∈ c.files ↔ path ∈ givenPaths d given ∧ exclude path = false := by
  have hfolder : ∀ p ∈ givenPaths d given, d.isFolder p = false := by
    intro p hp
    obtain ⟨bytes, hb⟩ := Disk.isFile_iff.mp (hfiles p hp)
    rw [Disk.isFolder, hb]
    rfl
  rw [mem_files_iff h, List.mem_flatMap]
  constructor
  · rintro ⟨p, hp, hm⟩
    obtain ⟨hx, ⟨-, rfl⟩ | ⟨hf, -⟩⟩ := mem_expand.mp hm
    · exact ⟨hp, hx⟩
    · rw [hfolder p hp] at hf; cases hf
  · rintro ⟨hp, hx⟩
    exact ⟨path, hp, mem_expand.mpr ⟨hx, Or.inl ⟨hfolder path hp, rfl⟩⟩⟩

/-- `path` names a source file in or below the directory `folder`, which holds `entries`: one under a
name with the ending `.java` in a directory that a scan comes to, a file or a link that leads to one, and
not excluded. -/
def SourceBelow (d : Disk) (exclude : String → Bool) (folder : String)
    (entries : List (String × Entry)) (path : String) : Prop :=
  exclude path = false ∧ ∃ q fs name e, Leads exclude folder entries q fs ∧ (name, e) ∈ fs ∧
    (∃ s, name = s ++ ".java") ∧ path = Path.join q name ∧
    ((∃ bytes, e = .file bytes) ∨
      (∃ target, e = .link target) ∧ ∃ bytes, d.find path = .ok (.file bytes))

theorem mem_scan_iff {folder path : String} {entries : List (String × Entry)} (hd : d.WellFormed)
    (h : d.find folder = .ok (.folder entries)) :
    ⟨path, false⟩ ∈ scan d exclude folder ↔ SourceBelow d exclude folder entries path := by
  rw [scan_of_folder h, mem_scanEntry]
  constructor
  · rintro ⟨q, fs, name, e, hleads, hm, hname, hfile, heq⟩
    obtain ⟨rfl, hx⟩ := Found.mk.inj heq
    exact ⟨hx.symm, q, fs, name, e, hleads, hm, Text.closesWith_iff.mp hname, rfl,
      (Disk.isFile_join_iff hd (hleads.find hd h) hm).mp hfile⟩
  · rintro ⟨hx, q, fs, name, e, hleads, hm, hname, rfl, hfile⟩
    exact ⟨q, fs, name, e, hleads, hm, Text.closesWith_iff.mpr hname,
      (Disk.isFile_join_iff hd (hleads.find hd h) hm).mpr hfile, by rw [hx]⟩

theorem nodup_kept_scan {folder : String} {entries : List (String × Entry)} (hd : d.WellFormed)
    (h : d.find folder = .ok (.folder entries)) : (kept (scan d exclude folder)).Nodup := by
  rw [scan_of_folder h]
  exact (nodup_scanEntry (hd.find h) (Disk.ne_empty_of_find h)).sublist (List.filter_sublist.map _)

/-- The path is one of those that the given paths stand for. -/
inductive Sought (d : Disk) (exclude : String → Bool) (given : List String) : String → Prop
  | itself {path : String} (mem : path ∈ givenPaths d given) (noFolder : d.isFolder path = false)
      (stays : exclude path = false) : Sought d exclude given path
  | below {folder path : String} {entries : List (String × Entry)} (mem : folder ∈ givenPaths d given)
      (found : d.find folder = .ok (.folder entries)) (stays : exclude folder = false)
      (source : SourceBelow d exclude folder entries path) : Sought d exclude given path

/-- **The files that paths stand for**, on every file system, for every list of existing paths and
whatever is excluded: they are in strictly ascending order, and are those given paths that are no
directories, and the source files in and below those that are.  The scan of a directory lists each of its
source files once. -/
theorem collect_files_iff (exclude : String → Bool) (given : List String) (hd : d.WellFormed)
    (hgiven : ∀ p ∈ givenPaths d given, d.pathExists p = true) :
    (∃ c, collect d exclude given = .ok c ∧ c.files.Pairwise (· < ·) ∧
      ∀ path, path ∈ c.files ↔ Sought d exclude given path) ∧
    ∀ folder entries, d.find folder = .ok (.folder entries) →
      (kept (scan d exclude folder)).Nodup ∧
        ∀ path, path ∈ kept (scan d exclude folder) ↔ SourceBelow d exclude folder entries path := by
  constructor
  · obtain ⟨c, hc⟩ : ∃ c, collect d exclude given = .ok c := collect_ok hgiven
    refine ⟨c, hc, files_of_collect hc ▸ pairwise_sortedSet _, fun path => ?_⟩
    rw [mem_files_iff hc, List.mem_flatMap]
    constructor
    · rintro ⟨p, hp, hm⟩
      obtain ⟨hx, ⟨hfolder, rfl⟩ | ⟨hfolder, hscan⟩⟩ := mem_expand.mp hm
      · exact .itself hp hfolder hx
      · obtain ⟨entries, hfind⟩ := Disk.isFolder_iff.mp hfolder
        exact .below hp hfind hx ((mem_scan_iff hd hfind).mp hscan)
    · rintro (⟨hp, hfolder, hx⟩ | ⟨hp, hfind, hx, hsource⟩)
      · exact ⟨path, hp, mem_expand.mpr ⟨hx, Or.inl ⟨hfolder, rfl⟩⟩⟩
      · refine ⟨_, hp, mem_expand.mpr ⟨hx, Or.inr ⟨Disk.isFolder_iff.mpr ⟨_, hfind⟩, ?_⟩⟩⟩
        exact (mem_scan_iff hd hfind).mpr hsource
  · intro folder entries h
    exact ⟨nodup_kept_scan hd h, fun path => mem_kept.trans (mem_scan_iff hd h)⟩

/-- A disk with a file two directories down, a link to it, and a link that leads around in a circle. -/
def linkedDisk : Disk where
  root := [("src", .folder
    [("pkg", .folder [("A.java", .file [])]), ("B.java", .link "pkg/A.java"),
      ("C.java", .link "C.java"), (".git", .folder [("D.java", .file [])])])]
  cwd := []

theorem linkedDisk_wellFormed : linkedDisk.WellFormed := by
  have hA : (Entry.folder [("A.java", .file [])]).WellFormed :=
    .folder (by decide) (by decide) (by simpa using .file [])
  have hD : (Entry.folder [("D.java", .file [])]).WellFormed :=
    .folder (by decide) (by decide) (by simpa using .file [])
  refine .folder (by decide) (by decide) (List.forall_mem_singleton.mpr ?_)
  exact .folder (by decide) (by decide) (by simpa using ⟨hA, .link _, .link _, hD⟩)

theorem linkedDisk_files :
    (∀ p ∈ givenPaths linkedDisk ["/src"], linkedDisk.pathExists p = true) ∧
      ∃ c, collect linkedDisk (fun _ => false) ["/src"] = .ok c ∧
        "/src/pkg/A.java" ∈ c.files ∧ "/src/B.java" ∈ c.files := by
  have hgiven : ∀ p ∈ givenPaths linkedDisk ["/src"], linkedDisk.pathExists p = true := by
    decide +kernel
  obtain ⟨⟨c, hc, -, hm⟩, -⟩ :=
    collect_files_iff (fun _ => false) ["/src"] linkedDisk_wellFormed hgiven
  have hroot : linkedDisk.find "/" = .ok (.folder linkedDisk.root) :=
    Disk.find_slashes (by decide) (by simp)
  have hsrc : linkedDisk.find (Path.join "/" "src") = .ok (.folder _) :=
    Disk.find_join hroot (by decide) rfl (by simp)
  have hlink : ∃ bytes, linkedDisk.find "/src/B.java" = .ok (.file bytes) :=
    Disk.isFile_iff.mp (by decide +kernel)
  refine ⟨hgiven, c, hc, (hm _).mpr ?_, (hm _).mpr ?_⟩
  · exact .below (List.mem_singleton_self _) hsrc rfl ⟨rfl, "/src/pkg", [("A.java", .file [])], "A.java",
      .file [], .down List.mem_cons_self (by decide) rfl (.here _ _), List.mem_singleton_self _,
      ⟨"A", rfl⟩, by decide +kernel, Or.inl ⟨[], rfl⟩⟩
  · exact .below (List.mem_singleton_self _) hsrc rfl ⟨rfl, "/src", _, "B.java", .link "pkg/A.java",
      .here _ _, List.mem_cons_of_mem _ List.mem_cons_self, ⟨"B", rfl⟩, by decide +kernel,
      Or.inr ⟨⟨_, rfl⟩, hlink⟩⟩

end Discovery

end JavadocAudit
