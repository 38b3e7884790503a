import JavadocAudit.Proofs.Uniqueness

/-!
# Files under two path names

A given path finds files under its own name, continued by the names of the entries on the way
(`Path.along`).  Where there are no links, the place of such a file is the place of the given path with
these names after it (`Finds`).  So if two given paths find one file, one of them leads into the other
(`Overlap`), and the file has one name exactly if the inner path is spelled like the outer one, continued
(`along_eq_iff`).

Collected names are told apart as texts.  Hence no file is checked twice exactly if the given paths that
overlap are spelled alike (`checked_once_iff`); `pointedName_twice` shows a file that is checked twice.
-/

namespace JavadocAudit

/-! ### Path names along entries -/

namespace Path

/-- The path name that goes on from `p` along names. -/
def along (p : String) (names : List String) : String := names.foldl join p

theorem along_nil (p : String) : along p [] = p := rfl

theorem along_cons (p name : String) (names : List String) :
    along p (name :: names) = along (join p name) names := rfl

theorem along_append (p : String) (names more : List String) :
    along p (names ++ more) = along (along p names) more := List.foldl_append

theorem along_ne_empty {names : List String} : ∀ {p : String}, p ≠ "" →
    (∀ x ∈ names, ProperName x) → along p names ≠ "" := by
  induction names with
  | nil => exact fun hp _ => hp
  | cons name names ih =>
    intro p hp hn
    obtain ⟨hname, hnames⟩ := List.forall_mem_cons.mp hn
    rw [along_cons]
    exact ih (join_ne_empty hp hname.noSlash) hnames

theorem along_eq {names : List String} (hne : names ≠ []) : ∀ {p : String}, p ≠ "" →
    (∀ x ∈ names, ProperName x) → along p names = stem p ++ ofComponents names := by
  induction names with
  | nil => exact absurd rfl hne
  | cons name names ih =>
    intro p hp hn
    obtain ⟨hname, hnames⟩ := List.forall_mem_cons.mp hn
    rw [along_cons, ofComponents]
    by_cases hlast : names = []
    · rw [hlast, along_nil, String.intercalate_singleton, join_eq hp hname.noSlash]
    · rw [ih hlast (join_ne_empty hp hname.noSlash) hnames,
        stem_of_join hp hname.ne_empty hname.noSlash, String.intercalate_cons_of_ne_nil hlast,
        ofComponents]
      simp only [String.append_assoc]

end Path

/-! ### Disks without links -/

/-- There is no link in or below the entry. -/
inductive Entry.LinkFree : Entry → Prop
  | file (bytes : List UInt8) : LinkFree (.file bytes)
  | folder {entries : List (String × Entry)} (inner : ∀ x ∈ entries, LinkFree x.2) :
      LinkFree (.folder entries)

theorem Entry.LinkFree.ne_link {e : Entry} (h : e.LinkFree) (target : String) : e ≠ .link target := by
  rintro rfl
  cases h

theorem Entry.LinkFree.at? {e inner : Entry} {components : List String} (h : e.LinkFree)
    (hat : e.at? components = some inner) : inner.LinkFree := by
  induction components generalizing e with
  | nil =>
    rw [at?_nil] at hat
    cases hat
    exact h
  | cons name rest ih =>
    obtain ⟨entries, rfl⟩ := isFolder_of_at?_cons hat
    rw [Entry.at?] at hat
    cases hl : entries.lookup name with
    | none => rw [hl] at hat; cases hat
    | some next =>
      rw [hl] at hat
      cases h with
      | folder hinner => exact ih (hinner _ (mem_of_lookup hl)) hat

/-- There is no link on the disk. -/
def Disk.LinkFree (d : Disk) : Prop := (Entry.folder d.root).LinkFree

namespace Discovery

variable {d : Disk} {exclude : String → Bool}

/-! ### The places of files that are found -/

/-- A scan goes on along names, both in its path name and in its place. -/
theorem Leads.along {p q : String} {es fs : List (String × Entry)} (hd : d.WellFormed)
    (h : Leads exclude p es q fs) {place : List String} (hr : d.resolve true p = .ok place)
    (hp : d.at? place = some (.folder es)) :
    ∃ names, (∀ x ∈ names, ProperName x) ∧ q = Path.along p names ∧
      d.resolve true q = .ok (place ++ names) ∧ d.at? (place ++ names) = some (.folder fs) := by
  induction h generalizing place with
  | here p es => exact ⟨[], by simp, rfl, by rwa [List.append_nil], by rwa [List.append_nil]⟩
  | @down p q name es fs inner entry _ _ _ ih =>
    have hw : (Entry.folder es).WellFormed := Entry.WellFormed.at? hd hp
    have hlookup := Entry.lookup_of_mem hw.names entry
    have hresolve := Disk.resolve_join hr hp (hw.proper entry) hlookup (by simp)
    obtain ⟨names, hnames, hq, hplace, hentry⟩ :=
      ih hresolve (by rw [Disk.at?_append_singleton hp, hlookup])
    rw [List.append_assoc, List.singleton_append] at hplace hentry
    exact ⟨name :: names, List.forall_mem_cons.mpr ⟨hw.proper entry, hnames⟩, hq, hplace, hentry⟩

/-- The given path `a`, which leads to `place`, finds the file that is further along `names`. -/
structure Finds (d : Disk) (exclude : String → Bool) (a : String) (place names : List String) :
    Prop where
  proper : ∀ x ∈ names, ProperName x
  found : ⟨Path.along a names, false⟩ ∈ expand d exclude a
  resolved : d.resolve true (Path.along a names) = .ok (place ++ names)

/-- **The files that a given path finds** are further along names from where it leads. -/
theorem exists_finds {a f : String} {place : List String} (hd : d.WellFormed) (hl : d.LinkFree)
    (hr : d.resolve true a = .ok place) (hf : ⟨f, false⟩ ∈ expand d exclude a) :
    ∃ names, f = Path.along a names ∧ Finds d exclude a place names := by
  suffices h : ∃ names, (∀ x ∈ names, ProperName x) ∧ f = Path.along a names ∧
      d.resolve true f = .ok (place ++ names) by
    obtain ⟨names, hnames, rfl, hplace⟩ := h
    exact ⟨names, rfl, hnames, hf, hplace⟩
  obtain ⟨-, ⟨-, rfl⟩ | ⟨hfolder, hscan⟩⟩ := mem_expand.mp hf
  · exact ⟨[], by simp, rfl, by rwa [List.append_nil]⟩
  · obtain ⟨es, hfind⟩ := Disk.isFolder_iff.mp hfolder
    obtain ⟨place', hr', hes⟩ := Disk.find_ok_iff.mp hfind
    obtain rfl : place' = place := by
      rw [hr] at hr'
      exact (Except.ok.inj hr').symm
    rw [scan_of_folder hfind, mem_scanEntry] at hscan
    obtain ⟨q, fs, name, e, hleads, hmem, -, -, heq⟩ := hscan
    obtain ⟨rfl, -⟩ := Found.mk.inj heq
    obtain ⟨names, hnames, rfl, hplace, hentry⟩ := hleads.along hd hr hes
    have hw : (Entry.folder fs).WellFormed := Entry.WellFormed.at? hd hentry
    have hlookup := Entry.lookup_of_mem hw.names hmem
    have hfree : e.LinkFree := by
      have hat : (Entry.folder d.root).at? (place' ++ names ++ [name]) = some e :=
        (Disk.at?_append_singleton hentry).trans hlookup
      exact Entry.LinkFree.at? hl hat
    refine ⟨names ++ [name], ?_, (Path.along_append a names [name]).symm, ?_⟩
    · exact List.forall_mem_append.mpr
        ⟨hnames, List.forall_mem_singleton.mpr (hw.proper hmem)⟩
    · rw [← List.append_assoc]
      exact Disk.resolve_join hplace hentry (hw.proper hmem) hlookup hfree.ne_link

/-! ### Paths that overlap -/

/-- The given path `b` leads, along `between`, into what `a` leads to, and both of them find some
file. -/
def Overlap (d : Disk) (exclude : String → Bool) (a b : String) (between : List String) : Prop :=
  ∃ place names, d.resolve true a = .ok place ∧ d.resolve true b = .ok (place ++ between) ∧
    Finds d exclude a place (between ++ names) ∧ Finds d exclude b (place ++ between) names

/-- Paths that overlap are spelled alike: the inner one is the outer one, continued, up to a slash at the
end. -/
def SpelledAlike (d : Disk) (exclude : String → Bool) (given : List String) : Prop :=
  ∀ a ∈ givenPaths d given, ∀ b ∈ givenPaths d given, ∀ between, Overlap d exclude a b between →
    Path.stem (Path.along a between) = Path.stem b

/-- No two of the path names lead to one file. -/
def TellApart (d : Disk) (files : List String) : Prop := (files.map (d.resolve true)).Nodup

/-- The path name of a file does not end in a slash. -/
theorem stem_of_isFile {f : String} (h : d.isFile f = true) : Path.stem f = f ++ "/" := by
  obtain ⟨bytes, hfind⟩ := Disk.isFile_iff.mp h
  rw [Path.stem, if_neg]
  intro hslash
  obtain ⟨p, rfl⟩ := Text.closesWith_iff.mp hslash
  obtain ⟨entries, he⟩ := Disk.isFolder_of_find_slash hfind
  cases he

/-- **One file under two names**: they are equal exactly if the paths that found it are spelled
alike. -/
theorem along_eq_iff {a b : String} {between names : List String} (ha : a ≠ "") (hb : b ≠ "")
    (hproper : ∀ x ∈ between ++ names, ProperName x)
    (hf : d.isFile (Path.along a (between ++ names)) = true)
    (hg : d.isFile (Path.along b names) = true) :
    Path.along a (between ++ names) = Path.along b names ↔
      Path.stem (Path.along a between) = Path.stem b := by
  obtain ⟨hbetween, hnames⟩ := List.forall_mem_append.mp hproper
  by_cases hlast : names = []
  · -- the inner path is that of the file itself
    rw [hlast, List.append_nil] at hf ⊢
    rw [hlast] at hg
    rw [Path.along_nil] at hg ⊢
    rw [stem_of_isFile hf, stem_of_isFile hg, String.append_left_inj]
  · rw [Path.along_append, Path.along_eq hlast (Path.along_ne_empty ha hbetween) hnames,
      Path.along_eq hlast hb hnames, String.append_left_inj]

section Given

variable {given : List String} (hd : d.WellFormed) (hl : d.LinkFree)
  (hgiven : ∀ p ∈ givenPaths d given, d.pathExists p = true)
include hd hl hgiven

/-- Two names of one file are found by paths that overlap, in one order or the other. -/
theorem overlap_of_resolve_eq {a b f g : String} (ha : a ∈ givenPaths d given)
    (hb : b ∈ givenPaths d given) (hf : ⟨f, false⟩ ∈ expand d exclude a)
    (hg : ⟨g, false⟩ ∈ expand d exclude b) (hfg : d.resolve true f = d.resolve true g) :
    (∃ between names, Overlap d exclude a b between ∧ f = Path.along a (between ++ names) ∧
      g = Path.along b names ∧ ∀ x ∈ between ++ names, ProperName x) ∨
    ∃ between names, Overlap d exclude b a between ∧ g = Path.along b (between ++ names) ∧
      f = Path.along a names ∧ ∀ x ∈ between ++ names, ProperName x := by
  obtain ⟨_, hfinda⟩ := Disk.pathExists_iff.mp (hgiven a ha)
  obtain ⟨_, hfindb⟩ := Disk.pathExists_iff.mp (hgiven b hb)
  obtain ⟨placea, hra, -⟩ := Disk.find_ok_iff.mp hfinda
  obtain ⟨placeb, hrb, -⟩ := Disk.find_ok_iff.mp hfindb
  obtain ⟨namesa, rfl, hfa⟩ := exists_finds hd hl hra hf
  obtain ⟨namesb, rfl, hfb⟩ := exists_finds hd hl hrb hg
  have hplaces : placea ++ namesa = placeb ++ namesb := by
    rw [hfa.resolved, hfb.resolved] at hfg
    exact Except.ok.inj hfg
  rcases List.append_eq_append_iff.mp hplaces with ⟨between, rfl, rfl⟩ | ⟨between, rfl, rfl⟩
  · exact Or.inl ⟨between, namesb, ⟨placea, namesb, hra, hrb, hfa, hfb⟩, rfl, rfl, hfa.proper⟩
  · exact Or.inr ⟨between, namesa, ⟨placeb, namesa, hrb, hra, hfb, hfa⟩, rfl, rfl, hfb.proper⟩

/-- **The collected names tell files apart** exactly if the paths that overlap are spelled alike. -/
theorem tellApart_iff {c : Collected} (hc : collect d exclude given = .ok c) :
    TellApart d c.files ↔ SpelledAlike d exclude given := by
  have hn : c.files.Nodup := files_of_collect hc ▸ nodup_sortedSet _
  rw [TellApart, List.nodup_map_iff_inj_on hn]
  have hne : ∀ p ∈ givenPaths d given, p ≠ "" := by
    intro p hp
    obtain ⟨e, he⟩ := Disk.pathExists_iff.mp (hgiven p hp)
    exact Disk.ne_empty_of_find he
  have hisFile : ∀ p ∈ givenPaths d given, ∀ f, ⟨f, false⟩ ∈ expand d exclude p → d.isFile f = true :=
    fun p hp f hf => isFile_of_mem_expand (hgiven p hp) hf
  have hmem : ∀ f, f ∈ c.files ↔ ∃ p ∈ givenPaths d given, ⟨f, false⟩ ∈ expand d exclude p := by
    intro f
    rw [mem_files_iff hc, List.mem_flatMap]
  constructor
  · rintro hapart a ha b hb between ⟨place, names, -, -, hfa, hfb⟩
    have heq : Path.along a (between ++ names) = Path.along b names := by
      refine hapart _ ((hmem _).mpr ⟨a, ha, hfa.found⟩) _ ((hmem _).mpr ⟨b, hb, hfb.found⟩) ?_
      rw [hfa.resolved, hfb.resolved, List.append_assoc]
    exact (along_eq_iff (hne a ha) (hne b hb) hfa.proper (hisFile a ha _ hfa.found)
      (hisFile b hb _ hfb.found)).mp heq
  · intro halike f hf g hg hfg
    obtain ⟨a, ha, hfa⟩ := (hmem f).mp hf
    obtain ⟨b, hb, hgb⟩ := (hmem g).mp hg
    rcases overlap_of_resolve_eq hd hl hgiven ha hb hfa hgb hfg with
      ⟨between, names, hover, rfl, rfl, hproper⟩ | ⟨between, names, hover, rfl, rfl, hproper⟩
    · exact (along_eq_iff (hne a ha) (hne b hb) hproper (hisFile a ha _ hfa)
        (hisFile b hb _ hgb)).mpr (halike a ha b hb between hover)
    · exact ((along_eq_iff (hne b hb) (hne a ha) hproper (hisFile b hb _ hgb)
        (hisFile a ha _ hfa)).mpr (halike b hb a ha between hover)).symm

end Given

end Discovery

/-! ### Runs -/

namespace Check

/-- **A file that has one name** has the findings of one audit in the report. -/
theorem filter_findings_of_tellApart {d : Disk} {settings : Settings} {files : List String}
    (hfiles : ∀ f ∈ files, d.isFile f = true) (h : Discovery.TellApart d files) {f : String}
    (hf : f ∈ files) :
    (Finding.sorted (files.flatMap (findingsOf d settings) ++ extraFindings d settings files)).filter
      (fun x => d.resolve true x.path = d.resolve true f) = findingsOf d settings f := by
  rw [← filter_findings h.of_map hfiles hf]
  refine List.filter_congr fun x hx => Bool.eq_iff_iff.mpr ?_
  rw [decide_eq_true_eq, beq_iff_eq]
  refine ⟨fun hplace => ?_, fun hpath => by rw [hpath]⟩
  by_cases hmem : x.path ∈ files
  · exact List.inj_on_of_nodup_map h hmem hf hplace
  · -- it is the finding of a directory, which is at another place than a file
    have hextra := (mem_findings_iff hmem).mp hx
    obtain ⟨g, hg, -, rfl⟩ := (mem_extraFindings_iff (of_mem_extraFindings hextra).1).mp hextra
    have hfolder := isFile_shown (hfiles g hg)
    have hfile := hfiles f hf
    rw [Disk.isFile, Disk.find, ← hplace] at hfile
    rw [Disk.isFile, Disk.find, ← folderFinding_path, hfile] at hfolder
    cases hfolder

/-- **When no file is checked twice**: on a disk without links, for all existing paths and whatever is
excluded, the names of the checked files tell the files apart exactly if those given paths that overlap
are spelled alike.  Then the report holds what one audit of each file finds. -/
theorem checked_once_iff (d : Disk) (settings : Settings) (given : List String) (hd : d.WellFormed)
    (hl : d.LinkFree) (hgiven : ∀ p ∈ Discovery.givenPaths d given, d.pathExists p = true) :
    ∃ c out, Discovery.collect d (Settings.matchesText settings.exclude) given = .ok c ∧
      paths d settings given = .ok out ∧ out.report.files = c.files ∧
      (Discovery.TellApart d c.files ↔
        Discovery.SpelledAlike d (Settings.matchesText settings.exclude) given) ∧
      (Discovery.TellApart d c.files → ∀ f ∈ c.files,
        out.report.findings.filter (fun x => d.resolve true x.path = d.resolve true f) =
          findingsOf d settings f) := by
  obtain ⟨c, out, hc, hout, -, hfiles, hreport⟩ := paths_ok settings hgiven
  refine ⟨c, out, hc, hout, by rw [hreport], Discovery.tellApart_iff hd hl hgiven hc, fun h f hf => ?_⟩
  rw [hreport]
  exact filter_findings_of_tellApart hfiles h hf

theorem splitDisk_wellFormed : splitDisk.WellFormed := by
  have hp : (Entry.folder [("B.java", .file [])]).WellFormed :=
    .folder (by decide) (by decide) (by simpa using .file [])
  exact .folder (by decide) (by decide) (by simpa [splitDisk] using ⟨.file _, hp⟩)

theorem splitDisk_linkFree : splitDisk.LinkFree := by
  have hp : (Entry.folder [("B.java", .file [])]).LinkFree := .folder (by simpa using .file [])
  exact .folder (by simpa [splitDisk] using ⟨.file _, hp⟩)

/-- A directory and one inside of it are spelled alike, and both find a file. -/
theorem splitDisk_once :
    splitDisk.WellFormed ∧ splitDisk.LinkFree ∧
      (∀ p ∈ Discovery.givenPaths splitDisk ["/", "/p"], splitDisk.pathExists p = true) ∧
      Discovery.Overlap splitDisk (Settings.matchesText none) "/" "/p" ["p"] ∧
      ∃ c out, Discovery.collect splitDisk (Settings.matchesText none) ["/", "/p"] = .ok c ∧
        paths splitDisk Settings.initial ["/", "/p"] = .ok out ∧ out.report.files = c.files ∧
        Discovery.TellApart splitDisk c.files := by
  have hgiven : ∀ p ∈ Discovery.givenPaths splitDisk ["/", "/p"], splitDisk.pathExists p = true := by
    decide +kernel
  have hroot : splitDisk.resolve true "/" = .ok [] := by decide +kernel
  have hp : splitDisk.resolve true "/p" = .ok ["p"] := by decide +kernel
  have hover : Discovery.Overlap splitDisk (Settings.matchesText none) "/" "/p" ["p"] :=
    ⟨[], ["B.java"], hroot, hp, ⟨by decide, by decide +kernel, by decide +kernel⟩,
      ⟨by decide, by decide +kernel, by decide +kernel⟩⟩
  have halike : Discovery.SpelledAlike splitDisk (Settings.matchesText none) ["/", "/p"] := by
    rintro a ha b hb between ⟨place, -, hra, hrb, -⟩
    have hpaths : Discovery.givenPaths splitDisk ["/", "/p"] = ["/", "/p"] := rfl
    simp only [hpaths, List.mem_cons, List.not_mem_nil, or_false] at ha hb
    rcases ha with rfl | rfl
    · obtain rfl : [] = place := Except.ok.inj (hroot.symm.trans hra)
      rcases hb with rfl | rfl
      · obtain rfl : [] = between := Except.ok.inj (hroot.symm.trans hrb)
        rfl
      · obtain rfl : ["p"] = between := Except.ok.inj (hp.symm.trans hrb)
        decide +kernel
    · obtain rfl : ["p"] = place := Except.ok.inj (hp.symm.trans hra)
      rcases hb with rfl | rfl
      · cases Except.ok.inj (hroot.symm.trans hrb)
      · obtain rfl : [] = between := (List.cons.inj (Except.ok.inj (hp.symm.trans hrb))).2
        rfl
  obtain ⟨c, out, hc, hout, hfiles, hiff, -⟩ := checked_once_iff splitDisk Settings.initial ["/", "/p"]
    splitDisk_wellFormed splitDisk_linkFree hgiven
  exact ⟨splitDisk_wellFormed, splitDisk_linkFree, hgiven, hover, c, out, hc, hout, hfiles,
    hiff.mpr halike⟩

theorem pointedDisk_wellFormed : pointedDisk.WellFormed :=
  .folder (by decide) (by decide) (by simpa [pointedDisk] using .file [])

theorem pointedDisk_linkFree : pointedDisk.LinkFree :=
  .folder (by simpa [pointedDisk] using .file [])

/-- **A file that is checked twice**: its name is given with and without a point before it. -/
theorem pointedName_twice :
    pointedDisk.WellFormed ∧ pointedDisk.LinkFree ∧
      (∀ p ∈ Discovery.givenPaths pointedDisk ["A.java", "./A.java"],
        pointedDisk.pathExists p = true) ∧
      ∃ c out, Discovery.collect pointedDisk (Settings.matchesText none) ["A.java", "./A.java"] = .ok c ∧
        paths pointedDisk Settings.initial ["A.java", "./A.java"] = .ok out ∧
        out.report.files = c.files ∧ "A.java" ∈ c.files ∧ "./A.java" ∈ c.files ∧
        pointedDisk.resolve true "A.java" = pointedDisk.resolve true "./A.java" ∧
        ¬ Discovery.TellApart pointedDisk c.files := by
  have hgiven : ∀ p ∈ Discovery.givenPaths pointedDisk ["A.java", "./A.java"],
      pointedDisk.pathExists p = true := by decide +kernel
  obtain ⟨c, out, hc, hout, -, -, hreport⟩ := paths_ok Settings.initial hgiven
  have hfiles : ∀ f ∈ Discovery.givenPaths pointedDisk ["A.java", "./A.java"], f ∈ c.files := by
    intro f hf
    exact (Discovery.mem_files_of_isFile hc (by decide +kernel)).mpr ⟨hf, rfl⟩
  have hplain : "A.java" ∈ c.files := hfiles _ (by decide)
  have hpointed : "./A.java" ∈ c.files := hfiles _ (by decide)
  have hsame : pointedDisk.resolve true "A.java" = pointedDisk.resolve true "./A.java" := by
    decide +kernel
  refine ⟨pointedDisk_wellFormed, pointedDisk_linkFree, hgiven, c, out, hc, hout, by rw [hreport], hplain,
    hpointed, hsame, fun h => ?_⟩
  exact absurd (List.inj_on_of_nodup_map h hplain hpointed hsame) (by decide)

end Check

end JavadocAudit
