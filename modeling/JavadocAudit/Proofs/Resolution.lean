import JavadocAudit.Disk
import JavadocAudit.Proofs.PathNames

/-!
# Resolving path names

A walk along components either fails on the way, whatever comes after them, or goes on from the place
that it has reached (`walkLinks_append`).  So a path name that leads to something has directories above
it (`find_before_slash`, `find_dirName`), and the name of an entry that is no link leads from a directory
to that entry (`find_join`).  A path name never leads to a link (`find_ne_link`): links are followed.
-/

namespace JavadocAudit

/-! ### Entries along components -/

namespace Entry

theorem at?_nil (e : Entry) : e.at? [] = some e := by cases e <;> rw [at?]

theorem at?_append (xs ys : List String) (e : Entry) :
    e.at? (xs ++ ys) = (e.at? xs).bind (·.at? ys) := by
  induction xs generalizing e with
  | nil => rw [List.nil_append, at?_nil, Option.bind_some]
  | cons x xs ih =>
    cases e with
    | file bytes => simp [at?]
    | link target => simp [at?]
    | folder entries =>
      rw [List.cons_append, at?, at?]
      cases entries.lookup x with
      | none => rfl
      | some inner => exact ih inner

theorem at?_singleton {entries : List (String × Entry)} {name : String} :
    (Entry.folder entries).at? [name] = entries.lookup name := by
  rw [at?]
  cases entries.lookup name with
  | none => rfl
  | some e => exact at?_nil e

/-- Something stands below an entry only if that is a directory. -/
theorem isFolder_of_at?_cons {e inner : Entry} {name : String} {rest : List String}
    (h : e.at? (name :: rest) = some inner) : ∃ entries, e = .folder entries := by
  cases e with
  | file bytes => simp [at?] at h
  | link target => simp [at?] at h
  | folder entries => exact ⟨entries, rfl⟩

end Entry

/-- A name that a directory can hold: one component, and none of the points. -/
structure ProperName (name : String) : Prop where
  ne_empty : name ≠ ""
  ne_point : name ≠ "."
  ne_points : name ≠ ".."
  noSlash : '/' ∉ name.toList
  noNul : Char.ofNat 0 ∉ name.toList

instance (name : String) : Decidable (ProperName name) :=
  decidable_of_iff
    (name ≠ "" ∧ name ≠ "." ∧ name ≠ ".." ∧ '/' ∉ name.toList ∧ Char.ofNat 0 ∉ name.toList)
    ⟨fun ⟨h₁, h₂, h₃, h₄, h₅⟩ => ⟨h₁, h₂, h₃, h₄, h₅⟩, fun ⟨h₁, h₂, h₃, h₄, h₅⟩ => ⟨h₁, h₂, h₃, h₄, h₅⟩⟩

namespace Disk

variable {d : Disk}

theorem at?_append_singleton {place : List String} {entries : List (String × Entry)}
    {name : String} (h : d.at? place = some (.folder entries)) :
    d.at? (place ++ [name]) = entries.lookup name := by
  rw [at?] at h ⊢
  rw [Entry.at?_append, h, Option.bind_some, Entry.at?_singleton]

/-- Above something there is a directory. -/
theorem at?_dropLast {place : List String} {e : Entry} (h : d.at? place = some e) :
    ∃ entries, d.at? place.dropLast = some (.folder entries) := by
  rcases List.eq_nil_or_concat place with rfl | ⟨init, last, rfl⟩
  · exact ⟨d.root, Entry.at?_nil _⟩
  · rw [List.concat_eq_append, at?, Entry.at?_append] at h
    obtain ⟨outer, houter, hlast⟩ := Option.bind_eq_some_iff.mp h
    obtain ⟨entries, rfl⟩ := Entry.isFolder_of_at?_cons hlast
    rw [List.concat_eq_append, List.dropLast_concat]
    exact ⟨entries, houter⟩

/-! ### Walks -/

/-- A step from a directory, where links at the end are followed too. -/
theorem walk_cons {follow : List String → List String → Resolved} {place : List String}
    {entries : List (String × Entry)} (h : d.at? place = some (.folder entries)) (name : String)
    (rest : List String) : d.walk true follow place (name :: rest) =
      if name = "" ∨ name = "." then d.walk true follow place rest
      else if name = ".." then d.walk true follow place.dropLast rest
      else match entries.lookup name with
        | none => .error .noEntry
        | some (.link target) =>
          follow (if Path.isAbsolute target then [] else place) (Path.split target ++ rest)
        | some _ => d.walk true follow (place ++ [name]) rest := by
  rw [walk, h]
  refine if_congr (by simp) rfl (if_congr (by simp) rfl ?_)
  cases entries.lookup name with
  | none => rfl
  | some e =>
    cases e with
    | file bytes => rfl
    | folder inner => rfl
    | link target => exact if_neg (by simp)

/-- A step is taken from a directory only. -/
theorem folder_of_walk {follow : List String → List String → Resolved} {place place' : List String}
    {name : String} {rest : List String} (h : d.walk true follow place (name :: rest) = .ok place') :
    ∃ entries, d.at? place = some (.folder entries) := by
  rw [walk] at h
  split at h
  · next entries hp => exact ⟨entries, hp⟩
  · cases h
  · cases h

/-- **Walks go on where they are**: a walk along `xs` either fails with an error, whatever comes after
`xs`, or reaches a place and goes on from there, with some links left to follow. -/
theorem walkLinks_append (links : Nat) : ∀ place xs : List String,
    (∃ fault, ∀ ys, d.walkLinks true links place (xs ++ ys) = .error fault) ∨
      ∃ place' left, ∀ ys, d.walkLinks true links place (xs ++ ys) =
        d.walkLinks true (left + 1) place' ys := by
  induction links with
  | zero => exact fun place xs => Or.inl ⟨.tooManyLinks, fun ys => rfl⟩
  | succ links ih =>
    intro place xs
    simp only [walkLinks]
    induction xs generalizing place with
    | nil => exact Or.inr ⟨place, links, fun ys => rfl⟩
    | cons name rest ihrest =>
      simp only [List.cons_append]
      cases hp : d.at? place with
      | none => exact Or.inl ⟨.noEntry, fun ys => by rw [walk, hp]⟩
      | some e =>
        cases e with
        | file bytes => exact Or.inl ⟨.notDirectory, fun ys => by rw [walk, hp]⟩
        | link target => exact Or.inl ⟨.notDirectory, fun ys => by rw [walk, hp]⟩
        | folder entries =>
          simp only [walk_cons hp]
          split_ifs with hblank hup
          · exact ihrest place
          · exact ihrest place.dropLast
          · cases entries.lookup name with
            | none => exact Or.inl ⟨.noEntry, fun ys => rfl⟩
            | some inner =>
              cases inner with
              | file bytes => exact ihrest (place ++ [name])
              | folder inner => exact ihrest (place ++ [name])
              | link target =>
                have := ih (if Path.isAbsolute target then [] else place) (Path.split target ++ rest)
                simpa [walkLinks] using this

/-- A walk along at least one component starts in a directory. -/
theorem folder_of_walkLinks {links : Nat} {place place' : List String} {name : String}
    {rest : List String} (h : d.walkLinks true links place (name :: rest) = .ok place') :
    ∃ entries, d.at? place = some (.folder entries) := by
  cases links with
  | zero => cases h
  | succ links => exact folder_of_walk h

/-- Empty components and points lead nowhere else. -/
theorem walk_blanks {follow : List String → List String → Resolved} {place : List String}
    {entries : List (String × Entry)} (hp : d.at? place = some (.folder entries)) :
    ∀ xs : List String, (∀ x ∈ xs, x = "" ∨ x = ".") → d.walk true follow place xs = .ok place
  | [], _ => by rw [walk]
  | x :: xs, h => by
    obtain ⟨hx, hxs⟩ := List.forall_mem_cons.mp h
    rw [walk_cons hp, if_pos hx]
    exact walk_blanks hp xs hxs

/-- The place holds something that is no link. -/
def Solid (d : Disk) (place : List String) : Prop :=
  ∃ e, d.at? place = some e ∧ ∀ target, e ≠ .link target

theorem solid_of_folder {place : List String} {entries : List (String × Entry)}
    (h : d.at? place = some (.folder entries)) : d.Solid place :=
  ⟨_, h, fun _ => by simp⟩

/-- Walks end at something that is no link: from a link they go on. -/
theorem solid_of_walkLinks (links : Nat) : ∀ place xs place', d.Solid place ∨ xs ≠ [] →
    d.walkLinks true links place xs = .ok place' → d.Solid place' := by
  induction links with
  | zero => intro place xs place' _ h; cases h
  | succ links ih =>
    intro place xs
    simp only [walkLinks]
    induction xs generalizing place with
    | nil =>
      rintro place' hs h
      cases h
      exact hs.resolve_right (by simp)
    | cons name rest ihrest =>
      intro place' _ h
      obtain ⟨entries, hp⟩ := folder_of_walk h
      rw [walk_cons hp] at h
      split_ifs at h with hblank hup
      · exact ihrest place place' (Or.inl (solid_of_folder hp)) h
      · obtain ⟨above, habove⟩ := at?_dropLast hp
        exact ihrest _ place' (Or.inl (solid_of_folder habove)) h
      · split at h
        · cases h
        · exact ih _ _ place' (Or.inr (by simp [Path.split_ne_nil])) h
        · next e hne hl =>
          refine ihrest _ place' (Or.inl ⟨e, ?_, fun target he => hne target he⟩) h
          rw [at?_append_singleton hp, hl]

/-- A walk that ends at a place, or does so after an empty component, goes on from there. -/
theorem walkLinks_goes_on {links : Nat} {start xs blank place : List String}
    (h : d.walkLinks true links start (xs ++ blank) = .ok place) (hblank : blank = [] ∨ blank = [""]) :
    ∃ left, ∀ ys, d.walkLinks true links start (xs ++ ys) = d.walkLinks true (left + 1) place ys := by
  rcases walkLinks_append (d := d) links start xs with ⟨fault, hall⟩ | ⟨place', left, hall⟩
  · rw [hall] at h
    cases h
  · rw [hall] at h
    have hplace : place' = place := by
      rcases hblank with rfl | rfl
      · cases h; rfl
      · obtain ⟨inner, hinner⟩ := folder_of_walkLinks h
        have hstay : d.walk true (d.walkLinks true left) place' [""] = .ok place' :=
          walk_blanks hinner [""] (by simp)
        rw [walkLinks, hstay] at h
        cases h; rfl
    exact ⟨left, by rw [← hplace]; exact hall⟩

/-! ### Path names -/

/-- The place from which a path name is followed. -/
def startOf (d : Disk) (path : String) : List String := if Path.isAbsolute path then [] else d.cwd

theorem resolve_eq {path : String} (hne : path ≠ "") (hnul : Text.holds (Char.ofNat 0) path = false) :
    d.resolve true path = d.walkLinks true (linkLimit + 1) (d.startOf path) (Path.split path) := by
  rw [resolve, if_neg (by simp [hne, hnul]), startOf]

theorem resolve_ok {path : String} {place : List String} (h : d.resolve true path = .ok place) :
    path ≠ "" ∧ Text.holds (Char.ofNat 0) path = false := by
  by_cases hbad : (path.isEmpty || Text.holds (Char.ofNat 0) path) = true
  · rw [resolve, if_pos hbad] at h
    cases h
  · simpa using hbad

theorem find_ok_iff {path : String} {e : Entry} : d.find path = .ok e ↔
    ∃ place, d.resolve true path = .ok place ∧ d.at? place = some e := by
  unfold find
  cases d.resolve true path with
  | error fault => simp
  | ok place => cases h : d.at? place <;> simp [h]

/-- **A path name never leads to a link.** -/
theorem find_ne_link {path : String} {e : Entry} (h : d.find path = .ok e) (target : String) :
    e ≠ .link target := by
  obtain ⟨place, hr, he⟩ := find_ok_iff.mp h
  obtain ⟨hne, hnul⟩ := resolve_ok hr
  rw [resolve_eq hne hnul] at hr
  obtain ⟨e', he', hlink⟩ := solid_of_walkLinks _ _ _ place (Or.inr (Path.split_ne_nil path)) hr
  rw [he] at he'
  cases he'
  exact hlink target

/-- What stands before a slash of a path name that leads to something is a directory. -/
theorem find_before_slash {p q : String} {e : Entry} (hp : p ≠ "")
    (h : d.find (p ++ "/" ++ q) = .ok e) : ∃ entries, d.find p = .ok (.folder entries) := by
  obtain ⟨place, hr, -⟩ := find_ok_iff.mp h
  obtain ⟨hne, hnul⟩ := resolve_ok hr
  have hnul' : Text.holds (Char.ofNat 0) p = false := by
    simp [Text.holds, String.toList_append] at hnul ⊢
    exact hnul.1
  have hstart : d.startOf (p ++ "/" ++ q) = d.startOf p := by
    rw [startOf, startOf, String.append_assoc, Path.isAbsolute_append _ hp]
  rw [resolve_eq hne hnul, hstart, Path.split_append_slash] at hr
  rcases walkLinks_append (d := d) (linkLimit + 1) (d.startOf p) (Path.split p) with
    ⟨fault, hall⟩ | ⟨place', left, hall⟩
  · rw [hall] at hr; cases hr
  · obtain ⟨name, rest, hq⟩ := List.exists_cons_of_ne_nil (Path.split_ne_nil q)
    rw [hall, hq] at hr
    obtain ⟨entries, hentries⟩ := folder_of_walkLinks hr
    refine ⟨entries, find_ok_iff.mpr ⟨place', ?_, hentries⟩⟩
    have := hall []
    rw [List.append_nil] at this
    rw [resolve_eq hp hnul', this, walkLinks, walk]

theorem find_slashes {p : String} (hp : p ≠ "") (hall : ∀ c ∈ p.toList, c = '/') :
    d.find p = .ok (.folder d.root) := by
  have hroot : d.at? [] = some (.folder d.root) := Entry.at?_nil _
  have hnul : Text.holds (Char.ofNat 0) p = false := by
    rw [Text.holds, Bool.eq_false_iff]
    intro h
    have := hall _ (List.contains_iff_mem.mp h)
    exact absurd this (by decide)
  have hstart : d.startOf p = [] := by
    obtain ⟨c, rest, hc⟩ := List.exists_cons_of_ne_nil (show p.toList ≠ [] by simpa using hp)
    have : c = '/' := hall c (by simp [hc])
    simp [startOf, Path.isAbsolute, Text.opensWith, hc, this]
  refine find_ok_iff.mpr ⟨[], ?_, hroot⟩
  rw [resolve_eq hp hnul, hstart]
  exact walk_blanks hroot _ fun x hx => Or.inl (Path.split_of_slashes hall x hx)

/-- A name without slashes is looked up in the working directory. -/
theorem find_point {path : String} {e : Entry} (hno : '/' ∉ path.toList) (h : d.find path = .ok e) :
    ∃ entries, d.find "." = .ok (.folder entries) := by
  obtain ⟨place, hr, -⟩ := find_ok_iff.mp h
  obtain ⟨hne, hnul⟩ := resolve_ok hr
  have hstart : d.startOf path = d.cwd := by
    rw [startOf, Path.isAbsolute_eq_false hno, if_neg (by simp)]
  rw [resolve_eq hne hnul, hstart, Path.split_of_noSlash hno] at hr
  obtain ⟨entries, hcwd⟩ := folder_of_walkLinks hr
  refine ⟨entries, find_ok_iff.mpr ⟨d.cwd, ?_, hcwd⟩⟩
  rw [resolve_eq (by decide) (by decide), Path.split_point]
  exact walk_blanks hcwd ["."] (by simp)

/-- A name leads to the same with the point in front of it. -/
theorem find_pointed {name : String} (hn : ProperName name) :
    d.find ("." ++ "/" ++ name) = d.find name := by
  have hnul : Text.holds (Char.ofNat 0) name = false := by simpa [Text.holds] using hn.noNul
  have hnul' : Text.holds (Char.ofNat 0) ("." ++ "/" ++ name) = false := by
    simpa [Text.holds, String.toList_append] using hn.noNul
  have hstart : d.startOf ("." ++ "/" ++ name) = d.startOf name := by
    rw [startOf, startOf, String.append_assoc, Path.isAbsolute_append _ (by decide),
      Path.isAbsolute_eq_false hn.noSlash]
    rfl
  have hresolve : d.resolve true ("." ++ "/" ++ name) = d.resolve true name := by
    rw [resolve_eq (by simp) hnul', resolve_eq hn.ne_empty hnul, hstart, Path.split_append_slash,
      Path.split_point, Path.split_of_noSlash hn.noSlash, walkLinks, walkLinks, List.singleton_append]
    cases hp : d.at? (d.startOf name) with
    | none => rw [walk, walk, hp]
    | some e =>
      cases e with
      | file bytes => rw [walk, walk, hp]
      | link target => rw [walk, walk, hp]
      | folder entries => rw [walk_cons hp, if_pos (Or.inr rfl)]
  rw [find, find, hresolve]

/-- **The directory of a path name that leads to something is a directory**; that of a name without
slashes is the working directory. -/
theorem find_dirName {path : String} {e : Entry} (h : d.find path = .ok e) :
    ∃ entries, d.find (if (Path.dirName path).isEmpty then "." else Path.dirName path) =
      .ok (.folder entries) := by
  rcases Path.dirName_cases path with ⟨hdir, hno⟩ | ⟨hdir, hall, -⟩ | ⟨hdir, q, hq⟩
  · rw [hdir, if_pos (by simp)]
    exact find_point hno h
  · rw [if_neg (by simpa using hdir)]
    exact ⟨d.root, find_slashes hdir hall⟩
  · rw [if_neg (by simpa using hdir)]
    rw [hq] at h
    exact find_before_slash hdir h

/-- **The name of an entry that is no link is one step** from its directory. -/
theorem resolve_join {path name : String} {place : List String} {entries : List (String × Entry)}
    {e : Entry} (hr : d.resolve true path = .ok place) (hp : d.at? place = some (.folder entries))
    (hn : ProperName name) (hl : entries.lookup name = some e) (he : ∀ target, e ≠ .link target) :
    d.resolve true (Path.join path name) = .ok (place ++ [name]) := by
  obtain ⟨hne, hnul⟩ := resolve_ok hr
  obtain ⟨xs, hjoin, hpath⟩ := Path.split_join hne hn.noSlash
  -- the directory may be spelled with a slash at its end
  obtain ⟨blank, hpath, hblank⟩ : ∃ blank, Path.split path = xs ++ blank ∧ (blank = [] ∨ blank = [""]) := by
    rcases hpath with hpath | hpath
    · exact ⟨[], by rw [hpath, List.append_nil], Or.inl rfl⟩
    · exact ⟨[""], hpath, Or.inr rfl⟩
  rw [resolve_eq hne hnul, hpath] at hr
  obtain ⟨left, hall⟩ := walkLinks_goes_on hr hblank
  have hwalk : d.walkLinks true (left + 1) place [name] = .ok (place ++ [name]) := by
    rw [walkLinks, walk_cons hp, if_neg (by simp [hn.ne_empty, hn.ne_point]), if_neg hn.ne_points, hl]
    cases e with
    | link target => exact absurd rfl (he target)
    | file bytes => rfl
    | folder inner => rfl
  have hnul' : Text.holds (Char.ofNat 0) (Path.join path name) = false := by
    rw [Path.holds_join hne hn.noSlash (by decide), hnul, Bool.false_or]
    simpa [Text.holds] using hn.noNul
  rw [resolve_eq (Path.join_ne_empty hne hn.noSlash) hnul', hjoin, startOf,
    Path.isAbsolute_join hne hn.noSlash]
  exact (hall [name]).trans hwalk

/-- **The name of an entry that is no link leads to that entry** from its directory. -/
theorem find_join {path name : String} {entries : List (String × Entry)} {e : Entry}
    (h : d.find path = .ok (.folder entries)) (hn : ProperName name)
    (hl : entries.lookup name = some e) (he : ∀ target, e ≠ .link target) :
    d.find (Path.join path name) = .ok e := by
  obtain ⟨place, hr, hp⟩ := find_ok_iff.mp h
  refine find_ok_iff.mpr ⟨place ++ [name], resolve_join hr hp hn hl he, ?_⟩
  rw [at?_append_singleton hp, hl]

/-- What is spelled with a slash at its end is a directory. -/
theorem isFolder_of_find_slash {p : String} {e : Entry} (h : d.find (p ++ "/") = .ok e) :
    ∃ entries, e = .folder entries := by
  obtain ⟨place, hr, he⟩ := find_ok_iff.mp h
  obtain ⟨hne, hnul⟩ := resolve_ok hr
  have hsplit := Path.split_append_slash p ""
  rw [String.append_empty, Path.split_of_noSlash (p := "") (by simp)] at hsplit
  rw [resolve_eq hne hnul, hsplit] at hr
  obtain ⟨left, hall⟩ := walkLinks_goes_on hr (Or.inr rfl)
  rw [hall] at hr
  obtain ⟨entries, hentries⟩ := folder_of_walkLinks hr
  rw [he] at hentries
  exact ⟨entries, Option.some.inj hentries⟩

end Disk

end JavadocAudit
