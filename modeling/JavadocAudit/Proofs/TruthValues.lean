import JavadocAudit.Proofs.LastOption
import Mathlib.Data.List.TakeWhile

/-!
# Truth values attached to flags

Before the options of a command line are read, each flag with a truth value attached is replaced by the
flag that turns the toggle on or by the one that turns it off.  `Misvalues` says that a word attaches
something else to a flag, and `Resolves` what becomes of any other word.  A line is refused exactly if a
word before the two dashes is of the first sort, and the fault names the value of the first such word.  All
other lines keep their length; what stands from the two dashes on and every word without a flag and a value
stay as they are, and to resolve the line once more changes nothing (`truth_values_resolved`).

One word is settled by `expandWord_eq_ok_iff` and `expandWord_eq_error_iff`; the line follows by induction
over its words (`mapM_expandWord_eq_ok_iff`, `mapM_expandWord_eq_error`).
-/

namespace JavadocAudit.Command

/-! ### Words -/

/-- The word attaches a value to the flag of a toggle.  No flag holds an equals sign, so the value is what
stands after the first one. -/
def Attaches (word : String) (t : Toggle) (value : String) : Prop :=
  word = "--" ++ t.stem ++ "=" ++ value

/-- The value is a word for a truth value, in any case of letters. -/
def Means (value : String) (on : Bool) : Prop := ∃ word ∈ truthWords on, CaseVariant value word

/-- The word attaches a value to a flag that is no truth value. -/
def Misvalues (word value : String) : Prop := (∃ t, Attaches word t value) ∧ ∀ on, ¬Means value on

/-- **What becomes of a word**: with a truth value attached it is replaced by one of the two flags of the
toggle, and without a flag and a value it stays as it is. -/
inductive Resolves : String → String → Prop where
  | yes {word value : String} {t : Toggle} (hword : Attaches word t value) (hvalue : Means value true) :
      Resolves word ("--" ++ t.stem)
  | no {word value : String} {t : Toggle} (hword : Attaches word t value) (hvalue : Means value false) :
      Resolves word ("--no-" ++ t.stem)
  | other {word : String} (hword : ∀ t value, ¬Attaches word t value) : Resolves word word

/-- The words before the two dashes. -/
def optionWords (line : List String) : List String := line.takeWhile (· != "--")

/-- The two dashes and the words after them. -/
def finalWords (line : List String) : List String := line.dropWhile (· != "--")

/-! ### Truth values -/

theorem eq_toLower_or_eq_toUpper (c : Char) : c = c.toLower ∨ c = c.toLower.toUpper := by
  by_cases hupper : c.val ≥ 'A'.val ∧ c.val ≤ 'Z'.val
  · right
    have hbounds : 65 ≤ c.val.toNat ∧ c.val.toNat ≤ 90 := hupper
    have hlow : c.toLower.val = c.val + 32 := congrArg Char.val (dif_pos hupper)
    have hnat : c.toLower.val.toNat = c.val.toNat + 32 := by
      rw [hlow, UInt32.toNat_add, show (32 : UInt32).toNat = 32 from rfl]
      omega
    have hlower : 'a'.val ≤ c.toLower.val ∧ c.toLower.val ≤ 'z'.val := by
      show 97 ≤ c.toLower.val.toNat ∧ c.toLower.val.toNat ≤ 122
      omega
    have hup : c.toLower.toUpper = _ := dif_pos hlower
    -- the two shifts undo each other
    have hback : (32 : UInt32) + ('A'.val - 'a'.val) = 0 := by decide
    refine Char.ext ?_
    rw [hup]
    show c.val = c.toLower.val + _
    rw [hlow, UInt32.add_assoc, hback, UInt32.add_zero]
  · have hsame : c.toLower = c := dif_neg hupper
    exact .inl hsame.symm

theorem caseVariant_of_map_toLower {value word : String} (h : value.map Char.toLower = word) :
    CaseVariant value word := by
  rw [CaseVariant, ← h, String.toList_map, List.forall₂_map_right_iff, List.forall₂_same]
  exact fun c _ => eq_toLower_or_eq_toUpper c

/-- A value is read as a truth value exactly if it is a word for it. -/
theorem boolean?_eq_some_iff {value : String} {on : Bool} : boolean? value = some on ↔ Means value on := by
  constructor
  · intro h
    refine ⟨value.map Char.toLower, ?_, caseVariant_of_map_toLower rfl⟩
    simp only [boolean?] at h
    split at h
    · next hyes =>
      cases h
      exact List.contains_iff_mem.mp hyes
    · split at h
      · next hno =>
        cases h
        exact List.contains_iff_mem.mp hno
      · cases h
  · rintro ⟨word, hword, hcase⟩
    exact boolean?_of_caseVariant hword hcase

theorem boolean?_eq_none_iff {value : String} : boolean? value = none ↔ ∀ on, ¬Means value on := by
  rw [Option.eq_none_iff_forall_ne_some]
  exact forall_congr' fun on => not_congr boolean?_eq_some_iff

/-! ### One word -/

/-- What is left after all that differs from an element begins with that element. -/
theorem eq_of_dropWhile_ne {α : Type} [BEq α] [LawfulBEq α] {a x : α} {list rest : List α}
    (h : list.dropWhile (· != a) = x :: rest) : x = a := by
  have hne : list.dropWhile (· != a) ≠ [] := by rw [h]; exact List.cons_ne_nil _ _
  simpa [h] using List.head_dropWhile_not (· != a) hne

theorem splitEquals?_eq_some {word name value : String} (h : splitEquals? word = some (name, value)) :
    word = name ++ "=" ++ value := by
  unfold splitEquals? at h
  split at h
  · cases h
  · next c rest hdrop =>
    obtain ⟨rfl, rfl⟩ := Prod.mk.inj (Option.some.inj h)
    -- the rest of the word begins with the equals sign at which it was cut
    obtain rfl : c = '=' := eq_of_dropWhile_ne hdrop
    have hword : word.toList.takeWhile (· != '=') ++ '=' :: rest = word.toList := by
      rw [← hdrop, List.takeWhile_append_dropWhile]
    rw [← String.toList_inj]
    simpa using hword.symm

theorem flagWithValue?_eq_some_iff {word value : String} {t : Toggle} :
    flagWithValue? word = some (t, value) ↔ Attaches word t value := by
  constructor
  · intro h
    unfold flagWithValue? at h
    split at h
    · next name v hsplit =>
      obtain ⟨u, hu, hpair⟩ := Option.map_eq_some_iff.mp h
      obtain ⟨rfl, rfl⟩ := Prod.mk.inj hpair
      have hname : name = u.flagFor true := CheckCommand.ofFlag?_eq_some_iff.mp hu
      rw [splitEquals?_eq_some hsplit, hname]
      rfl
    · cases h
  · rintro rfl
    have hsplit : splitEquals? (t.flag ++ "=" ++ value) = some (t.flag, value) :=
      splitEquals?_append (CheckCommand.equals_notMem_optionName (.toggle t true)) value
    have hflag : Toggle.ofFlag? t.flag = some t := CheckCommand.ofFlag?_eq_some_iff.mpr rfl
    show flagWithValue? (t.flag ++ "=" ++ value) = some (t, value)
    simp only [flagWithValue?, hsplit, hflag, Option.map_some]

theorem flagWithValue?_eq_none_iff {word : String} :
    flagWithValue? word = none ↔ ∀ t value, ¬Attaches word t value := by
  rw [Option.eq_none_iff_forall_ne_some]
  constructor
  · exact fun h t value hword => h (t, value) (flagWithValue?_eq_some_iff.mpr hword)
  · exact fun h p hp => h p.1 p.2 (flagWithValue?_eq_some_iff.mp hp)

theorem expandWord_eq_error_iff {word : String} {fault : ArgumentFault} :
    expandWord word = .error fault ↔ ∃ value, Misvalues word value ∧ fault = .notBoolean value := by
  constructor
  · intro h
    unfold expandWord at h
    split at h
    · cases h
    · next t value hword =>
      split at h
      · cases h
      · next hvalue =>
        cases h
        exact ⟨value, ⟨⟨t, flagWithValue?_eq_some_iff.mp hword⟩, boolean?_eq_none_iff.mp hvalue⟩, rfl⟩
  · rintro ⟨value, ⟨⟨t, hword⟩, hvalue⟩, rfl⟩
    simp only [expandWord, flagWithValue?_eq_some_iff.mpr hword, boolean?_eq_none_iff.mpr hvalue]

theorem expandWord_eq_ok_iff {word expanded : String} :
    expandWord word = .ok expanded ↔ Resolves word expanded := by
  constructor
  · intro h
    unfold expandWord at h
    split at h
    · next hword =>
      cases h
      exact .other (flagWithValue?_eq_none_iff.mp hword)
    · next t value hword =>
      split at h
      · next on hvalue =>
        have hattaches := flagWithValue?_eq_some_iff.mp hword
        have hmeans := boolean?_eq_some_iff.mp hvalue
        cases h
        cases on with
        | true => exact .yes hattaches hmeans
        | false => exact .no hattaches hmeans
      · cases h
  · intro h
    cases h with
    | yes hword hvalue =>
      simp only [expandWord, flagWithValue?_eq_some_iff.mpr hword, boolean?_eq_some_iff.mpr hvalue]
      rfl
    | no hword hvalue =>
      simp only [expandWord, flagWithValue?_eq_some_iff.mpr hword, boolean?_eq_some_iff.mpr hvalue]
      rfl
    | other hword => simp only [expandWord, flagWithValue?_eq_none_iff.mpr hword]

theorem exists_resolves_iff {word : String} :
    (∃ expanded, Resolves word expanded) ↔ ∀ value, ¬Misvalues word value := by
  cases h : expandWord word with
  | ok expanded =>
    have hnone : ∀ value, ¬Misvalues word value := by
      intro value hvalue
      rw [expandWord_eq_error_iff.mpr ⟨value, hvalue, rfl⟩] at h
      cases h
    exact ⟨fun _ => hnone, fun _ => ⟨expanded, expandWord_eq_ok_iff.mp h⟩⟩
  | error fault =>
    obtain ⟨value, hvalue, -⟩ := expandWord_eq_error_iff.mp h
    refine ⟨?_, fun hnone => absurd hvalue (hnone value)⟩
    rintro ⟨expanded, hexpanded⟩
    rw [expandWord_eq_ok_iff.mpr hexpanded] at h
    cases h

/-- A word that has become of another one is not the two dashes, and stays as it is. -/
theorem Resolves.settled {word expanded : String} (h : Resolves word expanded) (hne : word ≠ "--") :
    expanded ≠ "--" ∧ Resolves expanded expanded := by
  have hflag : ∀ (t : Toggle) on, t.flagFor on ≠ "--" ∧ Resolves (t.flagFor on) (t.flagFor on) := by
    intro t on
    have hspells : Spells (t.flagFor on) (.toggle t on) := .resolved (.toggle t on)
    exact ⟨CheckCommand.ne_dashes_of_spelled hspells,
      expandWord_eq_ok_iff.mp (CheckCommand.expandWord_spelled hspells)⟩
  cases h with
  | @yes _ t => exact hflag t true
  | @no _ t => exact hflag t false
  | other hword => exact ⟨hne, .other hword⟩

/-! ### The line -/

theorem optionWords_append_finalWords (line : List String) : optionWords line ++ finalWords line = line :=
  List.takeWhile_append_dropWhile

theorem ne_dashes_of_mem_optionWords {line : List String} {word : String} (h : word ∈ optionWords line) :
    word ≠ "--" := by
  unfold optionWords at h
  exact bne_iff_ne.mp (List.mem_takeWhile_imp (p := (· != "--")) h)

theorem finalWords_cases (line : List String) :
    finalWords line = [] ∨ ∃ rest, finalWords line = "--" :: rest := by
  cases h : finalWords line with
  | nil => exact .inl rfl
  | cons word rest =>
    have hword : word = "--" := eq_of_dropWhile_ne h
    exact .inr ⟨rest, by rw [hword]⟩

/-- Words none of which is the two dashes, in front of the two dashes and what follows, or of nothing. -/
theorem optionWords_append {words : List String} (h : ∀ word ∈ words, word ≠ "--") (line : List String) :
    optionWords (words ++ finalWords line) = words ∧
      finalWords (words ++ finalWords line) = finalWords line := by
  have hwords : ∀ word ∈ words, (word != "--") = true := fun word hword => bne_iff_ne.mpr (h word hword)
  have hfinal : optionWords (finalWords line) = [] ∧ finalWords (finalWords line) = finalWords line := by
    rcases finalWords_cases line with hline | ⟨rest, hline⟩ <;> rw [hline] <;> exact ⟨rfl, rfl⟩
  constructor
  · rw [optionWords, List.takeWhile_append_of_pos hwords]
    exact (congrArg (words ++ ·) hfinal.1).trans (List.append_nil _)
  · rw [finalWords, List.dropWhile_append_of_pos hwords]
    exact hfinal.2

/-- A line is resolved word by word, up to the two dashes. -/
theorem expandFlags_eq_mapM (line : List String) :
    expandFlags line = ((optionWords line).mapM expandWord).map (· ++ finalWords line) := by
  induction line with
  | nil => rfl
  | cons word rest ih =>
    by_cases hword : word = "--"
    · subst hword
      rfl
    · have hne : (word == dashesText) = false := beq_eq_false_iff_ne.mpr hword
      have hoptions : optionWords (word :: rest) = word :: optionWords rest :=
        List.takeWhile_cons_of_pos (bne_iff_ne.mpr hword)
      have hfinal : finalWords (word :: rest) = finalWords rest :=
        List.dropWhile_cons_of_pos (bne_iff_ne.mpr hword)
      rw [hoptions, hfinal, List.mapM_cons]
      simp only [expandFlags, hne, Bool.false_eq_true, if_false, ih]
      cases expandWord word with
      | error fault => rfl
      | ok expanded => cases (optionWords rest).mapM expandWord <;> rfl

theorem mapM_expandWord_eq_ok_iff {words resolved : List String} :
    words.mapM expandWord = .ok resolved ↔ List.Forall₂ Resolves words resolved := by
  induction words generalizing resolved with
  | nil =>
    rw [List.forall₂_nil_left_iff]
    exact ⟨fun h => (Except.ok.inj h).symm, fun h => congrArg Except.ok h.symm⟩
  | cons word words ih =>
    rw [List.mapM_cons]
    constructor
    · intro h
      cases hword : expandWord word with
      | error fault => rw [hword] at h; cases h
      | ok expanded =>
        cases hwords : words.mapM expandWord with
        | error fault => rw [hword, hwords] at h; cases h
        | ok more =>
          rw [hword, hwords] at h
          cases h
          exact .cons (expandWord_eq_ok_iff.mp hword) (ih.mp hwords)
    · intro h
      cases h with
      | cons hword hwords =>
        rw [expandWord_eq_ok_iff.mpr hword, ih.mpr hwords]
        rfl

/-- Words are refused for the first one that is at fault. -/
theorem mapM_expandWord_eq_error {before after : List String} {word : String} {fault : ArgumentFault}
    (hbefore : ∀ w ∈ before, ∀ v, ¬Misvalues w v) (hword : expandWord word = .error fault) :
    (before ++ word :: after).mapM expandWord = .error fault := by
  induction before with
  | nil =>
    rw [List.nil_append, List.mapM_cons, hword]
    rfl
  | cons first before ih =>
    have hmore := ih fun w hw => hbefore w (List.mem_cons_of_mem _ hw)
    rw [List.cons_append, List.mapM_cons, hmore]
    cases hfirst : expandWord first with
    | ok expanded => rfl
    | error f =>
      obtain ⟨value, hvalue, -⟩ := expandWord_eq_error_iff.mp hfirst
      exact absurd hvalue (hbefore first List.mem_cons_self value)

theorem exists_resolved_iff {words : List String} :
    (∃ resolved, List.Forall₂ Resolves words resolved) ↔ ∀ word ∈ words, ∀ value, ¬Misvalues word value := by
  induction words with
  | nil => exact ⟨fun _ _ h => absurd h List.not_mem_nil, fun _ => ⟨[], .nil⟩⟩
  | cons word words ih =>
    rw [List.forall_mem_cons, ← ih, ← exists_resolves_iff]
    constructor
    · rintro ⟨_, h⟩
      cases h with
      | cons hword hwords => exact ⟨⟨_, hword⟩, ⟨_, hwords⟩⟩
    · rintro ⟨⟨expanded, hword⟩, ⟨resolved, hwords⟩⟩
      exact ⟨expanded :: resolved, .cons hword hwords⟩

theorem expandFlags_eq_ok {line resolved : List String}
    (h : List.Forall₂ Resolves (optionWords line) resolved) :
    expandFlags line = .ok (resolved ++ finalWords line) := by
  rw [expandFlags_eq_mapM, mapM_expandWord_eq_ok_iff.mpr h]
  rfl

theorem expandFlags_isError_iff {line : List String} : (∃ fault, expandFlags line = .error fault) ↔
    ∃ word ∈ optionWords line, ∃ value, Misvalues word value := by
  constructor
  · rintro ⟨fault, hfault⟩
    by_contra hnone
    push Not at hnone
    obtain ⟨resolved, hresolved⟩ := exists_resolved_iff.mpr hnone
    rw [expandFlags_eq_ok hresolved] at hfault
    cases hfault
  · rintro ⟨word, hword, value, hvalue⟩
    cases hmap : (optionWords line).mapM expandWord with
    | error fault =>
      refine ⟨fault, ?_⟩
      rw [expandFlags_eq_mapM, hmap]
      rfl
    | ok resolved =>
      have hnone := exists_resolved_iff.mp ⟨resolved, mapM_expandWord_eq_ok_iff.mp hmap⟩
      exact absurd hvalue (hnone word hword value)

theorem settled_of_resolves {words resolved : List String} (hne : ∀ word ∈ words, word ≠ "--")
    (h : List.Forall₂ Resolves words resolved) : ∀ w ∈ resolved, w ≠ "--" ∧ Resolves w w := by
  induction h with
  | nil => exact fun _ hw => absurd hw List.not_mem_nil
  | cons hword _ ih =>
    obtain ⟨hfirst, hrest⟩ := List.forall_mem_cons.mp hne
    exact List.forall_mem_cons.mpr ⟨hword.settled hfirst, ih hrest⟩

/-- A line that is resolved is resolved for good. -/
theorem expandFlags_resolved {line resolved : List String}
    (h : List.Forall₂ Resolves (optionWords line) resolved) :
    expandFlags (resolved ++ finalWords line) = .ok (resolved ++ finalWords line) := by
  have hsettled := settled_of_resolves (fun _ hword => ne_dashes_of_mem_optionWords hword) h
  obtain ⟨hoptions, hfinal⟩ := optionWords_append (fun w hw => (hsettled w hw).1) line
  have hsame : List.Forall₂ Resolves (optionWords (resolved ++ finalWords line)) resolved := by
    rw [hoptions, List.forall₂_same]
    exact fun w hw => (hsettled w hw).2
  rw [expandFlags_eq_ok hsame, hfinal]

/-- **Truth values are resolved or refused.**  A line is refused exactly if some word before the two dashes
attaches to a flag what is no truth value, and the fault quotes the value of the first such word.  Any
other line is resolved: words before the two dashes that have a truth value attached to a flag are replaced,
and all else stays in its place.  What comes out is resolved already. -/
theorem truth_values_resolved (line : List String) :
    ((∃ fault, expandFlags line = .error fault) ↔
      ∃ word ∈ optionWords line, ∃ value, Misvalues word value) ∧
    (∀ before word after value, optionWords line = before ++ word :: after →
      (∀ w ∈ before, ∀ v, ¬Misvalues w v) → Misvalues word value →
        ∃ fault, expandFlags line = .error fault ∧
          fault.message = "expected a boolean, got " ++ Text.quoted value) ∧
    ((∀ word ∈ optionWords line, ∀ value, ¬Misvalues word value) →
      ∃ resolved, expandFlags line = .ok (resolved ++ finalWords line) ∧
        List.Forall₂ Resolves (optionWords line) resolved ∧
        (resolved ++ finalWords line).length = line.length ∧
        expandFlags (resolved ++ finalWords line) = .ok (resolved ++ finalWords line)) := by
  refine ⟨expandFlags_isError_iff, ?_, ?_⟩
  · intro before word after value hline hbefore hword
    have hfault : expandWord word = .error (.notBoolean value) :=
      expandWord_eq_error_iff.mpr ⟨value, hword, rfl⟩
    refine ⟨.notBoolean value, ?_, rfl⟩
    rw [expandFlags_eq_mapM, hline, mapM_expandWord_eq_error hbefore hfault]
    rfl
  · intro hnone
    obtain ⟨resolved, hresolved⟩ := exists_resolved_iff.mpr hnone
    have hlength : (resolved ++ finalWords line).length = line.length := by
      rw [List.length_append, ← hresolved.length_eq, ← List.length_append, optionWords_append_finalWords]
    exact ⟨resolved, expandFlags_eq_ok hresolved, hresolved, hlength, expandFlags_resolved hresolved⟩

/-- Flags with truth values, among words that only look like it. -/
def likeFlags : List String :=
  ["--verbose=YES", "--exclude=--verbose=x", "--no-verbose=true", "--verb=true", "--relative=off", "--",
    "--verbose=x"]

/-- What becomes of the words before the two dashes. -/
def resolvedFlags : List String :=
  ["--verbose", "--exclude=--verbose=x", "--no-verbose=true", "--verb=true", "--no-relative"]

theorem likeFlags_resolved :
    (∀ word ∈ optionWords likeFlags, ∀ value, ¬Misvalues word value) ∧
    Misvalues "--verbose=a=b" "a=b" ∧
    (∃ fault, expandFlags ("--verbose=a=b" :: likeFlags) = .error fault ∧
      fault.message = "expected a boolean, got " ++ Text.quoted "a=b") ∧
    List.Forall₂ Resolves (optionWords likeFlags) resolvedFlags ∧
    expandFlags likeFlags = .ok (resolvedFlags ++ finalWords likeFlags) ∧
    expandFlags (resolvedFlags ++ finalWords likeFlags) = .ok (resolvedFlags ++ finalWords likeFlags) := by
  have hwords : List.Forall₂ Resolves (optionWords likeFlags) resolvedFlags :=
    mapM_expandWord_eq_ok_iff.mp (by decide +kernel)
  have hgood : ∀ word ∈ optionWords likeFlags, ∀ value, ¬Misvalues word value :=
    exists_resolved_iff.mp ⟨resolvedFlags, hwords⟩
  have hbad : Misvalues "--verbose=a=b" "a=b" := by
    have hfault : expandWord "--verbose=a=b" = .error (.notBoolean "a=b") := by decide +kernel
    obtain ⟨value, hvalue, hsame⟩ := expandWord_eq_error_iff.mp hfault
    cases hsame
    exact hvalue
  have hrefused := (truth_values_resolved ("--verbose=a=b" :: likeFlags)).2.1 [] "--verbose=a=b"
    (optionWords likeFlags) "a=b" (by decide +kernel) (fun _ hw => absurd hw List.not_mem_nil) hbad
  obtain ⟨resolved, hline, -, -, hagain⟩ := (truth_values_resolved likeFlags).2.2 hgood
  have hsame : resolved ++ finalWords likeFlags = resolvedFlags ++ finalWords likeFlags := by
    rw [expandFlags_eq_ok hwords] at hline
    exact (Except.ok.inj hline).symm
  rw [hsame] at hline hagain
  exact ⟨hgood, hbad, hrefused, hwords, hline, hagain⟩

end JavadocAudit.Command
