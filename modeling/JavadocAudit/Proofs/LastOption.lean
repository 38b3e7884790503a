import JavadocAudit.Proofs.ChosenSettings

/-!
# The last word about an option counts

A command line sets options by words of five forms (`SetsTo`), in any order and as often as one likes, then
come two dashes and the operands, whatever these look like.  Both passes over the line take it as it is
meant: it is never refused, the operands are read as they stand, and each option has the value of the last
word that sets it, or its initial value if there is none (`last_setting_counts`).

The command reads its options from named values, of which the last one with a name counts.  So the values
that the words give to one option are lined up (`Assignment.state?`, `Assignment.text?`), and the last
field with its name is the last one of these (`lastField?_map_field`).
-/

namespace JavadocAudit

open Command

namespace Command

/-! ### Words that set options -/

/-- The word is another one with some of its letters in upper case. -/
def CaseVariant (value word : String) : Prop :=
  List.Forall₂ (fun a b => a = b ∨ a = b.toUpper) value.toList word.toList

/-- The words for a truth value, in lower case. -/
def truthWords : Bool → List String
  | true => ["true", "yes", "on", "1"]
  | false => ["false", "no", "off", "0"]

/-- **A word sets an option to a value**: a flag, a flag with a truth value attached in any case of
letters, or the name of a pattern with any text attached but two dashes. -/
inductive SetsTo : String → Assignment → Prop where
  | flag (t : Toggle) : SetsTo ("--" ++ t.stem) (.toggle t true)
  | offFlag (t : Toggle) : SetsTo ("--no-" ++ t.stem) (.toggle t false)
  | valued (t : Toggle) {value word : String} {on : Bool} (hword : word ∈ truthWords on)
      (hcase : CaseVariant value word) : SetsTo ("--" ++ t.stem ++ "=" ++ value) (.toggle t on)
  | exclude (text : String) (htext : text ≠ "--") :
      SetsTo ("--exclude=" ++ text) (.pattern .exclude text)
  | exemptName (text : String) (htext : text ≠ "--") :
      SetsTo ("--dont-require=" ++ text) (.pattern .exemptName text)

namespace Assignment

/-- The state that is given to a toggle. -/
def state? (t : Toggle) : Assignment → Option Bool
  | toggle u on => if u = t then some on else none
  | pattern .. => none

/-- The text that is given to a pattern. -/
def text? (p : PatternOption) : Assignment → Option String
  | toggle .. => none
  | pattern q text => if q = p then some text else none

end Assignment

/-! ### Truth values -/

theorem map_toLower_of_caseVariant {value word : String}
    (hword : ∀ c ∈ word.toList, c.toLower = c ∧ c.toUpper.toLower = c) (h : CaseVariant value word) :
    value.map Char.toLower = word := by
  rw [← String.toList_inj, String.toList_map]
  unfold CaseVariant at h
  generalize value.toList = as, word.toList = bs at h hword
  induction h with
  | nil => rfl
  | @cons a b as bs hab _ ih =>
    obtain ⟨hlower, hupper⟩ := hword b List.mem_cons_self
    rw [List.map_cons, ih fun c hc => hword c (List.mem_cons_of_mem _ hc)]
    rcases hab with rfl | rfl
    · rw [hlower]
    · rw [hupper]

theorem boolean?_of_caseVariant {value word : String} {on : Bool} (hword : word ∈ truthWords on)
    (h : CaseVariant value word) : boolean? value = some on := by
  have hletters : ∀ on, ∀ word ∈ truthWords on,
      (word.toList.all fun c => c.toLower == c && c.toUpper.toLower == c) = true := by decide +kernel
  have hlower : value.map Char.toLower = word := by
    refine map_toLower_of_caseVariant (fun c hc => ?_) h
    simpa using List.all_eq_true.mp (hletters on word hword) c hc
  cases on with
  | true =>
    have hyes : yesWords.contains word = true := List.contains_iff_mem.mpr hword
    simp only [boolean?, hlower, hyes, if_true]
  | false =>
    have hno : noWords.contains word = true := List.contains_iff_mem.mpr hword
    have hyes : ∀ word ∈ truthWords false, yesWords.contains word = false := by decide
    simp only [boolean?, hlower, hyes word hword, hno, Bool.false_eq_true, if_false, if_true]

theorem SetsTo.spells {word : String} {a : Assignment} (h : SetsTo word a) : Spells word a := by
  cases h with
  | flag t => exact .resolved (.toggle t true)
  | offFlag t => exact .resolved (.toggle t false)
  | valued t hword hcase => exact .valued t (boolean?_of_caseVariant hword hcase)
  | exclude text => exact .resolved (.pattern .exclude text)
  | exemptName text => exact .resolved (.pattern .exemptName text)

end Command

/-! ### The last field with a name -/

/-- The last field with a name has the last of the values that are given under that name. -/
theorem Value.lastField?_map_field {α : Type} {name : String} {value? : Assignment → Option α}
    {write : α → Value} (h : ∀ a, (value? a).map write = if a.field.1 = name then some a.field.2 else none)
    (given : List Assignment) : lastField? name (given.map (·.field)) =
      ((given.filterMap value?).getLast?).map write := by
  induction given with
  | nil => rfl
  | cons a given ih =>
    have ha := h a
    rw [List.map_cons, lastField?, ih, List.filterMap_cons]
    cases hvalue : value? a with
    | none =>
      rw [hvalue, Option.map_none] at ha
      have hname : a.field.1 ≠ name := fun hname => by rw [if_pos hname] at ha; cases ha
      cases (given.filterMap value?).getLast? <;> simp [hname]
    | some x =>
      rw [hvalue, Option.map_some] at ha
      have hname : a.field.1 = name := by
        by_contra hname
        rw [if_neg hname] at ha
        cases ha
      rw [if_pos hname, Option.some.injEq] at ha
      rw [List.getLast?_cons]
      cases hlast : (given.filterMap value?).getLast? <;> simp [hname, ha]

namespace Command

theorem Assignment.map_state? (t : Toggle) (a : Assignment) :
    (a.state? t).map .bool = if a.field.1 = t.name then some a.field.2 else none := by
  cases a with
  | toggle u on =>
    have hname : u.name = t.name ↔ u = t :=
      ⟨fun h => List.inj_on_of_nodup_map Choice.nodup_settingNames.of_append_right u.mem_all t.mem_all h,
        fun h => h ▸ rfl⟩
    simp only [state?, field, hname]
    split_ifs <;> rfl
  | pattern p text => simp [state?, field, Choice.name_ne_name p t]

theorem Assignment.map_text? (p : PatternOption) (a : Assignment) :
    (a.text? p).map .text = if a.field.1 = p.name then some a.field.2 else none := by
  cases a with
  | toggle t on => simp [text?, field, (Choice.name_ne_name p t).symm]
  | pattern q text =>
    have hname : q.name = p.name ↔ q = p := ⟨Choice.name_inj, fun h => h ▸ rfl⟩
    simp only [text?, field, hname]
    split_ifs <;> rfl

/-! ### What the command reads -/

namespace CheckCommand

theorem toggleField_given (t : Toggle) (given : List Assignment) :
    Settings.toggleField (options (given.map (·.occurrence))) t =
      .good ((given.filterMap (·.state? t)).getLast?.getD false) := by
  rw [options_occurrence, Settings.toggleField, Settings.readField, Value.field?,
    Value.lastField?_map_field (Assignment.map_state? t)]
  cases (given.filterMap (·.state? t)).getLast? <;> rfl

theorem field?_given (p : PatternOption) (given : List Assignment) :
    (options (given.map (·.occurrence))).field? p.name =
      (given.filterMap (·.text? p)).getLast?.map .text := by
  rw [options_occurrence, Value.field?, Value.lastField?_map_field (Assignment.map_text? p)]

/-- **The last word about an option counts.**  A command line of words that set options, two dashes and
arbitrary operands passes both the resolution of truth values and the reading of options.  The operands
are read as they stand.  A toggle has the state that the last word about it gives, and is off if there is
none; a pattern has the text of the last word about it, and none if there is no such word. -/
theorem last_setting_counts (words operands : List String) (given : List Assignment)
    (h : List.Forall₂ SetsTo words given) : ∃ resolved arguments,
      expandFlags (words ++ "--" :: operands) = .ok resolved ∧
      Arguments.read forms true resolved = arguments ∧
      arguments.fault? = none ∧ arguments.occurrences.any (·.isHelp) = false ∧
      arguments.operands = operands ∧
      (∀ t, Settings.toggleField (options arguments.occurrences) t =
        .good ((given.filterMap (·.state? t)).getLast?.getD false)) ∧
      (∀ p, (options arguments.occurrences).field? p.name =
        (given.filterMap (·.text? p)).getLast?.map .text) ∧
      ∀ names d, run names d (words ++ "--" :: operands) =
        check names d (options arguments.occurrences) operands := by
  have hspells : List.Forall₂ Spells words given := h.imp fun _ _ hw => hw.spells
  refine ⟨_, _, expandFlags_spelled hspells operands, read_spelled given operands, rfl, ?_, rfl,
    fun t => toggleField_given t given, fun p => field?_given p given, fun names d => ?_⟩
  · simp [isHelp_occurrence]
  · rw [options_occurrence]
    exact run_spelled names d hspells operands

/-- Words that set three options, two of them twice. -/
def repeatedWords : List String :=
  ["--verbose", "--exclude=a b", "--relative=YES", "--no-verbose", "--exclude=--x=y"]

/-- What they set. -/
def repeatedSettings : List Assignment :=
  [.toggle .verbose true, .pattern .exclude "a b", .toggle .relative true, .toggle .verbose false,
    .pattern .exclude "--x=y"]

theorem repeatedWords_read : List.Forall₂ SetsTo repeatedWords repeatedSettings ∧
    ∃ resolved arguments,
      expandFlags (repeatedWords ++ "--" :: ["--", "-z", "--relative=no"]) = .ok resolved ∧
      Arguments.read forms true resolved = arguments ∧ arguments.fault? = none ∧
      arguments.operands = ["--", "-z", "--relative=no"] ∧
      Settings.toggleField (options arguments.occurrences) .verbose = .good false ∧
      Settings.toggleField (options arguments.occurrences) .relative = .good true ∧
      Settings.toggleField (options arguments.occurrences) .exemptType = .good false ∧
      (options arguments.occurrences).field? "exclude" = some (.text "--x=y") ∧
      (options arguments.occurrences).field? "dont_require" = none := by
  have hsets : List.Forall₂ SetsTo repeatedWords repeatedSettings := by
    have hverbose : SetsTo "--verbose" (.toggle .verbose true) := by
      rw [show "--verbose" = "--" ++ Toggle.verbose.stem by decide +kernel]
      exact .flag .verbose
    have hquiet : SetsTo "--no-verbose" (.toggle .verbose false) := by
      rw [show "--no-verbose" = "--no-" ++ Toggle.verbose.stem by decide +kernel]
      exact .offFlag .verbose
    have hyes : CaseVariant "YES" "yes" := .cons (.inr rfl) (.cons (.inr rfl) (.cons (.inr rfl) .nil))
    have hrelative : SetsTo "--relative=YES" (.toggle .relative true) := by
      rw [show "--relative=YES" = "--" ++ Toggle.relative.stem ++ "=" ++ "YES" by decide +kernel]
      exact .valued .relative (by decide) hyes
    exact .cons hverbose (.cons (.exclude "a b" (by decide)) (.cons hrelative
      (.cons hquiet (.cons (.exclude "--x=y" (by decide)) .nil))))
  obtain ⟨resolved, arguments, hresolved, hread, hfault, -, hoperands, htoggles, hpatterns, -⟩ :=
    last_setting_counts repeatedWords ["--", "-z", "--relative=no"] repeatedSettings hsets
  exact ⟨hsets, resolved, arguments, hresolved, hread, hfault, hoperands, htoggles .verbose,
    htoggles .relative, htoggles .exemptType, hpatterns .exclude, hpatterns .exemptName⟩

end CheckCommand

end Command

end JavadocAudit
