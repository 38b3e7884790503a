import JavadocAudit.Command.CheckCommand
import Mathlib.Data.List.Nodup
import Mathlib.Data.List.Forall2
import Mathlib.Data.List.Pairwise
import Mathlib.Data.List.TakeWhile

/-!
# Command lines that spell options

An option that is set to a value is an `Assignment`, and `Spells` says which words set it: a flag, a flag
with a truth value attached, or the name of a pattern with a text attached.  The names of the options are
all different and hold no equals sign (`nodup_names`, `equals_notMem`), so each such word is read as the
option that it spells, in the pass that resolves truth values (`expandFlags_spelled`) and in the one that
reads options (`read_spelled`).  Whatever stands after the two dashes is an operand.  `run_spelled` joins
the two passes.
-/

namespace JavadocAudit

namespace Command

/-! ### Lists -/

theorem eq_of_mem_of_mem {α β : Type} {l : List α} {f : α → List β} (h : (l.flatMap f).Nodup) {a b : α}
    (ha : a ∈ l) (hb : b ∈ l) {x : β} (hxa : x ∈ f a) (hxb : x ∈ f b) : a = b := by
  by_contra hne
  have : Std.Symm (Function.onFun List.Disjoint f) := ⟨fun _ _ h _ hx hy => h hy hx⟩
  exact (List.nodup_flatMap.mp h).2.forall ha hb hne hxa hxb

theorem find?_eq_some_of_unique {α : Type} {p : α → Bool} {l : List α} {a : α} (ha : a ∈ l)
    (h : ∀ b ∈ l, p b = true ↔ b = a) : l.find? p = some a := by
  obtain ⟨b, hb⟩ := Option.isSome_iff_exists.mp (List.find?_isSome.mpr ⟨a, ha, (h a ha).mpr rfl⟩)
  rw [hb, (h b (List.mem_of_find?_eq_some hb)).mp (List.find?_some hb)]

/-! ### Words with an equals sign -/

theorem splitEquals?_append {name : String} (h : '=' ∉ name.toList) (value : String) :
    splitEquals? (name ++ "=" ++ value) = some (name, value) := by
  have hname : ∀ c ∈ name.toList, (c != '=') = true := by
    intro c hc
    simp only [bne_iff_ne]
    rintro rfl
    exact h hc
  simp [splitEquals?, List.takeWhile_append_of_pos hname, List.dropWhile_append_of_pos hname]

theorem splitEquals?_eq_none {name : String} (h : '=' ∉ name.toList) : splitEquals? name = none := by
  have hdrop : name.toList.dropWhile (· != '=') = [] := by
    simp only [List.dropWhile_eq_nil_iff, bne_iff_ne]
    rintro c hc rfl
    exact h hc
  simp only [splitEquals?, hdrop]

/-! ### Options and what they are set to -/

/-- The settings that are patterns. -/
inductive PatternOption where
  | exclude
  | exemptName
  deriving DecidableEq

namespace PatternOption

/-- Both patterns, in the order in which they are reported. -/
def all : List PatternOption := [.exclude, .exemptName]

/-- The option that gives a pattern. -/
def option : PatternOption → String
  | .exclude => CheckCommand.excludeOption
  | .exemptName => CheckCommand.exemptNameOption

/-- The name of a pattern among the settings. -/
def name : PatternOption → String
  | .exclude => Settings.excludeName
  | .exemptName => Settings.exemptNameName

/-- The option of a pattern takes a value. -/
def form (p : PatternOption) : OptionForm := ⟨[p.option], true⟩

theorem mem_all (p : PatternOption) : p ∈ all := by cases p <;> decide

end PatternOption

end Command

open Command

theorem Toggle.mem_all (t : Toggle) : t ∈ all := by cases t <;> decide

/-- The option of a toggle has two names and takes no value. -/
def Toggle.form (t : Toggle) : OptionForm := ⟨[t.flag, t.offFlag], false⟩

namespace Command

/-- An option that is set to a value. -/
inductive Assignment where
  | toggle (t : Toggle) (on : Bool)
  | pattern (p : PatternOption) (text : String)
  deriving DecidableEq

namespace Assignment

/-- The option that is set. -/
def form : Assignment → OptionForm
  | toggle t _ => t.form
  | pattern p _ => p.form

/-- The name by which it is set. -/
def optionName : Assignment → String
  | toggle t on => t.flagFor on
  | pattern p _ => p.option

/-- The option as it is given. -/
def occurrence : Assignment → Occurrence
  | toggle t on => ⟨t.flagFor on, none⟩
  | pattern p text => ⟨p.option, some text⟩

/-- The named value of the setting. -/
def field : Assignment → String × Value
  | toggle t on => (t.name, .bool on)
  | pattern p text => (p.name, .text text)

/-- The word that sets the option, with truth values resolved. -/
def text : Assignment → String
  | toggle t on => t.flagFor on
  | pattern p text => p.option ++ "=" ++ text

/-- What that word is. -/
def word : Assignment → Word
  | toggle t on => .option t.form (t.flagFor on) .nothing
  | pattern p text => .option p.form p.option (.value text)

end Assignment

/-- A word sets an option: it is the word with truth values resolved, or the flag of a toggle with a word
for yes or no attached. -/
inductive Spells : String → Assignment → Prop where
  | resolved (a : Assignment) : Spells a.text a
  | valued (t : Toggle) {value : String} {on : Bool} (h : boolean? value = some on) :
    Spells (t.flag ++ "=" ++ value) (.toggle t on)

namespace CheckCommand

theorem forms_eq : forms = helpForm :: (PatternOption.all.map (·.form) ++ Toggle.all.map (·.form)) := rfl

theorem form_mem (a : Assignment) : a.form ∈ forms := by
  rw [forms_eq]
  cases a with
  | toggle t on =>
    exact List.mem_cons_of_mem _ (List.mem_append_right _ (List.mem_map_of_mem t.mem_all))
  | pattern p text =>
    exact List.mem_cons_of_mem _ (List.mem_append_left _ (List.mem_map_of_mem p.mem_all))

theorem optionName_mem (a : Assignment) : a.optionName ∈ a.form.names := by
  cases a with
  | toggle t on => cases on <;> simp [Assignment.optionName, Assignment.form, Toggle.form, Toggle.flagFor]
  | pattern p text => simp [Assignment.optionName, Assignment.form, PatternOption.form]

/-- No two options share a name. -/
theorem nodup_names : (forms.flatMap (·.names)).Nodup := by decide +kernel

theorem equals_notMem_stem (t : Toggle) : '=' ∉ t.stem.toList := by
  have hname : '=' ∉ t.name.toList := by cases t <;> decide +kernel
  rw [Toggle.stem, String.toList_map, List.mem_map]
  rintro ⟨c, hc, h⟩
  split at h
  · cases h
  · exact hname (h ▸ hc)

/-- No name of an option holds an equals sign. -/
theorem equals_notMem : ∀ form ∈ forms, ∀ name ∈ form.names, '=' ∉ name.toList := by
  intro form hform
  simp only [forms_eq, List.mem_cons, List.mem_append, List.mem_map] at hform
  rcases hform with rfl | ⟨p, -, rfl⟩ | ⟨t, -, rfl⟩
  · decide +kernel
  · cases p <;> decide +kernel
  · simp [Toggle.form, Toggle.flag, Toggle.offFlag, equals_notMem_stem]

theorem flagFor_inj {t u : Toggle} {on b : Bool} (h : t.flagFor on = u.flagFor b) : t = u ∧ on = b := by
  have hflags : (Toggle.all.flatMap (·.form.names)).Nodup := by
    have hnames := nodup_names
    rw [forms_eq, List.flatMap_cons, List.flatMap_append, List.flatMap_map Toggle.form] at hnames
    exact hnames.of_append_right.of_append_right
  have ht : t.flagFor on ∈ t.form.names := optionName_mem (.toggle t on)
  have hu : u.flagFor b ∈ u.form.names := optionName_mem (.toggle u b)
  obtain rfl : t = u := eq_of_mem_of_mem hflags t.mem_all u.mem_all ht (h ▸ hu)
  have hne : t.flag ≠ t.offFlag := by
    simpa [Toggle.form] using (List.nodup_flatMap.mp hflags).1 t t.mem_all
  refine ⟨rfl, ?_⟩
  -- the two flags of one toggle differ as well
  cases on <;> cases b
  · rfl
  · exact absurd h.symm hne
  · exact absurd h hne
  · rfl

theorem find?_flagFor (on : Bool) {name : String} {t : Toggle} :
    Toggle.all.find? (fun u => u.flagFor on == name) = some t ↔ name = t.flagFor on := by
  constructor
  · intro h
    exact (beq_iff_eq.mp (List.find?_some (p := fun u : Toggle => u.flagFor on == name) h)).symm
  · rintro rfl
    refine find?_eq_some_of_unique t.mem_all fun u _ => ?_
    rw [beq_iff_eq]
    exact ⟨fun h => (flagFor_inj h).1, fun h => h ▸ rfl⟩

theorem ofFlag?_eq_some_iff {name : String} {t : Toggle} :
    Toggle.ofFlag? name = some t ↔ name = t.flagFor true := find?_flagFor true

theorem ofOffFlag?_eq_some_iff {name : String} {t : Toggle} :
    Toggle.ofOffFlag? name = some t ↔ name = t.flagFor false := find?_flagFor false

theorem flagFor_ne_option (t : Toggle) (on : Bool) (p : PatternOption) : t.flagFor on ≠ p.option := by
  intro h
  have hname : t.flagFor on ∈ p.form.names := by simp [PatternOption.form, h]
  have hforms : t.form = p.form := eq_of_mem_of_mem nodup_names (form_mem (.toggle t on))
    (form_mem (.pattern p "")) (optionName_mem (.toggle t on)) hname
  cases congrArg OptionForm.takesValue hforms

theorem equals_notMem_optionName (a : Assignment) : '=' ∉ a.optionName.toList :=
  equals_notMem _ (form_mem a) _ (optionName_mem a)

theorem splitEquals?_pattern (p : PatternOption) (text : String) :
    splitEquals? (p.option ++ "=" ++ text) = some (p.option, text) :=
  splitEquals?_append (equals_notMem_optionName (.pattern p text)) text

theorem toList_optionName (a : Assignment) : ∃ c rest, a.optionName.toList = '-' :: '-' :: c :: rest := by
  cases a with
  | toggle t on =>
    obtain ⟨c, rest, hstem⟩ : ∃ c rest, t.stem.toList = c :: rest := by
      rw [Toggle.stem, String.toList_map]
      cases t <;> exact ⟨_, _, rfl⟩
    cases on with
    | true => exact ⟨c, rest, by simp [Assignment.optionName, Toggle.flagFor, Toggle.flag, hstem]⟩
    | false =>
      exact ⟨'n', 'o' :: '-' :: c :: rest,
        by simp [Assignment.optionName, Toggle.flagFor, Toggle.offFlag, hstem]⟩
  | pattern p text =>
    cases p with
    | exclude => exact ⟨'e', "xclude".toList, show excludeOption.toList = _ by decide +kernel⟩
    | exemptName => exact ⟨'d', "ont-require".toList, show exemptNameOption.toList = _ by decide +kernel⟩

theorem toList_spelled {w : String} {a : Assignment} (h : Spells w a) :
    ∃ c rest, w.toList = '-' :: '-' :: c :: rest := by
  obtain ⟨b, more, rfl⟩ : ∃ (b : Assignment) (more : String), w = b.optionName ++ more := by
    cases h with
    | resolved =>
      cases a with
      | toggle t on => exact ⟨.toggle t on, "", by simp [Assignment.text, Assignment.optionName]⟩
      | pattern p text => exact ⟨.pattern p text, "=" ++ text, String.append_assoc⟩
    | @valued t value on hvalue => exact ⟨.toggle t true, "=" ++ value, String.append_assoc⟩
  obtain ⟨c, rest, hname⟩ := toList_optionName b
  exact ⟨c, rest ++ more.toList, by rw [String.toList_append, hname]; rfl⟩

theorem ne_dashes_of_spelled {w : String} {a : Assignment} (h : Spells w a) : w ≠ dashesText := by
  rintro rfl
  obtain ⟨c, rest, htext⟩ := toList_spelled h
  cases htext

/-! ### Resolving truth values -/

theorem expandWord_spelled {w : String} {a : Assignment} (h : Spells w a) :
    expandWord w = .ok a.text := by
  cases h with
  | resolved =>
    cases a with
    | toggle t on =>
      have hsplit : splitEquals? (t.flagFor on) = none :=
        splitEquals?_eq_none (equals_notMem_optionName (.toggle t on))
      simp only [Assignment.text, expandWord, flagWithValue?, hsplit]
    | pattern p text =>
      have hflag : Toggle.ofFlag? p.option = none := by
        rw [Option.eq_none_iff_forall_ne_some]
        intro t ht
        exact flagFor_ne_option t true p (ofFlag?_eq_some_iff.mp ht).symm
      simp only [Assignment.text, expandWord, flagWithValue?, splitEquals?_pattern, hflag,
        Option.map_none]
  | @valued t value on hvalue =>
    have hsplit : splitEquals? (t.flag ++ "=" ++ value) = some (t.flag, value) :=
      splitEquals?_append (equals_notMem_optionName (.toggle t true)) value
    have hflag : Toggle.ofFlag? t.flag = some t := ofFlag?_eq_some_iff.mpr rfl
    simp only [expandWord, flagWithValue?, hsplit, hflag, Option.map_some, hvalue, Assignment.text]

theorem expandFlags_spelled {words : List String} {given : List Assignment}
    (h : List.Forall₂ Spells words given) (operands : List String) :
    expandFlags (words ++ dashesText :: operands) =
      .ok (given.map (·.text) ++ dashesText :: operands) := by
  induction h with
  | nil => simp [expandFlags]
  | @cons w a words given hw _ ih =>
    have hne : (w == dashesText) = false := beq_eq_false_iff_ne.mpr (ne_dashes_of_spelled hw)
    simp only [List.cons_append, List.map_cons, expandFlags, hne, expandWord_spelled hw, ih,
      Bool.false_eq_true, if_false]

/-! ### Reading options -/

theorem form?_name (a : Assignment) : form? forms a.optionName = some a.form := by
  refine find?_eq_some_of_unique (form_mem a) fun form hform => ?_
  rw [List.contains_iff_mem]
  constructor
  · exact fun hname => eq_of_mem_of_mem nodup_names hform (form_mem a) hname (optionName_mem a)
  · rintro rfl
    exact optionName_mem a

theorem form?_of_equals {w : String} (h : '=' ∈ w.toList) : form? forms w = none := by
  rw [form?, List.find?_eq_none]
  intro form hform hname
  exact equals_notMem form hform w (List.contains_iff_mem.mp hname) h

theorem ofText_text (a : Assignment) : Word.ofText forms a.text = .ok a.word := by
  obtain ⟨c, rest, htext⟩ := toList_spelled (.resolved a)
  have hdash : Text.opensWith "-" a.text = true := by simp [Text.opensWith, htext]
  rw [Word.ofText, hdash]
  cases a with
  | toggle t on =>
    have hform : form? forms (t.flagFor on) = some t.form := form?_name (.toggle t on)
    simp [Assignment.text, Assignment.word, hform]
  | pattern p text =>
    -- the whole word is no name, so the part before the equals sign is looked up
    have hnone : form? forms (p.option ++ "=" ++ text) = none := form?_of_equals (by simp)
    have hform : form? forms p.option = some p.form := form?_name (.pattern p text)
    have hlong : (p.option ++ "=" ++ text == "-") = false := by
      rw [beq_eq_false_iff_ne]
      intro h
      rw [Assignment.text, h] at htext
      cases htext
    simp [Assignment.text, Assignment.word, hnone, hlong, Word.ofDashed, withValue?, splitEquals?_pattern,
      hform]

theorem ofTexts_text (given : List Assignment) (operands : List String) :
    Word.ofTexts forms (given.map (·.text) ++ dashesText :: operands) =
      .ok (given.map (·.word) ++ .dashes :: operands.map .plain) := by
  induction given with
  | nil => simp [Word.ofTexts]
  | cons a given ih =>
    have hne : (a.text == dashesText) = false :=
      beq_eq_false_iff_ne.mpr (ne_dashes_of_spelled (.resolved a))
    simp only [List.map_cons, List.cons_append, Word.ofTexts, hne, ofText_text, ih,
      Bool.false_eq_true, if_false]

theorem ofAttached_word (a : Assignment) : ∃ form name attached, a.word = .option form name attached ∧
    OptionReading.ofAttached forms form name attached = .complete [a.occurrence] [] := by
  cases a with
  | toggle t on => exact ⟨_, _, _, rfl, rfl⟩
  | pattern p text => exact ⟨_, _, _, rfl, rfl⟩

theorem ofWords_plain (operands : List String) :
    Arguments.ofWords forms .begun none (operands.map .plain) = { operands := operands } := by
  induction operands with
  | nil => rfl
  | cons text rest ih => simp [Arguments.ofWords, ih, Arguments.consOperand]

theorem ofWords_given (given : List Assignment) (operands : List String) :
    Arguments.ofWords forms .ahead none (given.map (·.word) ++ .dashes :: operands.map .plain) =
      { occurrences := given.map (·.occurrence), operands := dashesText :: operands } := by
  induction given with
  | nil =>
    -- the two dashes open the group of operands, as the first of them
    simp [Arguments.ofWords, ofWords_plain, Arguments.consOperand]
  | cons a given ih =>
    obtain ⟨form, name, attached, hword, hread⟩ := ofAttached_word a
    simp only [List.map_cons, List.cons_append, hword, Arguments.ofWords, hread, Group.afterOption, ih]
    rfl

/-- Options and operands are read as they were given. -/
theorem read_spelled (given : List Assignment) (operands : List String) :
    Arguments.read forms true (given.map (·.text) ++ dashesText :: operands) =
      { occurrences := given.map (·.occurrence), operands := operands } := by
  simp [Arguments.read, ofTexts_text, ofWords_given]

/-! ### Running -/

theorem form_ne_helpForm (a : Assignment) : helpForm ≠ a.form := by
  intro h
  cases a with
  | toggle t on =>
    have hflag : "-h" = t.flag := (List.cons.inj (congrArg OptionForm.names h)).1
    obtain ⟨c, rest, hname⟩ := toList_optionName (.toggle t true)
    have hlist : "-h".toList = '-' :: '-' :: c :: rest := hflag ▸ hname
    cases hlist
  | pattern p text => cases congrArg OptionForm.takesValue h

theorem isHelp_occurrence (a : Assignment) : a.occurrence.isHelp = false := by
  have hname : a.occurrence.name = a.optionName := by cases a <;> rfl
  by_contra h
  have hhelp : a.optionName ∈ helpForm.names := by
    simpa [Occurrence.isHelp, hname] using h
  exact form_ne_helpForm a
    (eq_of_mem_of_mem nodup_names List.mem_cons_self (form_mem a) hhelp (optionName_mem a))

theorem field?_occurrence (a : Assignment) : field? a.occurrence = some a.field := by
  cases a with
  | toggle t on =>
    have hexclude : t.flagFor on ≠ excludeOption := flagFor_ne_option t on .exclude
    have hexemptName : t.flagFor on ≠ exemptNameOption := flagFor_ne_option t on .exemptName
    cases on with
    | true =>
      have hflag : Toggle.ofFlag? (t.flagFor true) = some t := ofFlag?_eq_some_iff.mpr rfl
      simp [field?, Assignment.occurrence, Assignment.field, hexclude, hexemptName, hflag]
    | false =>
      have hflag : Toggle.ofFlag? (t.flagFor false) = none := by
        rw [Option.eq_none_iff_forall_ne_some]
        intro u hu
        cases (flagFor_inj (ofFlag?_eq_some_iff.mp hu)).2
      have hoff : Toggle.ofOffFlag? (t.flagFor false) = some t := ofOffFlag?_eq_some_iff.mpr rfl
      simp [field?, Assignment.occurrence, Assignment.field, hexclude, hexemptName, hflag, hoff]
  | pattern p text =>
    cases p with
    | exclude => rfl
    | exemptName => rfl

theorem options_occurrence (given : List Assignment) :
    options (given.map (·.occurrence)) = .object (given.map (·.field)) := by
  simp [options, List.filterMap_map, field?_occurrence]

/-- **A command line that spells options** runs with the settings that they name, on the operands that
stand after the two dashes. -/
theorem run_spelled (names : Text.NameTable) (d : Disk) {words : List String} {given : List Assignment}
    (h : List.Forall₂ Spells words given) (operands : List String) :
    run names d (words ++ dashesText :: operands) =
      check names d (.object (given.map (·.field))) operands := by
  have hhelp : (given.map (·.occurrence)).any (·.isHelp) = false := by
    simp [isHelp_occurrence]
  simp [run, expandFlags_spelled h, read_spelled, hhelp, Arguments.fault?, options_occurrence]

end CheckCommand

end Command

end JavadocAudit
