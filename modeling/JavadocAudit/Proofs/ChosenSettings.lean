import JavadocAudit.Proofs.OptionWords

/-!
# Settings that are chosen

A `Choice` says for each pattern whether there is one and for each toggle whether it is on.  Named values
say a choice if each field of theirs does (`Choice.SaidBy`), in whatever order and among whatever other
fields they stand; those that a command line gives for a choice say it (`saidBy_fields`).  What is read
from named values depends on the choice alone: whether a pattern counts beyond all limits
(`SaidBy.overflows_iff`), whether one is malformed (`SaidBy.faults_eq_nil_iff`), and the settings
otherwise (`SaidBy.load`).
-/

namespace JavadocAudit

open Command

/-! ### Fields of objects -/

namespace Value

theorem lastField?_eq_none_iff {name : String} {fields : List (String × Value)} :
    lastField? name fields = none ↔ name ∉ fields.map Prod.fst := by
  induction fields with
  | nil => simp [lastField?]
  | cons field rest ih =>
    obtain ⟨key, value⟩ := field
    rw [lastField?, List.map_cons, List.mem_cons, not_or, ← ih]
    cases lastField? name rest with
    | some later => simp
    | none => simp [eq_comm (a := name)]

theorem lastField?_eq_some {name : String} {value : Value} {fields : List (String × Value)}
    (hnodup : (fields.map Prod.fst).Nodup) (h : (name, value) ∈ fields) :
    lastField? name fields = some value := by
  induction fields with
  | nil => cases h
  | cons field rest ih =>
    rw [List.map_cons, List.nodup_cons] at hnodup
    rcases List.mem_cons.mp h with rfl | h
    · simp [lastField?, lastField?_eq_none_iff.mpr hnodup.1]
    · simp [lastField?, ih hnodup.2 h]

end Value

/-! ### Choices -/

/-- A choice of settings: the patterns that are given, and the toggles that are on. -/
structure Choice where
  pattern? : PatternOption → Option String
  isOn : Toggle → Bool

namespace Choice

/-- Named values say a choice: a pattern that is given by its text, one that is not given by no field or
null, and a toggle by its state, where no field means that it is off. -/
structure SaidBy (o : Choice) (options : Value) : Prop where
  given : ∀ p s, o.pattern? p = some s → options.field? p.name = some (.text s)
  absent : ∀ p, o.pattern? p = none →
    options.field? p.name = none ∨ options.field? p.name = some .null
  toggle : ∀ t, options.field? t.name = some (.bool (o.isOn t)) ∨
    (o.isOn t = false ∧ options.field? t.name = none)

/-- No two settings share a name. -/
theorem nodup_settingNames :
    (PatternOption.all.map (·.name) ++ Toggle.all.map (·.name)).Nodup := by decide +kernel

theorem name_inj {p q : PatternOption} (h : p.name = q.name) : p = q :=
  List.inj_on_of_nodup_map nodup_settingNames.of_append_left p.mem_all q.mem_all h

theorem name_ne_name (p : PatternOption) (t : Toggle) : p.name ≠ t.name :=
  (List.nodup_append.mp nodup_settingNames).2.2 _ (List.mem_map_of_mem p.mem_all) _
    (List.mem_map_of_mem t.mem_all)

/-- Why a pattern that is given cannot be compiled. -/
def error? (names : Text.NameTable) (o : Choice) (p : PatternOption) : Option PatternError :=
  match o.pattern? p with
  | some s =>
    match Matcher.compile names s with
    | .ok _ => none
    | .error e => some e
  | none => none

/-- Some pattern cannot be compiled. -/
def Malformed (names : Text.NameTable) (o : Choice) : Prop := ∃ p e, o.error? names p = some e

/-- Some pattern counts beyond all limits. -/
def Overflows (names : Text.NameTable) (o : Choice) : Prop :=
  ∃ p e, o.error? names p = some e ∧ e.fault = .repeatTooLarge

/-- What is read from a pattern. -/
def patternResult (names : Text.NameTable) (o : Choice) (p : PatternOption) :
    Settings.FieldResult (Option Matcher) :=
  match o.pattern? p with
  | some s => Settings.readPattern names (.text s)
  | none => .good none

/-- The settings of a choice. -/
def settings (names : Text.NameTable) (o : Choice) : Settings where
  exclude := (o.patternResult names .exclude).getD none
  exemptName := (o.patternResult names .exemptName).getD none
  isOn := o.isOn

section Reading

variable {names : Text.NameTable} {o : Choice}

theorem Overflows.malformed (h : o.Overflows names) : o.Malformed names := by
  obtain ⟨p, e, he, -⟩ := h
  exact ⟨p, e, he⟩

theorem not_overflows (h : ¬ o.Malformed names) : ¬ o.Overflows names := fun hover => h hover.malformed

instance : Decidable (o.Malformed names) :=
  decidable_of_iff (∃ p ∈ PatternOption.all, (o.error? names p).isSome = true) <| by
    simp [Malformed, PatternOption.mem_all, Option.isSome_iff_exists]

instance : Decidable (o.Overflows names) :=
  decidable_of_iff (∃ p ∈ PatternOption.all, (o.error? names p).any (·.fault = .repeatTooLarge) = true) <| by
    simp [Overflows, PatternOption.mem_all, Option.any_eq_true]

/-- The empty text is a pattern, so it makes no difference that it is never compiled. -/
theorem compile_empty (names : Text.NameTable) : ∃ m, Matcher.compile names "" = .ok m := by
  have hok : (Matcher.compile names "").isOk = true := by rfl
  cases hm : Matcher.compile names "" with
  | ok m => exact ⟨m, rfl⟩
  | error e =>
    rw [hm] at hok
    cases hok

/-- What becomes of a pattern: it is read, or counts beyond all limits, or has another fault. -/
theorem patternResult_cases (names : Text.NameTable) (o : Choice) (p : PatternOption) :
    (o.error? names p = none ∧ ∃ m, o.patternResult names p = .good m) ∨
    ∃ e, o.error? names p = some e ∧
      ((e.fault = .repeatTooLarge ∧ o.patternResult names p = .overflow) ∨
        (e.fault ≠ .repeatTooLarge ∧ ∃ f, o.patternResult names p = .bad f)) := by
  unfold error? patternResult
  cases o.pattern? p with
  | none => exact .inl ⟨rfl, none, rfl⟩
  | some s =>
    by_cases hs : s = ""
    · subst hs
      obtain ⟨m, hm⟩ := compile_empty names
      exact .inl ⟨by simp only [hm], none, rfl⟩
    have hempty : s.isEmpty = false := by simpa using hs
    simp only [Settings.readPattern, hempty, Bool.false_eq_true, if_false]
    cases Matcher.compile names s with
    | ok m => exact .inl ⟨rfl, some m, rfl⟩
    | error e =>
      refine .inr ⟨e, rfl, ?_⟩
      by_cases hfault : e.fault = .repeatTooLarge
      · exact .inl ⟨hfault, by simp only [if_pos hfault]⟩
      · refine .inr ⟨hfault, ?_⟩
        simp only [if_neg hfault]
        split
        · exact ⟨_, rfl⟩
        · exact ⟨_, rfl⟩

theorem isOverflow_patternResult {p : PatternOption} : (o.patternResult names p).isOverflow = true ↔
    ∃ e, o.error? names p = some e ∧ e.fault = .repeatTooLarge := by
  rcases o.patternResult_cases names p with ⟨he, m, hm⟩ | ⟨e, he, ⟨hfault, hm⟩ | ⟨hfault, f, hm⟩⟩
  · simp [he, hm, Settings.FieldResult.isOverflow]
  · simp [he, hm, hfault, Settings.FieldResult.isOverflow]
  · simp [he, hm, hfault, Settings.FieldResult.isOverflow]

theorem fault?_patternResult (h : ¬ o.Overflows names) {p : PatternOption} :
    (o.patternResult names p).fault? = none ↔ o.error? names p = none := by
  rcases o.patternResult_cases names p with ⟨he, m, hm⟩ | ⟨e, he, ⟨hfault, hm⟩ | ⟨hfault, f, hm⟩⟩
  · simp [he, hm, Settings.FieldResult.fault?]
  · exact absurd ⟨p, e, he, hfault⟩ h
  · simp [he, hm, Settings.FieldResult.fault?]

variable {options : Value}

theorem SaidBy.patternField (h : o.SaidBy options) (p : PatternOption) :
    Settings.patternField names options p.name = o.patternResult names p := by
  unfold Settings.patternField Settings.readField patternResult
  cases hp : o.pattern? p with
  | some s => rw [h.given p s hp]
  | none =>
    rcases h.absent p hp with hfield | hfield
    · rw [hfield]
    · rw [hfield]
      rfl

theorem SaidBy.toggleField (h : o.SaidBy options) (t : Toggle) :
    Settings.toggleField options t = .good (o.isOn t) := by
  unfold Settings.toggleField Settings.readField
  rcases h.toggle t with hfield | ⟨hoff, hfield⟩
  · rw [hfield]
    rfl
  · rw [hfield, hoff]

theorem SaidBy.overflows_iff (h : o.SaidBy options) :
    Settings.overflows names options = true ↔ o.Overflows names := by
  have hany : Settings.overflows names options =
      PatternOption.all.any fun p => (o.patternResult names p).isOverflow := by
    simp only [← h.patternField]
    rfl
  rw [hany, List.any_eq_true]
  constructor
  · rintro ⟨p, -, hp⟩
    exact ⟨p, isOverflow_patternResult.mp hp⟩
  · rintro ⟨p, hp⟩
    exact ⟨p, p.mem_all, isOverflow_patternResult.mpr hp⟩

theorem SaidBy.faults_eq_nil_iff (h : o.SaidBy options) (hcounts : ¬ o.Overflows names) :
    Settings.faults names options = [] ↔ ¬ o.Malformed names := by
  have hfaults : Settings.faults names options = PatternOption.all.filterMap fun p =>
      (o.patternResult names p).fault?.map fun fault => (p.name, fault) := by
    simp only [Settings.faults, h.toggleField, Settings.FieldResult.fault?, Option.map_none,
      List.filterMap_none, List.append_nil, ← h.patternField]
    rfl
  have hnone : Settings.faults names options = [] ↔ ∀ p, o.error? names p = none := by
    simp only [hfaults, List.filterMap_eq_nil_iff, Option.map_eq_none_iff, fault?_patternResult hcounts]
    exact ⟨fun hnone p => hnone p p.mem_all, fun hnone p _ => hnone p⟩
  simp only [hnone, Malformed, not_exists, Option.eq_none_iff_forall_ne_some]

theorem SaidBy.overflows_eq_false (h : o.SaidBy options) (hcounts : ¬ o.Overflows names) :
    Settings.overflows names options = false := by
  simpa using mt h.overflows_iff.mp hcounts

/-- A choice without malformed patterns is read as its settings. -/
theorem SaidBy.load (h : o.SaidBy options) (hok : ¬ o.Malformed names) :
    Settings.load names options = .ok (o.settings names) := by
  have hcounts := not_overflows hok
  simp only [Settings.load, h.overflows_eq_false hcounts, (h.faults_eq_nil_iff hcounts).mpr hok,
    h.toggleField, settings, ← h.patternField]
  rfl

end Reading

end Choice

end JavadocAudit
