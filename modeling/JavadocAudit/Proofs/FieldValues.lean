import JavadocAudit.Proofs.ChosenSettings
import Mathlib.Algebra.Group.Int.Defs

/-!
# Values of fields

What a field of the settings takes is said value by value: a pattern takes null and texts that compile
(`TakesPattern`), a toggle truth values, zero and one, and some words (`TakesBoolean`).  Every other value
is refused with one fault, except for patterns that count beyond all limits.  Both sorts of fields are read
that way (`readsBy_pattern`, `readsBy_boolean`), and what is read from a field of an object follows from
it alone (`ReadsBy.readField_eq_good_iff`, `ReadsBy.fault?_readField`).
-/

namespace JavadocAudit

/-! ### Fields of objects -/

namespace Value

variable {name : String} {value : Value} {fields : List (String × Value)}

theorem mem_of_lastField? (h : lastField? name fields = some value) : (name, value) ∈ fields := by
  induction fields with
  | nil => cases h
  | cons field rest ih =>
    obtain ⟨key, first⟩ := field
    rw [lastField?] at h
    cases hrest : lastField? name rest with
    | some later =>
      rw [hrest] at h
      exact List.mem_cons_of_mem _ (ih (hrest.trans h))
    | none =>
      rw [hrest, Option.ite_none_right_eq_some, beq_iff_eq, Option.some.injEq] at h
      obtain ⟨rfl, rfl⟩ := h
      exact List.mem_cons_self

theorem field?_eq_some_iff (hfields : (fields.map Prod.fst).Nodup) :
    (object fields).field? name = some value ↔ (name, value) ∈ fields :=
  ⟨mem_of_lastField?, lastField?_eq_some hfields⟩

end Value

/-! ### What fields take -/

/-- A number is not zero and one at once. -/
theorem beq_one_of_beq_zero {x : Float} (h : (x == 0.0) = true) : (x == 1.0) = false := by
  have hzero : (0.0 : Float).toModel.unpack = .zero .positive := rfl
  have hone : (1.0 : Float).toModel.unpack = .finite .positive (2 ^ 52) (-52) (by decide) := rfl
  change x.toModel.unpack.beq (0.0 : Float).toModel.unpack = true at h
  change x.toModel.unpack.beq (1.0 : Float).toModel.unpack = false
  rw [hzero] at h
  rw [hone]
  generalize x.toModel.unpack = u at h ⊢
  cases u with
  | notANumber => rfl
  | infinity sign => cases sign <;> rfl
  | zero sign => rfl
  | finite sign m e hm => cases sign <;> cases h

namespace Settings

/-- **What a pattern is read from**: null and the empty text say that there is none, and other texts are
compiled. -/
inductive TakesPattern (names : Text.NameTable) : Value → Option Matcher → Prop
  | null : TakesPattern names .null none
  | empty : TakesPattern names (.text "") none
  | compiled {s : String} {m : Matcher} (hs : s ≠ "") (h : Matcher.compile names s = .ok m) :
      TakesPattern names (.text s) (some m)

/-- The fault of a value that no pattern is read from.  It names the pattern, unless two alphabets clash
or a number has too many digits. -/
inductive RefusesPattern (names : Text.NameTable) : Value → FieldFault → Prop
  | malformed {s : String} {e : PatternError} (h : Matcher.compile names s = .error e)
      (hcounts : e.fault ≠ .repeatTooLarge) (hbare : e.fault.isBare = false) :
      RefusesPattern names (.text s) (.badPattern s e)
  | bare {s : String} {e : PatternError} (h : Matcher.compile names s = .error e)
      (hbare : e.fault.isBare = true) : RefusesPattern names (.text s) (.barePattern e.fault)
  | notText {v : Value} (hnull : v ≠ .null) (htext : ∀ s, v ≠ .text s) :
      RefusesPattern names v (.notText v.kindName)

/-- The value is a pattern that counts beyond all limits. -/
inductive Countless (names : Text.NameTable) : Value → Prop
  | intro {s : String} {e : PatternError} (h : Matcher.compile names s = .error e)
      (hcounts : e.fault = .repeatTooLarge) : Countless names (.text s)

/-- **What a toggle is read from**: a truth value, zero or one, or a word in small or capital letters. -/
inductive TakesBoolean : Value → Bool → Prop
  | bool (b : Bool) : TakesBoolean (.bool b) b
  | zero : TakesBoolean (.int 0) false
  | one : TakesBoolean (.int 1) true
  | floatZero {x : Float} (h : (x == 0.0) = true) : TakesBoolean (.float x) false
  | floatOne {x : Float} (h : (x == 1.0) = true) : TakesBoolean (.float x) true
  | off {s : String} (h : s.map Char.toLower ∈ ["0", "off", "f", "false", "n", "no"]) :
      TakesBoolean (.text s) false
  | on {s : String} (h : s.map Char.toLower ∈ ["1", "on", "t", "true", "y", "yes"]) :
      TakesBoolean (.text s) true

/-- The value is a text, or a whole number of 64 bits. -/
def isWordLike : Value → Bool
  | .int n => -2 ^ 63 ≤ n && n < 2 ^ 63
  | .float x => x.floor == x && x.abs < 9223372036854775808.0
  | .text _ => true
  | _ => false

/-- The fault of a value that no toggle is read from: a text or a number that means nothing, or a value of
another kind. -/
inductive RefusesBoolean : Value → FieldFault → Prop
  | unreadable {v : Value} (h : ∀ b, ¬ TakesBoolean v b) (hword : isWordLike v = true) :
      RefusesBoolean v .unreadableBoolean
  | notBoolean {v : Value} (h : ∀ b, ¬ TakesBoolean v b) (hword : isWordLike v = false) :
      RefusesBoolean v .notBoolean

/-! ### Reading single values -/

/-- **A way of reading values**: the values that are taken, those that are refused with a fault, and
those that exceed all limits. -/
structure ReadsBy {α : Type} (read : Value → FieldResult α) (Takes : Value → α → Prop)
    (Refuses : Value → FieldFault → Prop) (Exceeds : Value → Prop) : Prop where
  good : ∀ {v a}, read v = .good a ↔ Takes v a
  bad : ∀ {v fault}, read v = .bad fault ↔ Refuses v fault
  overflow : ∀ {v}, read v = .overflow ↔ Exceeds v

section Reading

variable {α : Type} {read : Value → FieldResult α} {Takes : Value → α → Prop}
  {Refuses : Value → FieldFault → Prop} {Exceeds : Value → Prop}

/-- Three sorts of values that are read as they should be are all values, if none is left out. -/
theorem ReadsBy.of_total (hgood : ∀ {v a}, Takes v a → read v = .good a)
    (hbad : ∀ {v fault}, Refuses v fault → read v = .bad fault)
    (hover : ∀ {v}, Exceeds v → read v = .overflow)
    (htotal : ∀ v, (∃ a, Takes v a) ∨ (∃ fault, Refuses v fault) ∨ Exceeds v) :
    ReadsBy read Takes Refuses Exceeds := by
  refine ⟨fun {v a} => ⟨fun h => ?_, hgood⟩, fun {v fault} => ⟨fun h => ?_, hbad⟩,
    fun {v} => ⟨fun h => ?_, hover⟩⟩
  all_goals
    rcases htotal v with ⟨a', ha⟩ | ⟨fault', hfault⟩ | hexceeds
    · cases h.symm.trans (hgood ha) <;> exact ha
    · cases h.symm.trans (hbad hfault) <;> exact hfault
    · cases h.symm.trans (hover hexceeds) <;> exact hexceeds

end Reading

section Patterns

variable {names : Text.NameTable}

/-- A text that cannot be compiled is not empty. -/
theorem isEmpty_of_compile {s : String} {e : PatternError} (h : Matcher.compile names s = .error e) :
    s.isEmpty = false := by
  by_contra hs
  obtain rfl : s = "" := by simpa using hs
  obtain ⟨m, hm⟩ := Choice.compile_empty names
  rw [h] at hm
  cases hm

theorem TakesPattern.read {v : Value} {m : Option Matcher} (h : TakesPattern names v m) :
    readPattern names v = .good m := by
  cases h with
  | null => rfl
  | empty => rfl
  | compiled hs h => simp [readPattern, hs, h]

theorem RefusesPattern.read {v : Value} {fault : FieldFault} (h : RefusesPattern names v fault) :
    readPattern names v = .bad fault := by
  cases h with
  | malformed h hcounts hbare => simp [readPattern, isEmpty_of_compile h, h, hcounts, hbare]
  | @bare s e h hbare =>
    have hcounts : e.fault ≠ .repeatTooLarge := by
      intro hcounts
      rw [hcounts] at hbare
      cases hbare
    simp [readPattern, isEmpty_of_compile h, h, hcounts, hbare]
  | notText hnull htext =>
    cases v with
    | null => exact absurd rfl hnull
    | text s => exact absurd rfl (htext s)
    | bool | int | float | list | object => rfl

theorem Countless.read {v : Value} (h : Countless names v) : readPattern names v = .overflow := by
  obtain ⟨h, hcounts⟩ := h
  simp [readPattern, isEmpty_of_compile h, h, hcounts]

/-- No value is left out. -/
theorem takes_or_refuses_or_countless (v : Value) :
    (∃ m, TakesPattern names v m) ∨ (∃ fault, RefusesPattern names v fault) ∨ Countless names v := by
  cases v with
  | null => exact .inl ⟨none, .null⟩
  | text s =>
    by_cases hs : s = ""
    · exact .inl ⟨none, hs ▸ .empty⟩
    cases h : Matcher.compile names s with
    | ok m => exact .inl ⟨some m, .compiled hs h⟩
    | error e =>
      by_cases hcounts : e.fault = .repeatTooLarge
      · exact .inr (.inr ⟨h, hcounts⟩)
      cases hbare : e.fault.isBare with
      | true => exact .inr (.inl ⟨_, .bare h hbare⟩)
      | false => exact .inr (.inl ⟨_, .malformed h hcounts hbare⟩)
  | bool | int | float | list | object => exact .inr (.inl ⟨_, .notText nofun nofun⟩)

theorem readsBy_pattern :
    ReadsBy (readPattern names) (TakesPattern names) (RefusesPattern names) (Countless names) :=
  .of_total TakesPattern.read RefusesPattern.read Countless.read takes_or_refuses_or_countless

end Patterns

/-- No word says both. -/
theorem notMem_trueWords {word : String} (h : word ∈ falseWords) : word ∉ trueWords := by
  revert word
  decide

/-- What is read from a value that no toggle is read from. -/
theorem readBoolean_of_not_takes {v : Value} (h : ∀ b, ¬ TakesBoolean v b) :
    readBoolean v = .bad (if isWordLike v then .unreadableBoolean else .notBoolean) := by
  cases v with
  | bool b => exact absurd (.bool b) (h b)
  | int n =>
    have h0 : n ≠ 0 := by
      rintro rfl
      exact h _ .zero
    have h1 : n ≠ 1 := by
      rintro rfl
      exact h _ .one
    have hlike : isWordLike (.int n) = (-wholeLimit ≤ n && n < wholeLimit) := rfl
    simp only [readBoolean, beq_iff_eq, h0, h1, if_false, hlike]
    exact (apply_ite FieldResult.bad _ _ _).symm
  | float x =>
    have h0 : (x == 0.0) = false := by simpa using fun hx => h _ (.floatZero hx)
    have h1 : (x == 1.0) = false := by simpa using fun hx => h _ (.floatOne hx)
    simp only [readBoolean, h0, h1, Bool.false_eq_true, if_false, isWordLike]
    exact (apply_ite FieldResult.bad _ _ _).symm
  | text s =>
    have hon : s.map Char.toLower ∉ trueWords := fun hs => h _ (.on hs)
    have hoff : s.map Char.toLower ∉ falseWords := fun hs => h _ (.off hs)
    simp [readBoolean, hon, hoff, isWordLike]
  | null | list | object => rfl

theorem TakesBoolean.read {v : Value} {b : Bool} (h : TakesBoolean v b) : readBoolean v = .good b := by
  cases h with
  | bool => rfl
  | zero => rfl
  | one => rfl
  | floatZero h => simp [readBoolean, h]
  | floatOne h =>
    have h0 : ¬ _ := fun h0 => Bool.eq_false_iff.mp (beq_one_of_beq_zero h0) h
    simp [readBoolean, h, h0]
  | off h => simp [readBoolean, show _ ∈ falseWords from h, notMem_trueWords h]
  | on h => simp [readBoolean, show _ ∈ trueWords from h]

theorem RefusesBoolean.read {v : Value} {fault : FieldFault} (h : RefusesBoolean v fault) :
    readBoolean v = .bad fault := by
  cases h with
  | unreadable h hword => rw [readBoolean_of_not_takes h, hword, if_pos rfl]
  | notBoolean h hword => rw [readBoolean_of_not_takes h, hword, if_neg Bool.false_ne_true]

theorem readsBy_boolean : ReadsBy readBoolean TakesBoolean RefusesBoolean fun _ => False := by
  refine .of_total TakesBoolean.read RefusesBoolean.read False.elim fun v => ?_
  by_cases h : ∃ b, TakesBoolean v b
  · exact .inl h
  · cases hword : isWordLike v with
    | true => exact .inr (.inl ⟨_, .unreadable (not_exists.mp h) hword⟩)
    | false => exact .inr (.inl ⟨_, .notBoolean (not_exists.mp h) hword⟩)

/-! ### Reading fields -/

section Fields

variable {α : Type} {read : Value → FieldResult α} {Takes : Value → α → Prop}
  {Refuses : Value → FieldFault → Prop} {Exceeds : Value → Prop}
  {fields : List (String × Value)} {name : String} {default : α}

theorem readField_eq_iff (hfields : (fields.map Prod.fst).Nodup) {r : FieldResult α} :
    readField read default (.object fields) name = r ↔
      (∃ v, (name, v) ∈ fields ∧ read v = r) ∨ (name ∉ fields.map Prod.fst ∧ r = .good default) := by
  unfold readField
  cases hfield : (Value.object fields).field? name with
  | some v =>
    have hv := (Value.field?_eq_some_iff hfields).mp hfield
    have hname : name ∈ fields.map Prod.fst := List.mem_map_of_mem hv
    simp only [hname, not_true_eq_false, false_and, or_false]
    constructor
    · exact fun h => ⟨v, hv, h⟩
    · rintro ⟨v', hv', h⟩
      rw [(Value.field?_eq_some_iff hfields).mpr hv', Option.some.injEq] at hfield
      rwa [← hfield]
  | none =>
    have hname : name ∉ fields.map Prod.fst := Value.lastField?_eq_none_iff.mp hfield
    have hnone : ∀ v, (name, v) ∉ fields := fun v hv => hname (List.mem_map_of_mem hv)
    simp only [hname, not_false_eq_true, true_and, hnone, false_and, exists_false, false_or]
    exact eq_comm

variable (h : ReadsBy read Takes Refuses Exceeds) (hfields : (fields.map Prod.fst).Nodup)
include h hfields

theorem ReadsBy.fault?_readField {fault : FieldFault} :
    (readField read default (.object fields) name).fault? = some fault ↔
      ∃ v, (name, v) ∈ fields ∧ Refuses v fault := by
  have hbad : ∀ r : FieldResult α, r.fault? = some fault ↔ r = .bad fault := fun r => by
    cases r <;> simp [FieldResult.fault?]
  simp [hbad, readField_eq_iff hfields, h.bad]

theorem ReadsBy.isOverflow_readField :
    (readField read default (.object fields) name).isOverflow = true ↔
      ∃ v, (name, v) ∈ fields ∧ Exceeds v := by
  have hover : ∀ r : FieldResult α, r.isOverflow = true ↔ r = .overflow := fun r => by
    cases r <;> simp [FieldResult.isOverflow]
  simp [hover, readField_eq_iff hfields, h.overflow]

end Fields

end Settings

end JavadocAudit
