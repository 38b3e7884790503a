import JavadocAudit.Policy
import Mathlib.Tactic.SplitIfs

/-!
# When no rule exempts a construct

The rules of exemption are tried in turn, and the first one that applies is named.  Whether one applies
at all does not depend on that order: `exemption?_eq_none_iff` and `ruling?_eq_none_iff` say it as a
list of conditions, one for each rule.
-/

namespace JavadocAudit

/-- No rule that looks at the kind, visibility and name of a construct exempts it. -/
structure Required (settings : Settings) (kind : ConstructKind) (visibility : Visibility)
    (name : String) : Prop where
  byVisibility : settings.isOn .exemptPrivate = true → visibility ≠ .privateLevel
  byKind : ∀ t, Policy.kindToggle? kind = some t → settings.isOn t = false
  byName : name ≠ "" → Settings.matchesText settings.exemptName name = false

namespace Policy

variable {settings : Settings}

theorem kindExempt_eq_false_iff {kind : ConstructKind} :
    kindExempt settings kind = false ↔ ∀ t, kindToggle? kind = some t → settings.isOn t = false := by
  unfold kindExempt
  cases kindToggle? kind with
  | none => simp
  | some t => simp

theorem nameExempt_eq_false_iff {name : String} : nameExempt settings name = false ↔
    (name ≠ "" → Settings.matchesText settings.exemptName name = false) := by
  unfold nameExempt
  by_cases h : name = "" <;> simp [h]

theorem exemption?_eq_none_iff {c : Construct} : exemption? settings c = none ↔
    ¬ (c.kind = .method ∧ c.overrides = true) ∧ Required settings c.kind c.visibility c.name := by
  unfold exemption?
  constructor
  · intro h
    split_ifs at h with h1 h2 h3 h4
    refine ⟨by simpa using h1, fun hp hv => h2 (by simp [hp, hv]), ?_, ?_⟩
    · exact kindExempt_eq_false_iff.mp (by simpa using h3)
    · exact nameExempt_eq_false_iff.mp (by simpa using h4)
  · rintro ⟨h1, hv, hk, hn⟩
    rw [if_neg (by simpa using h1), if_neg (by simpa using hv),
      if_neg (by rw [kindExempt_eq_false_iff.mpr hk]; simp),
      if_neg (by rw [nameExempt_eq_false_iff.mpr hn]; simp)]

/-- **No rule exempts a site.** -/
theorem ruling?_eq_none_iff {s : Site} : ruling? settings s = none ↔
    ¬ (s.construct.kind = .method ∧ s.construct.overrides = true) ∧
      Required settings s.construct.kind s.construct.visibility s.construct.name ∧
      siteExemption? settings s = none := by
  rw [ruling?, Option.or_eq_none_iff, exemption?_eq_none_iff, and_assoc]

end Policy

end JavadocAudit
