import JavadocAudit.Proofs.Uniqueness

/-!
# Exemptions are independent of each other

A site is exempt if one of seven rules applies to it, and the first one is named (`ruling?_eq_findSome?`).
Whether a rule applies does not depend on the others, so the order of the rules decides only which of
them is named (`findingsBy_of_perm`).  Settings that join two others exempt what the one or the other
exempts, rule by rule (`Joins.rule_eq_none_iff`), and since types are entered whether they are exempt or
not, the findings are those that both leave (`findings_of_joins`).
-/

namespace JavadocAudit

/-! ### Rules -/

namespace Policy

/-- What a rule of exemption says about a site. -/
abbrev Rule := Settings → Site → Option Exemption

/-- Methods that override others are exempt. -/
def overrideRule : Rule := fun _ x =>
  if x.construct.kind == .method && x.construct.overrides then some .overriding else none

/-- Private constructs are exempt if the settings say so. -/
def privateRule : Rule := fun settings x =>
  if settings.isOn .exemptPrivate && x.construct.visibility == .privateLevel then some .privateAccess
  else none

/-- Constructs of some kinds are exempt if the settings say so. -/
def kindRule : Rule := fun settings x =>
  if kindExempt settings x.construct.kind then some (.ofKind x.construct.kind) else none

/-- Constructs whose name matches a pattern are exempt. -/
def nameRule : Rule := fun settings x =>
  if nameExempt settings x.construct.name then some .ofName else none

/-- Constructors without parameters are exempt if the settings say so. -/
def noargRule : Rule := fun settings x =>
  if x.construct.kind == .constructor && settings.isOn .exemptNoargConstructor && x.parameters == 0 then
    some .noargConstructor
  else none

/-- Trivial accessors are exempt if the settings say so. -/
def propertyRule : Rule := fun settings x =>
  if x.construct.kind == .method && settings.isOn .exemptTrivialProperties then
    x.property.map .trivialProperty
  else none

/-- The version numbers of serializable classes are exempt. -/
def serialRule : Rule := fun _ x =>
  if x.construct.kind == .field && x.isSerialVersion then some .serialVersion else none

/-- The rules, in the order in which they are tried. -/
def rules : List Rule :=
  [overrideRule, privateRule, kindRule, nameRule, noargRule, propertyRule, serialRule]

theorem exemption?_eq (settings : Settings) (x : Site) : exemption? settings x.construct =
    [overrideRule, privateRule, kindRule, nameRule].findSome? fun rule => rule settings x := by
  simp only [exemption?, overrideRule, privateRule, kindRule, nameRule, List.findSome?_cons,
    List.findSome?_nil]
  split_ifs <;> rfl

theorem siteExemption?_eq (settings : Settings) (x : Site) : siteExemption? settings x =
    [noargRule, propertyRule, serialRule].findSome? fun rule => rule settings x := by
  simp only [siteExemption?, noargRule, propertyRule, serialRule, List.findSome?_cons,
    List.findSome?_nil]
  cases hk : x.construct.kind with
  | constructor => cases settings.isOn .exemptNoargConstructor <;> cases x.parameters == 0 <;> simp
  | method => cases settings.isOn .exemptTrivialProperties <;> cases x.property <;> simp
  | field => cases x.isSerialVersion <;> simp
  | _ => simp

/-- **The ruling on a site** is that of the first rule that applies. -/
theorem ruling?_eq_findSome? (settings : Settings) (x : Site) :
    ruling? settings x = rules.findSome? fun rule => rule settings x := by
  rw [ruling?, exemption?_eq, siteExemption?_eq, ← List.findSome?_append]
  rfl

end Policy

namespace Audit

/-- The findings of a file if the rules are tried in a given order. -/
def findingsBy (order : List Policy.Rule) (settings : Settings) (unit : CompilationUnit) :
    List Finding :=
  Finding.sorted ((unit.sites.filter fun x =>
    (order.findSome? fun rule => rule settings x).isNone && !x.documented).map (finding unit.path))

/-- **The order of the rules** does not decide what is found. -/
theorem findingsBy_of_perm {order : List Policy.Rule} (h : order.Perm Policy.rules)
    (settings : Settings) (unit : CompilationUnit) :
    findingsBy order settings unit = findings settings unit := by
  have hrules : ∀ x : Site, (order.findSome? fun rule => rule settings x).isNone =
      (Policy.ruling? settings x).isNone := by
    intro x
    rw [Bool.eq_iff_iff, Option.isNone_iff_eq_none, Option.isNone_iff_eq_none,
      Policy.ruling?_eq_findSome?, List.findSome?_eq_none_iff, List.findSome?_eq_none_iff]
    exact forall_congr' fun rule => by rw [h.mem_iff]
  simp only [findingsBy, findings, visited, hrules]
  rfl

end Audit

/-! ### Settings that exempt more -/

/-- The toggles that exempt constructs. -/
def Toggle.exempting : List Toggle :=
  [.exemptPrivate, .exemptNoargConstructor, .exemptTrivialProperties, .exemptType, .exemptField,
    .exemptMethod]

namespace Settings

/-- The settings exempt what `a` or `b` exempts: each toggle that exempts constructs is on if it is on in
one of them, and a name matches if it does in one of them. -/
structure Joins (settings a b : Settings) : Prop where
  toggles : ∀ t ∈ Toggle.exempting, settings.isOn t = (a.isOn t || b.isOn t)
  names : ∀ name ≠ "", matchesText settings.exemptName name =
    (matchesText a.exemptName name || matchesText b.exemptName name)

/-- The settings `b` exempt at least what `a` exempts. -/
structure Within (a b : Settings) : Prop where
  toggles : ∀ t ∈ Toggle.exempting, a.isOn t = true → b.isOn t = true
  names : ∀ name ≠ "", matchesText a.exemptName name = true → matchesText b.exemptName name = true

variable {settings a b : Settings}

theorem Within.joins (h : a.Within b) : b.Joins a b where
  toggles t ht := by rw [eq_comm, Bool.or_eq_right_iff_imp]; exact h.toggles t ht
  names name hname := by rw [eq_comm, Bool.or_eq_right_iff_imp]; exact h.names name hname

theorem Joins.kindExempt (h : settings.Joins a b) (kind : ConstructKind) :
    Policy.kindExempt settings kind = (Policy.kindExempt a kind || Policy.kindExempt b kind) := by
  have hon : ∀ t, Policy.kindToggle? kind = some t → t ∈ Toggle.exempting := by
    cases kind <;> simp [Policy.kindToggle?, Toggle.exempting]
  unfold Policy.kindExempt
  cases hkind : Policy.kindToggle? kind with
  | none => rfl
  | some t => exact h.toggles t (hon t hkind)

theorem Joins.nameExempt (h : settings.Joins a b) (name : String) :
    Policy.nameExempt settings name = (Policy.nameExempt a name || Policy.nameExempt b name) := by
  by_cases hname : name = ""
  · simp [Policy.nameExempt, hname]
  · simp only [Policy.nameExempt, h.names name hname, Bool.and_or_distrib_left]

/-- **Rule by rule**, joined settings exempt what one of the two exempts. -/
theorem Joins.rule_eq_none_iff (h : settings.Joins a b) {rule : Policy.Rule}
    (hrule : rule ∈ Policy.rules) (x : Site) :
    rule settings x = none ↔ rule a x = none ∧ rule b x = none := by
  have hprivate := h.toggles .exemptPrivate (by decide)
  have hnoarg := h.toggles .exemptNoargConstructor (by decide)
  have htrivial := h.toggles .exemptTrivialProperties (by decide)
  simp only [Policy.rules, List.mem_cons, List.not_mem_nil, or_false] at hrule
  rcases hrule with rfl | rfl | rfl | rfl | rfl | rfl | rfl
  · simp [Policy.overrideRule]
  · simp only [Policy.privateRule, hprivate]
    grind
  · simp only [Policy.kindRule, h.kindExempt]
    grind
  · simp only [Policy.nameRule, h.nameExempt]
    grind
  · simp only [Policy.noargRule, hnoarg]
    grind
  · simp only [Policy.propertyRule, htrivial]
    grind
  · simp [Policy.serialRule]

end Settings

/-! ### Findings -/

namespace Audit

variable {settings a b : Settings} {unit : CompilationUnit}

theorem isFinding_of_joins (h : settings.Joins a b) (x : Site) :
    isFinding settings x = (isFinding a x && isFinding b x) := by
  have hruling : (Policy.ruling? settings x).isNone =
      ((Policy.ruling? a x).isNone && (Policy.ruling? b x).isNone) := by
    rw [Bool.eq_iff_iff, Bool.and_eq_true]
    simp only [Option.isNone_iff_eq_none, Policy.ruling?_eq_findSome?, List.findSome?_eq_none_iff]
    exact ⟨fun hnone => ⟨fun rule hr => ((h.rule_eq_none_iff hr x).mp (hnone rule hr)).1,
      fun rule hr => ((h.rule_eq_none_iff hr x).mp (hnone rule hr)).2⟩,
      fun hnone rule hr => (h.rule_eq_none_iff hr x).mpr ⟨hnone.1 rule hr, hnone.2 rule hr⟩⟩
  rw [isFinding, isFinding, isFinding, hruling]
  cases x.documented <;> simp

theorem mem_findings {f : Finding} :
    f ∈ findings settings unit ↔ ∃ x ∈ unit.sites, isFinding settings x = true ∧
      finding unit.path x = f := by
  simp only [findings, Finding.mem_sorted, visited, List.mem_map, List.mem_filter, and_assoc]

/-- The finding of a site is reported exactly if the site is one, where sites begin at different
points. -/
theorem finding_mem_findings (hpoints : unit.DistinctPoints) {x : Site} (hx : x ∈ unit.sites) :
    finding unit.path x ∈ findings settings unit ↔ isFinding settings x = true := by
  rw [mem_findings]
  constructor
  · rintro ⟨y, hy, hfinding, hyx⟩
    have hline : (y.line : Int) = x.line := Option.some.inj (congrArg Finding.line hyx)
    have hcolumn : (y.column : Int) = x.column := Option.some.inj (congrArg Finding.column hyx)
    have hyx : y = x := List.inj_on_of_nodup_map hpoints hy hx
      (Prod.ext (Int.ofNat_inj.mp hline) (Int.ofNat_inj.mp hcolumn))
    rwa [← hyx]
  · exact fun hfinding => ⟨x, hx, hfinding, rfl⟩

/-- **Under joined settings** the findings are those of the one that the other one leaves too. -/
theorem findings_of_joins (h : settings.Joins a b) (hpoints : unit.DistinctPoints) :
    findings settings unit = (findings a unit).filter fun f => f ∈ findings b unit := by
  have hvisited : visited settings unit = (visited a unit).filter fun f => f ∈ findings b unit := by
    rw [visited, visited, List.filter_map, List.filter_filter]
    refine congrArg _ (List.filter_congr fun x hx => ?_)
    have hmem : decide (finding unit.path x ∈ findings b unit) = isFinding b x := by
      rw [Bool.eq_iff_iff, decide_eq_true_iff]
      exact finding_mem_findings hpoints hx
    rw [isFinding_of_joins h, Bool.and_comm, Function.comp_apply, hmem]
  rw [findings, hvisited, Finding.sorted_filter]
  rfl

/-- **Exemptions compose**: joined settings report what both of two settings report, in the order of the
first; settings that exempt more report a part of the findings, unchanged and in their order; and the
order of the rules does not matter. -/
theorem exemptions_compose (unit : CompilationUnit) (hpoints : unit.DistinctPoints) :
    (∀ settings a b : Settings, settings.Joins a b →
      findings settings unit = (findings a unit).filter fun f => f ∈ findings b unit) ∧
    (∀ a b : Settings, a.Within b → (findings b unit).Sublist (findings a unit)) ∧
    ∀ (settings : Settings) (order : List Policy.Rule), order.Perm Policy.rules →
      findingsBy order settings unit = findings settings unit := by
  refine ⟨fun settings a b h => findings_of_joins h hpoints, fun a b h => ?_,
    fun settings order h => findingsBy_of_perm h settings unit⟩
  rw [findings_of_joins h.joins hpoints]
  exact List.filter_sublist

/-- A class with a method, neither of them documented. -/
def bareClass : CompilationUnit where
  path := "A.java"
  root := .branch .program none ⟨0, 22, 1, 1⟩
    [.branch .classDeclaration none ⟨0, 22, 1, 1⟩
      [.leaf .identifier (some .name) ⟨6, 7, 1, 7⟩ " " "A",
        .branch .classBody (some .body) ⟨8, 22, 1, 9⟩
          [.branch .methodDeclaration none ⟨10, 20, 1, 11⟩
            [.leaf .identifier (some .name) ⟨15, 16, 1, 16⟩ " " "f"]]]]

/-- The settings with the given toggles on. -/
def togglesOn (on : List Toggle) : Settings := { isOn := fun t => on.contains t }

theorem bareClass_composes :
    bareClass.DistinctPoints ∧
      (togglesOn [.exemptType, .exemptMethod]).Joins (togglesOn [.exemptType])
        (togglesOn [.exemptMethod]) ∧
      findings (togglesOn [.exemptType, .exemptMethod]) bareClass =
        (findings (togglesOn [.exemptType]) bareClass).filter
          fun f => f ∈ findings (togglesOn [.exemptMethod]) bareClass := by
  have hpoints : bareClass.DistinctPoints := by decide +kernel
  have hjoins : (togglesOn [.exemptType, .exemptMethod]).Joins (togglesOn [.exemptType])
      (togglesOn [.exemptMethod]) := ⟨by decide, fun _ _ => rfl⟩
  exact ⟨hpoints, hjoins, (exemptions_compose bareClass hpoints).1 _ _ _ hjoins⟩

end Audit

end JavadocAudit
