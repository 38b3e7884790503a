import JavadocAudit.Proofs.AddedDocumentation
import JavadocAudit.Proofs.Independence
import JavadocAudit.Proofs.LogLines
import JavadocAudit.Proofs.SourceOrder

/-!
# The notes account for every construct

The constructs of a file are visited in the order of their addresses, a node before what is below it
(`CompilationUnit.sites_by_address`), whatever the settings are: the walk over the tree as a revision in
which nothing changed goes through the addresses in order.

What a rule of exemption asks is said without a look at the other rules (`Policy.Applies`), and the rule
that is named is the first one that applies (`Policy.ruling?_eq_some_iff`).  So each construct has a block
of notes, which says that it is visited and what was found out about it (`Audit.NotesOn`); the notes of a
file are these blocks, one after the other (`Audit.notes_account_for_constructs`).
-/

namespace JavadocAudit

/-! ### Constructs in the order of their addresses -/

mutual

/-- The tree as a revision in which nothing changed. -/
def Node.unchanged : Node → Revision
  | .leaf kind label span gap text => .leaf kind label span span gap gap text
  | .branch kind label span children => .branch kind label span span (Node.unchangedRow children)

/-- The children as a row in which nothing changed. -/
def Node.unchangedRow : List Node → RevisedRow
  | [] => .nil
  | n :: rest => .kept n.unchanged (Node.unchangedRow rest)

end

mutual

theorem Node.old_unchanged : ∀ n : Node, n.unchanged.old = n
  | .leaf .. => rfl
  | .branch _ _ _ children => by rw [unchanged, Revision.old, old_unchangedRow children]

theorem Node.old_unchangedRow : ∀ ns : List Node, (Node.unchangedRow ns).old = ns
  | [] => rfl
  | n :: rest => by rw [unchangedRow, RevisedRow.old, old_unchanged n, old_unchangedRow rest]

end

mutual

theorem Node.new_unchanged : ∀ n : Node, n.unchanged.new = n
  | .leaf .. => rfl
  | .branch _ _ _ children => by rw [unchanged, Revision.new, new_unchangedRow children]

theorem Node.new_unchangedRow : ∀ ns : List Node, (Node.unchangedRow ns).new = ns
  | [] => rfl
  | n :: rest => by rw [unchangedRow, RevisedRow.new, new_unchanged n, new_unchangedRow rest]

end

mutual

theorem Node.sound_unchanged : ∀ n : Node, n.unchanged.Sound
  | .leaf .. => trivial
  | .branch kind label _ children => sound_unchangedRow kind label children

theorem Node.sound_unchangedRow (kind : Kind) (label : Option Label) :
    ∀ ns : List Node, (Node.unchangedRow ns).Sound kind label
  | [] => trivial
  | n :: rest => ⟨sound_unchanged n, fun _ => by rw [old_unchanged, new_unchanged],
      sound_unchangedRow kind label rest⟩

end

/-- **The constructs of a file are visited in the order of their addresses.** -/
theorem CompilationUnit.sites_by_address (unit : CompilationUnit) :
    ∃ l : List (Address × Site), l.map Prod.snd = unit.sites ∧
      (l.map Prod.fst).Pairwise (· < ·) ∧ ∀ a x, (a, x) ∈ l ↔ unit.Declares a x := by
  have hsound := unit.root.sound_unchanged
  have hunit : unit.root.unchanged.unit unit.path .old = unit := by
    rw [Revision.unit, Revision.tree_old, Node.old_unchanged]
  refine ⟨(unit.root.unchanged.sited unit.isPackageInfo).map fun y => (y.1.address, y.2), ?_, ?_,
    fun a x => ?_⟩
  · have hsites := Revision.sites_eq_map_sited hsound unit.path .old
    rw [hunit] at hsites
    rw [hsites, List.map_map]
    exact List.map_congr_left fun y hy => (Revision.restate_of_mem_sited hsound hy).symm
  · rw [List.map_map]
    exact Revision.ascending_sited _ _
  · have hdeclares : (∃ s, (s, x) ∈ unit.root.unchanged.sited
        (unit.root.unchanged.unit unit.path .old).isPackageInfo ∧ s.address = a) ↔
          (unit.root.unchanged.unit unit.path .old).Declares a x :=
      Revision.mem_sited_iff_declares hsound
    rw [hunit] at hdeclares
    rw [← hdeclares]
    simp only [List.mem_map, Prod.exists, Prod.mk.injEq]
    constructor
    · rintro ⟨s, y, hy, rfl, rfl⟩
      exact ⟨s, hy, rfl⟩
    · rintro ⟨s, hy, rfl⟩
      exact ⟨s, x, hy, rfl, rfl⟩

/-! ### The first rule that applies -/

/-- The place of a rule among the rules. -/
def Exemption.rank : Exemption → Nat
  | .overriding => 0
  | .privateAccess => 1
  | .ofKind _ => 2
  | .ofName => 3
  | .noargConstructor => 4
  | .trivialProperty _ => 5
  | .serialVersion => 6

namespace Policy

/-- **What a rule asks**: the rule exempts the construct, whatever other rules say. -/
def Applies (settings : Settings) (x : Site) : Exemption → Prop
  | .overriding => x.construct.kind = .method ∧ x.construct.overrides = true
  | .privateAccess => settings.isOn .exemptPrivate = true ∧ x.construct.visibility = .privateLevel
  | .ofKind kind =>
    x.construct.kind = kind ∧ ∃ t, kindToggle? kind = some t ∧ settings.isOn t = true
  | .ofName =>
    x.construct.name ≠ "" ∧ Settings.matchesText settings.exemptName x.construct.name = true
  | .noargConstructor => x.construct.kind = .constructor ∧
    settings.isOn .exemptNoargConstructor = true ∧ x.parameters = 0
  | .trivialProperty property => x.construct.kind = .method ∧
    settings.isOn .exemptTrivialProperties = true ∧ x.property = some property
  | .serialVersion => x.construct.kind = .field ∧ x.isSerialVersion = true

/-- The rule applies, and all others that apply come behind it. -/
structure FirstRule (settings : Settings) (x : Site) (e : Exemption) : Prop where
  applies : Applies settings x e
  first : ∀ e', Applies settings x e' → e' = e ∨ e.rank < e'.rank

variable {settings : Settings} {x : Site} {e : Exemption}

theorem kindExempt_iff {kind : ConstructKind} : kindExempt settings kind = true ↔
    ∃ t, kindToggle? kind = some t ∧ settings.isOn t = true := by
  unfold kindExempt
  cases kindToggle? kind with
  | none => simp
  | some t => simp

/-- Each rule gives an exemption exactly if it applies. -/
theorem rule_eq_some_iff {i : Nat} {rule : Rule} (hi : rules[i]? = some rule) :
    rule settings x = some e ↔ e.rank = i ∧ Applies settings x e := by
  match i with
  | 0 =>
    obtain rfl : overrideRule = rule := Option.some.inj hi
    cases e <;> simp [overrideRule, Exemption.rank, Applies]
  | 1 =>
    obtain rfl : privateRule = rule := Option.some.inj hi
    cases e <;> simp [privateRule, Exemption.rank, Applies]
  | 2 =>
    obtain rfl : kindRule = rule := Option.some.inj hi
    cases e with
    | ofKind kind =>
      simp only [kindRule, Exemption.rank, Applies, ← kindExempt_iff, Option.ite_none_right_eq_some,
        Option.some.injEq, Exemption.ofKind.injEq, true_and]
      constructor
      · rintro ⟨hexempt, rfl⟩
        exact ⟨rfl, hexempt⟩
      · rintro ⟨rfl, hexempt⟩
        exact ⟨hexempt, rfl⟩
    | overriding | privateAccess | ofName | noargConstructor | trivialProperty | serialVersion =>
      simp [kindRule, Exemption.rank]
  | 3 =>
    obtain rfl : nameRule = rule := Option.some.inj hi
    cases e <;> simp [nameRule, nameExempt, Exemption.rank, Applies]
  | 4 =>
    obtain rfl : noargRule = rule := Option.some.inj hi
    cases e <;> simp [noargRule, Exemption.rank, Applies, and_assoc]
  | 5 =>
    obtain rfl : propertyRule = rule := Option.some.inj hi
    cases e <;> simp [propertyRule, Exemption.rank, Applies, and_assoc]
  | 6 =>
    obtain rfl : serialRule = rule := Option.some.inj hi
    cases e <;> simp [serialRule, Exemption.rank, Applies]

theorem exists_rule_of_applies (h : Applies settings x e) :
    ∃ rule, rules[e.rank]? = some rule ∧ rule settings x = some e := by
  have hlt : e.rank < rules.length := by cases e <;> simp [Exemption.rank, rules]
  obtain ⟨rule, hrule⟩ : ∃ rule, rules[e.rank]? = some rule := ⟨_, List.getElem?_eq_getElem hlt⟩
  exact ⟨rule, hrule, (rule_eq_some_iff hrule).mpr ⟨rfl, h⟩⟩

/-- **No rule is named exactly if none applies.** -/
theorem ruling?_eq_none_iff_not_applies :
    ruling? settings x = none ↔ ∀ e, ¬ Applies settings x e := by
  rw [ruling?_eq_findSome?, List.findSome?_eq_none_iff]
  constructor
  · intro h e he
    obtain ⟨rule, hrule, hsome⟩ := exists_rule_of_applies he
    rw [h rule (List.mem_of_getElem? hrule)] at hsome
    cases hsome
  · intro h rule hrule
    obtain ⟨i, hi⟩ := List.getElem?_of_mem hrule
    rw [Option.eq_none_iff_forall_ne_some]
    exact fun e he => h e ((rule_eq_some_iff hi).mp he).2

theorem firstRule_of_ruling? (h : ruling? settings x = some e) : FirstRule settings x e := by
  rw [ruling?_eq_findSome?, List.findSome?_eq_some_iff] at h
  obtain ⟨earlier, rule, later, hrules, hsome, hnone⟩ := h
  have hrule : rules[earlier.length]? = some rule := by simp [hrules]
  obtain ⟨hrank, happlies⟩ := (rule_eq_some_iff hrule).mp hsome
  refine ⟨happlies, fun e' he' => ?_⟩
  obtain ⟨rule', hrule', hsome'⟩ := exists_rule_of_applies he'
  rcases Nat.lt_trichotomy e'.rank e.rank with hlt | heq | hgt
  · -- an earlier rule gives nothing
    rw [hrules, List.getElem?_append_left (by omega)] at hrule'
    rw [hnone rule' (List.mem_of_getElem? hrule')] at hsome'
    cases hsome'
  · rw [heq, hrank, hrule] at hrule'
    cases hrule'
    exact .inl (Option.some.inj (hsome'.symm.trans hsome))
  · exact .inr hgt

/-- **The rule that is named is the first one that applies.** -/
theorem ruling?_eq_some_iff : ruling? settings x = some e ↔ FirstRule settings x e := by
  constructor
  · exact firstRule_of_ruling?
  · intro h
    cases hruling : ruling? settings x with
    | none => exact absurd h.applies (ruling?_eq_none_iff_not_applies.mp hruling e)
    | some e' =>
      have h' := firstRule_of_ruling? hruling
      rcases h.first e' h'.applies with rfl | hlt
      · rfl
      · rcases h'.first e h.applies with rfl | hlt'
        · rfl
        · omega

end Policy

/-! ### Blocks of notes -/

namespace Note

/-- The note says that a construct is visited. -/
def isVisiting : Note → Bool
  | .visiting .. => true
  | _ => false

/-- The name of the construct whose documentation a note misses. -/
def missingName? : Note → Option String
  | .missing name => some name
  | _ => none

end Note

namespace Audit

/-- **The notes on a construct**: that it is visited, and then the rule that exempts it, after a note on
the property if it is a trivial accessor, or that its documentation is missing, or nothing if it is
documented. -/
inductive NotesOn (settings : Settings) (x : Site) : List Note → Prop
  | exempt {e : Exemption} (h : Policy.FirstRule settings x e)
      (hproperty : ∀ property, e ≠ .trivialProperty property) :
      NotesOn settings x [.visiting x.construct.kind x.construct.name,
        .notRequired x.construct.name e.reason]
  | trivialProperty {property : Property}
      (h : Policy.FirstRule settings x (.trivialProperty property)) :
      NotesOn settings x [.visiting x.construct.kind x.construct.name,
        .trivialProperty x.construct.name property,
        .notRequired x.construct.name (Exemption.trivialProperty property).reason]
  | missing (h : ∀ e, ¬ Policy.Applies settings x e) (hdoc : x.documented = false) :
      NotesOn settings x [.visiting x.construct.kind x.construct.name, .missing x.construct.name]
  | documented (h : ∀ e, ¬ Policy.Applies settings x e) (hdoc : x.documented = true) :
      NotesOn settings x [.visiting x.construct.kind x.construct.name]

theorem notesOn_siteNotes (settings : Settings) (x : Site) :
    NotesOn settings x (siteNotes settings x) := by
  unfold siteNotes
  cases hruling : Policy.ruling? settings x with
  | none =>
    have hnone := Policy.ruling?_eq_none_iff_not_applies.mp hruling
    cases hdoc : x.documented with
    | false => exact .missing hnone hdoc
    | true => exact .documented hnone hdoc
  | some e =>
    have hfirst := Policy.ruling?_eq_some_iff.mp hruling
    cases e with
    | trivialProperty property => exact .trivialProperty hfirst
    | overriding | privateAccess | ofKind | ofName | noargConstructor | serialVersion =>
      exact .exempt hfirst (by simp)

/-- A construct has one block of notes. -/
theorem NotesOn.eq_siteNotes {settings : Settings} {x : Site} {block : List Note}
    (h : NotesOn settings x block) : block = siteNotes settings x := by
  unfold siteNotes
  cases h with
  | @exempt e h hproperty =>
    rw [Policy.ruling?_eq_some_iff.mpr h]
    cases e with
    | trivialProperty property => exact absurd rfl (hproperty property)
    | overriding | privateAccess | ofKind | ofName | noargConstructor | serialVersion => rfl
  | trivialProperty h => rw [Policy.ruling?_eq_some_iff.mpr h]; rfl
  | missing h hdoc => rw [Policy.ruling?_eq_none_iff_not_applies.mpr h, hdoc]; rfl
  | documented h hdoc => rw [Policy.ruling?_eq_none_iff_not_applies.mpr h, hdoc]; rfl

/-- **The notes on constructs**, block after block. -/
inductive NotesAlong (settings : Settings) : List Site → List Note → Prop
  | nil : NotesAlong settings [] []
  | cons {x : Site} {rest : List Site} {block more : List Note} (h : NotesOn settings x block)
      (hrest : NotesAlong settings rest more) : NotesAlong settings (x :: rest) (block ++ more)

theorem notesAlong_iff {settings : Settings} {sites : List Site} {trace : List Note} :
    NotesAlong settings sites trace ↔ trace = sites.flatMap (siteNotes settings) := by
  constructor
  · intro h
    induction h with
    | nil => rfl
    | cons h _ ih => rw [List.flatMap_cons, ← h.eq_siteNotes, ih]
  · rintro rfl
    induction sites with
    | nil => exact .nil
    | cons x rest ih => exact .cons (notesOn_siteNotes settings x) ih

section Parts

variable (settings : Settings) (x : Site)

theorem filter_isVisiting_siteNotes : (siteNotes settings x).filter Note.isVisiting =
    [.visiting x.construct.kind x.construct.name] := by
  generalize hblock : siteNotes settings x = block
  have h : NotesOn settings x block := hblock ▸ notesOn_siteNotes settings x
  cases h <;> rfl

theorem filterMap_missingName?_siteNotes : (siteNotes settings x).filterMap Note.missingName? =
    if isFinding settings x then [x.construct.name] else [] := by
  unfold siteNotes isFinding
  cases Policy.ruling? settings x with
  | none => cases x.documented <;> rfl
  | some e => cases e <;> rfl

end Parts

section Whole

variable (settings : Settings) (unit : CompilationUnit)

/-- What is visited does not depend on the settings. -/
theorem filter_isVisiting_notes : (notes settings unit).filter Note.isVisiting =
    unit.sites.map fun x => .visiting x.construct.kind x.construct.name := by
  rw [notes, List.filter_flatMap]
  simp only [filter_isVisiting_siteNotes, List.map_eq_flatMap]

/-- The names that the notes miss documentation of are those of the visited findings. -/
theorem filterMap_missingName?_notes : (notes settings unit).filterMap Note.missingName? =
    (visited settings unit).map (·.name) := by
  rw [notes, visited, List.filterMap_flatMap, List.map_map]
  induction unit.sites with
  | nil => rfl
  | cons x rest ih =>
    rw [List.flatMap_cons, ih, filterMap_missingName?_siteNotes, List.filter_cons]
    cases isFinding settings x <;> rfl

end Whole

/-- **The notes account for every construct.**  The constructs of a file stand in the order of their
addresses, whatever the settings are, and the notes are the blocks of notes on them: that a construct is
visited, and then the first rule that exempts it, or that its documentation is missing, or nothing more.
So all settings visit the same, and the documentation that is missing is that of the findings, in their
order.  The lines of the file are these notes with its path in front. -/
theorem notes_account_for_constructs (unit : CompilationUnit) (h : unit.root.LaidOut) :
    ∃ l : List (Address × Site), (l.map Prod.fst).Pairwise (· < ·) ∧
      (∀ a x, (a, x) ∈ l ↔ unit.Declares a x) ∧
      ∀ settings,
        (∀ trace, NotesAlong settings (l.map Prod.snd) trace ↔ trace = notes settings unit) ∧
        (notes settings unit).filter Note.isVisiting =
          l.map (fun y => .visiting y.2.construct.kind y.2.construct.name) ∧
        (notes settings unit).filterMap Note.missingName? = (findings settings unit).map (·.name) ∧
        ('%' ∉ unit.path.toList → log settings unit =
          (notes settings unit).map fun note => unit.path ++ ": " ++ note.text) := by
  obtain ⟨l, hsites, hordered, hdeclares⟩ := unit.sites_by_address
  refine ⟨l, hordered, hdeclares, fun settings => ⟨fun trace => ?_, ?_, ?_, log_of_noPercent⟩⟩
  · rw [hsites, notesAlong_iff, notes]
  · rw [filter_isVisiting_notes, ← hsites, List.map_map]
    rfl
  · rw [filterMap_missingName?_notes, findings_eq_visited h settings]

/-- Fields that are exempt are visited like the others, and noted with their rule. -/
theorem layeredUnit_accounted :
    layeredUnit.root.LaidOut ∧ '%' ∉ layeredUnit.path.toList ∧
      (notes (togglesOn [.exemptField]) layeredUnit).filterMap Note.missingName? =
        ["A", "E", "f", "B"] ∧
      (notes (togglesOn [.exemptField]) layeredUnit).filterMap Note.missingName? =
        (findings (togglesOn [.exemptField]) layeredUnit).map (·.name) ∧
      (notes (togglesOn [.exemptField]) layeredUnit).filter Note.isVisiting =
        (notes Settings.initial layeredUnit).filter Note.isVisiting ∧
      (log (togglesOn [.exemptField]) layeredUnit).take 4 =
        ["A.java: visiting type A", "A.java: missing documentation: A", "A.java: visiting field x",
          "A.java: not required: x (field)"] ∧
      log (togglesOn [.exemptField]) layeredUnit =
        (notes (togglesOn [.exemptField]) layeredUnit).map
          fun note => layeredUnit.path ++ ": " ++ note.text := by
  have hlaid : layeredUnit.root.LaidOut := by
    constructor <;> decide +kernel
  have hpath : '%' ∉ layeredUnit.path.toList := by decide
  obtain ⟨l, -, -, hnotes⟩ := notes_account_for_constructs layeredUnit hlaid
  obtain ⟨-, hvisiting, hmissing, hlog⟩ := hnotes (togglesOn [.exemptField])
  exact ⟨hlaid, hpath, by decide +kernel, hmissing,
    hvisiting.trans (hnotes Settings.initial).2.1.symm, by decide +kernel, hlog hpath⟩

end Audit

end JavadocAudit
