import JavadocAudit.Audit
import Mathlib.Data.List.Basic
import Mathlib.Tactic.SplitIfs

/-!
# The lines of a log

A template fits one number of arguments only (`length_eq_of_fillAt`).  The templates of notes have a slot
for each of their arguments, so a path in front of one must not have any: a line is what the path prints
as a template without slots, and then the text of the note (`line?_eq`).  A path prints itself exactly if
it holds no percent sign (`fillAt_nil_eq_iff`), and then alone are the lines of a file its notes with the
path in front (`log_literal_iff`).
-/

namespace JavadocAudit

/-! ### Templates -/

namespace Text

/-- Without percent signs, a text prints itself. -/
theorem fillAt_literal {s : List Char} (h : '%' ∉ s) (rest : List Char) (args : List String) :
    fillAt false (s ++ rest) args = (fillAt false rest args).map (s ++ ·) := by
  induction s with
  | nil => simp
  | cons c s ih =>
    obtain ⟨hc, hs⟩ := List.ne_and_not_mem_of_not_mem_cons h
    rw [List.cons_append, fillAt, if_neg (by simpa using Ne.symm hc), ih hs, Option.map_map]
    rfl

/-- A slot prints the next argument. -/
theorem fillAt_slot (rest : List Char) (arg : String) (args : List String) :
    fillAt false ('%' :: 's' :: rest) (arg :: args) =
      (fillAt false rest args).map (arg.toList ++ ·) := by
  rfl

/-- **A template fits one number of arguments only.** -/
theorem length_eq_of_fillAt {template : List Char} {signed : Bool} {args args' : List String}
    {out out' : List Char} (h : fillAt signed template args = some out)
    (h' : fillAt signed template args' = some out') : args.length = args'.length := by
  induction template generalizing signed args args' out out' with
  | nil => cases signed <;> cases args <;> cases args' <;> simp_all [fillAt]
  | cons c rest ih =>
    cases signed with
    | false =>
      simp only [fillAt] at h h'
      split_ifs at h h' with hc
      · exact ih h h'
      · obtain ⟨_, h, -⟩ := Option.map_eq_some_iff.mp h
        obtain ⟨_, h', -⟩ := Option.map_eq_some_iff.mp h'
        exact ih h h'
    | true =>
      simp only [fillAt] at h h'
      split_ifs at h h' with hc hs
      · obtain ⟨_, h, -⟩ := Option.map_eq_some_iff.mp h
        obtain ⟨_, h', -⟩ := Option.map_eq_some_iff.mp h'
        exact ih h h'
      · cases args with
        | nil => cases h
        | cons arg more =>
          cases args' with
          | nil => cases h'
          | cons arg' more' =>
            obtain ⟨_, h, -⟩ := Option.map_eq_some_iff.mp h
            obtain ⟨_, h', -⟩ := Option.map_eq_some_iff.mp h'
            rw [List.length_cons, List.length_cons, ih h h']

section Opening

-- the template takes all arguments, and a percent sign before it would be lost
variable {rest : List Char} {args : List String} {out : List Char}
  (hfits : fillAt false rest args = some out) (happart : ∀ args, fillAt true rest args = none)
include hfits happart

/-- Whatever stands before the template, it does not fit fewer arguments. -/
theorem fillAt_append_of_fewer (opening : List Char) (signed : Bool) {fewer : List String}
    (hfewer : fewer.length < args.length) : fillAt signed (opening ++ rest) fewer = none := by
  induction opening generalizing signed fewer with
  | nil =>
    cases signed with
    | true => exact happart fewer
    | false =>
      rw [List.nil_append, Option.eq_none_iff_forall_ne_some]
      intro out' h
      exact absurd (length_eq_of_fillAt h hfits) (Nat.ne_of_lt hfewer)
  | cons c opening ih =>
    cases signed with
    | false =>
      simp only [List.cons_append, fillAt]
      split_ifs
      · exact ih true hfewer
      · rw [ih false hfewer, Option.map_none]
    | true =>
      simp only [List.cons_append, fillAt]
      split_ifs
      · rw [ih false hfewer, Option.map_none]
      · cases fewer with
        | nil => rfl
        | cons arg more =>
          dsimp only
          rw [ih false (Nat.lt_of_succ_lt hfewer), Option.map_none]
      · rfl

/-- **What stands before the template has no arguments.** -/
theorem fillAt_append (opening : List Char) (signed : Bool) :
    fillAt signed (opening ++ rest) args = (fillAt signed opening []).map (· ++ out) := by
  induction opening generalizing signed with
  | nil =>
    cases signed with
    | true => exact happart args
    | false => simpa [fillAt] using hfits
  | cons c opening ih =>
    cases signed with
    | false =>
      simp only [List.cons_append, fillAt]
      split_ifs
      · exact ih true
      · rw [ih false, Option.map_map, Option.map_map]
        rfl
    | true =>
      simp only [List.cons_append, fillAt]
      split_ifs
      · rw [ih false, Option.map_map, Option.map_map]
        rfl
      · -- a slot takes an argument away from the template
        cases args with
        | nil => rfl
        | cons arg more =>
          dsimp only
          rw [fillAt_append_of_fewer hfits happart opening false (Nat.lt_succ_self _)]
          rfl
      · rfl

end Opening

theorem length_le_of_fillAt_nil {template out : List Char} {signed : Bool}
    (h : fillAt signed template [] = some out) :
    out.length ≤ template.length ∧ (signed = false → '%' ∈ template → out.length < template.length) := by
  induction template generalizing signed out with
  | nil => cases signed <;> simp_all [fillAt]
  | cons c rest ih =>
    cases signed with
    | false =>
      simp only [fillAt] at h
      split_ifs at h with hc
      · have hle := (ih h).1
        exact ⟨Nat.le_succ_of_le hle, fun _ _ => Nat.lt_succ_of_le hle⟩
      · obtain ⟨shown, hshown, rfl⟩ := Option.map_eq_some_iff.mp h
        obtain ⟨hle, hlt⟩ := ih hshown
        refine ⟨Nat.succ_le_succ hle, fun _ hmem => Nat.succ_lt_succ (hlt rfl ?_)⟩
        exact (List.mem_cons.mp hmem).resolve_left fun heq => hc (by simp [← heq])
    | true =>
      simp only [fillAt] at h
      split_ifs at h
      obtain ⟨shown, hshown, rfl⟩ := Option.map_eq_some_iff.mp h
      exact ⟨Nat.succ_le_succ (ih hshown).1, by simp⟩

/-- **A text prints itself exactly if it holds no percent sign**; two of them print one. -/
theorem fillAt_nil_eq_iff {s : List Char} : fillAt false s [] = some s ↔ '%' ∉ s := by
  constructor
  · exact fun h hmem => absurd ((length_le_of_fillAt_nil h).2 rfl hmem) (Nat.lt_irrefl _)
  · exact fun h => by simpa [fillAt] using fillAt_literal h [] []

end Text

/-! ### Notes -/

namespace Note

/-- The text of a note, without the path of its file. -/
def text : Note → String
  | .visiting kind name => String.join ["visiting ", kind.name, " ", name]
  | .trivialProperty name property =>
    String.join [name, " is a trivial ", property.kind.name, " for ", property.name]
  | .notRequired name reason => String.join ["not required: ", name, " (", reason, ")"]
  | .missing name => String.join ["missing documentation: ", name]

/-- The template of a note has a slot for each of its arguments. -/
theorem fillAt_template (note : Note) :
    Text.fillAt false note.template.toList note.arguments = some note.text.toList := by
  cases note with
  | visiting kind name =>
    have hslots : "visiting %s %s".toList =
        "visiting ".toList ++ '%' :: 's' :: (" ".toList ++ ['%', 's']) := by decide
    rw [template, arguments, hslots, Text.fillAt_literal (by decide), Text.fillAt_slot,
      Text.fillAt_literal (by decide), Text.fillAt_slot]
    simp [text, Text.fillAt]
  | trivialProperty name property =>
    have hslots : "%s is a trivial %s for %s".toList = '%' :: 's' ::
        (" is a trivial ".toList ++ '%' :: 's' :: (" for ".toList ++ ['%', 's'])) := by decide
    rw [template, arguments, hslots, Text.fillAt_slot, Text.fillAt_literal (by decide),
      Text.fillAt_slot, Text.fillAt_literal (by decide), Text.fillAt_slot]
    simp [text, Text.fillAt]
  | notRequired name reason =>
    have hslots : "not required: %s (%s)".toList = "not required: ".toList ++ '%' :: 's' ::
        (" (".toList ++ '%' :: 's' :: (")".toList ++ [])) := by decide
    rw [template, arguments, hslots, Text.fillAt_literal (by decide), Text.fillAt_slot,
      Text.fillAt_literal (by decide), Text.fillAt_slot, Text.fillAt_literal (by decide)]
    simp [text, Text.fillAt]
  | missing name =>
    have hslots : "missing documentation: %s".toList =
        "missing documentation: ".toList ++ ['%', 's'] := by decide
    rw [template, arguments, hslots, Text.fillAt_literal (by decide), Text.fillAt_slot]
    simp [text, Text.fillAt]

/-- **The line of a note** is what the path prints without arguments, and the text of the note. -/
theorem line?_eq (path : String) (note : Note) :
    note.line? path = (Text.fill? path []).map (· ++ ": " ++ note.text) := by
  have hfits : Text.fillAt false (": ".toList ++ note.template.toList) note.arguments =
      some (": ".toList ++ note.text.toList) := by
    rw [Text.fillAt_literal (by decide), note.fillAt_template, Option.map_some]
  have hline := Text.fillAt_append hfits (fun args => rfl) path.toList false
  rw [line?, Text.fill?, String.toList_append, String.toList_append, List.append_assoc, hline,
    Text.fill?, Option.map_map, Option.map_map]
  refine congrArg (Option.map · _) (funext fun shown => ?_)
  simp only [Function.comp_apply, ← String.toList_inj, String.toList_append, String.toList_ofList,
    List.append_assoc]

end Note

/-! ### Logs -/

theorem Text.fill?_nil_eq_iff {s : String} : Text.fill? s [] = some s ↔ '%' ∉ s.toList := by
  rw [← Text.fillAt_nil_eq_iff, Text.fill?, Option.map_eq_some_iff]
  constructor
  · rintro ⟨out, h, hout⟩
    rw [h, ← hout, String.toList_ofList]
  · exact fun h => ⟨s.toList, h, String.ofList_toList⟩

namespace Audit

variable {settings : Settings} {unit : CompilationUnit}

theorem notes_eq_nil_iff : notes settings unit = [] ↔ unit.sites = [] := by
  rw [notes, List.flatMap_eq_nil_iff, List.eq_nil_iff_forall_not_mem]
  exact forall₂_congr fun x _ => by simp [siteNotes]

theorem line?_eq_iff {path : String} {note : Note} :
    note.line? path = some (path ++ ": " ++ note.text) ↔ '%' ∉ path.toList := by
  rw [Note.line?_eq, ← Text.fill?_nil_eq_iff, Option.map_eq_some_iff]
  constructor
  · rintro ⟨shown, h, hline⟩
    rw [String.append_left_inj, String.append_left_inj] at hline
    rwa [hline] at h
  · exact fun h => ⟨path, h, rfl⟩

/-- The lines of a file are its notes with the path in front, if the path holds no percent sign. -/
theorem log_of_noPercent (h : '%' ∉ unit.path.toList) :
    log settings unit = (notes settings unit).map fun note => unit.path ++ ": " ++ note.text :=
  List.filterMap_eq_map_iff_forall_eq_some.mpr fun _ _ => line?_eq_iff.mpr h

/-- **A path is read as it is exactly if it holds no percent sign.**  The lines of a file are its notes,
each with what the path prints as a template in front, and there are none if it is no template without
slots.  Each note is printed as the path, a colon and the text of the note if the path holds no percent
sign, and otherwise only if there is nothing to note; the same holds of all lines together. -/
theorem log_literal_iff (settings : Settings) (unit : CompilationUnit) :
    (log settings unit = match Text.fill? unit.path [] with
      | some shown => (notes settings unit).map fun note => shown ++ ": " ++ note.text
      | none => []) ∧
    ((∀ note ∈ notes settings unit, note.line? unit.path = some (unit.path ++ ": " ++ note.text)) ↔
      '%' ∉ unit.path.toList ∨ unit.sites = []) ∧
    (log settings unit = ((notes settings unit).map fun note => unit.path ++ ": " ++ note.text) ↔
      '%' ∉ unit.path.toList ∨ unit.sites = []) := by
  have hliteral : (∀ note ∈ notes settings unit,
      note.line? unit.path = some (unit.path ++ ": " ++ note.text)) ↔
        '%' ∉ unit.path.toList ∨ unit.sites = [] := by
    simp only [line?_eq_iff]
    constructor
    · intro h
      by_cases hsites : unit.sites = []
      · exact .inr hsites
      · obtain ⟨note, hnote⟩ := List.exists_mem_of_ne_nil _ (mt notes_eq_nil_iff.mp hsites)
        exact .inl (h note hnote)
    · rintro (h | h) note hnote
      · exact h
      · rw [notes_eq_nil_iff.mpr h] at hnote
        cases hnote
  refine ⟨?_, hliteral, List.filterMap_eq_map_iff_forall_eq_some.trans hliteral⟩
  simp only [log, Note.line?_eq]
  cases Text.fill? unit.path [] with
  | none => simp
  | some shown => simp

/-- An empty class, in a file whose path holds two percent signs. -/
def percentClass : CompilationUnit where
  path := "50%%.java"
  root := .branch .program none ⟨0, 10, 1, 1⟩
    [.branch .classDeclaration none ⟨0, 10, 1, 1⟩
      [.leaf .token none ⟨0, 5, 1, 1⟩ "" "class",
        .leaf .identifier (some .name) ⟨6, 7, 1, 7⟩ " " "A",
        .branch .classBody (some .body) ⟨8, 10, 1, 9⟩
          [.leaf .token none ⟨8, 9, 1, 9⟩ " " "\x7b", .leaf .token none ⟨9, 10, 1, 10⟩ "" "\x7d"]]]

/-- Of two percent signs in a path one is lost. -/
theorem percentClass_altered :
    log Settings.initial percentClass =
      ["50%.java: visiting type A", "50%.java: missing documentation: A"] ∧
    ¬ ∀ note ∈ notes Settings.initial percentClass,
      note.line? percentClass.path = some (percentClass.path ++ ": " ++ note.text) := by
  constructor <;> decide +kernel

end Audit

end JavadocAudit
