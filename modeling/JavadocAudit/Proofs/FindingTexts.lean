import JavadocAudit.Finding

/-!
# Findings are told apart by their texts

A finding is printed on one line: its path, its line and column if it has them, and what it says, with
colons between them.  The path may hold colons and all else, so the text has to be read from its end.  What
stands after the last colon tells a directory from a construct (`folder_ne_placed`), and in the text of a
construct no name, column or line holds a colon, so one part after the other is cut off at the last colon
(`last_colon_inj`).  Two findings whose paths are printed as they are have one text exactly if they agree
in all that is printed (`text_eq_iff_agree`).
-/

namespace JavadocAudit.Finding

/-! ### Parts of a text -/

/-- What is cut at its last colon falls into the same two parts. -/
theorem last_colon_inj {a b c d : List Char} (hb : ':' ∉ b) (hd : ':' ∉ d)
    (h : a ++ ':' :: b = c ++ ':' :: d) : a = c ∧ b = d := by
  rcases List.append_eq_append_iff.mp h with ⟨e, hc, hrest⟩ | ⟨e, ha, hrest⟩
  · cases e with
    | nil => exact ⟨by simpa using hc.symm, by simpa using hrest⟩
    | cons x e =>
      obtain ⟨-, hb'⟩ := List.cons.inj hrest
      exact absurd (hb' ▸ by simp) hb
  · cases e with
    | nil => exact ⟨by simpa using ha, by simpa using hrest.symm⟩
    | cons x e =>
      obtain ⟨-, hd'⟩ := List.cons.inj hrest
      exact absurd (hd' ▸ by simp) hd

theorem isDigit_of_mem_repr {m : Nat} {c : Char} (h : c ∈ m.repr.toList) : c.isDigit = true := by
  rw [Nat.toList_repr] at h
  exact Nat.isDigit_of_mem_toDigits (by decide) (by decide) h

theorem digit_or_minus_of_mem_number {n : Int} {c : Char} (h : c ∈ (toString n).toList) :
    c.isDigit = true ∨ c = '-' := by
  cases n with
  | ofNat m => exact .inl (isDigit_of_mem_repr h)
  | negSucc m =>
    have hminus : c ∈ ("-" ++ (m + 1).repr).toList := h
    rw [String.toList_append, List.mem_append] at hminus
    rcases hminus with hminus | hm
    · exact .inr (List.mem_singleton.mp hminus)
    · exact .inl (isDigit_of_mem_repr hm)

theorem colon_notMem_number (n : Int) : ':' ∉ (toString n).toList := by
  intro h
  exact absurd (digit_or_minus_of_mem_number h) (by decide)

theorem colon_notMem_numberText (n : Option Int) : ':' ∉ (numberText n).toList := by
  cases n with
  | none => decide
  | some n => exact colon_notMem_number n

theorem eq_of_toList_repr {m n : Nat} (h : m.repr.toList = n.repr.toList) : m = n := by
  rw [Nat.toList_repr, Nat.toList_repr] at h
  have hread := congrArg (Nat.ofDigitChars 10 · 0) h
  simpa only [Nat.ofDigitChars_ten_toDigits] using hread

/-- A number is known from its text: a minus tells the sign, and the digits are read back. -/
theorem number_inj {m n : Int} (h : toString m = toString n) : m = n := by
  have hminus : ∀ a b : Nat, a.repr ≠ "-" ++ b.repr := by
    intro a b heq
    have hmem : '-' ∈ a.repr.toList := by rw [heq, String.toList_append]; exact List.mem_cons_self
    exact absurd (isDigit_of_mem_repr hmem) (by decide)
  cases m with
  | ofNat a =>
    cases n with
    | ofNat b => exact congrArg Int.ofNat (eq_of_toList_repr (congrArg String.toList h))
    | negSucc b => exact absurd h (hminus a (b + 1))
  | negSucc a =>
    cases n with
    | ofNat b => exact absurd h.symm (hminus b (a + 1))
    | negSucc b =>
      have hlist := congrArg String.toList (show "-" ++ (a + 1).repr = "-" ++ (b + 1).repr from h)
      rw [String.toList_append, String.toList_append] at hlist
      have hsame : a + 1 = b + 1 := eq_of_toList_repr (List.append_cancel_left hlist)
      exact congrArg Int.negSucc (Nat.succ.inj hsame)

theorem number_ne_none (n : Int) : toString n ≠ "None" := by
  intro h
  have hmem : 'N' ∈ (toString n).toList := by rw [h]; decide
  exact absurd (digit_or_minus_of_mem_number hmem) (by decide)

theorem numberText_inj {m n : Option Int} (h : numberText m = numberText n) : m = n := by
  cases m with
  | none =>
    cases n with
    | none => rfl
    | some n => exact absurd h.symm (number_ne_none n)
  | some m =>
    cases n with
    | none => exact absurd h (number_ne_none m)
    | some n => exact congrArg some (number_inj h)

/-! ### The two forms of a text -/

section

variable {cwd start : String} {f : Finding}

/-- The text of a directory, cut at its last colon. -/
theorem toList_text_of_folder (h : f.line = none) : (f.text cwd start false).toList =
    (f.path.toList ++ ": missing package documentation".toList) ++
      ':' :: " no file package-info.java".toList := by
  simp only [text, displayPath, Bool.false_and, Bool.false_eq_true, if_false, textAt, message, h,
    String.toList_append, List.append_assoc]
  rfl

/-- The text of a construct, cut at its last three colons. -/
theorem toList_text_of_placed {line : Int} (h : f.line = some line) : (f.text cwd start false).toList =
    ((f.path.toList ++ ':' :: (toString line).toList) ++ ':' :: (numberText f.column).toList) ++
      ':' :: (" missing documentation for ".toList ++ f.name.toList) := by
  simp only [text, displayPath, Bool.false_and, Bool.false_eq_true, if_false, textAt, message, h,
    String.toList_append, List.append_assoc]
  rfl

end

section

variable {cwd start cwd' start' : String} {f g : Finding}

/-- What stands after the last colon of a construct holds no colon if its name holds none. -/
theorem colon_notMem_message {name : String} (h : ':' ∉ name.toList) :
    ':' ∉ " missing documentation for ".toList ++ name.toList := by
  rw [List.mem_append, not_or]
  exact ⟨by decide, h⟩

theorem path_of_folders (hf : f.line = none) (hg : g.line = none)
    (h : f.text cwd start false = g.text cwd' start' false) : f.path = g.path := by
  have hlist := congrArg String.toList h
  rw [toList_text_of_folder hf, toList_text_of_folder hg] at hlist
  exact String.toList_inj.mp (List.append_cancel_right (List.append_cancel_right hlist))

/-- A directory is never printed like a construct. -/
theorem folder_ne_placed {line : Int} (hf : f.line = none) (hg : g.line = some line)
    (hname : ':' ∉ g.name.toList) : f.text cwd start false ≠ g.text cwd' start' false := by
  intro h
  have hlist := congrArg String.toList h
  rw [toList_text_of_folder hf, toList_text_of_placed hg] at hlist
  -- after the last colon the one goes on with `no`, the other with `missing`
  have hend := (last_colon_inj (by decide) (colon_notMem_message hname) hlist).2
  exact absurd hend (by simp)

theorem parts_of_placed {line line' : Int} (hf : f.line = some line) (hg : g.line = some line')
    (hname : ':' ∉ f.name.toList) (hname' : ':' ∉ g.name.toList)
    (h : f.text cwd start false = g.text cwd' start' false) :
    f.path = g.path ∧ line = line' ∧ f.column = g.column ∧ f.name = g.name := by
  have hlist := congrArg String.toList h
  rw [toList_text_of_placed hf, toList_text_of_placed hg] at hlist
  obtain ⟨hplace, hmessage⟩ :=
    last_colon_inj (colon_notMem_message hname) (colon_notMem_message hname') hlist
  obtain ⟨hstart, hcolumn⟩ :=
    last_colon_inj (colon_notMem_numberText _) (colon_notMem_numberText _) hplace
  obtain ⟨hpath, hline⟩ := last_colon_inj (colon_notMem_number _) (colon_notMem_number _) hstart
  exact ⟨String.toList_inj.mp hpath, number_inj (String.toList_inj.mp hline),
    numberText_inj (String.toList_inj.mp hcolumn),
    String.toList_inj.mp (List.append_cancel_left hmessage)⟩

end

/-- **Printed findings are unambiguous.**  Two findings, neither of them a construct with a colon in its
name, have one text exactly if they agree on path and line and, if they have a line, on column and name;
so no directory is printed like a construct. -/
theorem text_eq_iff_agree (cwd start cwd' start' : String) (f g : Finding)
    (hf : f.line ≠ none → ':' ∉ f.name.toList) (hg : g.line ≠ none → ':' ∉ g.name.toList) :
    (f.text cwd start false = g.text cwd' start' false ↔
      f.path = g.path ∧ f.line = g.line ∧ (f.line ≠ none → f.column = g.column ∧ f.name = g.name)) ∧
    (f.line = none → g.line ≠ none → f.text cwd start false ≠ g.text cwd' start' false) := by
  cases hfl : f.line with
  | none =>
    cases hgl : g.line with
    | none =>
      refine ⟨⟨fun h => ?_, fun h => ?_⟩, fun _ hne => absurd rfl hne⟩
      · exact ⟨path_of_folders hfl hgl h, rfl, fun hne => absurd rfl hne⟩
      · rw [← String.toList_inj, toList_text_of_folder hfl, toList_text_of_folder hgl, h.1]
    | some line =>
      have hne : f.text cwd start false ≠ g.text cwd' start' false :=
        folder_ne_placed hfl hgl (hg (by simp [hgl]))
      exact ⟨⟨fun h => absurd h hne, fun h => nomatch h.2.1⟩, fun _ _ => hne⟩
  | some line =>
    have hfname := hf (by simp [hfl])
    cases hgl : g.line with
    | none =>
      have hne : f.text cwd start false ≠ g.text cwd' start' false :=
        (folder_ne_placed hgl hfl hfname).symm
      exact ⟨⟨fun h => absurd h hne, fun h => nomatch h.2.1⟩, nofun⟩
    | some line' =>
      have hgname := hg (by simp [hgl])
      refine ⟨⟨fun h => ?_, fun h => ?_⟩, nofun⟩
      · obtain ⟨hpath, rfl, hcolumn, hname⟩ := parts_of_placed hfl hgl hfname hgname h
        exact ⟨hpath, rfl, fun _ => ⟨hcolumn, hname⟩⟩
      · obtain ⟨hpath, hline, hrest⟩ := h
        obtain ⟨hcolumn, hname⟩ := hrest nofun
        cases hline
        rw [← String.toList_inj, toList_text_of_placed hfl, toList_text_of_placed hgl, hpath, hcolumn, hname]

/-- A construct in a file whose path looks like the text of a finding. -/
def disguised : Finding := ⟨"a.java:1:2: missing documentation for A", some 4, some 5, "B", .type⟩

/-- A directory of that name. -/
def disguisedFolder : Finding := ⟨"a.java:1:2: missing documentation for A", none, none, ".", .package⟩

theorem disguised_told_apart :
    (disguised.line ≠ none → ':' ∉ disguised.name.toList) ∧ disguisedFolder.line = none ∧
    disguised.text "/" "/" false = { disguised with kind := .field }.text "/" "/" false ∧
    disguised.text "/" "/" false ≠ { disguised with column := none }.text "/" "/" false ∧
    disguisedFolder.text "/" "/" false ≠ disguised.text "/" "/" false := by
  have hname : disguised.line ≠ none → ':' ∉ disguised.name.toList := fun _ => by decide
  have hkind := text_eq_iff_agree "/" "/" "/" "/" disguised { disguised with kind := .field } hname hname
  have hcolumn := text_eq_iff_agree "/" "/" "/" "/" disguised { disguised with column := none } hname hname
  have hfolder := text_eq_iff_agree "/" "/" "/" "/" disguisedFolder disguised nofun hname
  refine ⟨hname, rfl, hkind.1.mpr ⟨rfl, rfl, fun _ => ⟨rfl, rfl⟩⟩, fun h => ?_, hfolder.2 rfl nofun⟩
  have hsame : disguised.column = none := ((hcolumn.1.mp h).2.2 nofun).1
  cases hsame

end JavadocAudit.Finding
