import JavadocAudit.Proofs.Reading

/-!
# Which methods are trivial accessors

`Exposes m kind property` says without a look at any table that a method is a trivial accessor: what its
name has to announce, how many parameters it takes, what it returns, and what its only statement does, in
each of the six forms.  Comments and tokens are passed over wherever one node is asked for (`HoldsOnly`).

The lemmas go along with the classifier, one for each of its tests, and say exactly when the test
succeeds.  No name announces two forms, since all openings begin with different letters
(`formOf?_eq_some_iff`), so trying one form only loses nothing: the classifier finds the property of a
method exactly if the method exposes it (`classify_iff_exposes`).
-/

namespace JavadocAudit

/-- `c` is the only node of the row with the property `P`. -/
def Node.Lone (P : Node → Prop) (row : List Node) (c : Node) : Prop :=
  ∃ earlier later, row = earlier ++ c :: later ∧ P c ∧ ∀ d ∈ earlier ++ later, ¬ P d

theorem Node.filter_eq_singleton_iff {p : Node → Bool} {row : List Node} {c : Node} :
    row.filter p = [c] ↔ Node.Lone (fun d => p d = true) row c := by
  rw [List.filter_eq_cons_iff]
  constructor
  · rintro ⟨earlier, later, rfl, hearlier, hc, hlater⟩
    refine ⟨earlier, later, rfl, hc, fun d hd => ?_⟩
    rcases List.mem_append.mp hd with hd | hd
    · exact hearlier d hd
    · exact List.filter_eq_nil_iff.mp hlater d hd
  · rintro ⟨earlier, later, rfl, hc, hothers⟩
    exact ⟨earlier, later, rfl, fun d hd => hothers d (List.mem_append_left _ hd), hc,
      List.filter_eq_nil_iff.mpr fun d hd => hothers d (List.mem_append_right _ hd)⟩

namespace Accessor

/-! ### What a trivial accessor looks like -/

/-- `c` is all that `n` holds apart from tokens and comments. -/
def HoldsOnly (n c : Node) : Prop :=
  Node.Lone (fun d => d.kind ≠ .token ∧ d.kind.isComment = false) n.children c

/-- The node is a parameter that a call gives an argument for. -/
def IsParameter (n : Node) : Prop := n.kind = .formalParameter ∨ n.kind = .spreadParameter

/-- The method takes no parameters. -/
def TakesNone (m : Node) : Prop :=
  ∀ ps, m.part? .parameters = some ps → ∀ c ∈ ps.children, ¬ IsParameter c

/-- The method takes the parameter `q` and no other one. -/
def TakesOnly (m q : Node) : Prop :=
  ∃ ps, m.part? .parameters = some ps ∧ Node.Lone IsParameter ps.children q

/-- The method returns nothing. -/
def ReturnsVoid (m : Node) : Prop :=
  m.part? .dimensions = none ∧ ∃ type, m.part? .type = some type ∧ type.kind = .voidType

/-- The method returns a truth value. -/
def ReturnsBoolean (m : Node) : Prop :=
  m.part? .dimensions = none ∧ ∃ type, m.part? .type = some type ∧ type.kind ≠ .voidType ∧
    (type.text = "boolean" ∨ type.text = "Boolean" ∨ type.text = "java.lang.Boolean")

/-- The property is the name with its first character in lower case. -/
def Lowers (name property : String) : Prop :=
  ∃ c rest, name.toList = c :: rest ∧ property.toList = Text.lowerForm c ++ rest

/-- The name is the opening and more, from an upper case character on. -/
def OpensUpper (opening name : String) : Prop :=
  ∃ c rest, name.toList = opening.toList ++ c :: rest ∧ Text.isUppercase c = true

/-- The name announces the property: it opens in this way, and the property is the rest of it, with its
first character in lower case. -/
def Announces (opening name property : String) : Prop :=
  OpensUpper opening name ∧ ∃ rest, name = opening ++ rest ∧ Lowers rest property

/-- The expression is the property: its name, or the field of that name of this object. -/
inductive Denotes (property : String) (e : Node) : Prop
  | bare (hk : e.kind = .identifier) (htext : e.text = property)
  | ofThis {object member : Node} (hk : e.kind = .fieldAccess) (hobject : e.part? .object = some object)
      (hthis : object.kind = .thisReference) (hmember : e.part? .member = some member)
      (htext : member.text = property)

/-- The statement returns the expression `e`. -/
def Returns (s e : Node) : Prop := s.kind = .returnStatement ∧ HoldsOnly s e

/-- The expression is the negation of the property. -/
structure Negates (property : String) (e : Node) : Prop where
  kind : e.kind = .unaryExpression
  operator : ∃ o, e.part? .operator = some o ∧ o.text = "!"
  operand : ∃ o, e.part? .operand = some o ∧ Denotes property o

/-- The expression sets the field of this object to the variable of the same name. -/
structure Assigns (property : String) (e : Node) : Prop where
  kind : e.kind = .assignmentExpression
  operator : ∃ o, e.part? .operator = some o ∧ o.text = "="
  left : ∃ l, e.part? .left = some l ∧ l.kind = .fieldAccess ∧ Denotes property l
  right : ∃ r, e.part? .right = some r ∧ r.kind = .identifier ∧ r.text = property

/-- **The forms of trivial accessors**: a method with the given name and the only statement `s` is an
accessor of the property. -/
inductive HasForm (m : Node) (name : String) (s : Node) : PropertyKind → String → Prop
  | get {property : String} (hname : Announces "get" name property) (hparams : TakesNone m)
      (hreturn : ¬ ReturnsVoid m) (hbody : ∃ e, Returns s e ∧ Denotes property e) :
      HasForm m name s .getter property
  | has {property : String} (hname : Announces "has" name property) (hparams : TakesNone m)
      (hreturn : ReturnsBoolean m) (hbody : ∃ e, Returns s e ∧ Denotes property e) :
      HasForm m name s .getterHas property
  | is {property : String} (hname : Announces "is" name property) (hparams : TakesNone m)
      (hreturn : ReturnsBoolean m) (hbody : ∃ e, Returns s e ∧ Denotes property e) :
      HasForm m name s .getterIs property
  | not {property : String} (hname : Announces "not" name property) (hparams : TakesNone m)
      (hreturn : ReturnsBoolean m) (hbody : ∃ e, Returns s e ∧ Negates property e) :
      HasForm m name s .getterNot property
  | set {property : String} (hname : Announces "set" name property)
      (hparams : ∃ q, TakesOnly m q ∧ q.kind = .formalParameter ∧
        ∃ n, q.part? .name = some n ∧ n.text = property)
      (hreturn : ReturnsVoid m)
      (hbody : s.kind = .expressionStatement ∧ ∃ e, HoldsOnly s e ∧ Assigns property e) :
      HasForm m name s .setter property
  | plain {property : String} (hname : Lowers name property)
      (hopen : ∀ opening ∈ ["get", "has", "is", "not", "set"], ¬ OpensUpper opening name)
      (hparams : TakesNone m) (hreturn : ¬ ReturnsVoid m)
      (hbody : ∃ e, Returns s e ∧ Denotes property e) : HasForm m name s .getterNoPrefix property

/-- **The node is a trivial accessor of the property**: a method with a name and with a body of one
statement, in one of the forms. -/
def Exposes (m : Node) (kind : PropertyKind) (property : String) : Prop :=
  m.kind = .methodDeclaration ∧ ∃ n b s, m.part? .name = some n ∧ n.text ≠ "" ∧
    m.part? .body = some b ∧ HoldsOnly b s ∧ HasForm m n.text s kind property

/-! ### Texts of parts -/

theorem partText_eq_iff {n : Node} {l : Label} {text : String} (h : text ≠ "") :
    n.partText l = text ↔ ∃ c, n.part? l = some c ∧ c.text = text := by
  unfold Node.partText
  cases n.part? l with
  | none => simp [h.symm]
  | some c => simp

theorem contents_eq_singleton_iff {n c : Node} : n.contents = [c] ↔ HoldsOnly n c := by
  rw [Node.contents_eq, Node.filter_eq_singleton_iff, HoldsOnly]
  simp only [Bool.and_eq_true, Bool.not_eq_true', bne_iff_ne, and_comm]

/-! ### Names -/

theorem afterOpening?_isSome_iff (opening name : List Char) :
    (afterOpening? opening name).isSome = true ↔
      ∃ c rest, name = opening ++ c :: rest ∧ Text.isUppercase c = true := by
  fun_induction afterOpening? opening name with
  | case1 c rest hc => simp [hc]
  | case2 c rest hc => simp [hc]
  | case3 a as c rest hac ih =>
    obtain rfl : a = c := beq_iff_eq.mp hac
    simp [ih]
  | case4 a as c rest hac =>
    have hne : c ≠ a := fun h => hac (beq_iff_eq.mpr h.symm)
    simp [hne]
  | case5 opening => simp

theorem opensUpper_iff {opening name : String} : OpensUpper opening name ↔
    (afterOpening? opening.toList name.toList).isSome = true :=
  (afterOpening?_isSome_iff _ _).symm

/-- Two forms whose openings both open a name are one: the openings begin with different letters. -/
theorem form_eq_of_opensUpper {f g : Form} (hf : f ∈ forms) (hg : g ∈ forms) {name : String}
    (hfn : OpensUpper f.opening name) (hgn : OpensUpper g.opening name) : f = g := by
  have hletters : ∀ f ∈ forms, f.opening.toList ≠ [] ∧ ∀ g ∈ forms,
      f.opening.toList.head? = g.opening.toList.head? → f = g := by decide +kernel
  have hhead : ∀ f ∈ forms, OpensUpper f.opening name →
      f.opening.toList.head? = name.toList.head? := by
    rintro f hf ⟨c, rest, hname, -⟩
    rw [hname, List.head?_append_of_ne_nil _ (hletters f hf).1]
  exact (hletters f hf).2 g hg ((hhead f hf hfn).trans (hhead g hg hgn).symm)

theorem opensUpper_of_formOf? {name : String} {form : Form} (h : formOf? name = some form) :
    OpensUpper form.opening name := by
  rw [opensUpper_iff]
  exact List.find?_some (p := fun form : Form => (afterOpening? form.opening.toList name.toList).isSome) h

theorem formOf?_eq_some_iff {name : String} {form : Form} :
    formOf? name = some form ↔ form ∈ forms ∧ OpensUpper form.opening name := by
  constructor
  · intro h
    exact ⟨List.mem_of_find?_eq_some h, opensUpper_of_formOf? h⟩
  · rintro ⟨hform, hopen⟩
    have hsome : (formOf? name).isSome = true :=
      List.find?_isSome.mpr ⟨form, hform, opensUpper_iff.mp hopen⟩
    obtain ⟨g, hg⟩ := Option.isSome_iff_exists.mp hsome
    rw [hg, form_eq_of_opensUpper (List.mem_of_find?_eq_some hg) hform (opensUpper_of_formOf? hg) hopen]

theorem formOf?_eq_none_iff {name : String} : formOf? name = none ↔
    ∀ opening ∈ ["get", "has", "is", "not", "set"], ¬ OpensUpper opening name := by
  have hopenings : ["get", "has", "is", "not", "set"] = forms.map (·.opening) := rfl
  rw [hopenings, formOf?, List.find?_eq_none, List.forall_mem_map]
  simp only [opensUpper_iff]

theorem lowerForm_ne_nil (c : Char) : Text.lowerForm c ≠ [] := by
  unfold Text.lowerForm
  split <;> simp

theorem Lowers.ne_empty {name property : String} (h : Lowers name property) : property ≠ "" := by
  rintro rfl
  obtain ⟨c, rest, -, hnil⟩ := h
  exact lowerForm_ne_nil c (List.append_eq_nil_iff.mp hnil.symm).1

theorem lowers_iff {name property : String} (h : name ≠ "") :
    Lowers name property ↔ lowerFirst name = property := by
  unfold Lowers lowerFirst
  cases hname : name.toList with
  | nil => exact absurd (String.toList_eq_nil_iff.mp hname) h
  | cons c rest =>
    simp only [List.cons.injEq, ← String.toList_inj, String.toList_ofList]
    constructor
    · rintro ⟨c', rest', ⟨rfl, rfl⟩, hproperty⟩
      exact hproperty.symm
    · intro hproperty
      exact ⟨c, rest, ⟨rfl, rfl⟩, hproperty.symm⟩

/-- The property of a name that opens as the form asks. -/
theorem announces_iff {form : Form} {name property : String} : Announces form.opening name property ↔
    OpensUpper form.opening name ∧ propertyName form name = property := by
  refine and_congr_right ?_
  rintro ⟨c, rest, hname, -⟩
  have hsplit : name = form.opening ++ String.ofList (c :: rest) := by
    rw [← String.toList_inj, hname, String.toList_append, String.toList_ofList]
  have hrest : String.ofList (name.toList.drop form.opening.length) = String.ofList (c :: rest) := by
    rw [hname, ← String.length_toList, List.drop_left]
  have hne : String.ofList (c :: rest) ≠ "" := by simp [← String.toList_inj]
  rw [propertyName, hrest, ← lowers_iff hne]
  constructor
  · rintro ⟨rest', hname', hlowers⟩
    rw [hsplit, String.append_right_inj] at hname'
    rwa [hname']
  · exact fun hlowers => ⟨_, hsplit, hlowers⟩

theorem lowers_iff_plainForm {name property : String} (h : name ≠ "") :
    Lowers name property ↔ propertyName plainForm name = property := by
  rw [lowers_iff h, propertyName, plainForm, String.length_empty, List.drop_zero, String.ofList_toList]

/-! ### Parameters and return types -/

theorem isParameter_iff {n : Node} : ((n.kind == .formalParameter || n.kind == .spreadParameter) &&
    n.kind != .token) = true ↔ IsParameter n := by
  unfold IsParameter
  constructor
  · intro h
    simp only [Bool.and_eq_true, Bool.or_eq_true, beq_iff_eq] at h
    exact h.1
  · rintro (h | h) <;> simp [h]

theorem parameterList_eq_nil_iff {m : Node} : m.parameterList = [] ↔ TakesNone m := by
  unfold Node.parameterList TakesNone
  cases m.part? .parameters with
  | none => simp
  | some ps =>
    simp only [Node.filter_isParameter, List.filter_eq_nil_iff, isParameter_iff, Option.some.injEq,
      forall_eq']

theorem parameterList_eq_singleton_iff {m q : Node} : m.parameterList = [q] ↔ TakesOnly m q := by
  unfold Node.parameterList TakesOnly
  cases m.part? .parameters with
  | none => simp
  | some ps =>
    simp only [Node.filter_isParameter, Node.filter_eq_singleton_iff, isParameter_iff,
      Option.some.injEq, exists_eq_left']

theorem returnCategory_eq_void_iff {m : Node} : returnCategory m = .void ↔ ReturnsVoid m := by
  unfold returnCategory ReturnsVoid
  cases m.part? .dimensions with
  | some _ => simp
  | none =>
    cases m.part? .type with
    | none => simp
    | some type =>
      by_cases hk : type.kind = .voidType
      · simp [hk]
      · by_cases hb : type.text ∈ booleanTypes <;> simp [hk, hb]

theorem returnCategory_eq_boolean_iff {m : Node} : returnCategory m = .boolean ↔ ReturnsBoolean m := by
  unfold returnCategory ReturnsBoolean
  cases m.part? .dimensions with
  | some _ => simp
  | none =>
    cases m.part? .type with
    | none => simp
    | some type =>
      by_cases hk : type.kind = .voidType
      · simp [hk]
      · have hwords : type.text ∈ booleanTypes ↔
            type.text = "boolean" ∨ type.text = "Boolean" ∨ type.text = "java.lang.Boolean" := by
          simp [booleanTypes]
        by_cases hb : type.text ∈ booleanTypes <;> simp [hk, hb, ← hwords]

/-! ### Statements -/

section Statements

variable {property : String} (h : property ≠ "")
include h

theorem names_iff {e : Node} : names property e = true ↔ Denotes property e := by
  constructor
  · intro hnames
    simp only [names, beq_iff_eq] at hnames
    split_ifs at hnames with hid hfield
    · exact .bare hid (by simpa using hnames)
    · cases hobject : e.part? .object with
      | none => simp [hobject] at hnames
      | some object =>
        simp only [hobject, Bool.and_eq_true, beq_iff_eq, partText_eq_iff h] at hnames
        obtain ⟨hthis, member, hmember, htext⟩ := hnames
        exact .ofThis hfield hobject hthis hmember htext
  · rintro (⟨hk, htext⟩ | ⟨hk, hobject, hthis, hmember, htext⟩)
    · simp [names, hk, htext]
    · have hpart := (partText_eq_iff h).mpr ⟨_, hmember, htext⟩
      simp [names, hk, hobject, hthis, hpart]

omit h in
theorem returned?_eq_some_iff {s e : Node} : returned? s = some e ↔ Returns s e := by
  rw [Returns, ← contents_eq_singleton_iff, returned?]
  by_cases hk : s.kind = .returnStatement
  · simp only [hk, beq_self_eq_true, if_true, true_and]
    split
    · next hcontents => simp [hcontents]
    · next hcontents => simpa using fun he => hcontents e he
  · simp [hk]

theorem returnsProperty_iff {s : Node} :
    returnsProperty property s = true ↔ ∃ e, Returns s e ∧ Denotes property e := by
  simp only [← returned?_eq_some_iff, ← names_iff h, returnsProperty]
  cases returned? s <;> simp

theorem returnsNegation_iff {s : Node} :
    returnsNegation property s = true ↔ ∃ e, Returns s e ∧ Negates property e := by
  simp only [← returned?_eq_some_iff, returnsNegation]
  cases returned? s with
  | none => simp
  | some e =>
    simp only [Bool.and_eq_true, beq_iff_eq, partText_eq_iff (show "!" ≠ "" by decide),
      Option.some.injEq, exists_eq_left']
    constructor
    · rintro ⟨⟨hk, hoperator⟩, hoperand⟩
      refine ⟨hk, hoperator, ?_⟩
      cases ho : e.part? .operand with
      | none => simp [ho] at hoperand
      | some o => exact ⟨o, rfl, (names_iff h).mp (by simpa [ho] using hoperand)⟩
    · rintro ⟨hk, hoperator, o, ho, hdenotes⟩
      exact ⟨⟨hk, hoperator⟩, by simp [ho, (names_iff h).mpr hdenotes]⟩

theorem setsProperty_iff {s : Node} : setsProperty property s = true ↔
    s.kind = .expressionStatement ∧ ∃ e, HoldsOnly s e ∧ Assigns property e := by
  simp only [← contents_eq_singleton_iff, setsProperty, Bool.and_eq_true, beq_iff_eq]
  refine and_congr_right fun _ => ?_
  split
  · next e hcontents =>
    simp only [hcontents, List.cons.injEq, and_true, exists_eq_left', Bool.and_eq_true, beq_iff_eq,
      partText_eq_iff (show "=" ≠ "" by decide)]
    constructor
    · rintro ⟨⟨hk, hoperator⟩, hsides⟩
      split at hsides
      · next l r hl hr =>
        simp only [Bool.and_eq_true, beq_iff_eq] at hsides
        obtain ⟨⟨⟨hlk, hnames⟩, hrk⟩, hrt⟩ := hsides
        exact ⟨hk, hoperator, ⟨l, hl, hlk, (names_iff h).mp hnames⟩, r, hr, hrk, hrt⟩
      · cases hsides
    · rintro ⟨hk, hoperator, ⟨l, hl, hlk, hdenotes⟩, r, hr, hrk, hrt⟩
      exact ⟨⟨hk, hoperator⟩, by simp [hl, hr, hlk, hrk, hrt, (names_iff h).mpr hdenotes]⟩
  · next hcontents => simpa using fun e he => absurd he (hcontents e)

end Statements

/-! ### The classifier -/

/-- A method fits a form: the tests, each by itself. -/
theorem fits_iff {form : Form} {property : String} {m : Node} (h : property ≠ "") :
    fits form property m = true ↔ parametersFit form property m.parameterList = true ∧
      returnFits form (returnCategory m) = true ∧
      ∃ b s, m.part? .body = some b ∧ HoldsOnly b s ∧ bodyFits form property s = true := by
  simp only [fits, statements?, Bool.and_eq_true, bne_iff_ne, ne_eq, h, not_false_eq_true, true_and,
    and_assoc, ← contents_eq_singleton_iff]
  refine and_congr_right fun _ => and_congr_right fun _ => ?_
  cases m.part? .body with
  | none => simp
  | some b =>
    simp only [Option.map_some, Option.some.injEq]
    split
    · next s hs => simp [Option.some.inj hs]
    · next hs => simpa using fun s hb => absurd (congrArg some hb) (hs s)

section Form

variable {form : Form} {property : String} {m : Node}

theorem parametersFit_iff_takesNone (hcount : form.parameters = 0) :
    parametersFit form property m.parameterList = true ↔ TakesNone m := by
  rw [← parameterList_eq_nil_iff]
  unfold parametersFit
  cases m.parameterList with
  | nil => cases form.kind <;> simp [hcount]
  | cons => simp [hcount]

theorem parametersFit_iff_takesOnly (h : property ≠ "") (hkind : form.kind = .setter)
    (hcount : form.parameters = 1) : parametersFit form property m.parameterList = true ↔
      ∃ q, TakesOnly m q ∧ q.kind = .formalParameter ∧
        ∃ n, q.part? .name = some n ∧ n.text = property := by
  simp only [← parameterList_eq_singleton_iff, parametersFit, hkind, hcount, ← partText_eq_iff h]
  cases m.parameterList with
  | nil => simp
  | cons q rest => cases rest <;> simp

theorem returnFits_iff_not_void (hreturns : form.returns = none) :
    returnFits form (returnCategory m) = true ↔ ¬ ReturnsVoid m := by
  simp [returnFits, hreturns, ← returnCategory_eq_void_iff]

theorem returnFits_iff_boolean (hreturns : form.returns = some .boolean) :
    returnFits form (returnCategory m) = true ↔ ReturnsBoolean m := by
  simp [returnFits, hreturns, ← returnCategory_eq_boolean_iff]

theorem returnFits_iff_void (hreturns : form.returns = some .void) :
    returnFits form (returnCategory m) = true ↔ ReturnsVoid m := by
  simp [returnFits, hreturns, ← returnCategory_eq_void_iff]

end Form

/-- The name announces the property in a form. -/
def Form.Names (form : Form) (name property : String) : Prop :=
  (form ∈ forms ∧ Announces form.opening name property) ∨
    (form = plainForm ∧ formOf? name = none ∧ Lowers name property)

theorem Form.Names.ne_empty {form : Form} {name property : String} (h : form.Names name property) :
    property ≠ "" := by
  rcases h with ⟨-, -, rest, -, hlowers⟩ | ⟨-, -, hlowers⟩
  · exact hlowers.ne_empty
  · exact hlowers.ne_empty

/-- A name announces its property in the form in which the classifier tries it, and in no other. -/
theorem names_form_iff {form : Form} {name property : String} (h : name ≠ "") :
    form.Names name property ↔
      form = (formOf? name).getD plainForm ∧ propertyName form name = property := by
  rw [Form.Names, announces_iff]
  cases hform : formOf? name with
  | none =>
    constructor
    · rintro (⟨hmem, hopen, -⟩ | ⟨rfl, -, hlowers⟩)
      · rw [formOf?_eq_some_iff.mpr ⟨hmem, hopen⟩] at hform
        cases hform
      · exact ⟨rfl, (lowers_iff_plainForm h).mp hlowers⟩
    · rintro ⟨rfl, hproperty⟩
      exact .inr ⟨rfl, rfl, (lowers_iff_plainForm h).mpr hproperty⟩
  | some announced =>
    obtain ⟨hmem, hopen⟩ := formOf?_eq_some_iff.mp hform
    constructor
    · rintro (⟨hmem', hopen', hproperty⟩ | ⟨-, hnone, -⟩)
      · exact ⟨form_eq_of_opensUpper hmem' hmem hopen' hopen, hproperty⟩
      · cases hnone
    · rintro ⟨rfl, hproperty⟩
      exact .inl ⟨hmem, hopen, hproperty⟩

/-- **What the classifier finds**: a form that the name announces and that the method fits. -/
theorem classify_eq_some_iff {m : Node} {kind : PropertyKind} {property : String} :
    classify m = some ⟨kind, property⟩ ↔ m.kind = .methodDeclaration ∧ m.declaredName ≠ "" ∧
      ∃ form, form.kind = kind ∧ form.Names m.declaredName property ∧ fits form property m = true := by
  unfold classify
  by_cases hk : m.kind = .methodDeclaration
  · by_cases hname : m.declaredName = ""
    · simp [hname]
    · simp only [names_form_iff hname, hk, beq_self_eq_true, Bool.true_and, bne_iff_ne, ne_eq, hname,
        not_false_eq_true, if_true, true_and]
      constructor
      · intro h
        split_ifs at h with hfits
        cases h
        exact ⟨_, rfl, ⟨rfl, rfl⟩, hfits⟩
      · rintro ⟨form, rfl, ⟨rfl, rfl⟩, hfits⟩
        rw [if_pos hfits]
  · simp [hk]

/-- **The forms of the table are the forms of trivial accessors.** -/
theorem hasForm_iff {m s : Node} {name : String} {kind : PropertyKind} {property : String} :
    HasForm m name s kind property ↔ ∃ form : Form, form.kind = kind ∧ form.Names name property ∧
      parametersFit form property m.parameterList = true ∧
      returnFits form (returnCategory m) = true ∧ bodyFits form property s = true := by
  constructor
  · intro h
    have hne : property ≠ "" := by
      cases h with
      | get hname | has hname | is hname | not hname | set hname =>
        obtain ⟨-, rest, -, hlowers⟩ := hname
        exact hlowers.ne_empty
      | plain hname => exact hname.ne_empty
    cases h with
    | get hname hparams hreturn hbody =>
      exact ⟨⟨"get", .getter, 0, none⟩, rfl, .inl ⟨by decide, hname⟩,
        (parametersFit_iff_takesNone rfl).mpr hparams, (returnFits_iff_not_void rfl).mpr hreturn,
        (returnsProperty_iff hne).mpr hbody⟩
    | has hname hparams hreturn hbody =>
      exact ⟨⟨"has", .getterHas, 0, some .boolean⟩, rfl, .inl ⟨by decide, hname⟩,
        (parametersFit_iff_takesNone rfl).mpr hparams, (returnFits_iff_boolean rfl).mpr hreturn,
        (returnsProperty_iff hne).mpr hbody⟩
    | is hname hparams hreturn hbody =>
      exact ⟨⟨"is", .getterIs, 0, some .boolean⟩, rfl, .inl ⟨by decide, hname⟩,
        (parametersFit_iff_takesNone rfl).mpr hparams, (returnFits_iff_boolean rfl).mpr hreturn,
        (returnsProperty_iff hne).mpr hbody⟩
    | not hname hparams hreturn hbody =>
      exact ⟨⟨"not", .getterNot, 0, some .boolean⟩, rfl, .inl ⟨by decide, hname⟩,
        (parametersFit_iff_takesNone rfl).mpr hparams, (returnFits_iff_boolean rfl).mpr hreturn,
        (returnsNegation_iff hne).mpr hbody⟩
    | set hname hparams hreturn hbody =>
      exact ⟨⟨"set", .setter, 1, some .void⟩, rfl, .inl ⟨by decide, hname⟩,
        (parametersFit_iff_takesOnly hne rfl rfl).mpr hparams, (returnFits_iff_void rfl).mpr hreturn,
        (setsProperty_iff hne).mpr hbody⟩
    | plain hname hopen hparams hreturn hbody =>
      exact ⟨plainForm, rfl, .inr ⟨rfl, formOf?_eq_none_iff.mpr hopen, hname⟩,
        (parametersFit_iff_takesNone rfl).mpr hparams, (returnFits_iff_not_void rfl).mpr hreturn,
        (returnsProperty_iff hne).mpr hbody⟩
  · rintro ⟨form, rfl, hnames, hparams, hreturn, hbody⟩
    have hne := hnames.ne_empty
    rcases hnames with ⟨hmem, hname⟩ | ⟨rfl, hnone, hname⟩
    · simp only [forms, List.mem_cons, List.not_mem_nil, or_false] at hmem
      rcases hmem with rfl | rfl | rfl | rfl | rfl
      · exact .get hname ((parametersFit_iff_takesNone rfl).mp hparams)
          ((returnFits_iff_not_void rfl).mp hreturn) ((returnsProperty_iff hne).mp hbody)
      · exact .has hname ((parametersFit_iff_takesNone rfl).mp hparams)
          ((returnFits_iff_boolean rfl).mp hreturn) ((returnsProperty_iff hne).mp hbody)
      · exact .is hname ((parametersFit_iff_takesNone rfl).mp hparams)
          ((returnFits_iff_boolean rfl).mp hreturn) ((returnsProperty_iff hne).mp hbody)
      · exact .not hname ((parametersFit_iff_takesNone rfl).mp hparams)
          ((returnFits_iff_boolean rfl).mp hreturn) ((returnsNegation_iff hne).mp hbody)
      · exact .set hname ((parametersFit_iff_takesOnly hne rfl rfl).mp hparams)
          ((returnFits_iff_void rfl).mp hreturn) ((setsProperty_iff hne).mp hbody)
    · exact .plain hname (formOf?_eq_none_iff.mp hnone)
        ((parametersFit_iff_takesNone rfl).mp hparams) ((returnFits_iff_not_void rfl).mp hreturn)
        ((returnsProperty_iff hne).mp hbody)

/-- **The classifier finds a property exactly if the method is a trivial accessor of it.** -/
theorem classify_iff_exposes (m : Node) (kind : PropertyKind) (property : String) :
    classify m = some ⟨kind, property⟩ ↔ Exposes m kind property := by
  rw [classify_eq_some_iff]
  refine and_congr_right fun _ => ?_
  constructor
  · rintro ⟨hname, form, hkind, hnames, hfits⟩
    obtain ⟨hparams, hreturn, b, s, hb, hs, hbody⟩ := (fits_iff hnames.ne_empty).mp hfits
    obtain ⟨n, hn, htext⟩ := (partText_eq_iff hname).mp rfl
    refine ⟨n, b, s, hn, by rwa [htext], hb, hs, ?_⟩
    rw [htext]
    exact hasForm_iff.mpr ⟨form, hkind, hnames, hparams, hreturn, hbody⟩
  · rintro ⟨n, b, s, hn, hname, hb, hs, hform⟩
    obtain ⟨form, hkind, hnames, hparams, hreturn, hbody⟩ := hasForm_iff.mp hform
    have htext : m.declaredName = n.text := (partText_eq_iff hname).mpr ⟨n, hn, rfl⟩
    rw [htext]
    exact ⟨hname, form, hkind, hnames,
      (fits_iff hnames.ne_empty).mpr ⟨hparams, hreturn, b, s, hb, hs, hbody⟩⟩

end Accessor

end JavadocAudit
