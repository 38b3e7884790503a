import JavadocAudit.Proofs.ClosedCode
import JavadocAudit.Proofs.Coverage

/-!
# Closed code does not influence the audit

Two trees that differ in closed code only have the same sites, up to what the bodies of methods say
(`Site.outline`).  The induction is over the first tree: closed code among the members of a body has no
sites, and it is no comment, so it documents nothing (`outline_alongRow`).  The rules of exemption look at
the bodies of methods only where trivial accessors are exempt, so the findings and the log of the two trees
are the same (`closed_code_changes_nothing`).

Conversely, what is reported stands outside of all closed code: on the way from the root to a declaration
that is visited there is none (`Declares.isOpen`).
-/

namespace JavadocAudit

open Node (Alike PartAlike Reads parallel_alike)

/-! ### Sites up to the bodies of methods -/

/-- The site, without what the body of a method says if the bodies of methods are closed. -/
def Site.outline (methods : Bool) (s : Site) : Site :=
  if methods then { s with property := none } else s

section

variable {settings : Settings} {methods : Bool}
  (hm : methods = true → settings.isOn .exemptTrivialProperties = false)

include hm in
theorem Policy.ruling?_outline (s : Site) :
    Policy.ruling? settings (s.outline methods) = Policy.ruling? settings s := by
  cases methods with
  | false => rfl
  | true => simp [Policy.ruling?, Policy.siteExemption?, Site.outline, hm rfl]

include hm in
theorem Audit.isFinding_outline (s : Site) :
    Audit.isFinding settings (s.outline methods) = Audit.isFinding settings s := by
  rw [Audit.isFinding, Audit.isFinding, Policy.ruling?_outline hm]
  cases methods <;> rfl

include hm in
theorem Audit.siteNotes_outline (s : Site) :
    Audit.siteNotes settings (s.outline methods) = Audit.siteNotes settings s := by
  rw [Audit.siteNotes, Audit.siteNotes, Policy.ruling?_outline hm]
  cases methods <;> rfl

theorem Audit.finding_outline (path : String) (s : Site) :
    Audit.finding path (s.outline methods) = Audit.finding path s := by
  cases methods <;> rfl

end

/-! ### Documentation -/

section

variable {methods : Bool} {kind : Kind} {label : Option Label} {c c' : Node}
  (h : PartAlike methods kind label c c')
  (hv : kind ≠ .variableDeclarator ∨ label ≠ some .declarator)
include h hv

theorem Node.PartAlike.isDocumentation : c'.isDocumentation = c.isDocumentation := by
  unfold Node.isDocumentation Node.isComment
  rw [h.kind_eq hv]
  cases hc : c.kind.isComment with
  | false => rfl
  | true =>
    have hcode : c.kind.isCode = false ∧ c.kind.isCompoundType = false := by
      revert hc
      cases c.kind <;> simp [Kind.isComment, Kind.isCode, Kind.isCompoundType]
    have hreads : Reads (Alike methods) kind label c c' := h.reads (Node.isClosed_of_kind hv hcode.1)
    rw [hreads.text (by simp [Node.isRead, Node.isComment, hc]) (Or.inr hcode.2)]

/-- The same documentation is before the nodes that come after two that are alike. -/
theorem Node.PartAlike.isDocumentedBy_cons {before before' : List Node}
    (hdoc : Node.isDocumentedBy before' = Node.isDocumentedBy before) :
    Node.isDocumentedBy (c' :: before') = Node.isDocumentedBy (c :: before) := by
  rw [Node.isDocumentedBy_cons, Node.isDocumentedBy_cons, h.isDocumentation hv, hdoc,
    Node.isComment, Node.isComment, h.kind_eq hv]

end

/-! ### The sites of a declaration -/

namespace Site

section

variable {methods : Bool} {old new : Node} {before before' : List Node} (ctx : Context)
  (h : old.Alike methods new) (hdoc : Node.isDocumentedBy before' = Node.isDocumentedBy before)

include h in
theorem visibilityIn_alike : visibilityIn ctx new = visibilityIn ctx old := by
  rw [visibilityIn, visibilityIn, (parallel_alike methods).declaredVisibility? h]

include h in
theorem declaredName_alike (hr : old.kind.hasReadName = true ∨ old.label = some .declarator) :
    new.declaredName = old.declaredName :=
  (parallel_alike methods).declaredName h hr

include h in
theorem enter_alike (hk : old.kind.isType = true) : ctx.enter new = ctx.enter old := by
  rw [Context.enter, Context.enter, h.kind, h.parameterList.length_eq,
    declaredName_alike h (Or.inl (by simp [Kind.hasReadName, hk]))]

include h hdoc

theorem ofPackage_alike (hk : old.kind = .packageDeclaration) :
    ofPackage before' new = ofPackage before old := by
  simp only [ofPackage, (parallel_alike methods).packageName h hk, h.line, h.column, hdoc]

theorem ofType_alike (hk : old.kind.isType = true) : ofType ctx before' new = ofType ctx before old := by
  simp only [ofType, declaredName_alike h (Or.inl (by simp [Kind.hasReadName, hk])),
    visibilityIn_alike ctx h, h.line, h.column, hdoc]

theorem ofMethod_alike (hk : old.kind = .methodDeclaration) :
    (ofMethod ctx before' new).outline methods = (ofMethod ctx before old).outline methods := by
  have hname := declaredName_alike h (Or.inl (by simp [Kind.hasReadName, hk]))
  have hoverride : isOverride new = isOverride old := by
    rw [isOverride, isOverride, (parallel_alike methods).annotationNames h]
  cases methods with
  | true =>
    simp only [outline, ofMethod, hname, visibilityIn_alike ctx h, hoverride, h.line, h.column, hdoc,
      if_true]
  | false =>
    simp only [ofMethod, hname, visibilityIn_alike ctx h, hoverride, h.line, h.column, hdoc, h.classify hk]

theorem ofConstructor_alike (hk : old.kind.isConstructor = true) :
    ofConstructor ctx before' new = ofConstructor ctx before old := by
  simp only [ofConstructor, constructorName, constructorParameters, h.kind, h.parameterList.length_eq,
    declaredName_alike h (Or.inl (by simp [Kind.hasReadName, hk])), visibilityIn_alike ctx h, h.line,
    h.column, hdoc]

theorem ofAnnotationMember_alike (hk : old.kind = .annotationTypeElementDeclaration) :
    ofAnnotationMember ctx before' new = ofAnnotationMember ctx before old := by
  simp only [ofAnnotationMember, declaredName_alike h (Or.inl (by simp [Kind.hasReadName, hk])),
    visibilityIn_alike ctx h, h.line, h.column, hdoc]

theorem ofEnumConstant_alike (hk : old.kind = .enumConstant) :
    ofEnumConstant before' new = ofEnumConstant before old := by
  simp only [ofEnumConstant, declaredName_alike h (Or.inl (by simp [Kind.hasReadName, hk])), h.line,
    h.column, hdoc]

theorem ofField_alike (hk : old.kind.isField = true) :
    ofField ctx before' new = ofField ctx before old := by
  have hparts := h.parts (l := .declarator) fun c hl => Node.isClosed_of_label hl (by decide)
  refine Node.map_of_forall₂ hparts fun v hmem v' ⟨hv, _⟩ => ?_
  have hl : v.label = some .declarator := beq_iff_eq.mp (List.mem_filter.mp hmem).2
  simp only [ofDeclarator, declaredName_alike hv (Or.inr hl), visibilityIn_alike ctx h, hv.line, hv.column,
    hdoc, (parallel_alike methods).isSerialVersionOf h hk hv hl]

theorem ofPlainMember_alike : (ofPlainMember ctx before' new).map (outline methods) =
    (ofPlainMember ctx before old).map (outline methods) := by
  unfold ofPlainMember
  rw [h.kind]
  split_ifs with hfield hmethod hconstructor hannotation hconstant
  · rw [ofField_alike ctx h hdoc hfield]
  · rw [List.map_singleton, List.map_singleton, ofMethod_alike ctx h hdoc (beq_iff_eq.mp hmethod)]
  · rw [ofConstructor_alike ctx h hdoc hconstructor]
  · rw [ofAnnotationMember_alike ctx h hdoc (beq_iff_eq.mp hannotation)]
  · rw [ofEnumConstant_alike h hdoc (beq_iff_eq.mp hconstant)]
  · rfl

end

/-! ### The sites of members -/

/-- Code is no member. -/
theorem ofMember_of_isCode {ctx : Context} {before : List Node} {n : Node} (h : n.kind.isCode = true) :
    ofMember ctx before n = [] := by
  have hplain : n.kind.isType = false ∧ n.kind ≠ .enumBodyDeclarations := by
    revert h
    cases n.kind <;> simp [Kind.isCode, Kind.isType]
  rw [ofMember_of_plain hplain.1 hplain.2, ofPlainMember]
  revert h
  cases n.kind <;> simp [Kind.isCode, Kind.isField, Kind.isConstructor]

/-- **Rows that are alike**: if each node that is kept has the same sites and code has none, the rows have
the same sites. -/
theorem outline_alongRow {methods : Bool} {kind : Kind} {label : Option Label} {row row' : List Node}
    {f : List Node → Node → List Site} (hrow : List.Forall₂ (PartAlike methods kind label) row row')
    (hv : kind ≠ .variableDeclarator ∨ label ≠ some .declarator)
    (hcode : ∀ before n, n.kind.isCode = true → f before n = [])
    (hf : ∀ c ∈ row, ∀ c', c.Alike methods c' → ∀ before before' : List Node,
      Node.isDocumentedBy before' = Node.isDocumentedBy before →
        (f before' c').map (outline methods) = (f before c).map (outline methods)) :
    ∀ before before' : List Node, Node.isDocumentedBy before' = Node.isDocumentedBy before →
      (alongRow f before' row').map (outline methods) =
        (alongRow f before row).map (outline methods) := by
  induction hrow with
  | nil => exact fun _ _ _ => rfl
  | @cons c c' rest rest' hc _ ih =>
    intro before before' hdoc
    have hhead : (f before' c').map (outline methods) = (f before c).map (outline methods) := by
      rcases hc with ⟨hclosed, hclosed', -⟩ | ⟨halike, -⟩
      · rw [hcode before c (Node.isCode_of_isClosed hv hclosed).1,
          hcode before' c' (Node.isCode_of_isClosed hv hclosed').1]
      · exact hf c List.mem_cons_self c' halike before before' hdoc
    rw [alongRow, alongRow, List.map_append, List.map_append, hhead]
    congr 1
    exact ih (fun x hx => hf x (List.mem_cons_of_mem _ hx)) _ _ (hc.isDocumentedBy_cons hv hdoc)

/-- **The sites of members that are alike** are the same, up to the bodies of methods. -/
theorem ofMember_alike (methods : Bool) (old : Node) : ∀ (new : Node) (ctx : Context)
    (before before' : List Node), old.Alike methods new →
    Node.isDocumentedBy before' = Node.isDocumentedBy before →
      (ofMember ctx before' new).map (outline methods) =
        (ofMember ctx before old).map (outline methods) := by
  induction old using Node.descend with
  | h old ihc ihb =>
  intro new ctx before before' h hdoc
  by_cases ht : old.kind.isType = true
  · rw [ofMember_of_isType ht, ofMember_of_isType (by rw [h.kind]; exact ht), List.map_cons,
      List.map_cons, ofType_alike ctx h hdoc ht, enter_alike ctx h ht, ofBodyPart_eq, ofBodyPart_eq]
    congr 1
    have hparts := h.parts (l := .body) fun c _ =>
      Node.isClosed_of_parent (Kind.holdsCode_of_isType ht)
    have hbody : ∀ n : Node, n.children.find? (·.label == some .body) = (n.parts .body).head? :=
      fun n => n.part?_eq_head? .body
    rw [hbody, hbody]
    rcases Node.head?_of_forall₂ hparts with ⟨hold, hnew⟩ | ⟨b, b', hold, hnew, hmem, hb⟩
    · rw [hold, hnew]
    · obtain ⟨hmem, hl⟩ := List.mem_filter.mp hmem
      rw [hold, hnew]
      simp only [ofMembers_eq]
      exact outline_alongRow hb.1.row (Or.inr (by simp [beq_iff_eq.mp hl]))
        (fun _ _ => ofMember_of_isCode) (fun c hc c' halike before before' => ihb b hmem c hc c' _ before
          before' halike) [] [] rfl
  · have ht : old.kind.isType = false := by simpa using ht
    by_cases he : old.kind = .enumBodyDeclarations
    · rw [ofMember_of_enumPart he, ofMember_of_enumPart (by rw [h.kind]; exact he), ofMembers_eq,
        ofMembers_eq]
      exact outline_alongRow h.row (Or.inl (by simp [he])) (fun _ _ => ofMember_of_isCode)
        (fun c hc c' halike before before' => ihc c hc c' _ before before' halike) [] [] rfl
    · rw [ofMember_of_plain ht he, ofMember_of_plain (by rw [h.kind]; exact ht) (by rw [h.kind]; exact he)]
      exact ofPlainMember_alike ctx h hdoc

end Site

/-- **The sites of files that are alike** are the same, up to the bodies of methods. -/
theorem CompilationUnit.sites_alike {methods : Bool} {old new : Node} (path : String)
    (hroot : old.kind = .program) (h : old.Alike methods new) :
    (CompilationUnit.mk path new).sites.map (Site.outline methods) =
      (CompilationUnit.mk path old).sites.map (Site.outline methods) := by
  have hinfo : (CompilationUnit.mk path new).isPackageInfo =
      (CompilationUnit.mk path old).isPackageInfo := rfl
  rw [sites_eq, sites_eq, hinfo]
  refine Site.outline_alongRow h.row (Or.inl (by simp [hroot])) (fun before n hcode => ?_)
    (fun c _ c' halike before before' hdoc => ?_) [] [] rfl
  · revert hcode
    cases n.kind <;> simp [Kind.isCode, Kind.isType]
  · simp only [halike.kind]
    split_ifs with hp
    · rw [Site.ofPackage_alike halike hdoc (beq_iff_eq.mp hp)]
    · rfl
    · exact Site.ofMember_alike methods c c' {} before before' halike hdoc
    · rfl

/-! ### What is reported stands outside of closed code -/

/-- There is no closed code on the way along the address, the bodies of methods included. -/
def Node.IsOpen : Node → Address → Prop
  | _, [] => True
  | n, i :: a => ∃ c, n.children[i]? = some c ∧ c.isClosed true n.kind n.label = false ∧ c.IsOpen a

namespace Standing

/-- What holds a member that is no code is no code. -/
theorem isCode_of_holds {t m : Standing} {a : Address} (h : t.Holds a m)
    (hm : m.node.kind.isCode = false) : t.node.kind.isCode = false := by
  cases h with
  | self => exact hm
  | inType hk => revert hk; cases t.node.kind <;> decide
  | inEnumPart _ hk => rw [hk]; rfl

/-- **The way to a member** leads through no closed code. -/
theorem isOpen_of_holds {t m : Standing} {a a' : Address} (h : t.Holds a m)
    (hm : m.node.kind.isCode = false) (hopen : m.node.IsOpen a') : t.node.IsOpen (a ++ a') := by
  induction h with
  | self => exact hopen
  | inType hk hb ht hin ih =>
    refine ⟨_, hb.child, Node.isClosed_of_parent (Kind.holdsCode_of_isType hk), _,
      getElem?_of_standing? ht, ?_, ih hm hopen⟩
    exact Node.isClosed_of_kind (Or.inr (by simp [hb.label])) (isCode_of_holds hin hm)
  | inEnumPart _ hk ht hin ih =>
    refine ⟨_, getElem?_of_standing? ht, ?_, ih hm hopen⟩
    exact Node.isClosed_of_kind (Or.inl (by simp [hk])) (isCode_of_holds hin hm)

/-- The sites of a declaration stand at it, or at a variable of it. -/
theorem Own.isOpen {m : Standing} {a : Address} {x : Site} (h : m.Own a x) :
    m.node.kind.isCode = false ∧ m.node.IsOpen a := by
  cases h with
  | type hk => exact ⟨by revert hk; cases m.node.kind <;> decide, trivial⟩
  | constructor hk => exact ⟨by revert hk; cases m.node.kind <;> decide, trivial⟩
  | method hk | annotationMember hk | enumConstant hk => exact ⟨by rw [hk]; rfl, trivial⟩
  | field hk hv hl =>
    exact ⟨by revert hk; cases m.node.kind <;> decide, _, hv, Node.isClosed_of_label hl (by decide),
      trivial⟩

end Standing

theorem CompilationUnit.Declares.isOpen {unit : CompilationUnit} (hroot : unit.root.kind = .program)
    {a : Address} {x : Site} (h : unit.Declares a x) : unit.root.IsOpen a := by
  have hparent : unit.root.kind.holdsCode = false := by rw [hroot]; rfl
  rcases h with ⟨i, m, -, hm, -, rfl, -⟩ | ⟨a₁, a₂, m, rfl, ⟨i, t, a', rfl, ht, hholds⟩, -, hown⟩
  · exact ⟨_, Standing.getElem?_of_standing? hm, Node.isClosed_of_parent hparent, trivial⟩
  · obtain ⟨hcode, hopen⟩ := hown.isOpen
    exact ⟨_, Standing.getElem?_of_standing? ht, Node.isClosed_of_parent hparent,
      Standing.isOpen_of_holds hholds hcode hopen⟩

/-! ### The audit -/

namespace Audit

section

variable {settings : Settings} {methods : Bool}
  (hm : methods = true → settings.isOn .exemptTrivialProperties = false)
include hm

/-- The findings of a file can be told from its sites up to the bodies of methods. -/
theorem visited_outline (unit : CompilationUnit) : visited settings unit =
    ((unit.sites.map (Site.outline methods)).filter (isFinding settings)).map (finding unit.path) := by
  rw [List.filter_map, List.map_map, visited]
  simp only [Function.comp_def, isFinding_outline hm, finding_outline]

/-- So can the notes. -/
theorem notes_outline (unit : CompilationUnit) : notes settings unit =
    (unit.sites.map (Site.outline methods)).flatMap (siteNotes settings) := by
  rw [List.flatMap_map, notes]
  simp only [siteNotes_outline hm]

end

/-- **Closed code does not count**: for all settings, trees that differ in closed code only have the same
findings and print the same log; if they differ in the bodies of methods too, this holds for the settings
that do not exempt trivial accessors.  No declaration in closed code is ever reported. -/
theorem closed_code_changes_nothing {old : Node} (hroot : old.kind = .program) (path : String)
    (settings : Settings) :
    (∀ (methods : Bool) (new : Node), old.Alike methods new →
      (methods = true → settings.isOn .exemptTrivialProperties = false) →
        findings settings ⟨path, new⟩ = findings settings ⟨path, old⟩ ∧
          log settings ⟨path, new⟩ = log settings ⟨path, old⟩) ∧
    ∃ l : List (Address × Finding), (findings settings ⟨path, old⟩).Perm (l.map Prod.snd) ∧
      ∀ a f, (a, f) ∈ l → Lacks settings ⟨path, old⟩ a f ∧ old.IsOpen a := by
  constructor
  · intro methods new h hm
    have hsites := CompilationUnit.sites_alike path hroot h
    have hvisited : visited settings ⟨path, new⟩ = visited settings ⟨path, old⟩ := by
      rw [visited_outline hm, visited_outline hm, hsites]
    have hnotes : notes settings ⟨path, new⟩ = notes settings ⟨path, old⟩ := by
      rw [notes_outline hm, notes_outline hm, hsites]
    exact ⟨by rw [findings, findings, hvisited], by rw [log, log, hnotes]⟩
  · obtain ⟨l, hl, -, hmem⟩ := (CompilationUnit.mk path old).enumerates_sites.filter_map
      (isFinding settings) (finding path)
    refine ⟨l, ?_, fun a f haf => ?_⟩
    · rw [hl]
      exact List.mergeSort_perm _ _
    · obtain ⟨x, hdeclares, hfinding, rfl⟩ := (hmem a f).mp haf
      exact ⟨lacks_of_isFinding hdeclares hfinding, hdeclares.isOpen hroot⟩

end Audit

/-- A class with a constructor, an initializer, a field and a method, and the code that they are given. -/
def classWith (constructor initializer value method : Node) : Node :=
  .branch .program none ⟨0, 90, 1, 1⟩
    [.branch .classDeclaration none ⟨0, 90, 1, 1⟩
      [.leaf .token none ⟨0, 5, 1, 1⟩ "" "class",
        .leaf .identifier (some .name) ⟨6, 7, 1, 7⟩ " " "A",
        .branch .classBody (some .body) ⟨8, 90, 1, 9⟩
          [.leaf .token none ⟨8, 9, 1, 9⟩ " " "\x7b",
            .branch .constructorDeclaration none ⟨10, 20, 2, 1⟩
              [.leaf .identifier (some .name) ⟨10, 11, 2, 1⟩ "\n" "A",
                .leaf .formalParameters (some .parameters) ⟨11, 13, 2, 2⟩ "" "()", constructor],
            initializer,
            .branch .fieldDeclaration none ⟨40, 50, 4, 1⟩
              [.leaf .integralType (some .type) ⟨40, 43, 4, 1⟩ "\n" "int",
                .branch .variableDeclarator (some .declarator) ⟨44, 49, 4, 5⟩
                  [.leaf .identifier (some .name) ⟨44, 45, 4, 5⟩ " " "x",
                    .leaf .token none ⟨46, 47, 4, 7⟩ " " "=", value]],
            .branch .methodDeclaration none ⟨60, 80, 5, 1⟩
              [.leaf .integralType (some .type) ⟨60, 63, 5, 1⟩ "\n" "int",
                .leaf .identifier (some .name) ⟨64, 65, 5, 5⟩ " " "x",
                .leaf .formalParameters (some .parameters) ⟨65, 67, 5, 6⟩ "" "()", method]]]]

/-- A class that is declared in code, with documentation before it. -/
def innerClass : List Node :=
  [.leaf .blockComment none ⟨0, 8, 9, 1⟩ " " "/** d */",
    .branch .classDeclaration none ⟨9, 20, 9, 10⟩
      [.leaf .identifier (some .name) ⟨15, 16, 9, 16⟩ " " "B",
        .leaf .classBody (some .body) ⟨17, 19, 9, 18⟩ " " "\x7b\x7d"]]

def plainClass : Node :=
  classWith (.branch .constructorBody (some .body) ⟨14, 16, 2, 5⟩ [])
    (.branch .block none ⟨20, 22, 3, 1⟩ []) (.leaf .numberLiteral (some .value) ⟨48, 49, 4, 9⟩ " " "1")
    (.branch .block (some .body) ⟨68, 70, 5, 9⟩ [])

def refilledClass : Node :=
  classWith (.branch .constructorBody (some .body) ⟨14, 16, 2, 5⟩ innerClass)
    (.branch .block none ⟨20, 22, 3, 1⟩ innerClass)
    (.branch .objectCreationExpression (some .value) ⟨48, 49, 4, 9⟩ innerClass)
    (.branch .block (some .body) ⟨68, 70, 5, 9⟩
      [.branch .returnStatement none ⟨69, 70, 5, 10⟩ [.leaf .identifier none ⟨76, 77, 5, 17⟩ " " "x"]])

theorem refilledClass_unchanged :
    plainClass.kind = .program ∧ plainClass.Alike true refilledClass ∧
      ¬ plainClass.Alike false refilledClass ∧
      Settings.initial.isOn .exemptTrivialProperties = false ∧
      Audit.findings Settings.initial ⟨"A.java", refilledClass⟩ =
        Audit.findings Settings.initial ⟨"A.java", plainClass⟩ := by
  have halike : plainClass.Alike true refilledClass := by decide +kernel
  have hoff : Settings.initial.isOn .exemptTrivialProperties = false := rfl
  exact ⟨rfl, halike, by decide +kernel, hoff,
    ((Audit.closed_code_changes_nothing rfl "A.java" Settings.initial).1 true refilledClass halike
      fun _ => hoff).1⟩

end JavadocAudit
