import JavadocAudit.Proofs.Preorder
import JavadocAudit.Source.Grammar
import Mathlib.Algebra.GroupWithZero.Nat
import Mathlib.Data.List.Induction

/-!
# Every node stands somewhere in its source text

The position of a node is where some beginning of the source text ends.  So its line is one more than the
number of line feeds before it, and its column one more than the number of bytes after the last of these
(`Spot.afterAll_origin`).

The lexer keeps this true of its place from one token to the next (`placed_tokensFrom`).  A rule only
copies positions: a construct starts where its first part starts (`build_starts`), so what is true of the
tokens that are left to read and of the nodes built so far stays true (`Rule.keepsUpTo`).  Hence it holds of
every node of the tree of a text (`Grammar.parse_starts`).
-/

namespace JavadocAudit

open Text

/-- Where a stretch starts. -/
def Span.spot (s : Span) : Spot := ⟨s.start, s.line, s.column⟩

/-- The spot is where a beginning of the text ends. -/
def Spot.StandsIn (gs : List Glyph) (s : Spot) : Prop := ∃ before, before <+: gs ∧ s = Spot.origin.afterAll before

/-! ### Lines and columns -/

namespace Text

/-- The number of bytes of glyphs. -/
def widthOf (gs : List Glyph) : Nat := (gs.map Glyph.width).sum

/-- The line after glyphs, counted from one: each line feed begins another one. -/
def lineAfter (gs : List Glyph) : Nat := 1 + gs.countP (·.is '\n')

/-- The column after glyphs, counted from one, in bytes after the last line feed. -/
def columnAfter (gs : List Glyph) : Nat := 1 + widthOf (gs.reverse.takeWhile fun g => !g.is '\n')

theorem Glyph.width_of_is {g : Glyph} (h : g.is '\n' = true) : g.width = 1 := by
  cases g with
  | stray b => cases h
  | char c =>
    obtain rfl : c = '\n' := beq_iff_eq.mp h
    rfl

end Text

namespace Spot

theorem afterAll_origin (gs : List Glyph) :
    Spot.origin.afterAll gs = ⟨widthOf gs, lineAfter gs, columnAfter gs⟩ := by
  induction gs using List.reverseRecOn with
  | nil => rfl
  | append_singleton gs g ih =>
    have hstep : Spot.origin.afterAll (gs ++ [g]) = (Spot.origin.afterAll gs).after g := by
      rw [afterAll, List.foldl_append]
      rfl
    rw [hstep, ih, after]
    unfold widthOf lineAfter columnAfter
    by_cases h : g.is '\n' = true
    · simp [h, Glyph.width_of_is h, widthOf, Nat.add_assoc]
    · simp [h, widthOf, Nat.add_assoc, Nat.add_comm g.width]

theorem afterAll_append (s : Spot) (gs hs : List Glyph) : s.afterAll (gs ++ hs) = (s.afterAll gs).afterAll hs :=
  List.foldl_append

variable {gs : List Glyph} {s : Spot}

theorem standsIn_origin : origin.StandsIn gs := ⟨[], List.nil_prefix, rfl⟩

end Spot

/-! ### Tokens -/

/-- All that a token records of its place stands in the text. -/
structure Token.Placed (gs : List Glyph) (t : Token) : Prop where
  span : t.span.spot.StandsIn gs
  stop : t.stop.StandsIn gs
  comments : ∀ c ∈ t.comments, c.span.spot.StandsIn gs

theorem Token.placed_numbered {gs : List Glyph} {ts : List Token} (h : ∀ t ∈ ts, t.Placed gs) (n : Nat) :
    ∀ t ∈ numbered n ts, t.Placed gs := by
  induction ts generalizing n with
  | nil => exact fun t ht => absurd ht List.not_mem_nil
  | cons first rest ih =>
    obtain ⟨hfirst, hrest⟩ := List.forall_mem_cons.mp h
    rw [numbered]
    exact List.forall_mem_cons.mpr ⟨⟨hfirst.span, hfirst.stop, hfirst.comments⟩, ih hrest (n + 1)⟩

namespace Lexer

/-- Reading goes on at a spot of the text: what was read and what is left make up the text. -/
def At (gs : List Glyph) (s : Spot) (rest : List Glyph) : Prop :=
  ∃ before, gs = before ++ rest ∧ s = Spot.origin.afterAll before

namespace At

variable {gs rest : List Glyph} {s : Spot}

theorem standsIn (h : At gs s rest) : s.StandsIn gs := by
  obtain ⟨before, rfl, hs⟩ := h
  exact ⟨before, List.prefix_append _ _, hs⟩

theorem append {read more : List Glyph} (h : At gs s (read ++ more)) : At gs (s.afterAll read) more := by
  obtain ⟨before, hgs, hs⟩ := h
  exact ⟨before ++ read, by rw [hgs, List.append_assoc], by rw [hs, Spot.afterAll_append]⟩

theorem cons {g : Glyph} {more : List Glyph} (h : At gs s (g :: more)) : At gs (s.after g) more := by
  rw [← List.singleton_append] at h
  exact h.append

theorem take (h : At gs s rest) (n : Nat) : At gs (s.afterAll (rest.take n)) (rest.drop n) := by
  rw [← List.take_append_drop n rest] at h
  exact h.append

end At

theorem placed_tokensFrom {gs : List Glyph} (fuel : Nat) (pending : List (Bool × Nat)) (s : Spot)
    (gap : String) (comments : List Comment) (rest : List Glyph) (h : At gs s rest)
    (hcomments : ∀ c ∈ comments, c.span.spot.StandsIn gs) :
    ∀ t ∈ tokensFrom fuel pending s gap comments rest, t.Placed gs := by
  fun_induction tokensFrom fuel pending s gap comments rest with
  | case1 => exact List.forall_mem_singleton.mpr ⟨h.standsIn, h.standsIn, hcomments⟩
  | case2 => exact List.forall_mem_singleton.mpr ⟨h.standsIn, h.standsIn, hcomments⟩
  | case3 fuel pending s gap comments g rest hspace blanks ih =>
    -- there is at least one blank, so the rest after the blanks is cut from behind the first one
    have hfirst : blanks = g :: rest.takeWhile (·.isIn isSpace) := List.takeWhile_cons_of_pos hspace
    have hrest : blanks ++ rest.drop (blanks.length - 1) = g :: rest := by
      have hblanks : rest.takeWhile (·.isIn isSpace) = rest.take (rest.takeWhile (·.isIn isSpace)).length :=
        List.prefix_iff_eq_take.mp (List.takeWhile_prefix _)
      rw [hfirst, List.cons_append, List.length_cons, Nat.add_sub_cancel]
      exact congrArg (g :: ·) ((congrArg (· ++ _) hblanks).trans (List.take_append_drop _ _))
    rw [← hrest] at h
    exact ih h.append hcomments
  | case4 fuel pending s gap comments g rest _ kind n _ content after comment ih =>
    refine ih (h.take n) fun c hc => ?_
    rcases List.mem_append.mp hc with hc | hc
    · exact hcomments c hc
    · cases List.mem_singleton.mp hc
      exact h.standsIn
  | case5 fuel pending s gap comments g rest _ _ sort n pending' _ content after ih =>
    have hafter : At gs after ((g :: rest).drop n) := h.take n
    exact List.forall_mem_cons.mpr ⟨⟨h.standsIn, hafter.standsIn, hcomments⟩, ih hafter (List.forall_mem_nil _)⟩
  | case6 fuel pending s gap comments g rest _ _ _ after =>
    have hafter : At gs after rest := h.cons
    exact List.forall_mem_cons.mpr ⟨⟨h.standsIn, hafter.standsIn, hcomments⟩,
      List.forall_mem_singleton.mpr ⟨hafter.standsIn, hafter.standsIn, List.forall_mem_nil _⟩⟩

/-- The tokens of a text stand in it. -/
theorem placed_tokens (gs : List Glyph) : ∀ t ∈ tokens gs, t.Placed gs := by
  unfold tokens
  refine Token.placed_numbered ?_ 0
  have hstart : At gs Spot.origin gs := ⟨[], rfl, rfl⟩
  split
  · next g rest =>
    split
    · exact placed_tokensFrom _ _ _ _ _ _ hstart.cons (List.forall_mem_nil _)
    · exact placed_tokensFrom _ _ _ _ _ _ hstart (List.forall_mem_nil _)
  · exact placed_tokensFrom _ _ _ _ _ _ hstart (List.forall_mem_nil _)

end Lexer

/-! ### Rules -/

section

variable {P : Spot → Prop}

/-- Every node of the tree starts at a spot with a property. -/
def Node.Starts (P : Spot → Prop) (n : Node) : Prop := ∀ m ∈ n.preorder, P m.span.spot

/-- A token and the comments before it start at spots with a property. -/
def Token.Starts (P : Spot → Prop) (t : Token) : Prop :=
  P t.span.spot ∧ ∀ c ∈ t.comments, P c.span.spot

theorem Node.starts_iff {n : Node} : n.Starts P ↔ P n.span.spot ∧ ∀ c ∈ n.children, c.Starts P := by
  constructor
  · intro h
    refine ⟨h n (mem_preorder_self n), fun c hc m hm => ?_⟩
    exact h m (mem_preorder_iff.mpr (.inr ⟨c, hc, hm⟩))
  · rintro ⟨hn, hchildren⟩ m hm
    rcases mem_preorder_iff.mp hm with rfl | ⟨c, hc, hm⟩
    · exact hn
    · exact hchildren c hc m hm

theorem Node.starts_leaf {kind : Kind} {label : Option Label} {span : Span} {gap text : String}
    (h : P span.spot) : (leaf kind label span gap text).Starts P :=
  starts_iff.mpr ⟨h, nofun⟩

theorem Node.Starts.withLabel {n : Node} (h : n.Starts P) (l : Label) : (n.withLabel l).Starts P := by
  have hn := starts_iff.mp h
  cases n with
  | leaf => exact starts_iff.mpr hn
  | branch => exact starts_iff.mpr hn

theorem Token.Starts.nodes {t : Token} (h : t.Starts P) (kind : Kind) : ∀ n ∈ t.nodes kind, n.Starts P := by
  intro n hn
  rcases List.mem_append.mp hn with hn | hn
  · obtain ⟨c, hc, rfl⟩ := List.mem_map.mp hn
    exact Node.starts_leaf (h.2 c hc)
  · cases List.mem_singleton.mp hn
    exact Node.starts_leaf h.1

namespace Rule

/-- A construct starts where its first part starts. -/
theorem build_starts {nodes : List Node} (h : ∀ n ∈ nodes, n.Starts P) (kind : Kind) :
    ∀ n ∈ build kind nodes, n.Starts P := by
  have hcomments : ∀ n ∈ nodes.takeWhile Node.isComment, n.Starts P := fun n hn =>
    h n ((List.takeWhile_prefix _).subset hn)
  have hparts : ∀ n ∈ nodes.dropWhile Node.isComment, n.Starts P := fun n hn =>
    h n ((List.dropWhile_suffix _).subset hn)
  intro n hn
  unfold build at hn
  cases hfirst : nodes.dropWhile Node.isComment with
  | nil =>
    simp only [hfirst] at hn
    exact hcomments n hn
  | cons first rest =>
    simp only [hfirst] at hn
    rw [hfirst] at hparts
    rcases List.mem_append.mp hn with hn | hn
    · exact hcomments n hn
    · cases List.mem_singleton.mp hn
      have hspot := (Node.starts_iff.mp (hparts first List.mem_cons_self)).1
      exact Node.starts_iff.mpr ⟨hspot, hparts⟩

theorem mark_starts {nodes : List Node} (h : ∀ n ∈ nodes, n.Starts P) (l : Label) :
    ∀ n ∈ mark l nodes, n.Starts P := by
  intro n hn
  obtain ⟨m, hm, rfl⟩ := List.mem_map.mp hn
  split
  · exact h m hm
  · exact (h m hm).withLabel l

theorem extend_starts {nodes tailNodes : List Node} (h : ∀ n ∈ nodes, n.Starts P)
    (htail : ∀ n ∈ tailNodes, n.Starts P) (tail : Tail) :
    ∀ n ∈ extend tail nodes tailNodes, n.Starts P := by
  have hbefore : ∀ n ∈ nodes.dropWhile Node.isComment, n.Starts P := fun n hn =>
    h n ((List.dropWhile_suffix _).subset hn)
  have hparts : ∀ n ∈ mark tail.label (nodes.dropWhile Node.isComment) ++ tailNodes, n.Starts P := by
    intro n hn
    rcases List.mem_append.mp hn with hn | hn
    · exact mark_starts hbefore tail.label n hn
    · exact htail n hn
  intro n hn
  rcases List.mem_append.mp hn with hn | hn
  · exact h n ((List.takeWhile_prefix _).subset hn)
  · exact build_starts hparts tail.kind n hn

/-- What was read and what is left to read start at spots with a property. -/
structure Keeps (P : Spot → Prop) (nodes : List Node) (rest : List Token) : Prop where
  nodes : ∀ n ∈ nodes, n.Starts P
  rest : ∀ t ∈ rest, t.Starts P

theorem Keeps.append {nodes nodes' : List Node} {rest rest' : List Token} (h : Keeps P nodes rest)
    (h' : Keeps P nodes' rest') : Keeps P (nodes ++ nodes') rest' := by
  refine ⟨fun n hn => ?_, h'.rest⟩
  rcases List.mem_append.mp hn with hn | hn
  · exact h.nodes n hn
  · exact h'.nodes n hn

theorem Keeps.nil {rest : List Token} (h : ∀ t ∈ rest, t.Starts P) : Keeps P [] rest := ⟨nofun, h⟩

variable {σ : Type} (grammar : σ → Rule σ)

/-- With so much fuel, every way of reading keeps the property. -/
structure KeepsUpTo (P : Spot → Prop) (fuel : Nat) : Prop where
  run : ∀ {rule ts nodes rest}, (∀ t ∈ ts, t.Starts P) →
    (run grammar fuel rule ts).result = some (nodes, rest) → Keeps P nodes rest
  seq : ∀ {rules ts nodes rest}, (∀ t ∈ ts, t.Starts P) →
    (runSeq grammar fuel rules ts).result = some (nodes, rest) → Keeps P nodes rest
  alt : ∀ {rules ts nodes rest}, (∀ t ∈ ts, t.Starts P) →
    (runAlt grammar fuel rules ts).result = some (nodes, rest) → Keeps P nodes rest
  many : ∀ {rule ts nodes rest}, (∀ t ∈ ts, t.Starts P) →
    (runMany grammar fuel rule ts).result = some (nodes, rest) → Keeps P nodes rest
  tails : ∀ {tails before ts reach nodes rest}, Keeps P before ts →
    (runTails grammar fuel tails before ts reach).result = some (nodes, rest) → Keeps P nodes rest
  tail : ∀ {tails before ts nodes rest}, Keeps P before ts →
    (runTail grammar fuel tails before ts).1 = some (nodes, rest) → Keeps P nodes rest

namespace KeepsUpTo

variable {grammar} {fuel : Nat} (ih : KeepsUpTo grammar P fuel)

include ih

variable {ts rest : List Token} {nodes : List Node}

theorem seq_succ {rules : List (Rule σ)} (hts : ∀ t ∈ ts, t.Starts P)
    (h : (runSeq grammar (fuel + 1) rules ts).result = some (nodes, rest)) : Keeps P nodes rest := by
  rw [runSeq.eq_def] at h
  cases rules with
  | nil =>
    cases h
    exact .nil hts
  | cons rule more =>
    simp only at h
    split at h
    · next hfirst =>
      have hkeeps := ih.run hts hfirst
      split at h
      · next hmore =>
        cases h
        exact hkeeps.append (ih.seq hkeeps.rest hmore)
      · cases h
    · cases h

theorem alt_succ {rules : List (Rule σ)} (hts : ∀ t ∈ ts, t.Starts P)
    (h : (runAlt grammar (fuel + 1) rules ts).result = some (nodes, rest)) : Keeps P nodes rest := by
  rw [runAlt.eq_def] at h
  cases rules with
  | nil => cases h
  | cons rule more =>
    simp only at h
    split at h
    · exact ih.run hts h
    · exact ih.alt hts h

theorem many_succ {rule : Rule σ} (hts : ∀ t ∈ ts, t.Starts P)
    (h : (runMany grammar (fuel + 1) rule ts).result = some (nodes, rest)) : Keeps P nodes rest := by
  rw [runMany.eq_def] at h
  simp only at h
  split at h
  · next hfirst =>
    have hkeeps := ih.run hts hfirst
    split at h
    · split at h
      · next hmore =>
        cases h
        exact hkeeps.append (ih.many hkeeps.rest hmore)
      · cases h
    · cases h
      exact .nil hts
  · cases h
    exact .nil hts

theorem tail_succ {tails : List (Tail × Rule σ)} {before : List Node} (hbefore : Keeps P before ts)
    (h : (runTail grammar (fuel + 1) tails before ts).1 = some (nodes, rest)) : Keeps P nodes rest := by
  rw [runTail.eq_def] at h
  cases tails with
  | nil => cases h
  | cons first more =>
    obtain ⟨tail, rule⟩ := first
    simp only at h
    split at h
    · split at h
      · next hfirst =>
        have hkeeps := ih.run hbefore.rest hfirst
        cases h
        exact ⟨extend_starts hbefore.nodes hkeeps.nodes tail, hkeeps.rest⟩
      · exact ih.tail hbefore h
    · exact ih.tail hbefore h

theorem tails_succ {tails : List (Tail × Rule σ)} {before : List Node} {reach : Nat}
    (hbefore : Keeps P before ts)
    (h : (runTails grammar (fuel + 1) tails before ts reach).result = some (nodes, rest)) :
    Keeps P nodes rest := by
  rw [runTails.eq_def] at h
  simp only at h
  split at h
  · next hfirst => exact ih.tails (ih.tail hbefore (congrArg Prod.fst hfirst)) h
  · cases h
    exact hbefore

theorem run_succ {rule : Rule σ} (hts : ∀ t ∈ ts, t.Starts P)
    (h : (Rule.run grammar (fuel + 1) rule ts).result = some (nodes, rest)) : Keeps P nodes rest := by
  rw [Rule.run.eq_def] at h
  cases rule with
  | leaf kind test =>
    cases ts with
    | nil => cases h
    | cons t more =>
      obtain ⟨ht, hmore⟩ := List.forall_mem_cons.mp hts
      simp only at h
      split at h
      · cases h
        exact ⟨ht.nodes kind, hmore⟩
      · cases h
  | seq rules => exact ih.seq hts h
  | alt rules => exact ih.alt hts h
  | many rule => exact ih.many hts h
  | node kind rule =>
    simp only at h
    split at h
    · next hfirst =>
      have hkeeps := ih.run hts hfirst
      cases h
      exact ⟨build_starts hkeeps.nodes kind, hkeeps.rest⟩
    · cases h
  | part label rule =>
    simp only at h
    split at h
    · next hfirst =>
      have hkeeps := ih.run hts hfirst
      cases h
      exact ⟨mark_starts hkeeps.nodes label, hkeeps.rest⟩
    · cases h
  | chain first tails =>
    simp only at h
    split at h
    · next hfirst => exact ih.tails (ih.run hts hfirst) h
    · cases h
  | sub symbol => exact ih.run hts h
  | ahead rule =>
    simp only at h
    split at h
    · cases h
      exact .nil hts
    · cases h
  | «unless» rule =>
    simp only at h
    split at h
    · cases h
    · cases h
      exact .nil hts

end KeepsUpTo

/-- **Reading keeps what is true of the spots of the tokens.** -/
theorem keepsUpTo (fuel : Nat) : KeepsUpTo grammar P fuel := by
  induction fuel with
  | zero => exact ⟨nofun, nofun, nofun, nofun, nofun, nofun⟩
  | succ fuel ih => exact ⟨ih.run_succ, ih.seq_succ, ih.alt_succ, ih.many_succ, ih.tails_succ, ih.tail_succ⟩

end Rule

end

/-! ### Source files -/

namespace Grammar

variable {gs : List Glyph} {ts : List Token}

theorem starts_of_placed {t : Token} (h : t.Placed gs) : t.Starts (Spot.StandsIn gs) := ⟨h.span, h.comments⟩

theorem parseTokens_starts {nodes : List Node} (hts : ∀ t ∈ ts, t.Placed gs)
    (h : parseTokens ts = .ok nodes) : ∀ n ∈ nodes, n.Starts (Spot.StandsIn gs) := by
  have hstarts : ∀ t ∈ ts, t.Starts (Spot.StandsIn gs) := fun t ht => starts_of_placed (hts t ht)
  unfold parseTokens at h
  simp only at h
  split at h
  · next found last hrun =>
    have hkeeps := (Rule.keepsUpTo rules (depth ts)).run hstarts hrun
    split at h
    · cases h
      intro n hn
      rcases List.mem_append.mp hn with hn | hn
      · exact hkeeps.nodes n hn
      · obtain ⟨c, hc, rfl⟩ := List.mem_map.mp hn
        exact Node.starts_leaf ((hkeeps.rest last List.mem_cons_self).2 c hc)
    · cases h
  · cases h
  · cases h

theorem faultAt_starts (hts : ∀ t ∈ ts, t.Placed gs) (index : Nat) :
    (faultAt ts index).Starts (Spot.StandsIn gs) := by
  unfold faultAt
  extract_lets spot
  -- the place after the tokens that were read
  have hspot : Spot.StandsIn gs spot := by
    unfold spot
    split
    · next t ht => exact (hts t (List.mem_of_mem_take (List.mem_of_getLast? ht))).stop
    · exact Spot.standsIn_origin
  split
  · exact Node.starts_leaf hspot
  · split
    · next t ht => exact Node.starts_leaf (hts t (List.mem_of_getElem? ht)).span
    · exact Node.starts_leaf hspot

theorem program_starts {nodes : List Node} (h : ∀ n ∈ nodes, n.Starts (Spot.StandsIn gs)) :
    (program nodes).Starts (Spot.StandsIn gs) :=
  Node.starts_iff.mpr ⟨Spot.standsIn_origin, h⟩

/-- **Every node of the tree of a text stands in the text.** -/
theorem parse_starts (gs : List Glyph) : (parse gs).Starts (Spot.StandsIn gs) := by
  have htokens := Lexer.placed_tokens gs
  unfold parse
  simp only
  split
  · next nodes hnodes => exact program_starts (parseTokens_starts htokens hnodes)
  · next index hindex =>
    exact program_starts (List.forall_mem_singleton.mpr (faultAt_starts htokens index))

end Grammar

end JavadocAudit
