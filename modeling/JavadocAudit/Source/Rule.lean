import JavadocAudit.Source.Token

/-!
# Grammar rules

A grammar is data: a rule for each of its symbols.  `Rule.run` reads a row of tokens by a rule and
builds the nodes of what it read.  Choices are ordered, and the first one that fits is taken; what a
rule reads is settled once it fits.  Constructs that begin with a part of themselves, such as `a.b.c`,
are written as a `chain`: a first part and the tails that may follow it, each of which makes the node
so far the first part of a larger one.

Comments belong to the innermost construct that has begun and is not finished.  So a comment before the
first token of a construct is moved in front of the construct (`Rule.build`).

Besides the nodes, a run gives its *reach*, the number of the farthest token that was tested, which
tells where a text stops to fit.
-/

namespace JavadocAudit

/-- A test of one token. -/
inductive TokenTest where
  /-- The keyword or symbol. -/
  | mark (text : String)
  /-- The keyword or symbol, directly after the token before. -/
  | glued (text : String)
  /-- One of the keywords or symbols. -/
  | oneOf (texts : List String)
  /-- A word other than those that mean something else here. -/
  | name (reserved : List String)
  /-- Any token of a sort. -/
  | sort (s : TokenSort)

namespace TokenTest

/-- The token is a word or a symbol, whose meaning is its text. -/
def isPlain (t : Token) : Bool := t.sort == .word || t.sort == .symbol

/-- The token passes the test. -/
def accepts (t : Token) : TokenTest → Bool
  | .mark text => isPlain t && t.text == text
  | .glued text => isPlain t && t.isGlued && t.text == text
  | .oneOf texts => isPlain t && texts.contains t.text
  | .name reserved => t.sort == .word && !reserved.contains t.text
  | .sort s => t.sort == s

end TokenTest

/-- What a tail of a chain makes of the node before it: a node of a kind, in which the node before is
the part `label`; where `onto` is not empty, only nodes of those kinds may stand before. -/
structure Tail where
  kind : Kind
  label : Label
  onto : List Kind := []

/-- A rule over the symbols `σ`. -/
inductive Rule (σ : Type) where
  /-- One token, as a leaf of a kind. -/
  | leaf (kind : Kind) (test : TokenTest)
  /-- Rules in a row. -/
  | seq (rules : List (Rule σ))
  /-- The first rule that fits. -/
  | alt (rules : List (Rule σ))
  /-- A rule as often as it fits. -/
  | many (rule : Rule σ)
  /-- A construct. -/
  | node (kind : Kind) (rule : Rule σ)
  /-- A part of a construct. -/
  | part (label : Label) (rule : Rule σ)
  /-- A first part and any number of tails. -/
  | chain (first : Rule σ) (tails : List (Tail × Rule σ))
  /-- The rule of a symbol. -/
  | sub (symbol : σ)
  /-- The rule would fit here; nothing is read. -/
  | ahead (rule : Rule σ)
  /-- The rule would not fit here; nothing is read. -/
  | unless (rule : Rule σ)

namespace Rule

/-- The number of the first token; the row ends with a token that no rule reads. -/
def front : List Token → Nat
  | t :: _ => t.index
  | [] => 0

/-- The outcome of a run: the nodes and the tokens left, if the rule fits, and the number of the
farthest token that was tested. -/
structure Reply where
  result : Option (List Node × List Token)
  reach : Nat

/-- The rule fits. -/
def fit (nodes : List Node) (rest : List Token) (reach : Nat) : Reply := ⟨some (nodes, rest), reach⟩

/-- The rule does not fit. -/
def miss (reach : Nat) : Reply := ⟨none, reach⟩

/-- The stretch from the first node to the last one. -/
def spanOf (first last : Span) : Span := ⟨first.start, last.stop, first.line, first.column⟩

/-- The construct of a kind over nodes that were read, with the comments in front of it. -/
def build (kind : Kind) (nodes : List Node) : List Node :=
  let comments := nodes.takeWhile Node.isComment
  let parts := nodes.dropWhile Node.isComment
  match parts with
  | [] => comments
  | first :: rest =>
    let last := (first :: rest).getLast (by simp)
    comments ++ [.branch kind none (spanOf first.span last.span) parts]

/-- The nodes as the part `l`; comments play no part. -/
def mark (l : Label) (nodes : List Node) : List Node :=
  nodes.map fun n => if n.isComment then n else n.withLabel l

/-- The nodes of a chain after a tail: the last node becomes the first part of a larger one. -/
def extend (tail : Tail) (nodes tailNodes : List Node) : List Node :=
  let comments := nodes.takeWhile Node.isComment
  let before := nodes.dropWhile Node.isComment
  comments ++ build tail.kind (mark tail.label before ++ tailNodes)

/-- The tail may follow the nodes of a chain. -/
def follows (tail : Tail) (nodes : List Node) : Bool :=
  tail.onto.isEmpty ||
    match nodes.dropWhile Node.isComment with
    | [n] => tail.onto.contains n.kind
    | _ => false

mutual

/-- Reads tokens by a rule of the grammar. -/
def run {σ : Type} (grammar : σ → Rule σ) : Nat → Rule σ → List Token → Reply
  | 0, _, ts => miss (front ts)
  | fuel + 1, rule, ts =>
    match rule with
    | .leaf kind test =>
      match ts with
      | t :: rest => if test.accepts t then fit (t.nodes kind) rest (front ts) else miss (front ts)
      | [] => miss (front ts)
    | .seq rules => runSeq grammar fuel rules ts
    | .alt rules => runAlt grammar fuel rules ts
    | .many rule => runMany grammar fuel rule ts
    | .node kind rule =>
      let reply := run grammar fuel rule ts
      match reply.result with
      | some (nodes, rest) => fit (build kind nodes) rest reply.reach
      | none => miss reply.reach
    | .part label rule =>
      let reply := run grammar fuel rule ts
      match reply.result with
      | some (nodes, rest) => fit (mark label nodes) rest reply.reach
      | none => miss reply.reach
    | .chain first tails =>
      let reply := run grammar fuel first ts
      match reply.result with
      | some (nodes, rest) => runTails grammar fuel tails nodes rest reply.reach
      | none => miss reply.reach
    | .sub symbol => run grammar fuel (grammar symbol) ts
    | .ahead rule =>
      match (run grammar fuel rule ts).result with
      | some _ => fit [] ts (front ts)
      | none => miss (front ts)
    | .unless rule =>
      match (run grammar fuel rule ts).result with
      | some _ => miss (front ts)
      | none => fit [] ts (front ts)

/-- Reads tokens by rules in a row. -/
def runSeq {σ : Type} (grammar : σ → Rule σ) : Nat → List (Rule σ) → List Token → Reply
  | 0, _, ts => miss (front ts)
  | fuel + 1, rules, ts =>
    match rules with
    | [] => fit [] ts (front ts)
    | rule :: more =>
      let reply := run grammar fuel rule ts
      match reply.result with
      | some (nodes, rest) =>
        let tail := runSeq grammar fuel more rest
        let reach := max reply.reach tail.reach
        match tail.result with
        | some (nodes', rest') => fit (nodes ++ nodes') rest' reach
        | none => miss reach
      | none => miss reply.reach

/-- Reads tokens by the first rule that fits. -/
def runAlt {σ : Type} (grammar : σ → Rule σ) : Nat → List (Rule σ) → List Token → Reply
  | 0, _, ts => miss (front ts)
  | fuel + 1, rules, ts =>
    match rules with
    | [] => miss (front ts)
    | rule :: more =>
      let reply := run grammar fuel rule ts
      match reply.result with
      | some _ => reply
      | none =>
        let other := runAlt grammar fuel more ts
        ⟨other.result, max reply.reach other.reach⟩

/-- Reads tokens by a rule as often as it fits. -/
def runMany {σ : Type} (grammar : σ → Rule σ) : Nat → Rule σ → List Token → Reply
  | 0, _, ts => miss (front ts)
  | fuel + 1, rule, ts =>
    let reply := run grammar fuel rule ts
    match reply.result with
    | some (nodes, rest) =>
      if front ts < front rest then
        let more := runMany grammar fuel rule rest
        let reach := max reply.reach more.reach
        match more.result with
        | some (nodes', rest') => fit (nodes ++ nodes') rest' reach
        | none => miss reach
      else fit [] ts reply.reach
    | none => fit [] ts reply.reach

/-- Reads the tails of a chain whose nodes so far are given. -/
def runTails {σ : Type} (grammar : σ → Rule σ) :
    Nat → List (Tail × Rule σ) → List Node → List Token → Nat → Reply
  | 0, _, _, ts, _ => miss (front ts)
  | fuel + 1, tails, nodes, ts, reach =>
    match runTail grammar fuel tails nodes ts with
    | (some (nodes', rest), reach') => runTails grammar fuel tails nodes' rest (max reach reach')
    | (none, reach') => fit nodes ts (max reach reach')

/-- Reads the first tail that fits. -/
def runTail {σ : Type} (grammar : σ → Rule σ) :
    Nat → List (Tail × Rule σ) → List Node → List Token → Option (List Node × List Token) × Nat
  | 0, _, _, ts => (none, front ts)
  | fuel + 1, tails, nodes, ts =>
    match tails with
    | [] => (none, front ts)
    | (tail, rule) :: more =>
      if follows tail nodes then
        let reply := run grammar fuel rule ts
        match reply.result with
        | some (tailNodes, rest) => (some (extend tail nodes tailNodes, rest), reply.reach)
        | none =>
          let other := runTail grammar fuel more nodes ts
          (other.1, max reply.reach other.2)
      else runTail grammar fuel more nodes ts

end

end Rule

end JavadocAudit
