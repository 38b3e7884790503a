import JavadocAudit.Source.Grammar.Declarations
import JavadocAudit.Source.Grammar.Expressions
import JavadocAudit.Source.Grammar.Statements
import JavadocAudit.Source.Grammar.Types
import JavadocAudit.Source.Lexer

/-!
# Source files

A source file is a row of statements, declarations and methods.  `parseTokens` builds its tree, or says
how far the tokens fit the grammar.  The tree of a text that does not fit holds one fault: the token
whose insertion would have let the reading go on, right after the token before it, or else an error at
the first token that does not fit.
-/

namespace JavadocAudit.Grammar

/-- The grammar: the rule of each symbol. -/
def rules : Symbol → R
  | .type s => typeRule s
  | .expression s => expressionRule s
  | .statement s => statementRule s
  | .declaration s => declarationRule s

/-- What stands outside of all types: statements, declarations among them, and methods. -/
def topLevel : R :=
  .many (.alt [
    .seq [.ahead (.seq [modifiers, optional (.seq [typeSub .parameters, annotations]),
        typeSub (.unannotated .statement), name ["_"], mark "("]),
      declarationSub .method],
    statementSub .any])

/-- The depth of rules that a row of tokens can need. -/
def depth (ts : List Token) : Nat := 200 * (ts.length + 16)

/-- The tree of the tokens of a file, or the number of the first token that does not fit. -/
def parseTokens (ts : List Token) : Except Nat (List Node) :=
  let reply := Rule.run rules (depth ts) topLevel ts
  match reply.result with
  | some (nodes, [last]) =>
    if last.sort == .finish then .ok (nodes ++ last.comments.map Comment.node)
    else .error (max reply.reach last.index)
  | some (_, rest) => .error (max reply.reach (Rule.front rest))
  | none => .error reply.reach

/-- The tokens with one more, of the given text, in front of the token with number `index`. -/
def insertToken (text : String) (index : Nat) (ts : List Token) : List Token :=
  let before := ts.take index
  let spot := match before.getLast? with
    | some t => t.stop
    | none => Spot.origin
  Token.numbered 0 (before ++ [⟨.symbol, text, "", [], spot.spanTo spot, spot, 0⟩] ++ ts.drop index)

/-- With the token inserted, reading goes beyond the token with number `index`. -/
def mends (ts : List Token) (index : Nat) (text : String) : Bool :=
  match parseTokens (insertToken text index ts) with
  | .ok _ => true
  | .error reach => index + 1 < reach

/-- The fault of tokens that do not fit from the token with number `index` on. -/
def faultAt (ts : List Token) (index : Nat) : Node :=
  let spot := match (ts.take index).getLast? with
    | some t => t.stop
    | none => Spot.origin
  if [";", "\x7d"].any (mends ts index) then .leaf .missing none (spot.spanTo spot) "" ""
  else
    match ts[index]? with
    | some t => .leaf .error none t.span t.gap t.text
    | none => .leaf .error none (spot.spanTo spot) "" ""

/-- The tree of a file over its top level nodes. -/
def program (nodes : List Node) : Node :=
  let stop := match nodes.getLast? with
    | some n => n.span.stop
    | none => 0
  .branch .program none ⟨0, stop, 1, 1⟩ nodes

/-- The tree of a source text, with a fault if the text does not fit the grammar. -/
def parse (gs : List Text.Glyph) : Node :=
  let ts := Lexer.tokens gs
  match parseTokens ts with
  | .ok nodes => program nodes
  | .error index => program [faultAt ts index]

end JavadocAudit.Grammar
