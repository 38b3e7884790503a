import JavadocAudit.Source.Node
import JavadocAudit.Text.Utf8

/-!
# Tokens

A source text is a row of tokens with blanks and comments between them.  The comments before a token
are kept with it, so that the tree can put them where they stand.
-/

namespace JavadocAudit

/-- A position in a source text: bytes before it, and line and column counted from one, the column in
bytes. -/
structure Spot where
  byte : Nat
  line : Nat
  column : Nat
  deriving DecidableEq, Inhabited

namespace Spot

/-- The beginning of a text. -/
def origin : Spot := ⟨0, 1, 1⟩

/-- The position after a glyph; a line feed ends the line. -/
def after (s : Spot) (g : Text.Glyph) : Spot :=
  if g.is '\n' then ⟨s.byte + 1, s.line + 1, 1⟩ else ⟨s.byte + g.width, s.line, s.column + g.width⟩

/-- The position after glyphs in a row. -/
def afterAll (s : Spot) (gs : List Text.Glyph) : Spot := gs.foldl after s

/-- The stretch from one position to another. -/
def spanTo (s t : Spot) : Span := ⟨s.byte, t.byte, s.line, s.column⟩

end Spot

/-- The sort of a token. -/
inductive TokenSort where
  | word
  | symbol
  | number
  | character
  | text
  | textHead
  | textMiddle
  | textTail
  | stray
  | finish
  deriving DecidableEq, Inhabited

/-- A comment, with the blanks before it. -/
structure Comment where
  kind : Kind
  gap : String
  text : String
  span : Span
  deriving Inhabited

/-- A token, with the blanks directly before it and the comments between it and the token before.
`index` is its number in its row. -/
structure Token where
  sort : TokenSort
  text : String
  gap : String
  comments : List Comment
  span : Span
  stop : Spot
  index : Nat := 0
  deriving Inhabited

/-- The leaf of a comment. -/
def Comment.node (c : Comment) : Node := .leaf c.kind none c.span c.gap c.text

namespace Token

/-- The tokens of a row, numbered from `n` on. -/
def numbered : Nat → List Token → List Token
  | _, [] => []
  | n, t :: rest => { t with index := n } :: numbered (n + 1) rest

/-- The token follows the one before it directly. -/
def isGlued (t : Token) : Bool := t.gap.isEmpty && t.comments.isEmpty

/-- The leaves of a token of the given kind and the comments before it. -/
def nodes (t : Token) (kind : Kind) : List Node :=
  t.comments.map Comment.node ++ [.leaf kind none t.span t.gap t.text]

end Token

end JavadocAudit
