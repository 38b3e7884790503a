/-!
# Beginnings and ends of texts

How a text begins, how it ends and what it holds, told from its characters.
-/

namespace JavadocAudit.Text

/-- The text begins with `opening`. -/
def opensWith (opening s : String) : Bool := opening.toList.isPrefixOf s.toList

/-- The text ends with `ending`. -/
def closesWith (ending s : String) : Bool := ending.toList.isSuffixOf s.toList

/-- The text holds the character. -/
def holds (c : Char) (s : String) : Bool := s.toList.contains c

end JavadocAudit.Text
