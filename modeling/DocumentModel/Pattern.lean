/-
Patterns that a text is searched for.
-/
import DocumentModel.Pattern.Matching
import DocumentModel.Pattern.Reader

namespace DocumentModel

/-- A pattern: its text and what it was read as. -/
structure Pattern where
  source : String
  regex : Pattern.Regex

namespace Pattern

def parse? (source : String) : Option Pattern :=
  (read? source).map (⟨source, ·⟩)

def isMatch (p : Pattern) (text : String) : Bool :=
  p.regex.matchesIn text

end Pattern

end DocumentModel
