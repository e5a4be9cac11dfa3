/-
Quoted text for people: what cannot be shown, would hide in its neighbour or shows as nothing is
written as an escape.
-/
import DocumentModel.Text.Property
import DocumentModel.Text.Recent

namespace DocumentModel.Text

/-- Marks that are drawn on the character before them. -/
def extendingMarks : CharSet :=
  (Property.graphemeExtend.inter marks).union Recent.marks

/-- Characters that can be shown as they are.  The plain space is the only space that can. -/
def shown : CharSet :=
  ((assigned.union Recent.assigned).diff
    (.unionAll [extendingMarks, Property.defaultIgnorable,
      ofCategories [.control, .format, .privateUse, .lineSeparator, .paragraphSeparator,
        .spaceSeparator]])).union (.single ' ')

/-- One character between quotes. -/
def escapedChar (c : Char) : List Char :=
  if c = '\x00' then ['\\', '0']
  else if c = '\t' then ['\\', 't']
  else if c = '\r' then ['\\', 'r']
  else if c = '\n' then ['\\', 'n']
  else if c = '"' then ['\\', '"']
  else if c = '\\' then ['\\', '\\']
  else if shown.contains c then [c]
  else '\\' :: 'u' :: '\x7b' :: (Nat.toDigits 16 c.toNat ++ ['\x7d'])

def escaped (text : String) : String :=
  String.ofList ('"' :: (text.toList.flatMap escapedChar ++ ['"']))

end DocumentModel.Text
