/-
Letters and numbers of words, as the newest edition has them.
-/
import DocumentModel.Text.Property
import DocumentModel.Text.Recent

namespace DocumentModel.Text

/-- Letters, numbers that are letters, and the marks that go with them. -/
def alphabetic : CharSet :=
  .unionAll [Property.alphabetic, Recent.uppercase, Recent.lowercase, Recent.modifierLetters,
    Recent.otherLetters, Recent.vowelSigns]

/-- Numbers of any kind. -/
def numeric : CharSet :=
  .unionAll [numbers, Recent.digits, Recent.letterNumbers]

def isAlphabetic (c : Char) : Bool := alphabetic.contains c

def isNumeric (c : Char) : Bool := numeric.contains c

end DocumentModel.Text
