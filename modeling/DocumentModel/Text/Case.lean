/-
Upper and lower case, by the full mappings: one character may become several, and a capital sigma
becomes the final small sigma at the end of a word.
-/
import DocumentModel.Text.Property
import DocumentModel.Text.Recent

namespace DocumentModel.Text

def upper (c : Char) : List Char :=
  (upperTable.get? c).getD [c]

/-- A character in lower case, wherever it stands. -/
def lower (c : Char) : List Char :=
  (lowerTable.get? c).getD [c]

/-- Characters that have case.  The pharyngeal voiced fricative no longer does. -/
def cased : CharSet :=
  (CharSet.unionAll [Property.cased, Recent.uppercase, Recent.lowercase]).diff (.single 'ʕ')

/-- Characters passed over when the case around them is looked at. -/
def caseIgnorable : CharSet :=
  .unionAll [Property.caseIgnorable, Recent.marks, Recent.modifierLetters]

def isCased (c : Char) : Bool := cased.contains c

def isCaseIgnorable (c : Char) : Bool := caseIgnorable.contains c

/-- Is the first character that is not passed over a cased one? -/
def startsCased (text : List Char) : Bool :=
  match text.dropWhile isCaseIgnorable with
  | [] => false
  | c :: _ => isCased c

/-- Lower case from some place in a text on; `before` is what stands before it, backwards. -/
def lowerFrom (before : List Char) : List Char → List Char
  | [] => []
  | c :: rest =>
      (if c = 'Σ' then
        if startsCased before && !startsCased rest then ['ς'] else ['σ']
      else lower c) ++ lowerFrom (c :: before) rest

def lowerText (text : List Char) : List Char :=
  lowerFrom [] text

def upperText (text : List Char) : List Char :=
  text.flatMap upper

end DocumentModel.Text
