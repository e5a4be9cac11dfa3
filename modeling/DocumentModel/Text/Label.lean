/-
Labels: field names as a reader should see them.

A name is cut into words at separators, at changes of case and beside digits; each word then starts
with a capital.
-/
import DocumentModel.Text.Case
import DocumentModel.Text.Grapheme

namespace DocumentModel.Text

/-- The four kinds of clusters between which a name is cut, and all others. -/
inductive LetterKind where
  | separator
  | digit
  | upper
  | lower
  | other
deriving DecidableEq, Repr

/-- The kind of a cluster.  It is upper or lower case when its two forms differ and it is one. -/
def letterKind (cluster : List Char) : LetterKind :=
  if cluster = ['_'] ∨ cluster = ['-'] ∨ cluster = [' '] then .separator
  else if cluster.all (fun c => '0' ≤ c && c ≤ '9') then .digit
  else
    let up := upperText cluster
    let low := lowerText cluster
    if up = low then .other
    else if cluster = up then .upper
    else if cluster = low then .lower
    else .other

/-- Is there a cut between two neighbours, whatever follows? -/
def cutBetween : LetterKind → LetterKind → Bool
  | .lower, .upper => true
  | .lower, .digit => true
  | .upper, .digit => true
  | .digit, .lower => true
  | .digit, .upper => true
  | _, _ => false

/-- Put one cluster in front of the first word. -/
def prependTo (cluster : List Char) : List (List Char) → List (List Char)
  | [] => [cluster]
  | word :: words => (cluster ++ word) :: words

/-- The words of a name.  A separator is dropped; within a run of capitals the last one starts the
word that follows it.  Words may be empty. -/
def words : List (List Char) → List (List Char)
  | [] => [[]]
  | g :: rest =>
      let kind := letterKind g
      if kind = .separator then [] :: words rest
      else match rest with
        | [] => prependTo g (words rest)
        | h :: more =>
            let cut := cutBetween kind (letterKind h) ||
              (kind = .upper && letterKind h = .upper &&
                more.head?.any fun i => letterKind i = .lower)
            if cut then g :: words rest else prependTo g (words rest)

/-- A word with a capital first and the rest in lower case. -/
def capitalized : List Char → List Char
  | [] => []
  | c :: rest => upper c ++ lowerText rest

/-- The label of a name: its words, capitalized, with spaces between them. -/
def label (name : String) : String :=
  if name.isEmpty then ""
  else String.ofList
    ([' '].intercalate ((words (graphemes name.toList)).map capitalized))

end DocumentModel.Text
