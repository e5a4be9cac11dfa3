/-
Character classes by name: `\d \s \w`, the bracketed names such as `[:alpha:]`, and the properties
of `\p`.
-/
import DocumentModel.Text.BreakValue
import DocumentModel.Text.Edition

namespace DocumentModel.Pattern

open DocumentModel.Text

/-- The classes written `[:name:]`.  All of them are ASCII. -/
def bracketClasses : List NamedSet :=
  [⟨["alnum"], .ofText "30-39 41-5A 61-7A"⟩,
   ⟨["alpha"], .ofText "41-5A 61-7A"⟩,
   ⟨["ascii"], .ofText "0-7F"⟩,
   ⟨["blank"], .ofText "9 20"⟩,
   ⟨["cntrl"], .ofText "0-1F 7F"⟩,
   ⟨["digit"], .ofText "30-39"⟩,
   ⟨["graph"], .ofText "21-7E"⟩,
   ⟨["lower"], .ofText "61-7A"⟩,
   ⟨["print"], .ofText "20-7E"⟩,
   ⟨["punct"], .ofText "21-2F 3A-40 5B-60 7B-7E"⟩,
   ⟨["space"], .ofText "9-D 20"⟩,
   ⟨["upper"], .ofText "41-5A"⟩,
   ⟨["word"], .ofText "30-39 41-5A 5F 61-7A"⟩,
   ⟨["xdigit"], .ofText "30-39 41-46 61-66"⟩]

def bracketClass? (name : String) : Option CharSet :=
  NamedSet.find? bracketClasses name

def asciiWord : CharSet := .ofText "30-39 41-5A 5F 61-7A"

/-- The class of a single letter, `d`, `s` or `w`. -/
def letterClass? (unicode : Bool) (letter : Char) : Option CharSet :=
  match letter with
  | 'd' => some (if unicode then Category.decimalNumber.members else .range '0' '9')
  | 's' => some (if unicode then Property.blank else .ofText "9-D 20")
  | 'w' => some (if unicode then Property.word else asciiWord)
  | _ => none

/-- A name without case, blanks, low lines, hyphens and a leading `is`.  Only ASCII counts. -/
def normalizeName (name : List Char) : String :=
  let (hasIs, body) := match name with
    | i :: s :: rest =>
        if (i = 'i' ∨ i = 'I') ∧ (s = 's' ∨ s = 'S') then (true, rest) else (false, name)
    | _ => (false, name)
  let kept := (body.filter fun c => c ≠ ' ' ∧ c ≠ '_' ∧ c ≠ '-' ∧ c.toNat < 128).map Char.toLower
  if hasIs ∧ kept = ['c'] then "isc" else String.ofList kept

/-- The characters of no category. -/
def unassigned : CharSet := assigned.compl

/-- The general categories, groups included, and the classes named like them. -/
def categoryClasses : List NamedSet :=
  [⟨["any"], .all⟩,
   ⟨["ascii"], .ofText "0-7F"⟩,
   ⟨["assigned"], assigned⟩,
   ⟨["cn", "unassigned"], unassigned⟩,
   ⟨["c", "other"], unassigned.union (ofCategories [.control, .format, .privateUse])⟩,
   ⟨["lu", "uppercaseletter"], Category.uppercaseLetter.members⟩,
   ⟨["ll", "lowercaseletter"], Category.lowercaseLetter.members⟩,
   ⟨["lt", "titlecaseletter"], Category.titlecaseLetter.members⟩,
   ⟨["lc", "casedletter"], ofCategories [.uppercaseLetter, .lowercaseLetter, .titlecaseLetter]⟩,
   ⟨["lm", "modifierletter"], Category.modifierLetter.members⟩,
   ⟨["lo", "otherletter"], Category.otherLetter.members⟩,
   ⟨["l", "letter"], letters⟩,
   ⟨["mn", "nonspacingmark"], Category.nonspacingMark.members⟩,
   ⟨["mc", "spacingmark"], Category.spacingMark.members⟩,
   ⟨["me", "enclosingmark"], Category.enclosingMark.members⟩,
   ⟨["m", "mark", "combiningmark"], marks⟩,
   ⟨["nd", "decimalnumber", "digit"], Category.decimalNumber.members⟩,
   ⟨["nl", "letternumber"], Category.letterNumber.members⟩,
   ⟨["no", "othernumber"], Category.otherNumber.members⟩,
   ⟨["n", "number"], numbers⟩,
   ⟨["pc", "connectorpunctuation"], Category.connectorPunctuation.members⟩,
   ⟨["pd", "dashpunctuation"], Category.dashPunctuation.members⟩,
   ⟨["ps", "openpunctuation"], Category.openPunctuation.members⟩,
   ⟨["pe", "closepunctuation"], Category.closePunctuation.members⟩,
   ⟨["pi", "initialpunctuation"], Category.initialPunctuation.members⟩,
   ⟨["pf", "finalpunctuation"], Category.finalPunctuation.members⟩,
   ⟨["po", "otherpunctuation"], Category.otherPunctuation.members⟩,
   ⟨["p", "punctuation", "punct"],
     ofCategories [.connectorPunctuation, .dashPunctuation, .openPunctuation, .closePunctuation,
       .initialPunctuation, .finalPunctuation, .otherPunctuation]⟩,
   ⟨["sm", "mathsymbol"], Category.mathSymbol.members⟩,
   ⟨["sc", "currencysymbol"], Category.currencySymbol.members⟩,
   ⟨["sk", "modifiersymbol"], Category.modifierSymbol.members⟩,
   ⟨["so", "othersymbol"], Category.otherSymbol.members⟩,
   ⟨["s", "symbol"], ofCategories [.mathSymbol, .currencySymbol, .modifierSymbol, .otherSymbol]⟩,
   ⟨["zs", "spaceseparator"], Category.spaceSeparator.members⟩,
   ⟨["zl", "lineseparator"], Category.lineSeparator.members⟩,
   ⟨["zp", "paragraphseparator"], Category.paragraphSeparator.members⟩,
   ⟨["z", "separator"], ofCategories [.spaceSeparator, .lineSeparator, .paragraphSeparator]⟩,
   ⟨["cc", "control", "cntrl"], Category.control.members⟩,
   ⟨["cf", "format"], Category.format.members⟩,
   ⟨["co", "privateuse"], Category.privateUse.members⟩]

def categoryClass? (name : String) : Option CharSet :=
  NamedSet.find? categoryClasses name

/-- The class of a script: the characters that belong to it alone. -/
def scriptClass? (name : String) : Option CharSet :=
  (Script.named? name).map Script.members

/-- The class of a script with the characters that it shares. -/
def sharedScriptClass? (name : String) : Option CharSet :=
  (Script.named? name).map Script.used

/-- A class under a bare name: a binary property, a general category or a script, in this order.
Three short names mean the category although a property has them too. -/
def namedClass? (name : List Char) : Option CharSet :=
  let name := normalizeName name
  let property :=
    if name = "cf" ∨ name = "sc" ∨ name = "lc" then none else Property.named? name
  property.or ((categoryClass? name).or (scriptClass? name))

/-- A class given as a property and its value. -/
def valueClass? (property value : List Char) : Option CharSet :=
  let value := normalizeName value
  let property := normalizeName property
  if property ∈ ["gc", "generalcategory"] then categoryClass? value
  else if property ∈ ["sc", "script"] then scriptClass? value
  else if property ∈ ["scx", "scriptextensions"] then sharedScriptClass? value
  else if property = "age" then Edition.charactersBy? value
  else if property ∈ ["gcb", "graphemeclusterbreak"] then NamedSet.find? ClusterBreak.named value
  else if property ∈ ["wb", "wordbreak"] then NamedSet.find? WordBreak.named value
  else if property ∈ ["sb", "sentencebreak"] then NamedSet.find? SentenceBreak.named value
  else none

end DocumentModel.Pattern
