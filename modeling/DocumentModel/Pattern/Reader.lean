/-
Pattern text read as a pattern.

The syntax: literals, `.`, `^`, `$`, escapes, classes with set operations, groups with and without
names, alternatives, repetitions, and flags for the rest of a group.  There is no looking around and
no reference back.  Flags hold from where they stand to the end of the group; in spaced patterns
blanks and comments are passed over.  Without the flag `u` a class may hold ASCII only.
-/
import DocumentModel.Decimal.Reader
import DocumentModel.Pattern.Bracket
import DocumentModel.Pattern.Machine
import DocumentModel.Text.Word

namespace DocumentModel.Pattern

open DocumentModel.Text (CharSet)

/-- A run of digits, with what the flags let pass between them.  The first argument bounds their
number. -/
def countDigits (f : Flags) : Nat → List Char → List Char × List Char
  | n + 1, c :: rest =>
      if Decimal.isDigit c then
        let (digits, rest) := countDigits f n (f.skip rest)
        (c :: digits, rest)
      else ([], c :: rest)
  | _, rest => ([], rest)

/-- A number in a repetition, with blanks around it. -/
def count? (f : Flags) (input : List Char) : Option (Nat × List Char) :=
  let input := input.dropWhile Text.isBlank
  let (digits, rest) := countDigits f input.length input
  let n := Decimal.digitsValue digits
  if digits.isEmpty ∨ UInt32.size ≤ n then none
  else some (n, f.skip (rest.dropWhile Text.isBlank))

/-- The least and the greatest count of a repetition, after its brace. -/
def counts? (f : Flags) (input : List Char) : Option (Nat × Option Nat × List Char) := do
  let (least, rest) ← count? f (f.skip input)
  match rest with
  | '\x7d' :: rest => return (least, some least, rest)
  | ',' :: rest =>
      match f.skip rest with
      | '\x7d' :: rest => return (least, none, rest)
      | rest => do
          let (most, rest) ← count? f rest
          match rest with
          | '\x7d' :: rest => if most < least then none else return (least, some most, rest)
          | _ => none
  | _ => none

/-- Is a repetition greedy, and what follows it?  A question mark turns the usual way round. -/
def greed (f : Flags) : List Char → Bool × List Char
  | '?' :: rest => (f.reluctant, rest)
  | rest => (!f.reluctant, rest)

/-- The flags named in a group, one change each; a flag is named once. -/
def flagItems? : (seen : List Char) → List Char → Option (List Char × List Char)
  | seen, ')' :: rest => if seen.head? = some '-' then none else some (seen.reverse, ')' :: rest)
  | seen, ':' :: rest => if seen.head? = some '-' then none else some (seen.reverse, ':' :: rest)
  | seen, c :: rest =>
      if c ∈ "-imsUuRx".toList ∧ c ∉ seen then flagItems? (c :: seen) rest else none
  | _, [] => none

/-- The flags after the changes that some items make.  Items after a hyphen switch off. -/
def Flags.change (f : Flags) : (on : Bool) → List Char → Flags
  | _, [] => f
  | on, c :: rest =>
      match c with
      | '-' => f.change false rest
      | 'i' => change { f with caseless := on } on rest
      | 'm' => change { f with multiLine := on } on rest
      | 's' => change { f with dotAll := on } on rest
      | 'u' => change { f with unicode := on } on rest
      | 'R' => change { f with crlf := on } on rest
      | 'x' => change { f with spaced := on } on rest
      | 'U' => change { f with reluctant := on } on rest
      | _ => f.change on rest

def isNameChar (first : Bool) (c : Char) : Bool :=
  if first then c = '_' || Text.isAlphabetic c
  else c ∈ "_.[]".toList || Text.isAlphabetic c || Text.isNumeric c

def groupName? (first : Bool) : List Char → Option (List Char × List Char)
  | [] => none
  | '>' :: rest => if first then none else some ([], rest)
  | c :: rest =>
      if isNameChar first c then
        (groupName? false rest).map fun (name, rest) => (c :: name, rest)
      else none

/-- What the characters after an opening parenthesis make it. -/
inductive GroupHead where
  /-- Flags for the rest of the enclosing group. -/
  | flags (f : Flags)
  /-- A group with its own flags; `remembered` says whether it gets a number. -/
  | group (f : Flags) (names : List (List Char)) (remembered : Bool)

/-- Read on after an opening parenthesis.  Names must differ. -/
def groupHead? (f : Flags) (names : List (List Char)) (input : List Char) :
    Option (GroupHead × List Char) :=
  let named (rest : List Char) := do
    let (name, rest) ← groupName? true rest
    if name ∈ names then none else return (GroupHead.group f (name :: names) true, rest)
  match f.skip input with
  | '?' :: '=' :: _ => none
  | '?' :: '!' :: _ => none
  | '?' :: '<' :: '=' :: _ => none
  | '?' :: '<' :: '!' :: _ => none
  | '?' :: 'P' :: '<' :: rest => named rest
  | '?' :: '<' :: rest => named rest
  | '?' :: rest => do
      let (items, rest) ← flagItems? [] rest
      let changed := f.change true items
      match rest with
      | ')' :: rest => if items.isEmpty then none else return (.flags changed, rest)
      | _ :: rest => return (.group changed names false, rest)
      | [] => none
  | rest => some (.group f names true, rest)

/-- A pattern that has been read, and how deeply it nests. -/
structure Tree where
  regex : Regex
  depth : Nat

/-- A member of a sequence: a pattern, or a change of flags, which cannot be repeated. -/
inductive Piece where
  | tree (t : Tree)
  | flags

/-- A sequence of pieces, last piece first, as one pattern. -/
def sequenceOf (pieces : List Piece) : Tree :=
  let trees := pieces.reverse.filterMap fun
    | .tree t => some t
    | .flags => none
  let depth := (trees.map (·.depth)).foldl max 0
  ⟨.concat (trees.map (·.regex)), if pieces.length ≤ 1 then depth else 1 + depth⟩

def alternativesOf : List Tree → Tree
  | [] => ⟨.empty, 0⟩
  | [t] => t
  | trees => ⟨.oneOf (trees.map (·.regex)), 1 + (trees.map (·.depth)).foldl max 0⟩

def repeatLast? (pieces : List Piece) (count : Count) : Option (List Piece) :=
  match pieces with
  | .tree t :: before => some (.tree ⟨t.regex.rep count, 1 + t.depth⟩ :: before)
  | _ => none

/-- The reader's state: the flags in force, the names of the groups so far, and how many groups
have a number. -/
structure ReadState where
  flags : Flags
  names : List (List Char)
  groups : Nat

def leaf (r : Regex) : Piece := .tree ⟨r, 0⟩

/-- A literal outside a class.  A byte above 127 is no character without the flag `u`. -/
def literal? (f : Flags) (c : Char) (byte : Bool) : Option Regex :=
  if !f.unicode && byte && 128 ≤ c.toNat then none
  else some (.ofSet (f.foldChar c) !f.unicode)

/-- What an atom outside a class matches. -/
def atomRegex? (f : Flags) : Atom → Option Regex
  | .literal c byte => literal? f c byte
  | .look l => some (.look l)
  | .set s => some (.ofSet s !f.unicode)

/-- Any character, line ends excepted unless the flags say otherwise. -/
def anyChar? (f : Flags) : Option CharSet :=
  if !f.unicode then none
  else if f.dotAll then some .all
  else if f.crlf then some (CharSet.compl (.ofList ['\n', '\r']))
  else some (CharSet.compl (.single '\n'))

mutual

/-- The alternatives up to the end of a group or of the pattern. -/
def alternatives? : Nat → ReadState → List Char → Option (List Tree × ReadState × List Char)
  | 0, _, _ => none
  | fuel + 1, s, input => do
      let (first, s, rest) ← sequence? fuel s [] input
      match rest with
      | '|' :: rest => do
          let (others, s, rest) ← alternatives? fuel s rest
          return (first :: others, s, rest)
      | _ => return ([first], s, rest)

/-- A sequence up to the end of its alternative; `pieces` holds what is already read. -/
def sequence? : Nat → ReadState → List Piece → List Char → Option (Tree × ReadState × List Char)
  | 0, _, _, _ => none
  | fuel + 1, s, pieces, input =>
      let f := s.flags
      match f.skip input with
      | [] => some (sequenceOf pieces, s, [])
      | ')' :: rest => some (sequenceOf pieces, s, ')' :: rest)
      | '|' :: rest => some (sequenceOf pieces, s, '|' :: rest)
      | '(' :: rest => do
          let (head, rest) ← groupHead? f s.names rest
          match head with
          | .flags changed => sequence? fuel { s with flags := changed } (.flags :: pieces) rest
          | .group inner names remembered => do
              let groups := if remembered then s.groups + 1 else s.groups
              let (trees, inside, rest) ← alternatives? fuel ⟨inner, names, groups⟩ rest
              let tree := alternativesOf trees
              let regex := if remembered then .group groups tree.regex else tree.regex
              match rest with
              | ')' :: rest =>
                  sequence? fuel ⟨f, inside.names, inside.groups⟩
                    (.tree ⟨regex, 1 + tree.depth⟩ :: pieces) rest
              | _ => none
      | '[' :: rest => do
          let (set, depth, rest) ← class? f rest
          sequence? fuel s (.tree ⟨.ofSet set !f.unicode, depth⟩ :: pieces) rest
      | '?' :: rest => do
          let (greedy, rest) := greed f rest
          let pieces ← repeatLast? pieces ⟨0, some 1, greedy⟩
          sequence? fuel s pieces rest
      | '*' :: rest => do
          let (greedy, rest) := greed f rest
          let pieces ← repeatLast? pieces ⟨0, none, greedy⟩
          sequence? fuel s pieces rest
      | '+' :: rest => do
          let (greedy, rest) := greed f rest
          let pieces ← repeatLast? pieces ⟨1, none, greedy⟩
          sequence? fuel s pieces rest
      | '\x7b' :: rest => do
          let (least, most?, rest) ← counts? f rest
          let (greedy, rest) := greed f (f.skip rest)
          let pieces ← repeatLast? pieces ⟨least, most?, greedy⟩
          sequence? fuel s pieces rest
      | '\\' :: rest => do
          let (atom, rest) ← escape? f rest
          let r ← atomRegex? f atom
          sequence? fuel s (leaf r :: pieces) rest
      | '.' :: rest => do
          let set ← anyChar? f
          sequence? fuel s (leaf (.ofSet set false) :: pieces) rest
      | '^' :: rest =>
          let l := if f.multiLine then Look.lineStart f.crlf else .textStart
          sequence? fuel s (leaf (.look l) :: pieces) rest
      | '$' :: rest =>
          let l := if f.multiLine then Look.lineEnd f.crlf else .textEnd
          sequence? fuel s (leaf (.look l) :: pieces) rest
      | c :: rest => do
          let r ← literal? f c false
          sequence? fuel s (leaf r :: pieces) rest

end

def depthLimit : Nat := 250

/-- Read a whole pattern.  One that nests too deeply or would grow too large is refused. -/
def read? (source : String) : Option Regex := do
  let input := source.toList
  let (trees, _, rest) ← alternatives? (3 * input.length + 3) ⟨{}, [], 0⟩ input
  let tree := alternativesOf trees
  if rest.isEmpty ∧ tree.depth ≤ depthLimit ∧ tree.regex.fits then return tree.regex else none

end DocumentModel.Pattern
