/-
Grapheme clusters: the characters that a reader takes for one.

A cluster is closed by the rule for the two characters beside a gap, which may depend on what the
cluster already holds: a consonant joined by a linking mark, a pictograph with a joiner, or an
unpaired regional indicator.
-/
import DocumentModel.Text.BreakValue
import DocumentModel.Text.Recent

namespace DocumentModel.Text

def pictographTable : CharSet :=
  .ofText "A9 AE 203C 2049 2122 2139 2194-2199 21A9-21AA 231A-231B 2328 23CF 23E9-23F3 23F8-23FA
    24C2 25AA-25AB 25B6 25C0 25FB-25FE 2600-2604 260E 2611 2614-2615 2618 261D 2620 2622-2623
    2626 262A 262E-262F 2638-263A 2640 2642 2648-2653 265F-2660 2663 2665-2666 2668 267B
    267E-267F 2692-2697 2699 269B-269C 26A0-26A1 26A7 26AA-26AB 26B0-26B1 26BD-26BE 26C4-26C5
    26C8 26CE-26CF 26D1 26D3-26D4 26E9-26EA 26F0-26F5 26F7-26FA 26FD 2702 2705 2708-270D 270F
    2712 2714 2716 271D 2721 2728 2733-2734 2744 2747 274C 274E 2753-2755 2757 2763-2764
    2795-2797 27A1 27B0 27BF 2934-2935 2B05-2B07 2B1B-2B1C 2B50 2B55 3030 303D 3297 3299
    1F004 1F02C-1F02F 1F094-1F09F 1F0AF-1F0B0 1F0C0 1F0CF-1F0D0 1F0F6-1F0FF 1F170-1F171
    1F17E-1F17F 1F18E 1F191-1F19A 1F1AE-1F1E5 1F201-1F20F 1F21A 1F22F 1F232-1F23A 1F23C-1F23F
    1F249-1F25F 1F266-1F321 1F324-1F393 1F396-1F397 1F399-1F39B 1F39E-1F3F0 1F3F3-1F3F5
    1F3F7-1F3FA 1F400-1F4FD 1F4FF-1F53D 1F549-1F54E 1F550-1F567 1F56F-1F570 1F573-1F57A 1F587
    1F58A-1F58D 1F590 1F595-1F596 1F5A4-1F5A5 1F5A8 1F5B1-1F5B2 1F5BC 1F5C2-1F5C4 1F5D1-1F5D3
    1F5DC-1F5DE 1F5E1 1F5E3 1F5E8 1F5EF 1F5F3 1F5FA-1F64F 1F680-1F6C5 1F6CB-1F6D2 1F6D5-1F6E5
    1F6E9 1F6EB-1F6F0 1F6F3-1F6FF 1F7DA-1F7FF 1F80C-1F80F 1F848-1F84F 1F85A-1F85F 1F888-1F88F
    1F8AE-1F8AF 1F8BC-1F8BF 1F8C2-1F8CF 1F8D9-1F8FF 1F90C-1F93A 1F93C-1F945 1F947-1F9FF
    1FA58-1FA5F 1FA6E-1FAFF 1FC00-1FFFD"

/-- Consonants that can join into one sign. -/
def conjunctConsonantTable : CharSet :=
  .ofText "915-939 958-95F 978-97F 995-9A8 9AA-9B0 9B2 9B6-9B9 9DC-9DD 9DF 9F0-9F1 A95-AA8 AAA-AB0
    AB2-AB3 AB5-AB9 AF9 B15-B28 B2A-B30 B32-B33 B35-B39 B5C-B5D B5F B71 C15-C28 C2A-C39
    C58-C5A D15-D3A 1000-102A 103F 1050-1055 105A-105D 1061 1065-1066 106E-1070 1075-1081
    108E 1780-17B3 1A20-1A54 1B0B-1B0C 1B13-1B33 1B45-1B4C 1B83-1BA0 1BAE-1BAF 1BBB-1BBD
    A989-A98B A98F-A9B2 A9E0-A9E4 A9E7-A9EF A9FA-A9FE AA60-AA6F AA71-AA73 AA7A AA7E-AA7F
    AAE0-AAEA ABC0-ABDA 10A00 10A10-10A13 10A15-10A17 10A19-10A35 11103-11126 11144 11147
    11380-11389 1138B 1138E 11390-113B5 11900-11906 11909 1190C-11913 11915-11916 11918-1192F
    11A00 11A0B-11A32 11A50 11A5C-11A83 11F04-11F10 11F12-11F33"

/-- Marks that join two consonants. -/
def conjunctLinkerTable : CharSet :=
  .ofText "94D 9CD ACD B4D C4D D4D 1039 17D2 1A60 1B44 1BAB A9C0 AAF6 10A3F 11133 113D0 1193E 11A47
    11A99 11F42"

/-- A sign that stood for itself and the character after it, and by now stands alone. -/
def noLongerPrepended : CharSet := .ofText "11A3A"

/-- The classes of characters that the rules tell apart. -/
inductive BreakClass where
  | carriageReturn
  | lineFeed
  | control
  | extend
  | joiner
  | spacingMark
  | prepend
  | regionalIndicator
  | leadingJamo
  | vowelJamo
  | trailingJamo
  | openSyllable
  | closedSyllable
  | pictograph
  | other
deriving DecidableEq, Repr

/-- The members of each class. -/
def breakClasses : List (CharSet × BreakClass) :=
  [(ClusterBreak.carriageReturn, .carriageReturn),
   (ClusterBreak.lineFeed, .lineFeed),
   (ClusterBreak.joiner, .joiner),
   (Property.regionalIndicator, .regionalIndicator),
   (ClusterBreak.leadingJamo, .leadingJamo),
   (ClusterBreak.vowelJamo, .vowelJamo),
   (ClusterBreak.trailingJamo, .trailingJamo),
   (ClusterBreak.openSyllable, .openSyllable),
   (ClusterBreak.closedSyllable, .closedSyllable),
   (ClusterBreak.control, .control),
   (ClusterBreak.extend.union Recent.marks, .extend),
   (ClusterBreak.spacingMark.union Recent.spacingMarks, .spacingMark),
   (ClusterBreak.prepend.diff noLongerPrepended, .prepend),
   (pictographTable, .pictograph)]

/-- The class of a character. -/
def breakClass (c : Char) : BreakClass :=
  if ' ' ≤ c ∧ c ≤ '~' then .other
  else ((breakClasses.find? fun entry => entry.1.contains c).map (·.2)).getD .other

/-- How far a cluster has come towards joining one more consonant. -/
inductive Conjunct where
  | none
  | consonant
  | linked
deriving DecidableEq, Repr

/-- How far a cluster has come towards joining one more pictograph. -/
inductive Sequence where
  | none
  | pictograph
  | joined
deriving DecidableEq, Repr

/-- What the rules need to know of an open cluster. -/
structure ClusterState where
  last : BreakClass
  conjunct : Conjunct
  sequence : Sequence
  /-- Does the cluster end in a regional indicator that has no partner yet? -/
  unpaired : Bool

/-- Take one more character into account. -/
def ClusterState.next (s : ClusterState) (c : Char) : ClusterState :=
  let k := breakClass c
  let extending := k = .extend ∨ k = .joiner
  { last := k
    conjunct :=
      if conjunctConsonantTable.contains c then .consonant
      else if s.conjunct = .none then .none
      else if conjunctLinkerTable.contains c then .linked
      else if extending ∧ c ≠ '\u200c' then s.conjunct
      else .none
    sequence :=
      if k = .pictograph then .pictograph
      else if s.sequence = .pictograph ∧ k = .extend then .pictograph
      else if s.sequence = .pictograph ∧ k = .joiner then .joined
      else .none
    unpaired := k = .regionalIndicator ∧ ¬ s.unpaired }

/-- The state before any character. -/
def ClusterState.start : ClusterState := ⟨.control, .none, .none, false⟩

/-- Does `c` belong to the cluster that is open? -/
def ClusterState.joins (s : ClusterState) (c : Char) : Bool :=
  match s.last, breakClass c with
  | .carriageReturn, .lineFeed => true
  | .carriageReturn, _ => false
  | .lineFeed, _ => false
  | .control, _ => false
  | _, .carriageReturn => false
  | _, .lineFeed => false
  | _, .control => false
  | _, .extend => true
  | _, .joiner => true
  | _, .spacingMark => true
  | .prepend, _ => true
  | .leadingJamo, .leadingJamo => true
  | .leadingJamo, .vowelJamo => true
  | .leadingJamo, .openSyllable => true
  | .leadingJamo, .closedSyllable => true
  | .openSyllable, .vowelJamo => true
  | .openSyllable, .trailingJamo => true
  | .vowelJamo, .vowelJamo => true
  | .vowelJamo, .trailingJamo => true
  | .closedSyllable, .trailingJamo => true
  | .trailingJamo, .trailingJamo => true
  | .regionalIndicator, .regionalIndicator => s.unpaired
  | _, .pictograph => s.sequence = .joined
  | _, _ => s.conjunct = .linked && conjunctConsonantTable.contains c

/-- The clusters from some place in a text on.  A new cluster starts with no memory of the last. -/
def graphemesFrom (s : ClusterState) : List Char → List (List Char)
  | [] => []
  | c :: rest =>
      if s.joins c then
        match graphemesFrom (s.next c) rest with
        | [] => [[c]]
        | cluster :: clusters => (c :: cluster) :: clusters
      else [] :: match graphemesFrom (ClusterState.start.next c) rest with
        | [] => [[c]]
        | cluster :: clusters => (c :: cluster) :: clusters

/-- The grapheme clusters of a text. -/
def graphemes (text : List Char) : List (List Char) :=
  (graphemesFrom .start text).filter (!·.isEmpty)

end DocumentModel.Text
