/-
Sets of characters, kept as ranges of code points.

The ranges of a set increase, with a gap after each, and hold no surrogates; so a set has one form
and a character is looked up by bisection.  All operations are made of two: joining ranges that
touch, and turning ranges into the gaps between them.

A table is written as text: code points in hexadecimal, `41-5A` for a range.
-/
import DocumentModel.Text.Hex

namespace DocumentModel.Text

/-- A number in hexadecimal; other characters are passed over. -/
def hexNumber (digits : List Char) : Nat :=
  digits.foldl (fun acc c => (hexValue? c).elim acc fun d => acc * 16 + d) 0

/-- The parts of a text between separators. -/
def splitAt (separator : Char) : List Char → List (List Char)
  | [] => [[]]
  | c :: rest =>
      if c = separator then [] :: splitAt separator rest
      else match splitAt separator rest with
        | [] => [[c]]
        | part :: parts => (c :: part) :: parts

/-- The entries of a table's text, which may run over several lines. -/
def entries (text : String) : List (List Char) :=
  ((splitAt '\n' text.toList).flatMap (splitAt ' ')).filter (!·.isEmpty)

/-- Ranges joined to the range before them as long as they overlap or touch it. -/
def joinedTo (r : Nat × Nat) : List (Nat × Nat) → List (Nat × Nat)
  | [] => [r]
  | s :: rest =>
      if s.1 ≤ r.2 + 1 then joinedTo (r.1, max r.2 s.2) rest else r :: joinedTo s rest

/-- Ranges that overlap or touch as one, in a list that increases by first ends. -/
def joined : List (Nat × Nat) → List (Nat × Nat)
  | [] => []
  | r :: rest => joinedTo r rest

def lastCode : Nat := 0x10FFFF

/-- What ranges leave over, from the code point `low` on. -/
def gaps (low : Nat) : List (Nat × Nat) → List (Nat × Nat)
  | [] => if low ≤ lastCode then [(low, lastCode)] else []
  | r :: rest => if low < r.1 then (low, r.1 - 1) :: gaps (r.2 + 1) rest else gaps (r.2 + 1) rest

def mergeRanges (a b : List (Nat × Nat)) : List (Nat × Nat) :=
  a.merge b fun r s => r.1 ≤ s.1

/-- A set of characters. -/
structure CharSet where
  ranges : Array (Nat × Nat)
deriving DecidableEq

namespace CharSet

/-- The code points of surrogates, which are no characters. -/
def surrogates : Nat × Nat := (0xD800, 0xDFFF)

def empty : CharSet := ⟨#[]⟩

def single (c : Char) : CharSet := ⟨#[(c.toNat, c.toNat)]⟩

def range (first last : Char) : CharSet :=
  if first.toNat < surrogates.1 ∧ surrogates.2 < last.toNat then
    ⟨#[(first.toNat, surrogates.1 - 1), (surrogates.2 + 1, last.toNat)]⟩
  else ⟨#[(first.toNat, last.toNat)]⟩

/-- The set that some ranges make up, in whatever order.  They hold no surrogates. -/
def ofRanges (ranges : List (Nat × Nat)) : CharSet :=
  ⟨(joined (ranges.mergeSort fun r s => r.1 ≤ s.1)).toArray⟩

def ofList (chars : List Char) : CharSet :=
  ofRanges (chars.map fun c => (c.toNat, c.toNat))

/-- The range that an entry of a table stands for. -/
def rangeOf (entry : List Char) : Nat × Nat :=
  match splitAt '-' entry with
  | [a] => (hexNumber a, hexNumber a)
  | a :: b :: _ => (hexNumber a, hexNumber b)
  | [] => (0, 0)

/-- The set that a table's text spells out; its entries increase. -/
def ofText (text : String) : CharSet :=
  ⟨((entries text).map rangeOf).toArray⟩

/-- Look for `n` among the ranges from position `low` up to `high`. -/
def bisect (ranges : Array (Nat × Nat)) (n low high : Nat) : Bool :=
  if _h : low < high then
    match ranges[(low + high) / 2]? with
    | none => false
    | some (first, last) =>
        if n < first then bisect ranges n low ((low + high) / 2)
        else if last < n then bisect ranges n ((low + high) / 2 + 1) high
        else true
  else false
termination_by high - low

def containsCode (s : CharSet) (n : Nat) : Bool :=
  bisect s.ranges n 0 s.ranges.size

def contains (s : CharSet) (c : Char) : Bool :=
  s.containsCode c.toNat

def isEmpty (s : CharSet) : Bool := s.ranges.isEmpty

def isAscii (s : CharSet) : Bool :=
  s.ranges.all fun r => r.2 < 128

/-- The only member, if there is just one. -/
def only? (s : CharSet) : Option Char :=
  match s.ranges.toList with
  | [(first, last)] => if first = last then some (Char.ofNat first) else none
  | _ => none

def union (a b : CharSet) : CharSet :=
  ⟨(joined (mergeRanges a.ranges.toList b.ranges.toList)).toArray⟩

def compl (a : CharSet) : CharSet :=
  ⟨(gaps 0 (joined (mergeRanges a.ranges.toList [surrogates]))).toArray⟩

def inter (a b : CharSet) : CharSet :=
  (a.compl.union b.compl).compl

/-- The members of the first set that are not in the second. -/
def diff (a b : CharSet) : CharSet :=
  (a.compl.union b).compl

/-- The members of one of the sets and not of the other. -/
def symmDiff (a b : CharSet) : CharSet :=
  (a.diff b).union (b.diff a)

def unionAll (sets : List CharSet) : CharSet :=
  ofRanges (sets.flatMap fun s => s.ranges.toList)

def all : CharSet := compl empty

end CharSet

/-- A set of characters and the names under which it is asked for. -/
structure NamedSet where
  names : List String
  members : CharSet

namespace NamedSet

/-- The first of some sets with a given name. -/
def find? (sets : List NamedSet) (name : String) : Option CharSet :=
  (sets.find? fun s => s.names.contains name).map members

end NamedSet

/-- Is a code point in one of the ranges? -/
def inRanges (n : Nat) (ranges : List (Nat × Nat)) : Bool :=
  ranges.any fun r => r.1 ≤ n && n ≤ r.2

/-- Ranges whose first ends do not decrease and whose ends are in order. -/
def RangesIncrease (ranges : List (Nat × Nat)) : Prop :=
  ranges.Pairwise (fun r s => r.1 ≤ s.1) ∧ ∀ r ∈ ranges, r.1 ≤ r.2

/-- Ranges in order, with a gap after each. -/
def RangesApart (ranges : List (Nat × Nat)) : Prop :=
  ranges.Pairwise (fun r s => r.2 + 1 < s.1) ∧ ∀ r ∈ ranges, r.1 ≤ r.2

/-- Joining ranges moves no code point in or out. -/
theorem inRanges_joinedTo (n : Nat) (r : Nat × Nat) (rest : List (Nat × Nat))
    (h : RangesIncrease (r :: rest)) : inRanges n (joinedTo r rest) = inRanges n (r :: rest) := by
  induction rest generalizing r with
  | nil => rfl
  | cons s rest ih =>
      obtain ⟨hp, ho⟩ := h
      simp only [List.pairwise_cons, List.mem_cons, forall_eq_or_imp] at hp ho
      obtain ⟨⟨hrs, hr⟩, hs, hrest⟩ := hp
      rw [joinedTo]
      split
      · rw [ih]
        · simp only [inRanges, List.any_cons]
          grind
        · refine ⟨List.pairwise_cons.2 ⟨hr, hrest⟩, ?_⟩
          simp only [List.mem_cons, forall_eq_or_imp]
          exact ⟨by omega, ho.2.2⟩
      · rw [inRanges, List.any_cons, ← inRanges, ih]
        · simp only [inRanges, List.any_cons]
        · exact ⟨List.pairwise_cons.2 ⟨hs, hrest⟩, by
            simpa only [List.mem_cons, forall_eq_or_imp] using ho.2⟩

theorem inRanges_joined (n : Nat) (ranges : List (Nat × Nat)) (h : RangesIncrease ranges) :
    inRanges n (joined ranges) = inRanges n ranges := by
  cases ranges with
  | nil => rfl
  | cons r rest => exact inRanges_joinedTo n r rest h

/-- What is joined has a gap after each range, and starts no earlier than the first of them. -/
theorem rangesApart_joinedTo (r : Nat × Nat) (rest : List (Nat × Nat))
    (h : RangesIncrease (r :: rest)) :
    RangesApart (joinedTo r rest) ∧ ∀ s ∈ joinedTo r rest, r.1 ≤ s.1 := by
  induction rest generalizing r with
  | nil =>
      obtain ⟨_, ho⟩ := h
      simp_all [joinedTo, RangesApart]
  | cons s rest ih =>
      obtain ⟨hp, ho⟩ := h
      simp only [List.pairwise_cons, List.mem_cons, forall_eq_or_imp] at hp ho
      obtain ⟨⟨hrs, hr⟩, hs, hrest⟩ := hp
      rw [joinedTo]
      split
      · refine ih (r.1, max r.2 s.2) ⟨List.pairwise_cons.2 ⟨hr, hrest⟩, ?_⟩
        simp only [List.mem_cons, forall_eq_or_imp]
        exact ⟨by omega, ho.2.2⟩
      · obtain ⟨⟨hpair, hord⟩, hge⟩ := ih s ⟨List.pairwise_cons.2 ⟨hs, hrest⟩, by
          simpa only [List.mem_cons, forall_eq_or_imp] using ho.2⟩
        refine ⟨⟨List.pairwise_cons.2 ⟨fun t ht => ?_, hpair⟩, ?_⟩, ?_⟩
        · have := hge t ht
          omega
        · simp only [List.mem_cons, forall_eq_or_imp]
          exact ⟨ho.1, hord⟩
        · simp only [List.mem_cons, forall_eq_or_imp]
          exact ⟨Nat.le_refl _, fun t ht => Nat.le_trans hrs (hge t ht)⟩

theorem rangesApart_joined (ranges : List (Nat × Nat)) (h : RangesIncrease ranges) :
    RangesApart (joined ranges) := by
  cases ranges with
  | nil => simp [joined, RangesApart]
  | cons r rest => exact (rangesApart_joinedTo r rest h).1

/-- No gap from `low` on holds a code point below `low`. -/
theorem inRanges_gaps_of_lt {n low : Nat} (hn : n < low) (ranges : List (Nat × Nat))
    (h : ∀ r ∈ ranges, low ≤ r.1 ∧ r.1 ≤ r.2) (hp : RangesApart ranges) :
    inRanges n (gaps low ranges) = false := by
  induction ranges generalizing low with
  | nil => rw [gaps]; split <;> simp [inRanges]; omega
  | cons r rest ih =>
      simp only [List.mem_cons, forall_eq_or_imp] at h
      obtain ⟨hpair, hord⟩ := hp
      simp only [List.pairwise_cons, List.mem_cons, forall_eq_or_imp] at hpair hord
      have hrest : inRanges n (gaps (r.2 + 1) rest) = false :=
        ih (by omega) (fun s hs => ⟨Nat.le_of_lt (hpair.1 s hs), hord.2 s hs⟩) ⟨hpair.2, hord.2⟩
      rw [gaps]
      split
      · rw [inRanges, List.any_cons, ← inRanges, hrest]
        simp; omega
      · exact hrest

/-- The gaps hold the code points that the ranges do not. -/
theorem inRanges_gaps {n low : Nat} (hlow : low ≤ n) (hlast : n ≤ lastCode)
    (ranges : List (Nat × Nat)) (h : ∀ r ∈ ranges, low ≤ r.1 ∧ r.1 ≤ r.2)
    (hp : RangesApart ranges) : inRanges n (gaps low ranges) = !inRanges n ranges := by
  induction ranges generalizing low with
  | nil => rw [gaps, if_pos (by omega)]; simp [inRanges, hlow, hlast]
  | cons r rest ih =>
      simp only [List.mem_cons, forall_eq_or_imp] at h
      obtain ⟨hpair, hord⟩ := hp
      simp only [List.pairwise_cons, List.mem_cons, forall_eq_or_imp] at hpair hord
      have hr : ∀ s ∈ rest, r.2 + 1 ≤ s.1 ∧ s.1 ≤ s.2 :=
        fun s hs => ⟨Nat.le_of_lt (hpair.1 s hs), hord.2 s hs⟩
      have hrest : inRanges n (gaps (r.2 + 1) rest) =
          if n ≤ r.2 then false else !inRanges n rest := by
        split
        · exact inRanges_gaps_of_lt (by omega) rest hr ⟨hpair.2, hord.2⟩
        · exact ih (by omega) hr ⟨hpair.2, hord.2⟩
      have hnone : n ≤ r.2 → inRanges n rest = false := fun hn => by
        simp only [inRanges, List.any_eq_false, Bool.and_eq_true, decide_eq_true_eq]
        intro s hs
        have := (hr s hs).1
        omega
      rw [gaps]
      split
      · simp only [inRanges, List.any_cons] at hrest hnone ⊢
        rw [hrest]
        grind
      · simp only [inRanges, List.any_cons] at hrest hnone ⊢
        rw [hrest]
        grind

end DocumentModel.Text
