/-
Classes in brackets: characters, ranges, named classes and classes within classes, with the
operations between them.
-/
import DocumentModel.Pattern.Escape

namespace DocumentModel.Pattern

open DocumentModel.Text

def classLiteral? (f : Flags) : Atom → Option Char
  | .literal c _ => if !f.unicode && 128 ≤ c.toNat then none else some c
  | _ => none

def classItem? (f : Flags) : Atom → Option CharSet
  | .set s => some s
  | .look _ => none
  | .literal c byte => (classLiteral? f (.literal c byte)).map .single

/-- The operations between the parts of a class. -/
inductive SetOp where
  | inter
  | diff
  | symmDiff
deriving DecidableEq, Repr

/-- The parts of a class read so far: what stands before the last operation, with its depth, and
the items after it. -/
structure ClassState where
  before? : Option (SetOp × CharSet × Nat)
  items : List (CharSet × Nat)

namespace ClassState

/-- The set of the items, and how deeply it nests. -/
def last (s : ClassState) : CharSet × Nat :=
  match s.items with
  | [] => (.empty, 0)
  | [item] => item
  | items => (.unionAll (items.map (·.1)), 1 + (items.map (·.2)).foldl max 0)

/-- Everything read so far as one set.  Operations group to the left. -/
def close (f : Flags) (s : ClassState) : CharSet × Nat :=
  let (b, depth) := s.last
  match s.before? with
  | none => (b, depth)
  | some (op, a, depthBefore) =>
      let a := f.fold a
      let b := f.fold b
      let s := match op with
        | .inter => a.inter b
        | .diff => a.diff b
        | .symmDiff => a.symmDiff b
      (s, 1 + max depthBefore depth)

/-- Start the part after an operation. -/
def operate (f : Flags) (s : ClassState) (op : SetOp) : ClassState :=
  let (a, depth) := s.close f
  ⟨some (op, a, depth), []⟩

/-- One more item. -/
def add (s : ClassState) (item : CharSet) (depth : Nat) : ClassState :=
  { s with items := (item, depth) :: s.items }

end ClassState

/-- A name in brackets and colons, after the opening bracket. -/
def bracketName? (f : Flags) (input : List Char) : Option (Option CharSet × List Char) :=
  match input with
  | ':' :: rest => do
      let (negated, rest) := match rest with
        | '^' :: rest => (true, rest)
        | rest => (false, rest)
      let (name, rest) ← cutAt? [':'] rest
      match rest with
      | ']' :: rest => do
          let s ← bracketClass? (String.ofList name)
          return (f.negate? negated (f.fold s), rest)
      | _ => none
  | _ => none

def classAtom? (f : Flags) (input : List Char) : Option (Atom × List Char) :=
  match input with
  | [] => none
  | '\\' :: rest => escape? f rest
  | c :: rest => some (.literal c false, rest)

/-- An atom of a class or a range between two of them. -/
def classRange? (f : Flags) (input : List Char) : Option (CharSet × List Char) := do
  let (first, rest) ← classAtom? f input
  let rest := f.skip rest
  match rest with
  | '-' :: more =>
      if f.peek? rest = some ']' ∨ f.peek? rest = some '-' then
        return (← classItem? f first, rest)
      else
        let (last, rest) ← classAtom? f (f.skip more)
        let a ← classLiteral? f first
        let b ← classLiteral? f last
        if b < a then none else return (.range a b, rest)
  | [] => none
  | _ => return (← classItem? f first, rest)

/-- The hyphens at the start of a class, each of them an item. -/
def leadingHyphens (f : Flags) : Nat → ClassState → List Char → ClassState × List Char
  | n + 1, s, '-' :: rest => leadingHyphens f n (s.add (.single '-') 0) (f.skip rest)
  | _, s, rest => (s, rest)

/-- The head of a class, after its bracket: a negation, hyphens, and a closing bracket that would
otherwise leave the class empty. -/
def classHead (f : Flags) (input : List Char) : Bool × ClassState × List Char :=
  let (negated, rest) := match f.skip input with
    | '^' :: rest => (true, f.skip rest)
    | rest => (false, rest)
  let (s, rest) := leadingHyphens f rest.length ⟨none, []⟩ rest
  match s.items, rest with
  | [], ']' :: rest => (negated, s.add (.single ']') 0, f.skip rest)
  | _, _ => (negated, s, rest)

/-- The items of a class up to its closing bracket, and how deeply they nest.  The first argument
bounds the number of steps. -/
def classBody? (f : Flags) : Nat → (negated : Bool) → ClassState → List Char →
    Option (CharSet × Nat × List Char)
  | 0, _, _, _ => none
  | fuel + 1, negated, s, input =>
      match f.skip input with
      | [] => none
      | ']' :: rest => do
          let (set, depth) := s.close f
          let set ← f.negate? negated (f.fold set)
          return (set, 1 + depth, rest)
      | '[' :: rest =>
          match bracketName? f rest with
          | some (set?, rest) => do
              let set ← set?
              classBody? f fuel negated (s.add set 0) rest
          | none => do
              let (negatedInside, inner, rest) := classHead f rest
              let (set, depth, rest) ← classBody? f fuel negatedInside inner rest
              classBody? f fuel negated (s.add set depth) rest
      | '&' :: '&' :: rest => classBody? f fuel negated (s.operate f .inter) rest
      | '-' :: '-' :: rest => classBody? f fuel negated (s.operate f .diff) rest
      | '~' :: '~' :: rest => classBody? f fuel negated (s.operate f .symmDiff) rest
      | rest => do
          let (set, rest) ← classRange? f rest
          classBody? f fuel negated (s.add set 0) rest

def class? (f : Flags) (input : List Char) : Option (CharSet × Nat × List Char) :=
  let (negated, s, rest) := classHead f input
  classBody? f (2 * input.length + 2) negated s rest

end DocumentModel.Pattern
