/-
The shortest decimal of a binary floating-point number.

A finite number is `mantissa * 2 ^ exponent` exactly.  The reals that round to it form an interval
around it, ends included when the mantissa is even.  Of the decimals with the fewest digits inside
that interval the nearest is taken.  All of it is exact arithmetic on natural numbers.
-/

namespace DocumentModel.Decimal

/-- The magnitude of a finite binary number, `mantissa * 2 ^ exponent`. -/
structure Binary where
  mantissa : Nat
  exponent : Int
deriving DecidableEq, Repr

/-- A decimal magnitude, `digits * 10 ^ exponent`. -/
structure Magnitude where
  digits : Nat
  exponent : Int
deriving DecidableEq, Repr

/-- What a magnitude half way between two decimals becomes. -/
inductive Tie where
  | toEven
  | up
deriving DecidableEq, Repr

/-- The magnitude of a finite number, from its bits. -/
def Binary.ofBits (bits : UInt64) : Binary :=
  let field : Nat := (bits.toNat / Nat.pow 2 52) % Nat.pow 2 11
  let fraction : Nat := bits.toNat % Nat.pow 2 52
  if field = 0 then ⟨fraction, -1074⟩ else ⟨Nat.pow 2 52 + fraction, (field : Int) - 1075⟩

/-- The magnitude and its interval over one common denominator. -/
structure Bracket where
  value : Nat
  low : Nat
  high : Nat
  unit : Nat
  closed : Bool

/-- The interval of the reals that round to `b`.  Below a power of two the neighbour is only half as
far away. -/
def Binary.bracket (b : Binary) : Bracket :=
  let below := if b.mantissa = Nat.pow 2 52 ∧ b.exponent ≠ -1074 then 1 else 2
  let scale := Nat.pow 2 (b.exponent - 2).toNat
  { value := 4 * b.mantissa * scale
    low := (4 * b.mantissa - below) * scale
    high := (4 * b.mantissa + 2) * scale
    unit := Nat.pow 2 (2 - b.exponent).toNat
    closed := b.mantissa % 2 = 0 }

/-- `n / unit` against `10 ^ e`. -/
def atLeastPower (n unit : Nat) (e : Int) : Bool :=
  unit * Nat.pow 10 e.toNat ≤ n * Nat.pow 10 (-e).toNat

/-- The exponent of the leading digit: `10 ^ e ≤ value < 10 ^ (e + 1)`.  The binary logarithm gives
an estimate that is off by at most one. -/
def Binary.leading (b : Binary) : Int :=
  let br := b.bracket
  let estimate := ((b.mantissa.log2 : Int) + b.exponent) * 30103 / 100000
  if atLeastPower br.value br.unit (estimate + 1) then estimate + 1
  else if atLeastPower br.value br.unit estimate then estimate
  else estimate - 1

namespace Bracket

/-- Does `n * 10 ^ e` round to the number the bracket surrounds? -/
def holds (b : Bracket) (n : Nat) (e : Int) : Bool :=
  let n := n * b.unit * Nat.pow 10 e.toNat
  let up := Nat.pow 10 (-e).toNat
  if b.closed then decide (b.low * up ≤ n ∧ n ≤ b.high * up)
  else decide (b.low * up < n ∧ n < b.high * up)

/-- The best multiple of `10 ^ e` inside the bracket: of the two multiples beside the value, the one
that is inside; the nearer one if both are. -/
def nearest? (b : Bracket) (tie : Tie) (e : Int) : Option Nat :=
  let num := b.value * Nat.pow 10 (-e).toNat
  let den := b.unit * Nat.pow 10 e.toNat
  let n := num / den
  let twice := 2 * (num % den)
  match b.holds n e, b.holds (n + 1) e with
  | false, false => none
  | true, false => some n
  | false, true => some (n + 1)
  | true, true =>
      if twice < den then some n
      else if den < twice then some (n + 1)
      else match tie with
        | .toEven => some (if n % 2 = 0 then n else n + 1)
        | .up => some (n + 1)

end Bracket

/-- Remove the final zeros of the digits, at most `fuel` of them. -/
def Magnitude.trim : Nat → Magnitude → Magnitude
  | 0, d => d
  | fuel + 1, d =>
      if d.digits ≠ 0 ∧ d.digits % 10 = 0 then trim fuel ⟨d.digits / 10, d.exponent + 1⟩ else d

/-- Try grids of ever more digits, `count` of them at most. -/
def Binary.search (b : Binary) (tie : Tie) : (count : Nat) → (exponent : Int) → Magnitude
  | 0, e => ⟨(b.bracket.nearest? tie e).getD 0, e⟩
  | count + 1, e =>
      match b.bracket.nearest? tie e with
      | some n => ⟨n, e⟩
      | none => search b tie count (e - 1)

/-- The shortest decimal that reads back as `b`.  Seventeen digits always suffice. -/
def Binary.shortest (b : Binary) (tie : Tie) : Magnitude :=
  if b.mantissa = 0 then ⟨0, 0⟩ else (b.search tie 17 b.leading).trim 17

end DocumentModel.Decimal
