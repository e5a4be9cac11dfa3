/-
Decimal text read as a floating-point number, correctly rounded.
-/

namespace DocumentModel.Decimal

/-- The value of a run of decimal digits, most significant first. -/
def digitsValue (digits : List Char) : Nat :=
  digits.foldl (fun acc c => acc * 10 + (c.toNat - 48)) 0

def isDigit (c : Char) : Bool :=
  '0' ≤ c && c ≤ '9'

/-- The number nearest to `mantissa * 10 ^ exponent`, with a sign.  Far outside the range of the
format the answer is infinite or zero, and no power is computed. -/
def nearestFloat (negative : Bool) (mantissa : Nat) (exponent : Int) : Float :=
  let magnitude : Float :=
    if mantissa = 0 then 0
    else
      let leading := exponent + (Nat.toDigits 10 mantissa).length
      if 400 < leading then 1 / 0
      else if leading < -400 then 0
      else if 0 ≤ exponent then Float.ofScientific mantissa false exponent.toNat
      else Float.ofScientific mantissa true (-exponent).toNat
  if negative then -magnitude else magnitude

/-- A signed exponent, or nothing at all. -/
def exponent? (text : List Char) : Option Int :=
  match text with
  | [] => some 0
  | e :: rest =>
      if e = 'e' ∨ e = 'E' then
        let (negative, digits) := match rest with
          | '-' :: ds => (true, ds)
          | '+' :: ds => (false, ds)
          | ds => (false, ds)
        if digits.isEmpty || !digits.all isDigit then none
        else some (if negative then -(digitsValue digits : Int) else digitsValue digits)
      else none

/-- An unsigned decimal: digits around an optional point, then an optional exponent. -/
def magnitude? (text : List Char) : Option (Nat × Int) := do
  let whole := text.takeWhile isDigit
  let (fraction, rest) := match text.dropWhile isDigit with
    | '.' :: rest => (rest.takeWhile isDigit, rest.dropWhile isDigit)
    | rest => ([], rest)
  if whole.isEmpty && fraction.isEmpty then none
  else
    let e ← exponent? rest
    return (digitsValue (whole ++ fraction), e - fraction.length)

/-- Any decimal text, and the names of the numbers that have none. -/
def readFloat? (text : String) : Option Float :=
  let (negative, body) := match text.toList with
    | '-' :: rest => (true, rest)
    | '+' :: rest => (false, rest)
    | rest => (false, rest)
  if body = "NaN".toList then some (0 / 0)
  else if body = "inf".toList then some (if negative then -1 / 0 else 1 / 0)
  else (magnitude? body).map fun (m, e) => nearestFloat negative m e

end DocumentModel.Decimal
