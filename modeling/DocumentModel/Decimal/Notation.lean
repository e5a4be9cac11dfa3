/-
Floating-point numbers as text.  The digits are the shortest ones that read back; a `Layout` says
how they are laid out.
-/
import DocumentModel.Decimal.Shortest

namespace DocumentModel.Decimal

structure Layout where
  /-- Positional notation is used when the exponent of the leading digit lies between these; a
  missing bound is no bound. -/
  least? : Option Int
  most? : Option Int
  /-- Is a positive exponent written with a plus sign? -/
  plus : Bool
  tie : Tie

def Layout.positional : Layout := ⟨none, none, false, .up⟩

/-- Numbers of JSON text: positional from 0.00001 up to 10^16, a signed exponent elsewhere. -/
def Layout.json : Layout := ⟨some (-5), some 15, true, .toEven⟩

/-- Numbers of a structure dump: positional from 0.0001 up to 10^16, else a bare exponent. -/
def Layout.dump : Layout := ⟨some (-4), some 15, false, .up⟩

def digitChars (n : Nat) : List Char :=
  Nat.toDigits 10 n

/-- Digits with a point after the first `whole` of them, at least one digit on either side. -/
def placePoint (digits : List Char) (whole : Int) : List Char :=
  if whole ≤ 0 then '0' :: '.' :: (List.replicate (-whole).toNat '0' ++ digits)
  else if (digits.length : Int) ≤ whole then
    digits ++ List.replicate (whole.toNat - digits.length) '0' ++ ['.', '0']
  else digits.take whole.toNat ++ '.' :: digits.drop whole.toNat

def scientific (plus : Bool) (digits : List Char) (exponent : Int) : List Char :=
  let head := match digits with
    | [] => []
    | [d] => [d]
    | d :: rest => d :: '.' :: rest
  let sign := if exponent < 0 then ['-'] else if plus then ['+'] else []
  head ++ 'e' :: (sign ++ digitChars exponent.natAbs)

def Layout.write (layout : Layout) (d : Magnitude) : List Char :=
  let digits := digitChars d.digits
  let leading := d.exponent + digits.length - 1
  if layout.least?.all (· ≤ leading) && layout.most?.all (leading ≤ ·) then
    placePoint digits (leading + 1)
  else scientific layout.plus digits leading

def isNegative (x : Float) : Bool :=
  Nat.pow 2 63 ≤ x.toBits.toNat

/-- A number as text. -/
def Layout.format (layout : Layout) (x : Float) : String :=
  if x.isNaN then "NaN"
  else if x.isInf then (if isNegative x then "-inf" else "inf")
  else
    let magnitude := layout.write ((Binary.ofBits x.toBits).shortest layout.tie)
    String.ofList (if isNegative x then '-' :: magnitude else magnitude)

end DocumentModel.Decimal
