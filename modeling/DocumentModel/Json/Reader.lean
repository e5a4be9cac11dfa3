/-
JSON text read as a value.  Every reader takes a value off the front of its input and answers with
what is left; none of them accepts anything but the format.
-/
import DocumentModel.Json.Quoted
import DocumentModel.Decimal.Reader

namespace DocumentModel.Json

/-- Drop the blanks that may stand between tokens. -/
def skipBlanks : List Char → List Char
  | [] => []
  | c :: rest =>
      if c = ' ' ∨ c = '\n' ∨ c = '\t' ∨ c = '\r' then skipBlanks rest else c :: rest

/-- The parts of a number: its sign, whole digits, fraction digits if there is a point, and
exponent if there is one. -/
structure Numeral where
  negative : Bool
  whole : List Char
  fraction? : Option (List Char)
  exponent? : Option Int

def digits? (input : List Char) : Option (List Char × List Char) :=
  match input.takeWhile Decimal.isDigit with
  | [] => none
  | ds => some (ds, input.dropWhile Decimal.isDigit)

/-- Whole digits: a zero that leads stands alone. -/
def whole? (input : List Char) : Option (List Char × List Char) := do
  let (ds, rest) ← digits? input
  if ds.head? = some '0' ∧ 1 < ds.length then none else return (ds, rest)

def fraction? : List Char → Option (Option (List Char) × List Char)
  | '.' :: rest => do
      let (ds, rest) ← digits? rest
      return (some ds, rest)
  | rest => some (none, rest)

def signedExponent? (input : List Char) : Option (Int × List Char) :=
  match input with
  | '-' :: rest => (digits? rest).map fun (ds, rest) => (-(Decimal.digitsValue ds : Int), rest)
  | '+' :: rest => (digits? rest).map fun (ds, rest) => ((Decimal.digitsValue ds : Int), rest)
  | rest => (digits? rest).map fun (ds, rest) => ((Decimal.digitsValue ds : Int), rest)

def exponentPart? : List Char → Option (Option Int × List Char)
  | 'e' :: rest => (signedExponent? rest).map fun (e, rest) => (some e, rest)
  | 'E' :: rest => (signedExponent? rest).map fun (e, rest) => (some e, rest)
  | rest => some (none, rest)

def numeral? (input : List Char) : Option (Numeral × List Char) := do
  let (negative, rest) := match input with
    | '-' :: rest => (true, rest)
    | rest => (false, rest)
  let (whole, rest) ← whole? rest
  let (fraction, rest) ← fraction? rest
  let (exponent, rest) ← exponentPart? rest
  return (⟨negative, whole, fraction, exponent⟩, rest)

/-- The value of a number.  Plain digits that fit in 64 bits, with or without a sign, are an
integer; minus zero and everything else is a floating-point number. -/
def Numeral.value (n : Numeral) : Json :=
  let magnitude := Decimal.digitsValue n.whole
  let rounded :=
    let fraction := n.fraction?.getD []
    Json.float (Decimal.nearestFloat n.negative (Decimal.digitsValue (n.whole ++ fraction))
      (n.exponent?.getD 0 - fraction.length))
  if n.fraction?.isSome || n.exponent?.isSome then rounded
  else if n.negative then
    if 0 < magnitude ∧ magnitude ≤ Nat.pow 2 63 then .int (-(magnitude : Int)) else rounded
  else if magnitude < Nat.pow 2 64 then .int magnitude
  else rounded

/-- Take a fixed word off the input. -/
def word? : (word input : List Char) → Option (List Char)
  | [], input => some input
  | w :: ws, c :: rest => if w = c then word? ws rest else none
  | _ :: _, [] => none

mutual

/-- A value at the front of the input, which starts with no blank.  The first argument bounds the
number of steps. -/
def value? : Nat → List Char → Option (Json × List Char)
  | 0, _ => none
  | fuel + 1, input =>
      match input with
      | [] => none
      | '"' :: rest => do
          let (text, rest) ← Quoted.decode? (rest.length + 1) rest
          return (.str (String.ofList text), rest)
      | '[' :: rest =>
          match skipBlanks rest with
          | ']' :: rest => some (.arr [], rest)
          | rest => do
              let (items, rest) ← items? fuel rest
              return (.arr items, rest)
      | '{' :: rest =>
          match skipBlanks rest with
          | '}' :: rest => some (.obj [], rest)
          | rest => do
              let (members, rest) ← members? fuel rest
              return (.obj (Object.ofMembers members), rest)
      | 'n' :: _ => (word? "null".toList input).map (.null, ·)
      | 't' :: _ => (word? "true".toList input).map (.bool true, ·)
      | 'f' :: _ => (word? "false".toList input).map (.bool false, ·)
      | _ => do
          let (n, rest) ← numeral? input
          return (n.value, rest)

/-- The items of an array up to its closing bracket; at least one. -/
def items? : Nat → List Char → Option (List Json × List Char)
  | 0, _ => none
  | fuel + 1, input => do
      let (item, rest) ← value? fuel input
      match skipBlanks rest with
      | ']' :: rest => return ([item], rest)
      | ',' :: rest => do
          let (items, rest) ← items? fuel (skipBlanks rest)
          return (item :: items, rest)
      | _ => none

/-- The members of an object up to its closing brace; at least one. -/
def members? : Nat → List Char → Option (List (String × Json) × List Char)
  | 0, _ => none
  | fuel + 1, input =>
      match input with
      | '"' :: rest => do
          let (key, rest) ← Quoted.decode? (rest.length + 1) rest
          match skipBlanks rest with
          | ':' :: rest => do
              let (value, rest) ← value? fuel (skipBlanks rest)
              match skipBlanks rest with
              | '}' :: rest => return ([(String.ofList key, value)], rest)
              | ',' :: rest => do
                  let (members, rest) ← members? fuel (skipBlanks rest)
                  return ((String.ofList key, value) :: members, rest)
              | _ => none
          | _ => none
      | _ => none

end

/-- The value that the whole text is. -/
def read? (text : String) : Option Json := do
  let input := skipBlanks text.toList
  let (value, rest) ← value? (2 * input.length + 1) input
  if (skipBlanks rest).isEmpty then return value else none

end DocumentModel.Json
