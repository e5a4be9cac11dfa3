/-
Document identifiers: twelve bytes, written as twenty-four hexadecimal digits.
-/
import DocumentModel.Text.Hex

namespace DocumentModel

/-- An identifier, kept as its twenty-four hexadecimal digits. -/
structure ObjectId where
  digits : Vector (Fin 16) 24
deriving DecidableEq

/-- There are digits, so numerals can stand for them. -/
instance neZero_sixteen : @NeZero Nat Zero.ofOfNat0 16 :=
  ⟨by decide⟩

namespace ObjectId

/-- The value of a hexadecimal digit, as a number below sixteen. -/
def digit? (c : Char) : Option (Fin 16) := do
  let n ← Text.hexValue? c
  if h : n < 16 then return ⟨n, h⟩ else none

def toHex (id : ObjectId) : String :=
  String.ofList (id.digits.toList.map fun d => Text.hexDigit d.val)

/-- Exactly twenty-four hexadecimal digits of either case are an identifier. -/
def parse? (text : String) : Option ObjectId := do
  let digits ← text.toList.mapM digit?
  if h : digits.length = 24 then
    return ⟨⟨digits.toArray, by simpa using h⟩⟩
  else none

theorem mapM_digit?_map_hexDigit (digits : List (Fin 16)) :
    (digits.map fun d => Text.hexDigit d.val).mapM digit? = some digits := by
  induction digits with
  | nil => rfl
  | cons d rest ih =>
      simp [List.mapM_cons, digit?, Text.hexValue?_hexDigit, ih]

/-- The text of an identifier is read as that identifier. -/
theorem parse?_toHex (id : ObjectId) : parse? id.toHex = some id := by
  obtain ⟨⟨digits, hsize⟩⟩ := id
  have hread : (toHex ⟨⟨digits, hsize⟩⟩).toList.mapM digit? = some digits.toList := by
    rw [toHex, String.toList_ofList, mapM_digit?_map_hexDigit]
    rfl
  rw [parse?, hread]
  simp [hsize]

/-- The identifier whose digits spell a number, the last digit its units. -/
def ofNat (n : Nat) : ObjectId :=
  ⟨Vector.ofFn fun i => ⟨n / Nat.pow 16 (23 - i.val) % 16, Nat.mod_lt _ (by decide)⟩⟩

end ObjectId

end DocumentModel
