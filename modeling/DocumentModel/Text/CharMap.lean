/-
Maps from characters to characters.

A table is written as text: `DF=53+53` for a character and the characters it is mapped to.  The
entries increase, so that a character is looked up by bisection.
-/
import DocumentModel.Text.CharSet

namespace DocumentModel.Text

/-- Characters and what they are mapped to, in increasing order. -/
structure CharMap where
  mappings : Array (Nat × List Char)

namespace CharMap

/-- The mapping an entry stands for. -/
def mappingOf (entry : List Char) : Nat × List Char :=
  match splitAt '=' entry with
  | [key, values] => (hexNumber key, (splitAt '+' values).map fun v => Char.ofNat (hexNumber v))
  | _ => (0, [])

/-- The map that a table's text spells out. -/
def ofText (text : String) : CharMap :=
  ⟨((entries text).map mappingOf).toArray⟩

/-- Look for `n` among the mappings from position `low` up to `high`. -/
def bisect (mappings : Array (Nat × List Char)) (n low high : Nat) : Option (List Char) :=
  if _h : low < high then
    match mappings[(low + high) / 2]? with
    | none => none
    | some (key, values) =>
        if n < key then bisect mappings n low ((low + high) / 2)
        else if key < n then bisect mappings n ((low + high) / 2 + 1) high
        else some values
  else none
termination_by high - low

/-- What a character is mapped to, if the map has it. -/
def get? (t : CharMap) (c : Char) : Option (List Char) :=
  bisect t.mappings c.toNat 0 t.mappings.size

def keys (t : CharMap) : CharSet :=
  .ofRanges (t.mappings.toList.map fun m => (m.1, m.1))

end CharMap

end DocumentModel.Text
