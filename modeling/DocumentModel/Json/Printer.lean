/-
Compact JSON text: no spaces, members in their order, and only what must be escaped is escaped.
-/
import DocumentModel.Json.Quoted
import DocumentModel.Decimal.Notation

namespace DocumentModel.Json

mutual

/-- The characters of a value's text.  A number that is not finite has no JSON form but `null`. -/
def chars : Json → List Char
  | .null => "null".toList
  | .bool true => "true".toList
  | .bool false => "false".toList
  | .int n => (toString n).toList
  | .float x =>
      if x.isFinite then (Decimal.Layout.json.format x).toList else "null".toList
  | .str s => Quoted.encode s.toList
  | .arr items => '[' :: (itemChars items ++ [']'])
  | .obj members => '{' :: (memberChars members ++ ['}'])

def itemChars : List Json → List Char
  | [] => []
  | [item] => chars item
  | item :: rest => chars item ++ ',' :: itemChars rest

def memberChars : List (String × Json) → List Char
  | [] => []
  | [(key, value)] => Quoted.encode key.toList ++ ':' :: chars value
  | (key, value) :: rest =>
      Quoted.encode key.toList ++ ':' :: (chars value ++ ',' :: memberChars rest)

end

def render (json : Json) : String :=
  String.ofList json.chars

end DocumentModel.Json
