/-
Values as JSON and back.

Plain JSON has no identifiers and no date-times.  They are written as objects with one member,
`$oid` or `$date`.  A one-member object of either name is read as such a value if its member is well
formed, and stays a mapping otherwise.
-/
import DocumentModel.Value
import DocumentModel.Json
import DocumentModel.Time.Rfc3339

namespace DocumentModel

namespace ObjectId

/-- An identifier as JSON. -/
def toJson (id : ObjectId) : Json :=
  .obj [("$oid", .str id.toHex)]

end ObjectId

namespace Instant

/-- A number of milliseconds as the member of a date: text from 1970 to the end of 9999, else a
64-bit number written as text. -/
def dateMember (millis : Int) : Json :=
  match Time.millisText? millis with
  | some text => .str text
  | none => .obj [("$numberLong", .str (toString millis))]

/-- An instant as JSON, cut to the millisecond before it. -/
def toJson (t : Instant) : Json :=
  .obj [("$date", dateMember t.floorMillis)]

end Instant

namespace Value

def fitsInt64 (n : Int) : Bool :=
  Int64.minValue.toInt ≤ n && n ≤ Int64.maxValue.toInt

/-- A 64-bit integer written as text: a sign or none, and digits. -/
def longText? (s : String) : Option Int :=
  let (negative, digits) := match s.toList with
    | '-' :: rest => (true, rest)
    | '+' :: rest => (false, rest)
    | rest => (false, rest)
  let magnitude : Int := Decimal.digitsValue digits
  let n := if negative then -magnitude else magnitude
  if digits.isEmpty || !digits.all Decimal.isDigit || !fitsInt64 n then none else some n

/-- The milliseconds that the member of a date stands for. -/
def dateMillis? : Json → Option Int
  | .int n => if fitsInt64 n then some n else none
  | .str s => Time.readMillis? s
  | .obj [("$numberLong", .str s)] => longText? s
  | .arr [.str s] => longText? s
  | _ => none

/-- The identifier or the date-time that an object stands for. -/
def ofWrapper? : Json.Object → Option Value
  | [("$oid", .str s)] => (ObjectId.parse? s).map .objectId
  | [("$date", json)] => (dateMillis? json).map fun ms => .instant (Instant.ofMillis ms)
  | _ => none

mutual

/-- The value that some JSON stands for.  An integer beyond 64 bits becomes the nearest
floating-point number. -/
def ofJson : Json → Value
  | .null => .null
  | .bool b => .bool b
  | .int n => if fitsInt64 n then .int (Int64.ofInt n) else .float (Float.ofInt n)
  | .float x => .float x
  | .str s => .text s
  | .arr items => .array (ofItems items)
  | .obj members => (ofWrapper? members).getD (mapOf (ofMembers members))

def ofItems : List Json → List Value
  | [] => []
  | item :: rest => ofJson item :: ofItems rest

def ofMembers : List (String × Json) → List (String × Value)
  | [] => []
  | (key, value) :: rest => (key, ofJson value) :: ofMembers rest

end

mutual

/-- A value as JSON, given the JSON of documents and lists.  A number that is not finite has no JSON
form but `null`. -/
def toJsonWith (document : DocRef → Json) (list : ListRef → Json) : Value → Json
  | .null => .null
  | .bool b => .bool b
  | .int n => .int n.toInt
  | .float x => if x.isFinite then .float x else .null
  | .text s => .str s
  | .instant t => t.toJson
  | .objectId id => id.toJson
  | .array items => .arr (itemsToJson document list items)
  | .map entries => .obj (entriesToJson document list entries)
  | .document r => document r
  | .list r => list r

def itemsToJson (document : DocRef → Json) (list : ListRef → Json) : List Value → List Json
  | [] => []
  | item :: rest => toJsonWith document list item :: itemsToJson document list rest

def entriesToJson (document : DocRef → Json) (list : ListRef → Json) :
    List (String × Value) → List (String × Json)
  | [] => []
  | (key, value) :: rest =>
      (key, toJsonWith document list value) :: entriesToJson document list rest

end

end Value

end DocumentModel
