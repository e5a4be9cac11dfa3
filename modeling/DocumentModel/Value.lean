/-
Field values.

A field may hold a value of any type: assignment converts what it can and validation reports the
rest.  Embedded documents and typed lists live in the heap; a value holds only a reference to them,
so that several documents can hold the same one.
-/
import DocumentModel.ObjectId
import DocumentModel.Time.Instant

namespace DocumentModel

structure DocRef where
  index : Nat
deriving DecidableEq, Repr

structure ListRef where
  index : Nat
deriving DecidableEq, Repr

/-- A single value. -/
inductive Value where
  | null
  | bool (b : Bool)
  | int (n : Int64)
  | float (x : Float)
  | text (s : String)
  | instant (t : Instant)
  | objectId (id : ObjectId)
  /-- A plain sequence of values. -/
  | array (items : List Value)
  /-- An untyped mapping, its keys in increasing order. -/
  | map (entries : List (String × Value))
  /-- An embedded document. -/
  | document (ref : DocRef)
  /-- A typed list of embedded documents. -/
  | list (ref : ListRef)
deriving Inhabited

namespace Value

/-- Set one entry of a mapping, at the place that keeps its keys in order. -/
def insertEntry (key : String) (value : Value) :
    List (String × Value) → List (String × Value)
  | [] => [(key, value)]
  | (k, v) :: rest =>
      if key = k then (key, value) :: rest
      else if key < k then (key, value) :: (k, v) :: rest
      else (k, v) :: insertEntry key value rest

/-- A mapping from entries in any order.  The last entry of a key counts. -/
def mapOf (entries : List (String × Value)) : Value :=
  .map (entries.foldl (fun acc e => insertEntry e.1 e.2 acc) [])

def isNull : Value → Bool
  | .null => true
  | _ => false

def asBool? : Value → Option Bool
  | .bool b => some b
  | _ => none

def asInt? : Value → Option Int64
  | .int n => some n
  | _ => none

/-- The numeric view; integers widen. -/
def asFloat? : Value → Option Float
  | .float x => some x
  | .int n => some (Float.ofInt n.toInt)
  | _ => none

def asText? : Value → Option String
  | .text s => some s
  | _ => none

def asInstant? : Value → Option Instant
  | .instant t => some t
  | _ => none

def asObjectId? : Value → Option ObjectId
  | .objectId id => some id
  | _ => none

def asArray? : Value → Option (List Value)
  | .array items => some items
  | _ => none

def asDocument? : Value → Option DocRef
  | .document r => some r
  | _ => none

def asList? : Value → Option ListRef
  | .list r => some r
  | _ => none

/-- The documents of a sequence that holds nothing else. -/
def documents? : List Value → Option (List DocRef)
  | [] => some []
  | .document r :: rest => (documents? rest).map (r :: ·)
  | _ :: _ => none

mutual

/-- Equality of values.  Documents and lists are equal only to themselves, and a number that is not
one differs from itself. -/
def same : Value → Value → Bool
  | .null, .null => true
  | .bool a, .bool b => a == b
  | .int a, .int b => a == b
  | .float a, .float b => a == b
  | .text a, .text b => a == b
  | .instant a, .instant b => a == b
  | .objectId a, .objectId b => a == b
  | .array as, .array bs => sameItems as bs
  | .map as, .map bs => sameEntries as bs
  | .document a, .document b => a == b
  | .list a, .list b => a == b
  | _, _ => false

def sameItems : List Value → List Value → Bool
  | [], [] => true
  | a :: as, b :: bs => same a b && sameItems as bs
  | _, _ => false

def sameEntries : List (String × Value) → List (String × Value) → Bool
  | [], [] => true
  | (k, a) :: as, (l, b) :: bs => k == l && same a b && sameEntries as bs
  | _, _ => false

end

end Value

end DocumentModel
