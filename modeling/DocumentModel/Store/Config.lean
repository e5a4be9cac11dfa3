/-
The configuration of a store, and its JSON form.

As an object the known members may stand in any order, at most once each, and what is missing takes
its usual value; other members are passed over without being decoded.  As a sequence the values
stand in the order of the structure, and the last ones may be missing.
-/
import DocumentModel.Json.Printer
import DocumentModel.Json.Reader

namespace DocumentModel

/-- What a store maintains in its documents, and whether it logs what it does. -/
structure StoreConfig where
  /-- The field that takes the time of the first save. -/
  createdField : String
  /-- The field that takes the time of every save. -/
  modifiedField : String
  logOperations : Bool
deriving DecidableEq, Repr

namespace StoreConfig

def usual : StoreConfig := ⟨"created_at", "last_modified_at", true⟩

/-- The usual configuration without logging. -/
def quiet : StoreConfig := { usual with logOperations := false }

def toJson (c : StoreConfig) : Json :=
  .obj [("created_field", .str c.createdField), ("modified_field", .str c.modifiedField),
    ("log_operations", .bool c.logOperations)]

/-- Take a number off the input without working out its value. -/
def skipNumber? (input : List Char) : Option (List Char) :=
  (Json.numeral? input).map (·.2)

mutual

/-- Take any value off the input without decoding it.  The first argument bounds the steps. -/
def skipValue? : Nat → List Char → Option (List Char)
  | 0, _ => none
  | fuel + 1, input =>
      match input with
      | [] => none
      | '"' :: rest => Json.Quoted.skip? rest
      | '[' :: rest =>
          match Json.skipBlanks rest with
          | ']' :: rest => some rest
          | rest => skipItems? fuel rest
      | '\x7b' :: rest =>
          match Json.skipBlanks rest with
          | '\x7d' :: rest => some rest
          | rest => skipMembers? fuel rest
      | 'n' :: _ => Json.word? "null".toList input
      | 't' :: _ => Json.word? "true".toList input
      | 'f' :: _ => Json.word? "false".toList input
      | _ => skipNumber? input

def skipItems? : Nat → List Char → Option (List Char)
  | 0, _ => none
  | fuel + 1, input => do
      let rest ← skipValue? fuel input
      match Json.skipBlanks rest with
      | ']' :: rest => return rest
      | ',' :: rest => skipItems? fuel (Json.skipBlanks rest)
      | _ => none

def skipMembers? : Nat → List Char → Option (List Char)
  | 0, _ => none
  | fuel + 1, input =>
      match input with
      | '"' :: rest => do
          let rest ← Json.Quoted.skip? rest
          match Json.skipBlanks rest with
          | ':' :: rest => do
              let rest ← skipValue? fuel (Json.skipBlanks rest)
              match Json.skipBlanks rest with
              | '\x7d' :: rest => return rest
              | ',' :: rest => skipMembers? fuel (Json.skipBlanks rest)
              | _ => none
          | _ => none
      | _ => none

end

/-- A text at the front of the input. -/
def text? : List Char → Option (String × List Char)
  | '"' :: rest =>
      (Json.Quoted.decode? (rest.length + 1) rest).map fun (s, rest) => (String.ofList s, rest)
  | _ => none

/-- A truth value at the front of the input. -/
def flag? (input : List Char) : Option (Bool × List Char) :=
  match input with
  | 't' :: _ => (Json.word? "true".toList input).map (true, ·)
  | 'f' :: _ => (Json.word? "false".toList input).map (false, ·)
  | _ => none

/-- The values read so far. -/
structure Partial where
  created? : Option String
  modified? : Option String
  log? : Option Bool

/-- The configuration with the usual values for what is missing. -/
def Partial.complete (p : Partial) : StoreConfig :=
  ⟨p.created?.getD usual.createdField, p.modified?.getD usual.modifiedField,
    p.log?.getD usual.logOperations⟩

def member? (p : Partial) (key : String) (input : List Char) : Option (Partial × List Char) :=
  if key = "created_field" then
    if p.created?.isSome then none
    else (text? input).map fun (s, rest) => ({ p with created? := some s }, rest)
  else if key = "modified_field" then
    if p.modified?.isSome then none
    else (text? input).map fun (s, rest) => ({ p with modified? := some s }, rest)
  else if key = "log_operations" then
    if p.log?.isSome then none
    else (flag? input).map fun (b, rest) => ({ p with log? := some b }, rest)
  else (skipValue? (2 * input.length + 1) input).map fun rest => (p, rest)

def members? : Nat → Partial → List Char → Option (Partial × List Char)
  | 0, _, _ => none
  | fuel + 1, p, input => do
      let (key, rest) ← text? input
      match Json.skipBlanks rest with
      | ':' :: rest => do
          let (p, rest) ← member? p key (Json.skipBlanks rest)
          match Json.skipBlanks rest with
          | '\x7d' :: rest => return (p, rest)
          | ',' :: rest => members? fuel p (Json.skipBlanks rest)
          | _ => none
      | _ => none

/-- Read the values of a sequence up to the closing bracket; `position` counts those before. -/
def positional? : (position : Nat) → Nat → Partial → List Char → Option (Partial × List Char)
  | _, 0, _, _ => none
  | position, fuel + 1, p, input => do
      let (p, rest) ← match position with
        | 0 => (text? input).map fun (s, rest) => ({ p with created? := some s }, rest)
        | 1 => (text? input).map fun (s, rest) => ({ p with modified? := some s }, rest)
        | 2 => (flag? input).map fun (b, rest) => ({ p with log? := some b }, rest)
        | _ => none
      match Json.skipBlanks rest with
      | ']' :: rest => return (p, rest)
      | ',' :: rest => positional? (position + 1) fuel p (Json.skipBlanks rest)
      | _ => none

/-- Read a configuration. -/
def parse? (source : String) : Option StoreConfig := do
  let blank : Partial := ⟨none, none, none⟩
  let (p, rest) ← match Json.skipBlanks source.toList with
    | '\x7b' :: rest =>
        match Json.skipBlanks rest with
        | '\x7d' :: rest => some (blank, rest)
        | rest => members? (rest.length + 1) blank rest
    | '[' :: rest =>
        match Json.skipBlanks rest with
        | ']' :: rest => some (blank, rest)
        | rest => positional? 0 4 blank rest
    | _ => none
  if (Json.skipBlanks rest).isEmpty then return p.complete else none

end StoreConfig

end DocumentModel
