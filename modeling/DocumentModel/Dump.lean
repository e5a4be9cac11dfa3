/-
Values, fields and record types as text for people: constructor names with their parts in
parentheses or braces, texts quoted.
-/
import DocumentModel.Flattening
import DocumentModel.Text.Escaped

namespace DocumentModel.Dump

/-- Parts between commas. -/
def commas (parts : List String) : String :=
  ", ".intercalate parts

/-- A name and one part. -/
def tagged (name part : String) : String :=
  name ++ "(" ++ part ++ ")"

/-- A name and named parts. -/
def record (name : String) (parts : List (String × String)) : String :=
  name ++ " \x7b " ++ commas (parts.map fun p => p.1 ++ ": " ++ p.2) ++ " \x7d"

def sequence (parts : List String) : String :=
  "[" ++ commas parts ++ "]"

/-- A mapping with quoted keys. -/
def mapping (parts : List (String × String)) : String :=
  "\x7b" ++ commas (parts.map fun p => Text.escaped p.1 ++ ": " ++ p.2) ++ "\x7d"

def flag (b : Bool) : String :=
  if b then "true" else "false"

def optional {α : Type} (text : α → String) : Option α → String
  | some a => tagged "Some" (text a)
  | none => "None"

def number (x : Float) : String :=
  Decimal.Layout.dump.format x

mutual

def json : Json → String
  | .null => "Null"
  | .bool b => tagged "Bool" (flag b)
  | .int n => tagged "Number" (toString n)
  | .float x => tagged "Number" (Decimal.Layout.json.format x)
  | .str s => tagged "String" (Text.escaped s)
  | .arr items => "Array " ++ sequence (jsonItems items)
  | .obj members => "Object " ++ mapping (jsonMembers members)

def jsonItems : List Json → List String
  | [] => []
  | item :: rest => json item :: jsonItems rest

def jsonMembers : List (String × Json) → List (String × String)
  | [] => []
  | (key, value) :: rest => (key, json value) :: jsonMembers rest

end

/-- An embedded document: the name of its type and its data. -/
def document (h : Heap) (r : DocRef) : String :=
  tagged "Embedded" (h.documentType r ++ " " ++ mapping (jsonMembers (h.data r)))

/-- A typed list. -/
def list (h : Heap) (r : ListRef) : String :=
  record "EmbeddedList"
    [("schema", Text.escaped (((h.list? r).map (·.schema.name)).getD "")),
     ("items", sequence ((h.items r).map (document h)))]

mutual

def value (h : Heap) : Value → String
  | .null => "Null"
  | .bool b => tagged "Bool" (flag b)
  | .int n => tagged "Int" (toString n.toInt)
  | .float x => tagged "Float" (number x)
  | .text s => tagged "Text" (Text.escaped s)
  | .instant t => tagged "DateTime" (Time.rfc3339Zulu t)
  | .objectId id => tagged "ObjectId" (tagged "ObjectId" (Text.escaped id.toHex))
  | .array items => tagged "Array" (sequence (valueItems h items))
  | .map entries => tagged "Map" (mapping (valueEntries h entries))
  | .document r => tagged "Embedded" (document h r)
  | .list r => tagged "List" (list h r)

def valueItems (h : Heap) : List Value → List String
  | [] => []
  | item :: rest => value h item :: valueItems h rest

def valueEntries (h : Heap) : List (String × Value) → List (String × String)
  | [] => []
  | (key, v) :: rest => (key, value h v) :: valueEntries h rest

end

def lengths (rules : LengthRules) : String :=
  record "LengthRules"
    [("length", optional toString rules.fixed?),
     ("min_length", optional toString rules.min?),
     ("max_length", optional toString rules.max?)]

def range {α : Type} (text : α → String) (r : Range α) : String :=
  record "Range" [("min_value", optional text r.min?), ("max_value", optional text r.max?)]

def default (h : Heap) : Default → String
  | .value v => tagged "Value" (value h v)
  | .factory _ => "Factory(..)"

def role : Role → String
  | .document => "Document"
  | .embedded => "Embedded"

mutual

def schema (h : Heap) (s : Schema) : String :=
  match s with
  | ⟨_, name, r, parent?, fs⟩ =>
      record "Schema"
        [("name", Text.escaped name), ("kind", role r),
         ("parent", optional (fun p => Text.escaped p.name) parent?),
         ("fields", sequence (fields h fs))]
termination_by structural s

def fields (h : Heap) (fs : List Field) : List String :=
  match fs with
  | [] => []
  | f :: rest => field h f :: fields h rest
termination_by structural fs

def field (h : Heap) (f : Field) : String :=
  match f with
  | ⟨name, required, default?, k⟩ =>
      record "Field"
        [("name", Text.escaped name), ("required", flag required),
         ("default", optional (default h) default?), ("kind", kind h k)]
termination_by structural f

def kind (h : Heap) (k : Kind) : String :=
  match k with
  | .boolean => "Boolean"
  | .dateTime => "DateTime"
  | .objectId => "ObjectId"
  | .float r => tagged "Float" (range number r)
  | .integer r => tagged "Integer" (range (fun n => toString n.toInt) r)
  | .string rules =>
      tagged "String" (record "StringRules"
        [("lengths", lengths rules.lengths),
         ("pattern", optional (fun p => tagged "Regex" (Text.escaped p.source)) rules.pattern?),
         ("choices", optional (fun cs => sequence (cs.map Text.escaped)) rules.choices?)])
  | .array rules check? =>
      tagged "Array" (record "ArrayRules"
        [("lengths", lengths rules),
         ("validate_item", match check? with
           | some _ => "Some(\"..\")"
           | none => "None")])
  | .embedded s => tagged "Embedded" (schema h s)
  | .list s => tagged "List" (schema h s)
termination_by structural k

end

end DocumentModel.Dump
