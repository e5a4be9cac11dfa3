/-
The rules of a field, and what validation finds.

A rule is a message and the condition under which it is said.  The rules of a field are stated here
by what the field stores, all of them, in their order; the value decides which are broken.  A
document without item checks is found to break exactly the rules that its stored values break.
-/
import DocumentModel.Proofs.Reachable
import DocumentModel.Proofs.Validity
import Mathlib.Data.List.TakeWhile

namespace DocumentModel

/-- Something to ask of a value: what is said if it is broken, and whether it is. -/
structure Rule where
  message : String
  broken : Bool

namespace Rule

/-- What the broken ones among some rules say, in their order. -/
def said (rules : List Rule) : List String :=
  (rules.filter (·.broken)).map (·.message)

theorem said_append (first second : List Rule) :
    said (first ++ second) = said first ++ said second := by
  simp [said]

theorem said_cons (message : String) (broken : Bool) (rest : List Rule) :
    said (⟨message, broken⟩ :: rest) = (if broken then [message] else []) ++ said rest := by
  cases broken <;> simp [said]

end Rule

/-- An exact length replaces the bounds. -/
def LengthRules.rules (rules : LengthRules) (length : Nat) (unit : String) : List Rule :=
  match rules.fixed? with
  | some exact =>
      [⟨"is the wrong length (should be " ++ toString exact ++ " " ++ unit ++ ")", length ≠ exact⟩]
  | none =>
      (rules.min?.toList.map fun least =>
        ⟨"is too short (minimum is " ++ toString least ++ " " ++ unit ++ ")", length < least⟩) ++
      rules.max?.toList.map fun most =>
        ⟨"is too long (maximum is " ++ toString most ++ " " ++ unit ++ ")", most < length⟩

/-- The bounds of a number, given an order and a text for numbers. -/
def Range.rules {α : Type} (range : Range α) (less : α → α → Bool) (text : α → String) (x : α) :
    List Rule :=
  (range.min?.toList.map fun least =>
    ⟨"is too small (minimum is " ++ text least ++ ")", less x least⟩) ++
  range.max?.toList.map fun most =>
    ⟨"is too big (maximum is " ++ text most ++ ")", less most x⟩

/-- Nothing is asked of a text that may be missing and is.  Else its length counts, and its format
unless it is missing. -/
def StringRules.rules (rules : StringRules) (required missing : Bool) (text : String) :
    List Rule :=
  if missing && !required then []
  else rules.lengths.rules text.length "characters" ++
    rules.pattern?.toList.map fun p => ⟨"is in the wrong format", !missing && !p.isMatch text⟩

/-- The rules of a kind.  Nothing is asked of null, except for the length of a text or of a sequence
that is required.  A value of another kind breaks one rule, and its bounds are not asked about. -/
def Kind.rules (required missing : Bool) : Kind → Value → List Rule
  | .string rules, .null => rules.rules required missing ""
  | .string rules, .text s => rules.rules required missing s
  | .array lengths _, .null => if required then lengths.rules 0 "items" else []
  | .array lengths _, .array items => lengths.rules items.length "items"
  | _, .null => []
  | .boolean, .bool _ => []
  | .boolean, _ => [⟨"must be a valid boolean", true⟩]
  | .dateTime, .instant _ => []
  | .dateTime, _ => [⟨"must be a valid date and time", true⟩]
  | .float range, .float x => range.rules (· < ·) Decimal.Layout.positional.format x
  | .float _, _ => [⟨"must be a float", true⟩]
  | .integer range, .int n => range.rules (· < ·) (fun n => toString n.toInt) n
  | .integer _, _ => [⟨"must be a integer", true⟩]
  | .objectId, .objectId _ => []
  | .objectId, _ => [⟨"must be a valid Object Id", true⟩]
  | _, _ => []

namespace Field

/-- Is there no value?  Null is none, blank text is none for a string field, and an empty sequence
is none for an array or a list field. -/
def missing (h : Heap) (f : Field) (v : Value) : Bool :=
  match f.kind, v with
  | _, .null => true
  | .string _, .text s => s.toList.all Text.isBlank
  | .array _ _, .array items => items.isEmpty
  | .list _, .list l => (h.items l).isEmpty
  | _, _ => false

/-- The rules of a field for what it stores. -/
def rules (h : Heap) (f : Field) (refused : Bool) (v : Value) : List Rule :=
  ⟨notAList, refused⟩ :: ⟨isRequired, f.required && f.missing h v⟩ ::
    f.kind.rules f.required (f.missing h v) v

end Field

/-- Does the kind come with a check for each item? -/
def Kind.checksItems : Kind → Bool
  | .array _ (some _) => true
  | _ => false

/-! What is said about a value is what its broken rules say. -/

/-- Nothing is left of a text that is nothing but blanks, and of no other. -/
theorem Text.isEmpty_trim (text : String) : (Text.trim text).isEmpty = text.toList.all Text.isBlank := by
  rw [Bool.eq_iff_iff, String.isEmpty_iff, List.all_eq_true, trim, ← String.toList_inj,
    String.toList_ofList, trimChars]
  change (dropBlanks (dropBlanks text.toList).reverse).reverse = [] ↔ _
  rw [List.reverse_eq_nil_iff]
  constructor
  · intro hnil
    have hrest : ∀ c ∈ dropBlanks text.toList, isBlank c = true := by
      simpa using List.dropWhile_eq_nil_iff.mp hnil
    have hfront : dropBlanks text.toList = [] := by
      cases hdrop : dropBlanks text.toList with
      | nil => rfl
      | cons c rest =>
          have hblank := hrest c (by rw [hdrop]; exact List.mem_cons_self)
          have hbare : isBlank c = false := isBlank_of_mem_head?_dropBlanks (by rw [hdrop]; rfl)
          rw [hblank] at hbare
          cases hbare
    exact List.dropWhile_eq_nil_iff.mp hfront
  · intro hall
    rw [dropBlanks, dropBlanks, List.dropWhile_eq_nil_iff.mpr hall]
    rfl

theorem Field.missing_eq_isAbsent (h : Heap) (f : Field) (v : Value) :
    f.missing h v = f.isAbsent h v := by
  obtain ⟨name, required, default?, kind⟩ := f
  cases kind with
  | string rules =>
      cases v with
      | text s => exact (Text.isEmpty_trim s).symm
      | _ => rfl
  | _ => cases v <;> rfl

theorem LengthRules.said_rules (rules : LengthRules) (length : Nat) (unit : String) :
    Rule.said (rules.rules length unit) = rules.messages length unit := by
  obtain ⟨fixed?, min?, max?⟩ := rules
  rw [LengthRules.rules, messages]
  cases fixed? with
  | some exact => by_cases hlength : length = exact <;> simp [Rule.said, hlength]
  | none =>
      simp only [Rule.said_append]
      congr 1
      · cases min? with
        | none => rfl
        | some least => by_cases hlength : length < least <;> simp [Rule.said, hlength]
      · cases max? with
        | none => rfl
        | some most => by_cases hlength : most < length <;> simp [Rule.said, hlength]

theorem Range.said_rules {α : Type} (range : Range α) (less : α → α → Bool) (text : α → String)
    (x : α) : Rule.said (range.rules less text x) = range.messages less text x := by
  obtain ⟨min?, max?⟩ := range
  rw [Range.rules, messages, Rule.said_append]
  congr 1
  · cases min? with
    | none => rfl
    | some least => cases hless : less x least <;> simp [Rule.said, hless]
  · cases max? with
    | none => rfl
    | some most => cases hless : less most x <;> simp [Rule.said, hless]

theorem StringRules.said_rules (rules : StringRules) (required missing : Bool) (text : String) :
    Rule.said (rules.rules required missing text) =
      if missing && !required then []
      else rules.lengths.messages text.length "characters" ++
        match rules.pattern? with
        | some p => if missing || p.isMatch text then [] else ["is in the wrong format"]
        | none => [] := by
  rw [StringRules.rules]
  split
  · rfl
  · rw [Rule.said_append, LengthRules.said_rules]
    cases rules.pattern? with
    | none => rfl
    | some p => cases missing <;> cases hmatch : p.isMatch text <;> simp [Rule.said, hmatch]

/-- By the rules of its kind alone: a stored value is one that the kind admits. -/
theorem Kind.said_rules {h : Heap} (kind : Kind) (required missing : Bool) {v : Value}
    (hv : kind.Admits h v) :
    Rule.said (kind.rules required missing v) = kind.messages required missing v := by
  cases kind with
  | string rules =>
      rcases hv with rfl | ⟨s, rfl, _⟩
      · exact StringRules.said_rules rules required missing ""
      · exact StringRules.said_rules rules required missing s
  | array lengths check? =>
      rcases hv with rfl | ⟨items, rfl⟩
      · cases required
        · rfl
        · exact LengthRules.said_rules lengths 0 "items"
      · exact LengthRules.said_rules lengths items.length "items"
  | float range =>
      cases v with
      | int n => exact absurd rfl (hv n)
      | float x => exact Range.said_rules range (· < ·) Decimal.Layout.positional.format x
      | _ => rfl
  | integer range =>
      cases v with
      | int n => exact Range.said_rules range (· < ·) (fun n => toString n.toInt) n
      | _ => rfl
  | _ => cases v <;> rfl

theorem Document.said_rules {h : Heap} {d : Document} {f : Field}
    (hadmits : f.kind.Admits h (d.value f.name)) :
    Rule.said (f.rules h (d.refused f.name) (d.value f.name)) = d.faults h f := by
  rw [Field.rules, Rule.said_cons, Rule.said_cons, Kind.said_rules f.kind _ _ hadmits,
    Field.missing_eq_isAbsent]
  rfl

/-! Without item checks each field adds what is wrong with it, and nothing else. -/

theorem Kind.checkItems_plain (inner : DocRef → Session → Session × Errors) (d : Document)
    (name : String) (v : Value) (p : Pass) {kind : Kind} (hplain : kind.checksItems = false) :
    kind.checkItems inner d name v p = p := by
  rw [checkItems.eq_def]
  cases kind with
  | array lengths check? =>
      cases check? with
      | none => rfl
      | some check => cases hplain
  | _ => rfl

namespace Document

variable {inner : DocRef → Session → Session × Errors}

theorem judge_plain (inner : DocRef → Session → Session × Errors) (d : Document) (p : Pass)
    {f : Field} (hplain : f.kind.checksItems = false) :
    d.judge inner p f = p.addAll f.name (d.faults p.session.heap f) := by
  rw [judge_eq, Kind.checkItems_plain inner d f.name _ _ hplain]

theorem foldl_judge_plain (inner : DocRef → Session → Session × Errors) (d : Document)
    {fields : List Field} (hplain : ∀ f ∈ fields, f.kind.checksItems = false) (p : Pass) :
    (fields.foldl (d.judge inner) p).errors.entries =
      p.errors.entries ++ fields.flatMap fun f =>
        (d.faults p.session.heap f).map fun message => (f.name, message) := by
  induction fields generalizing p with
  | nil => simp
  | cons f rest ih =>
      obtain ⟨hfirst, hrest⟩ := List.forall_mem_cons.mp hplain
      rw [List.foldl_cons, judge_plain inner d p hfirst, ih hrest, Pass.entries_addAll,
        List.flatMap_cons, List.append_assoc]
      rfl

end Document

/-- Validation finds the broken rules: for each field in the order of declaration those that its
stored value breaks, whatever errors there were before.  The values stay. -/
theorem validate_finds_broken {types : List Schema} {s : Session} (hs : Reachable types s)
    {r : DocRef} {d : Document} (hd : s.heap.document? r = some d)
    (hplain : ∀ f ∈ d.schema.fields, f.kind.checksItems = false) :
    ∃ d', (s.validate r).2.heap.document? r = some d' ∧ d'.schema = d.schema ∧
      d'.slots = d.slots ∧ (s.validate r).1 = d'.errors.isEmpty ∧
      d'.errors.entries = d.schema.fields.flatMap fun f =>
        (Rule.said (f.rules s.heap (d.refused f.name) (d.value f.name))).map
          fun message => (f.name, message) := by
  have hlt := Heap.document?_lt hd
  obtain ⟨depth, hdepth⟩ : ∃ depth, s.heap.documents.length = depth + 1 :=
    ⟨s.heap.documents.length - 1, by omega⟩
  obtain ⟨hfound, hleft⟩ := Session.document?_validateAt depth hd
  rw [Session.validate, hdepth]
  refine ⟨_, hleft, rfl, rfl, rfl, ?_⟩
  change (s.validateAt (depth + 1) r).2.entries = _
  rw [hfound, Document.foldl_judge_plain _ d hplain]
  refine List.flatMap_congr fun f hf => ?_
  obtain ⟨slot, hslot, hfits⟩ := hs.sound.slot_of_field hs.declared hd hf
  rw [Document.said_rules (Document.value_of_slot? hslot ▸ hfits.value)]

/-! A required text that is missing, a number that is too big, and a refused sequence. -/

def orderFields : List Field :=
  [⟨"code", true, none, .string ⟨⟨none, some 2, none⟩, none, none⟩⟩,
    ⟨"count", false, none, .integer ⟨none, some 5⟩⟩,
    ⟨"parts", true, none, .array ⟨none, some 1, none⟩ none⟩]

def orderType : Schema :=
  .document 0 "Order" orderFields

def orderRun : Session :=
  [.new orderType, .set ⟨0⟩ "code" (.text " "), .set ⟨0⟩ "count" (.int 9),
    .set ⟨0⟩ "parts" (.text "bolt")].foldl Operation.perform .empty

/-- Missing values are still measured; the wrong number is not called too small as well. -/
theorem validate_finds_broken_order :
    ∃ d', (orderRun.validate ⟨0⟩).2.heap.document? ⟨0⟩ = some d' ∧
      (orderRun.validate ⟨0⟩).1 = false ∧ d'.errors.entries =
        [("code", "is required"), ("code", "is too short (minimum is 2 characters)"),
          ("count", "is too big (maximum is 5)"), ("parts", "is not a list."),
          ("parts", "is required"), ("parts", "is too short (minimum is 1 items)")] := by
  have hstart : Reachable [orderType] .empty :=
    .of_plain (by simp [orderFields, Kind.schema?])
  have hreachable : Reachable [orderType] orderRun :=
    hstart.run (by simp [Operation.Over, Value.Proper.text, Value.Proper.int])
  have hplain : ∀ f ∈ orderFields, f.kind.checksItems = false := by
    simp [orderFields, Kind.checksItems]
  obtain ⟨d', hd', _, _, hresult, hentries⟩ :=
    validate_finds_broken hreachable (r := ⟨0⟩) rfl hplain
  refine ⟨d', hd', ?_, hentries.trans (by decide +kernel)⟩
  rw [hresult, Errors.isEmpty, hentries]
  decide +kernel

end DocumentModel
