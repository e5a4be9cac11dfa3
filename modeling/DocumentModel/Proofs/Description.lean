/-
JSON that describes a document.

`Schema.Describes` is the data that the documents of a type flatten to: for each field a member that
the field takes over as it is, nested objects for the documents in embedded and list fields.
Members without a field may stand beside them at the top, but not in nested objects.
-/
import DocumentModel.Proofs.Assignment
import DocumentModel.Proofs.Settled

namespace DocumentModel

/-- JSON that a field of a kind stores as it is read. -/
def Kind.Accepts : Kind → Json → Prop
  | .string _, j => j = .null ∨ ∃ s, j = .str s ∧ Text.Bare s
  | .float _, j => ∀ n, j ≠ .int n
  | .objectId, j => ∀ s, j = .str s → ObjectId.parse? s = none
  | .array _ _, j => j = .null ∨ ∃ items, j = .arr items
  | _, _ => True

mutual

/-- Data that describes a document of a type. -/
inductive Schema.Describes : Schema → Json.Object → Prop
  | intro {s : Schema} {data : Json.Object} (hall : ∀ f ∈ s.fields, ∃ j, data.get? f.name = some j)
      (hfields : ∀ f ∈ s.fields, ∀ j, data.get? f.name = some j → f.kind.Describes j) :
      Schema.Describes s data

/-- JSON that describes what a field of a kind holds. -/
inductive Kind.Describes : Kind → Json → Prop
  | plain {kind : Kind} {j : Json} (hkind : kind.schema? = none) (hsettled : j.Settled)
      (haccepts : kind.Accepts j) : Kind.Describes kind j
  | absent {schema : Schema} : Kind.Describes (.embedded schema) .null
  | embedded {schema : Schema} {data : Json.Object} (hkeys : data.map Prod.fst = schema.fieldNames)
      (hdata : Schema.Describes schema data) : Kind.Describes (.embedded schema) (.obj data)
  | list {schema : Schema} {datas : List Json.Object}
      (hkeys : ∀ data ∈ datas, data.map Prod.fst = schema.fieldNames)
      (hdatas : ∀ data ∈ datas, Schema.Describes schema data) :
      Kind.Describes (.list schema) (.arr (datas.map .obj))

end

/-- Only the members that belong to fields matter. -/
theorem Schema.Describes.of_get?_eq {s : Schema} {data data' : Json.Object}
    (hdata : s.Describes data) (hget : ∀ f ∈ s.fields, data'.get? f.name = data.get? f.name) :
    s.Describes data' := by
  cases hdata with
  | intro hall hfields =>
      refine .intro (fun f hf => ?_) fun f hf j hj => ?_
      · rw [hget f hf]
        exact hall f hf
      · rw [hget f hf] at hj
        exact hfields f hf j hj

/-- Kinds that differ in their rules only. -/
inductive Kind.Like : Kind → Kind → Prop
  | boolean : Kind.Like .boolean .boolean
  | dateTime : Kind.Like .dateTime .dateTime
  | float (range range' : Range Float) : Kind.Like (.float range) (.float range')
  | integer (range range' : Range Int64) : Kind.Like (.integer range) (.integer range')
  | objectId : Kind.Like .objectId .objectId
  | string (rules rules' : StringRules) : Kind.Like (.string rules) (.string rules')
  | array (lengths lengths' : LengthRules) (check? check?' : Option (String → Value → Check)) :
      Kind.Like (.array lengths check?) (.array lengths' check?')
  | embedded (schema : Schema) : Kind.Like (.embedded schema) (.embedded schema)
  | list (schema : Schema) : Kind.Like (.list schema) (.list schema)

theorem Kind.Like.refl (kind : Kind) : kind.Like kind := by
  cases kind <;> constructor

/-- A type has all the fields of another, rules apart, and may have more. -/
def Schema.Covers (s t : Schema) : Prop :=
  ∀ f ∈ t.fields, ∃ g ∈ s.fields, g.name = f.name ∧ g.kind.Like f.kind

/-- Two types have the same fields, rules apart. -/
structure Schema.Alike (s t : Schema) : Prop where
  names : s.fieldNames = t.fieldNames
  covers : s.Covers t

theorem Schema.Covers.refl (s : Schema) : s.Covers s :=
  fun f hf => ⟨f, hf, rfl, .refl f.kind⟩

theorem Schema.Alike.refl (s : Schema) : s.Alike s :=
  ⟨rfl, .refl s⟩

/-- The rules of a field do not matter to what describes it. -/
theorem Kind.Like.describes {kind kind' : Kind} (hlike : kind.Like kind') {j : Json}
    (hj : kind.Describes j) : kind'.Describes j := by
  cases hlike with
  | embedded schema => exact hj
  | list schema => exact hj
  | _ =>
      cases hj with
      | plain _ hsettled haccepts => exact .plain rfl hsettled haccepts

/-- What describes a document of a type describes one of any type that has fewer fields. -/
theorem Schema.Covers.describes {s t : Schema} (hcovers : s.Covers t) {data : Json.Object}
    (hdata : s.Describes data) : t.Describes data := by
  obtain ⟨hall, hfields⟩ := hdata
  refine .intro (fun f hf => ?_) fun f hf j hj => ?_ <;>
    obtain ⟨g, hg, hname, hlike⟩ := hcovers f hf
  · exact hname ▸ hall g hg
  · exact hlike.describes (hfields g hg j (hname ▸ hj))

namespace Kind.Describes

theorem of_plain {kind : Kind} {j : Json} (hkind : kind.schema? = none) (hj : kind.Describes j) :
    j.Settled ∧ kind.Accepts j := by
  cases hj with
  | plain _ hsettled haccepts => exact ⟨hsettled, haccepts⟩
  | absent => cases hkind
  | embedded _ _ => cases hkind
  | list _ _ => cases hkind

theorem of_embedded {schema : Schema} {j : Json} (hj : (Kind.embedded schema).Describes j) :
    j = .null ∨ ∃ data : Json.Object, j = .obj data ∧ data.map Prod.fst = schema.fieldNames ∧
      schema.Describes data := by
  cases hj with
  | plain hkind _ _ => cases hkind
  | absent => exact Or.inl rfl
  | embedded hkeys hdata => exact Or.inr ⟨_, rfl, hkeys, hdata⟩

theorem of_list {schema : Schema} {j : Json} (hj : (Kind.list schema).Describes j) :
    ∃ datas : List Json.Object, j = .arr (datas.map .obj) ∧
      (∀ data ∈ datas, data.map Prod.fst = schema.fieldNames) ∧
      ∀ data ∈ datas, schema.Describes data := by
  cases hj with
  | plain hkind _ _ => cases hkind
  | list hkeys hdatas => exact ⟨_, rfl, hkeys, hdatas⟩

end Kind.Describes

namespace Value

/-- What an object is read as. -/
theorem ofJson_obj_cases (members : Json.Object) :
    (∃ id, ofJson (.obj members) = .objectId id) ∨ (∃ t, ofJson (.obj members) = .instant t) ∨
      ∃ entries, ofJson (.obj members) = .map entries := by
  rw [ofJson]
  cases hwrapper : ofWrapper? members with
  | none => exact Or.inr (Or.inr ⟨_, rfl⟩)
  | some v =>
      rcases ofWrapper?_cases hwrapper with ⟨id, rfl⟩ | ⟨ms, rfl⟩
      · exact Or.inl ⟨id, rfl⟩
      · exact Or.inr (Or.inl ⟨_, rfl⟩)

/-- Only an integer is read as an integer. -/
theorem ofJson_eq_int {j : Json} {n : Int64} (hj : ofJson j = .int n) : ∃ i, j = .int i := by
  cases j with
  | int i => exact ⟨i, rfl⟩
  | obj members =>
      rcases ofJson_obj_cases members with ⟨_, heq⟩ | ⟨_, heq⟩ | ⟨_, heq⟩ <;> simp [heq] at hj
  | _ => simp [ofJson] at hj

/-- Only a text is read as that text. -/
theorem ofJson_eq_text {j : Json} {s : String} (hj : ofJson j = .text s) : j = .str s := by
  cases j with
  | str t =>
      rw [ofJson] at hj
      injection hj with hj
      rw [hj]
  | int i =>
      rw [ofJson] at hj
      split at hj <;> cases hj
  | obj members =>
      rcases ofJson_obj_cases members with ⟨_, heq⟩ | ⟨_, heq⟩ | ⟨_, heq⟩ <;> simp [heq] at hj
  | _ => simp [ofJson] at hj

end Value

/-- What a field accepts is not converted any further. -/
theorem Field.coerce_ofJson (h : Heap) {f : Field} {j : Json} (haccepts : f.kind.Accepts j) :
    f.coerce h (Value.ofJson j) = Value.ofJson j := by
  cases hkind : f.kind with
  | string rules =>
      rw [hkind] at haccepts
      rcases haccepts with rfl | ⟨s, rfl, hbare⟩
      · simp [Field.coerce, hkind, Value.ofJson, Field.toText]
      · simp [Field.coerce, hkind, Value.ofJson, Field.toText, Field.written,
          Text.trim_eq_self hbare]
  | float range =>
      rw [hkind] at haccepts
      cases hv : Value.ofJson j with
      | int n =>
          obtain ⟨i, rfl⟩ := Value.ofJson_eq_int hv
          exact absurd rfl (haccepts i)
      | _ => simp [Field.coerce, hkind]
  | objectId =>
      rw [hkind] at haccepts
      cases hv : Value.ofJson j with
      | text s => simp [Field.coerce, hkind, haccepts s (Value.ofJson_eq_text hv)]
      | _ => simp [Field.coerce, hkind]
  | _ => simp [Field.coerce, hkind]

/-- What a plain field accepts is stored as it is read. -/
theorem Heap.assign_ofJson (h : Heap) {f : Field} {j : Json} (hkind : f.kind.schema? = none)
    (haccepts : f.kind.Accepts j) (current : Value) :
    h.assign f current (Value.ofJson j) = (.store (Value.ofJson j), h) := by
  cases hk : f.kind with
  | array lengths check? =>
      rw [hk] at haccepts
      rcases haccepts with rfl | ⟨items, rfl⟩ <;> simp [Heap.assign, hk, Value.ofJson]
  | embedded schema => simp [hk, Kind.schema?] at hkind
  | list schema => simp [hk, Kind.schema?] at hkind
  | _ => simp [Heap.assign, hk, f.coerce_ofJson h haccepts]

end DocumentModel
