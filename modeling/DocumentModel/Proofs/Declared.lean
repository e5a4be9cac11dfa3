/-
The record types of a program.

A program declares its types one after the other, each over the types before it.  `Declared` is the
list of them, latest first.  Among declared types the number of a declaration stands for the whole
type, field names are distinct, and being a type is transitive.
-/
import DocumentModel.Schema
import Mathlib.Data.List.Nodup

namespace DocumentModel

/-- The keys of every mapping in a value, at any depth, are in increasing order. -/
inductive Value.Proper : Value → Prop
  | null : Proper .null
  | bool (b : Bool) : Proper (.bool b)
  | int (n : Int64) : Proper (.int n)
  | float (x : Float) : Proper (.float x)
  | text (s : String) : Proper (.text s)
  | instant (t : Instant) : Proper (.instant t)
  | objectId (id : ObjectId) : Proper (.objectId id)
  | array {items : List Value} (hitems : ∀ v ∈ items, Proper v) : Proper (.array items)
  | map {entries : List (String × Value)} (hkeys : entries.Pairwise fun a b => a.1 < b.1)
      (hentries : ∀ e ∈ entries, Proper e.2) : Proper (.map entries)
  | document (r : DocRef) : Proper (.document r)
  | list (r : ListRef) : Proper (.list r)

/-- A recipe makes documents and lists of some given types only. -/
inductive Recipe.Over (types : List Schema) : Recipe → Prop
  | plain {v : Value} (hv : v.Proper) : Over types (.plain v)
  | counter (ref : CounterRef) : Over types (.counter ref)
  | array {items : List Recipe} (hitems : ∀ r ∈ items, Over types r) : Over types (.array items)
  | map {entries : List (String × Recipe)} (hentries : ∀ e ∈ entries, Over types e.2) :
      Over types (.map entries)
  | document {s : Schema} {values : List (String × Recipe)} (hs : s ∈ types)
      (hvalues : ∀ e ∈ values, Over types e.2) : Over types (.document s values)
  | list {s : Schema} {items : List Recipe} (hs : s ∈ types)
      (hitems : ∀ r ∈ items, Over types r) : Over types (.list s items)

/-- A default over some given types. -/
inductive Default.Over (types : List Schema) : Default → Prop
  | value {v : Value} (hv : v.Proper) : Over types (.value v)
  | factory {recipe : Recipe} (hrecipe : recipe.Over types) : Over types (.factory recipe)

/-- The type of the documents that a field holds. -/
def Kind.schema? : Kind → Option Schema
  | .embedded s => some s
  | .list s => some s
  | _ => none

/-- A field over some given types: it embeds embedded types only. -/
structure Field.Over (types : List Schema) (f : Field) : Prop where
  kind : ∀ s, f.kind.schema? = some s → s ∈ types ∧ s.isEmbedded = true
  default : ∀ d, f.default? = some d → d.Over types

/-- The types that a program has declared, latest first.  Each has a number of its own and is
declared over the types before it. -/
inductive Declared : List Schema → Prop
  | nil : Declared []
  | document {types : List Schema} {id : Nat} {name : String} {fields : List Field}
      (htypes : Declared types) (hid : ∀ t ∈ types, t.id ≠ id)
      (hfields : ∀ f ∈ fields, f.Over types) :
      Declared (Schema.document id name fields :: types)
  | embedded {types : List Schema} {id : Nat} {name : String} {fields : List Field}
      (htypes : Declared types) (hid : ∀ t ∈ types, t.id ≠ id)
      (hfields : ∀ f ∈ fields, f.Over types) :
      Declared (Schema.embedded id name fields :: types)
  | extend {types : List Schema} {id : Nat} {parent : Schema} {name : String}
      {fields : List Field} (htypes : Declared types) (hid : ∀ t ∈ types, t.id ≠ id)
      (hparent : parent ∈ types) (hfields : ∀ f ∈ fields, f.Over types) :
      Declared (Schema.extend id parent name fields :: types)

/-- A field that embeds nothing and has no default is over any types. -/
theorem Field.Over.plain {types : List Schema} {f : Field} (hkind : f.kind.schema? = none)
    (hdefault : f.default? = none) : f.Over types where
  kind s hs := by
    rw [hkind] at hs
    cases hs
  default d hd := by
    rw [hdefault] at hd
    cases hd

theorem Recipe.Over.mono {types later : List Schema} (hsub : types ⊆ later) {r : Recipe}
    (hr : r.Over types) : r.Over later := by
  induction hr with
  | plain hv => exact .plain hv
  | counter ref => exact .counter ref
  | array _ ih => exact .array ih
  | map _ ih => exact .map ih
  | document hs _ ih => exact .document (hsub hs) ih
  | list hs _ ih => exact .list (hsub hs) ih

namespace Recipe.Over

variable {types : List Schema}

theorem of_array {items : List Recipe} :
    (Recipe.array items).Over types → ∀ r ∈ items, r.Over types
  | .array hitems => hitems

theorem of_map {entries : List (String × Recipe)} :
    (Recipe.map entries).Over types → ∀ e ∈ entries, e.2.Over types
  | .map hentries => hentries

theorem of_document {s : Schema} {values : List (String × Recipe)} :
    (Recipe.document s values).Over types → s ∈ types ∧ ∀ e ∈ values, e.2.Over types
  | .document hs hvalues => ⟨hs, hvalues⟩

theorem of_list {s : Schema} {items : List Recipe} :
    (Recipe.list s items).Over types → s ∈ types ∧ ∀ r ∈ items, r.Over types
  | .list hs hitems => ⟨hs, hitems⟩

end Recipe.Over

theorem Default.Over.of_factory {types : List Schema} {recipe : Recipe} :
    (Default.factory recipe).Over types → recipe.Over types
  | .factory hrecipe => hrecipe

theorem Default.Over.mono {types later : List Schema} (hsub : types ⊆ later) {d : Default}
    (hd : d.Over types) : d.Over later := by
  cases hd with
  | value hv => exact .value hv
  | factory hrecipe => exact .factory (hrecipe.mono hsub)

theorem Field.Over.mono {types later : List Schema} (hsub : types ⊆ later) {f : Field}
    (hf : f.Over types) : f.Over later where
  kind s hs := ⟨hsub (hf.kind s hs).1, (hf.kind s hs).2⟩
  default d hd := (hf.default d hd).mono hsub

namespace Schema

theorem mem_addField {fields : List Field} {field f : Field} (hf : f ∈ addField fields field) :
    f = field ∨ f ∈ fields := by
  induction fields with
  | nil => simpa [addField] using hf
  | cons g rest ih =>
      by_cases hg : g.name = field.name
      · simp only [addField, hg, ↓reduceIte, List.mem_cons] at hf
        exact hf.imp_right (List.mem_cons_of_mem g)
      · simp only [addField, hg, ↓reduceIte, List.mem_cons] at hf
        rcases hf with rfl | hf
        · exact Or.inr List.mem_cons_self
        · exact (ih hf).imp_right (List.mem_cons_of_mem g)

theorem mem_addFields {fields new : List Field} {f : Field} (hf : f ∈ addFields fields new) :
    f ∈ new ∨ f ∈ fields := by
  induction new generalizing fields with
  | nil => exact Or.inr hf
  | cons field rest ih =>
      rcases ih hf with hrest | hadded
      · exact Or.inl (List.mem_cons_of_mem field hrest)
      · rcases mem_addField hadded with rfl | hold
        · exact Or.inl List.mem_cons_self
        · exact Or.inr hold

theorem addField_nodup {fields : List Field} (hnodup : (fields.map (·.name)).Nodup)
    (field : Field) : ((addField fields field).map (·.name)).Nodup := by
  rw [map_name_addField]
  split
  · exact hnodup
  · next hnew => simpa [List.nodup_append, hnodup] using hnew

theorem addFields_nodup {fields : List Field} (hnodup : (fields.map (·.name)).Nodup)
    (new : List Field) : ((addFields fields new).map (·.name)).Nodup := by
  induction new generalizing fields with
  | nil => exact hnodup
  | cons field rest ih => exact ih (addField_nodup hnodup field)

end Schema

/-- The look-up by name finds every field. -/
theorem Schema.field?_of_mem {s : Schema} (hnodup : s.fieldNames.Nodup) {f : Field}
    (hf : f ∈ s.fields) : s.field? f.name = some f := by
  rw [fieldNames] at hnodup
  rw [field?]
  generalize s.fields = fields at hnodup hf
  induction fields with
  | nil => cases hf
  | cons first rest ih =>
      rw [List.map_cons, List.nodup_cons] at hnodup
      rcases List.mem_cons.mp hf with rfl | hf
      · simp
      · have hne : first.name ≠ f.name :=
          fun heq => hnodup.1 (heq ▸ List.mem_map_of_mem (f := (·.name)) hf)
        simp [hne, ih hnodup.2 hf]

theorem Schema.mem_of_field? {s : Schema} {name : String} {f : Field}
    (hf : s.field? name = some f) : f ∈ s.fields ∧ f.name = name :=
  ⟨List.mem_of_find?_eq_some hf, by simpa using List.find?_some hf⟩

/-- What a new type takes over: the fields and the place of the type it extends, if any. -/
structure Schema.NewOver (types : List Schema) (new : Schema) (old fields : List Field) : Prop where
  id : ∀ t ∈ types, t.id ≠ new.id
  fields_over : ∀ f ∈ fields, f.Over types
  fields_eq : new.fields = Schema.addFields old fields
  origin : (new.parent? = none ∧ old = []) ∨
    ∃ parent ∈ types, new.parent? = some parent ∧ old = parent.fields

namespace Declared

variable {types : List Schema}

/-- Induction over declarations of any sort. -/
theorem induct {motive : (types : List Schema) → Declared types → Prop} (nil : motive [] .nil)
    (cons : ∀ {types : List Schema} {new : Schema} {old fields : List Field}
      (h : Declared types) (later : Declared (new :: types)), new.NewOver types old fields →
      motive types h → motive (new :: types) later)
    {types : List Schema} (h : Declared types) : motive types h := by
  induction h with
  | nil => exact nil
  | document htypes hid hfields ih =>
      exact cons htypes _ ⟨hid, hfields, rfl, Or.inl ⟨rfl, rfl⟩⟩ ih
  | embedded htypes hid hfields ih =>
      exact cons htypes _ ⟨hid, hfields, rfl, Or.inl ⟨rfl, rfl⟩⟩ ih
  | extend htypes hid hparent hfields ih =>
      exact cons htypes _ ⟨hid, hfields, rfl, Or.inr ⟨_, hparent, rfl, rfl⟩⟩ ih

/-- A field of a declared type refers to declared types only, and no two have one name. -/
theorem fields_over_and_nodup (h : Declared types) :
    ∀ s ∈ types, (∀ f ∈ s.fields, f.Over types) ∧ s.fieldNames.Nodup := by
  induction h using Declared.induct with
  | nil => simp
  | @cons types new old fields _ _ hnew ih =>
      have hold : (∀ f ∈ old, f.Over types) ∧ (old.map (·.name)).Nodup := by
        rcases hnew.origin with ⟨_, rfl⟩ | ⟨parent, hparent, _, rfl⟩
        · simp
        · exact ih parent hparent
      intro s hs
      rcases List.mem_cons.mp hs with rfl | hs
      · constructor
        · intro f hf
          rw [hnew.fields_eq] at hf
          have hover : f.Over types :=
            (Schema.mem_addFields hf).elim (hnew.fields_over f) (hold.1 f)
          exact hover.mono (List.subset_cons_self s types)
        · rw [Schema.fieldNames, hnew.fields_eq]
          exact Schema.addFields_nodup hold.2 fields
      · obtain ⟨hover, hnodup⟩ := ih s hs
        exact ⟨fun f hf => (hover f hf).mono (List.subset_cons_self new types), hnodup⟩

theorem field_over (h : Declared types) {s : Schema} (hs : s ∈ types) {f : Field}
    (hf : f ∈ s.fields) : f.Over types :=
  (h.fields_over_and_nodup s hs).1 f hf

theorem fieldNames_nodup (h : Declared types) {s : Schema} (hs : s ∈ types) :
    s.fieldNames.Nodup :=
  (h.fields_over_and_nodup s hs).2

/-- A name stands for one field of a declared type. -/
theorem field_eq_of_name_eq (h : Declared types) {s : Schema} (hs : s ∈ types) {f g : Field}
    (hf : f ∈ s.fields) (hg : g ∈ s.fields) (hname : f.name = g.name) : f = g :=
  List.inj_on_of_nodup_map (h.fieldNames_nodup hs) hf hg hname

theorem ids_nodup (h : Declared types) : (types.map (·.id)).Nodup := by
  induction h using Declared.induct with
  | nil => exact List.nodup_nil
  | cons _ _ hnew ih => exact List.nodup_cons.mpr ⟨by simpa using hnew.id, ih⟩

/-- The number of a declaration tells types apart. -/
theorem eq_of_id_eq (h : Declared types) {s t : Schema} (hs : s ∈ types) (ht : t ∈ types)
    (hid : s.id = t.id) : s = t :=
  List.inj_on_of_nodup_map h.ids_nodup hs ht hid

theorem parent_mem (h : Declared types) :
    ∀ s ∈ types, ∀ parent, s.parent? = some parent → parent ∈ types := by
  induction h using Declared.induct with
  | nil => simp
  | @cons types new old fields _ _ hnew ih =>
      intro s hs parent hparent
      rcases List.mem_cons.mp hs with rfl | hs
      · rcases hnew.origin with ⟨hnone, _⟩ | ⟨p, hp, hsome, _⟩
        · simp [hnone] at hparent
        · obtain rfl : p = parent := Option.some.inj (hsome.symm.trans hparent)
          exact List.mem_cons_of_mem s hp
      · exact List.mem_cons_of_mem new (ih s hs parent hparent)

/-- What is of a type that extends another is of that other type, too. -/
theorem isA_trans (h : Declared types) {t u : Schema} (ht : t ∈ types) (htu : t.isA u = true) :
    (s : Schema) → s ∈ types → s.isA t = true → s.isA u = true
  | ⟨id, name, role, none, fields⟩, hs, hst => by
      simp only [Schema.isA, beq_iff_eq] at hst
      rw [h.eq_of_id_eq hs ht hst]
      exact htu
  | ⟨id, name, role, some parent, fields⟩, hs, hst => by
      simp only [Schema.isA, Bool.or_eq_true, beq_iff_eq] at hst
      rcases hst with hid | hparent
      · rw [h.eq_of_id_eq hs ht hid]
        exact htu
      · exact Schema.isA_of_parent rfl
          (isA_trans h ht htu parent (h.parent_mem _ hs parent rfl) hparent)
termination_by structural s => s

end Declared

end DocumentModel
