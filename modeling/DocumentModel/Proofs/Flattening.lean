/-
What documents flatten to.

A document is `Restorable` if its data says all there is to say about it.  The data of such a
document describes a document of its type.
-/
import DocumentModel.Proofs.Containment
import DocumentModel.Proofs.Description

namespace DocumentModel

namespace Heap

/-- A document is the value of an embedded field, or stands in the list of a list field. -/
def Held (h : Heap) (inner : DocRef) (v : Value) : Prop :=
  v = .document inner ∨ ∃ r l, v = .list r ∧ h.list? r = some l ∧ inner ∈ l.items

/-- A document is `r`, or is held in an embedded or list field of such a document. -/
inductive Nested (h : Heap) (r : DocRef) : DocRef → Prop
  | self : Nested h r r
  | held {s inner : DocRef} {d : Document} {f : Field} {schema : Schema} (hs : Nested h r s)
      (hd : h.document? s = some d) (hf : f ∈ d.schema.fields)
      (hkind : f.kind.schema? = some schema) (hinner : h.Held inner (d.value f.name)) :
      Nested h r inner

/-- A mapping or a document that flattens to what could be an identifier or a date-time. -/
def LooksWrapped (h : Heap) : Value → Prop
  | .map entries => ∃ members, h.toJson (.map entries) = .obj members ∧
      Json.Object.looksWrapped members = true
  | .document r => Json.Object.looksWrapped (h.data r) = true
  | _ => False

/-- The data of a document says all there is to say about it. -/
structure Restorable (h : Heap) (r : DocRef) : Prop where
  /-- Embedded and list fields hold documents of exactly the declared type. -/
  types : ∀ {s d f schema inner d'}, h.Nested r s → h.document? s = some d →
    f ∈ d.schema.fields → f.kind.schema? = some schema → h.Held inner (d.value f.name) →
    h.document? inner = some d' → d'.schema = schema
  /-- Nothing in another field could be taken for an identifier or a date-time that it is not. -/
  plain : ∀ {s d f w}, h.Nested r s → h.document? s = some d → f ∈ d.schema.fields →
    f.kind.schema? = none → h.Occurs w (d.value f.name) → ¬ h.LooksWrapped w
  /-- Every date-time, cut to the millisecond before it, is a date-time. -/
  dates : ∀ {t}, h.Occurs (.instant t) (.document r) → Instant.inRange t.floorMillis = true
  /-- No document comes round to itself. -/
  acyclic : h.Acyclic r

/-- Every document in an embedded or list field, at any depth, has a type that suits the declared
one. -/
def Holds (h : Heap) (suits : Schema → Schema → Prop) (r : DocRef) : Prop :=
  ∀ {s d f schema inner d'}, h.Nested r s → h.document? s = some d →
    f ∈ d.schema.fields → f.kind.schema? = some schema → h.Held inner (d.value f.name) →
    h.document? inner = some d' → suits d'.schema schema

/-- The JSON of a document is not taken for something else when it is read. -/
structure Readable (h : Heap) (r : DocRef) : Prop where
  /-- Nothing in another field could be taken for an identifier or a date-time that it is not. -/
  plain : ∀ {s d f w}, h.Nested r s → h.document? s = some d → f ∈ d.schema.fields →
    f.kind.schema? = none → h.Occurs w (d.value f.name) → ¬ h.LooksWrapped w
  /-- Every date-time, cut to the millisecond before it, is a date-time. -/
  dates : ∀ {t}, h.Occurs (.instant t) (.document r) → Instant.inRange t.floorMillis = true
  /-- No document comes round to itself. -/
  acyclic : h.Acyclic r

variable {types : List Schema} {h : Heap}

theorem Restorable.readable {r : DocRef} (hr : h.Restorable r) : h.Readable r :=
  ⟨hr.plain, hr.dates, hr.acyclic⟩

theorem Restorable.holds {r : DocRef} (hr : h.Restorable r) : h.Holds Schema.Alike r := by
  intro s d f schema inner d' hs hd hf hkind hheld hinner
  rw [hr.types hs hd hf hkind hheld hinner]
  exact .refl schema

theorem Held.occurs {inner : DocRef} {v : Value} (hheld : h.Held inner v) :
    h.Occurs (.document inner) v := by
  rcases hheld with rfl | ⟨r, l, rfl, hl, hitem⟩
  · exact .self
  · exact .listItem hl hitem .self

theorem Nested.trans {r s t : DocRef} (hrs : h.Nested r s) (hst : h.Nested s t) :
    h.Nested r t := by
  induction hst with
  | self => exact hrs
  | held _ hd hf hkind hinner ih => exact .held ih hd hf hkind hinner

theorem Holds.inner {suits : Schema → Schema → Prop} {r inner : DocRef}
    (hr : h.Holds suits r) (hinner : h.Nested r inner) : h.Holds suits inner :=
  fun hs => hr (hinner.trans hs)

/-- What is held in an embedded or list field of a readable document is readable. -/
theorem Readable.inner {r inner : DocRef} {d : Document} {f : Field} {schema : Schema}
    (hr : h.Readable r) (hd : h.document? r = some d) (hf : f ∈ d.schema.fields)
    (hkind : f.kind.schema? = some schema) (hheld : h.Held inner (d.value f.name)) :
    h.Readable inner := by
  have hnested : h.Nested r inner := .held .self hd hf hkind hheld
  have hinside : h.Occurs (.document inner) (.document r) := .field hd hf hheld.occurs
  exact ⟨fun hs => hr.plain (hnested.trans hs), fun ht => hr.dates (ht.trans hinside),
    hr.acyclic.of_occurs hinside⟩

/-! Values that are written and read again. -/

theorem toJson_document (h : Heap) (r : DocRef) : h.toJson (.document r) = .obj (h.data r) :=
  rfl

theorem toJson_list {r : ListRef} {l : DocumentList} (hl : h.list? r = some l) :
    h.toJson (.list r) = .arr (l.items.map fun inner => .obj (h.data inner)) := by
  simp [toJson, Value.toJsonWith, listData, items, hl]

/-- A value is settled if its documents and mappings are. -/
theorem settled_toJson {v : Value} (hproper : v.Proper)
    (hplain : ∀ w, h.Occurs w v → ¬ h.LooksWrapped w)
    (hdates : ∀ t, h.Occurs (.instant t) v → Instant.inRange t.floorMillis = true)
    (hdocuments : ∀ s, h.Occurs (.document s) v → (Json.obj (h.data s)).Settled) :
    (h.toJson v).Settled := by
  induction hproper with
  | null => exact .null
  | bool b => exact .bool b
  | int n =>
      refine .int ?_
      rw [Value.fitsInt64, Bool.and_eq_true, decide_eq_true_iff, decide_eq_true_iff]
      exact ⟨n.minValue_le_toInt, n.toInt_le⟩
  | float x =>
      simp only [toJson, Value.toJsonWith]
      split
      · next hfinite => exact .float hfinite
      · exact .null
  | text s => exact .str s
  | instant t => exact .instant (hdates t .self)
  | objectId id => exact .objectId id
  | @array items _ ih =>
      rw [toJson, Value.toJsonWith, Value.itemsToJson_eq_map]
      refine .arr fun j hj => ?_
      obtain ⟨v, hv, rfl⟩ := List.mem_map.mp hj
      exact ih v hv (fun w hw => hplain w (.item hv hw)) (fun t ht => hdates t (.item hv ht))
        fun s hs => hdocuments s (.item hv hs)
  | @map entries hkeys _ ih =>
      have hnot := hplain (.map entries) .self
      simp only [LooksWrapped, toJson, Value.toJsonWith, Value.entriesToJson_eq_map,
        Json.obj.injEq, exists_eq_left', Bool.not_eq_true] at hnot
      rw [toJson, Value.toJsonWith, Value.entriesToJson_eq_map]
      refine .obj ?_ hnot fun m hm => ?_
      · rw [List.map_map]
        refine List.Pairwise.map _ ?_ hkeys
        intro a b hab
        exact (ne_of_lt hab)
      · obtain ⟨e, he, rfl⟩ := List.mem_map.mp hm
        exact ih e he (fun w hw => hplain w (.entry he hw)) (fun t ht => hdates t (.entry he ht))
          fun s hs => hdocuments s (.entry he hs)
  | document s => exact hdocuments s .self
  | list r =>
      cases hl : h.list? r with
      | none =>
          simp only [toJson, Value.toJsonWith, listData, items, hl]
          exact .arr (by simp)
      | some l =>
          rw [toJson_list hl]
          refine .arr fun j hj => ?_
          obtain ⟨item, hitem, rfl⟩ := List.mem_map.mp hj
          exact hdocuments item (.listItem hl hitem .self)

/-- The documents in a plain value are settled: by induction on how deep they go. -/
theorem Shallow.settled (hdecl : Declared types) (hsound : h.Sound types) {k : Nat} {r : DocRef}
    (hshallow : h.Shallow k r) (hacyclic : h.Acyclic r)
    (hplain : ∀ w, h.Occurs w (.document r) → ¬ h.LooksWrapped w)
    (hdates : ∀ t, h.Occurs (.instant t) (.document r) → Instant.inRange t.floorMillis = true) :
    (Json.obj (h.data r)).Settled := by
  induction k generalizing r with
  | zero =>
      have hnone : h.document? r = none := hshallow
      rw [data_eq_nil hnone]
      exact .obj .nil rfl (by simp)
  | succ k ih =>
      cases hd : h.document? r with
      | none =>
          rw [data_eq_nil hd]
          exact .obj .nil rfl (by simp)
      | some d =>
          have hnot : (h.data r).looksWrapped = false := by
            simpa [LooksWrapped] using hplain (.document r) .self
          have hkeys : ((h.data r).map Prod.fst).Nodup := by
            rw [map_fst_data hd]
            exact hdecl.fieldNames_nodup (hsound.schema hd)
          refine .obj hkeys hnot fun m hm => ?_
          rw [hacyclic.data_eq hd] at hm
          obtain ⟨f, hf, rfl⟩ := List.mem_map.mp hm
          obtain ⟨slot, hslot, hfits⟩ := hsound.slot_of_field hdecl hd hf
          have hproper : (d.value f.name).Proper := Document.value_of_slot? hslot ▸ hfits.proper
          refine settled_toJson hproper (fun w hw => hplain w (.field hd hf hw))
            (fun t ht => hdates t (.field hd hf ht)) fun s hs => ?_
          have hinside : h.Occurs (.document s) (.document r) := .field hd hf hs
          exact ih (hshallow s ⟨d, hd, f, hf, hs⟩) (hacyclic.of_occurs hinside)
            (fun w hw => hplain w (hw.trans hinside)) fun t ht => hdates t (ht.trans hinside)

/-- What a plain field holds is written as JSON that it accepts. -/
theorem accepts_toJson {kind : Kind} {v : Value} (hkind : kind.schema? = none)
    (hv : kind.Admits h v) : kind.Accepts (h.toJson v) := by
  cases kind with
  | string rules =>
      rcases hv with rfl | ⟨s, rfl, hbare⟩
      · exact Or.inl rfl
      · exact Or.inr ⟨s, rfl, hbare⟩
  | float range =>
      intro n hn
      cases v with
      | int m => exact hv m rfl
      | float x =>
          simp only [toJson, Value.toJsonWith] at hn
          split at hn <;> cases hn
      | _ => cases hn
  | objectId =>
      intro s hs
      cases v with
      | text t => exact hv s (by rw [Json.str.inj hs])
      | float x =>
          simp only [toJson, Value.toJsonWith] at hs
          split at hs <;> cases hs
      | _ => cases hs
  | array lengths check? =>
      rcases hv with rfl | ⟨items, rfl⟩
      · exact Or.inl rfl
      · exact Or.inr ⟨_, rfl⟩
  | embedded schema => cases hkind
  | list schema => cases hkind
  | _ => trivial

/-- The data of a readable document describes it: by induction on how deep its documents go. -/
theorem Shallow.describes (hdecl : Declared types) (hsound : h.Sound types) {k : Nat} {r : DocRef}
    {d : Document} (hshallow : h.Shallow k r) (hholds : h.Holds Schema.Alike r)
    (hr : h.Readable r) (hd : h.document? r = some d) : d.schema.Describes (h.data r) := by
  induction k generalizing r d with
  | zero => cases hd.symm.trans hshallow
  | succ k ih =>
      have hnodup := hdecl.fieldNames_nodup (hsound.schema hd)
      have hkeys : ((h.data r).map Prod.fst).Nodup := by
        rwa [map_fst_data hd]
      have hget : ∀ f ∈ d.schema.fields,
          Json.Object.get? (h.data r) f.name = some (h.toJson (d.value f.name)) := by
        intro f hf
        apply Json.lookup_of_mem (m := (f.name, h.toJson (d.value f.name))) hkeys
        rw [hr.acyclic.data_eq hd]
        exact List.mem_map_of_mem hf
      -- a document held in a field is described by its data, as one of the declared type too
      have hheld : ∀ f ∈ d.schema.fields, ∀ schema inner, f.kind.schema? = some schema →
          h.Held inner (d.value f.name) → (h.document? inner).isSome = true →
          (h.data inner).map Prod.fst = schema.fieldNames ∧
            schema.Describes (h.data inner) := by
        intro f hf schema inner hkind hinner hsome
        obtain ⟨d', hd'⟩ := Option.isSome_iff_exists.mp hsome
        have halike := hholds .self hd hf hkind hinner hd'
        have hdescribes := ih (hshallow inner ⟨d, hd, f, hf, hinner.occurs⟩)
          (hholds.inner (.held .self hd hf hkind hinner)) (hr.inner hd hf hkind hinner) hd'
        exact ⟨(map_fst_data hd').trans halike.names, halike.covers.describes hdescribes⟩
      refine .intro (fun f hf => ⟨_, hget f hf⟩) fun f hf j hj => ?_
      obtain rfl : h.toJson (d.value f.name) = j := Option.some.inj ((hget f hf).symm.trans hj)
      obtain ⟨slot, hslot, hfits⟩ := hsound.slot_of_field hdecl hd hf
      have hvalue : slot.value = d.value f.name := (Document.value_of_slot? hslot).symm
      have hadmits : f.kind.Admits h (d.value f.name) := hvalue ▸ hfits.value
      cases hkind : f.kind with
      | embedded schema =>
          rw [hkind] at hadmits
          rcases hadmits with hnull | ⟨inner, hinner, hisA⟩
          · rw [hnull]
            exact .absent
          · obtain ⟨d', hd', _⟩ := documentIsA_iff.mp hisA
            obtain ⟨hnames, hdescribes⟩ := hheld f hf schema inner (by rw [hkind]; rfl)
              (Or.inl hinner) (by rw [hd']; rfl)
            rw [hinner, toJson_document]
            exact .embedded hnames hdescribes
      | list schema =>
          rw [hkind] at hadmits
          obtain ⟨own, l, hown, hl, _⟩ := hadmits
          have hitem : ∀ inner ∈ l.items, (h.data inner).map Prod.fst = schema.fieldNames ∧
              schema.Describes (h.data inner) := by
            intro inner hinner
            obtain ⟨d', hd', _⟩ := documentIsA_iff.mp (hsound.items hl inner hinner)
            exact hheld f hf schema inner (by rw [hkind]; rfl) (Or.inr ⟨own, l, hown, hl, hinner⟩)
              (by rw [hd']; rfl)
          have hdatas : l.items.map (fun inner => Json.obj (h.data inner)) =
              (l.items.map h.data).map .obj := by
            rw [List.map_map]
            rfl
          rw [hown, toJson_list hl, hdatas]
          exact .list (List.forall_mem_map.mpr fun inner hinner => (hitem inner hinner).1)
            (List.forall_mem_map.mpr fun inner hinner => (hitem inner hinner).2)
      | _ =>
          have hplain : f.kind.schema? = none := by rw [hkind]; rfl
          rw [← hkind]
          refine .plain hplain ?_ (accepts_toJson hplain hadmits)
          refine settled_toJson (hvalue ▸ hfits.proper)
            (fun w hw => hr.plain .self hd hf hplain hw)
            (fun t ht => hr.dates (.field hd hf ht)) fun s hs => ?_
          have hinside : h.Occurs (.document s) (.document r) := .field hd hf hs
          exact (hshallow s ⟨d, hd, f, hf, hs⟩).settled hdecl hsound
            (hr.acyclic.of_occurs hinside) (fun w hw => hr.plain .self hd hf hplain (hw.trans hs))
            fun t ht => hr.dates (ht.trans hinside)

/-- The data of a readable document describes it, whatever rules the types of its documents add to
the declared ones. -/
theorem Readable.describes (hdecl : Declared types) (hsound : h.Sound types) {r : DocRef}
    {d : Document} (hr : h.Readable r) (hholds : h.Holds Schema.Alike r)
    (hd : h.document? r = some d) : d.schema.Describes (h.data r) :=
  hr.acyclic.shallow.describes hdecl hsound hholds hr hd

end Heap

end DocumentModel
