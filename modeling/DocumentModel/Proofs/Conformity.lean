/-
What the fields of a document hold.

`Kind.Admits` is the rule for the stored value of a field: what assignment converts is converted,
plain sequences hold sequences, and embedded documents and lists are of the declared type.  A heap
is `Sound` when every document has one conforming slot for each field and every list holds documents
of its own type only.  Types never change, so a stored value conforms for good.
-/
import DocumentModel.Construction
import DocumentModel.Proofs.Declared
import Mathlib.Data.List.Forall2

namespace DocumentModel

/-- Is this the kind of plain sequences? -/
def Kind.isArray : Kind → Bool
  | .array _ _ => true
  | _ => false

theorem Kind.exists_of_isList {kind : Kind} (hlist : kind.isList = true) :
    ∃ schema, kind = .list schema := by
  cases kind <;> simp [Kind.isList] at hlist
  exact ⟨_, rfl⟩

/-- What a field of a kind may hold. -/
def Kind.Admits (h : Heap) : Kind → Value → Prop
  | .float _, v => ∀ n, v ≠ .int n
  | .objectId, v => ∀ s, v = .text s → ObjectId.parse? s = none
  | .string _, v => v = .null ∨ ∃ s, v = .text s ∧ Text.Bare s
  | .array _ _, v => v = .null ∨ ∃ items, v = .array items
  | .embedded schema, v => v = .null ∨ ∃ r, v = .document r ∧ h.documentIsA r schema = true
  | .list schema, v => ∃ r l, v = .list r ∧ h.list? r = some l ∧ l.schema.isA schema = true
  | .boolean, _ => True
  | .dateTime, _ => True
  | .integer _, _ => True

/-- A slot is as its field has it.  Only list fields with a declared default can share it, and only
a plain sequence that is now empty can have been refused.  A list of the slot's own is of the
declared type itself, and of no type that extends it. -/
structure Slot.Fits (h : Heap) (f : Field) (slot : Slot) : Prop where
  name : slot.name = f.name
  value : f.kind.Admits h slot.value
  proper : slot.value.Proper
  shared : slot.shared = true → f.kind.isList = true ∧ f.default?.isSome = true
  rejected : slot.rejected = true → f.kind.isArray = true ∧ slot.value = .array []
  own : slot.shared = false → ∀ schema l, f.kind = .list schema → slot.value = .list l →
    ∃ c, h.list? l = some c ∧ c.schema = schema

/-- A document has a slot for each field, in order. -/
def Document.Fits (h : Heap) (d : Document) : Prop :=
  List.Forall₂ (Slot.Fits h) d.schema.fields d.slots

/-- All documents and lists of a heap are of declared types and as their types have them. -/
structure Heap.Sound (types : List Schema) (h : Heap) : Prop where
  schema : ∀ {r d}, h.document? r = some d → d.schema ∈ types
  fits : ∀ {r d}, h.document? r = some d → d.Fits h
  listSchema : ∀ {r l}, h.list? r = some l → l.schema ∈ types
  items : ∀ {r l}, h.list? r = some l → ∀ item ∈ l.items, h.documentIsA item l.schema = true

theorem Heap.Sound.mono {types later : List Schema} (hsub : types ⊆ later) {h : Heap}
    (hsound : h.Sound types) : h.Sound later where
  schema hd := hsub (hsound.schema hd)
  fits hd := hsound.fits hd
  listSchema hl := hsub (hsound.listSchema hl)
  items hl := hsound.items hl

/-- Documents and lists stay, with the types they have. -/
structure Heap.Grows (h later : Heap) : Prop where
  document : ∀ {r d}, h.document? r = some d →
    ∃ d', later.document? r = some d' ∧ d'.schema = d.schema
  list : ∀ {r l}, h.list? r = some l → ∃ l', later.list? r = some l' ∧ l'.schema = l.schema

namespace Heap

theorem Grows.refl (h : Heap) : h.Grows h :=
  ⟨fun hd => ⟨_, hd, rfl⟩, fun hl => ⟨_, hl, rfl⟩⟩

theorem Grows.trans {a b c : Heap} (hab : a.Grows b) (hbc : b.Grows c) : a.Grows c where
  document hd := by
    obtain ⟨d', hd', hschema'⟩ := hab.document hd
    obtain ⟨d'', hd'', hschema''⟩ := hbc.document hd'
    exact ⟨d'', hd'', hschema''.trans hschema'⟩
  list hl := by
    obtain ⟨l', hl', hschema'⟩ := hab.list hl
    obtain ⟨l'', hl'', hschema''⟩ := hbc.list hl'
    exact ⟨l'', hl'', hschema''.trans hschema'⟩

theorem documentIsA_iff {h : Heap} {r : DocRef} {s : Schema} :
    h.documentIsA r s = true ↔ ∃ d, h.document? r = some d ∧ d.schema.isA s = true := by
  rw [documentIsA]
  cases h.document? r <;> simp

theorem Grows.documentIsA {h later : Heap} (hgrows : h.Grows later) {r : DocRef} {s : Schema}
    (hr : h.documentIsA r s = true) : later.documentIsA r s = true := by
  obtain ⟨d, hd, hisA⟩ := documentIsA_iff.mp hr
  obtain ⟨d', hd', hschema⟩ := hgrows.document hd
  exact documentIsA_iff.mpr ⟨d', hd', hschema ▸ hisA⟩

theorem document?_lt {h : Heap} {r : DocRef} {d : Document} (hd : h.document? r = some d) :
    r.index < h.documents.length := by
  by_contra hle
  rw [document?, List.getElem?_eq_none (Nat.le_of_not_lt hle)] at hd
  cases hd

theorem list?_lt {h : Heap} {r : ListRef} {l : DocumentList} (hl : h.list? r = some l) :
    r.index < h.lists.length := by
  by_contra hle
  rw [list?, List.getElem?_eq_none (Nat.le_of_not_lt hle)] at hl
  cases hl

end Heap

theorem Kind.Admits.mono {h later : Heap} (hgrows : h.Grows later) {kind : Kind} {v : Value}
    (hv : kind.Admits h v) : kind.Admits later v := by
  cases kind with
  | embedded schema =>
      rcases hv with hnull | ⟨r, hr, hisA⟩
      · exact Or.inl hnull
      · exact Or.inr ⟨r, hr, hgrows.documentIsA hisA⟩
  | list schema =>
      obtain ⟨r, l, hr, hl, hisA⟩ := hv
      obtain ⟨l', hl', hschema⟩ := hgrows.list hl
      exact ⟨r, l', hr, hl', hschema ▸ hisA⟩
  | _ => exact hv

theorem Slot.Fits.mono {h later : Heap} (hgrows : h.Grows later) {f : Field} {slot : Slot}
    (hslot : slot.Fits h f) : slot.Fits later f :=
  { hslot with
    value := hslot.value.mono hgrows
    own := fun hshared schema l hkind hvalue => by
      obtain ⟨c, hc, hschema⟩ := hslot.own hshared schema l hkind hvalue
      obtain ⟨c', hc', hschema'⟩ := hgrows.list hc
      exact ⟨c', hc', hschema'.trans hschema⟩ }

namespace Document

theorem Fits.mono {h later : Heap} (hgrows : h.Grows later) {d : Document} (hd : d.Fits h) :
    d.Fits later :=
  List.Forall₂.imp (fun _ _ hslot => hslot.mono hgrows) hd

theorem Fits.names {h : Heap} {d : Document} (hd : d.Fits h) :
    d.slots.map (·.name) = d.schema.fieldNames := by
  rw [Fits] at hd
  rw [Schema.fieldNames]
  generalize d.schema.fields = fields at hd ⊢
  generalize d.slots = slots at hd ⊢
  induction hd with
  | nil => rfl
  | cons hslot _ ih => rw [List.map_cons, List.map_cons, hslot.name, ih]

/-- Where fields and slots go together in order, the look-up by name finds the slot of a field. -/
theorem slot_of_forall₂ {R : Field → Slot → Prop} (hnames : ∀ f slot, R f slot → slot.name = f.name)
    {d : Document} (hslots : List.Forall₂ R d.schema.fields d.slots)
    (hnodup : d.schema.fieldNames.Nodup) {f : Field} (hf : f ∈ d.schema.fields) :
    ∃ slot, d.slot? f.name = some slot ∧ R f slot := by
  rw [Schema.fieldNames] at hnodup
  rw [slot?]
  generalize d.schema.fields = fields at hslots hnodup hf
  generalize d.slots = slots at hslots ⊢
  induction hslots with
  | nil => cases hf
  | @cons g slot fields slots hslot hrest ih =>
      rw [List.map_cons, List.nodup_cons] at hnodup
      rcases List.mem_cons.mp hf with rfl | hf
      · exact ⟨slot, by simp [hnames _ _ hslot], hslot⟩
      · have hne : g.name ≠ f.name :=
          fun heq => hnodup.1 (heq ▸ List.mem_map_of_mem (f := (·.name)) hf)
        have hskip : slot.name ≠ f.name := hnames _ _ hslot ▸ hne
        obtain ⟨found, hfound, hfits⟩ := ih hnodup.2 hf
        exact ⟨found, by simp [hskip, hfound], hfits⟩

/-- Every field has a slot, and the look-up by name finds it. -/
theorem Fits.slot_of_field {h : Heap} {d : Document} (hd : d.Fits h)
    (hnodup : d.schema.fieldNames.Nodup) {f : Field} (hf : f ∈ d.schema.fields) :
    ∃ slot, d.slot? f.name = some slot ∧ slot.Fits h f :=
  slot_of_forall₂ (fun _ _ hslot => hslot.name) hd hnodup hf

/-- Every slot belongs to a field. -/
theorem Fits.field_of_slot {h : Heap} {d : Document} (hd : d.Fits h) {slot : Slot}
    (hslot : slot ∈ d.slots) : ∃ f ∈ d.schema.fields, slot.Fits h f := by
  rw [Fits] at hd
  generalize d.schema.fields = fields at hd ⊢
  generalize d.slots = slots at hd hslot
  induction hd with
  | nil => cases hslot
  | @cons f first _ _ hfirst _ ih =>
      rcases List.mem_cons.mp hslot with rfl | hslot
      · exact ⟨f, List.mem_cons_self, hfirst⟩
      · obtain ⟨g, hg, hfits⟩ := ih hslot
        exact ⟨g, List.mem_cons_of_mem f hg, hfits⟩

/-- A slot is the one that the look-up by its name finds. -/
theorem slot?_of_mem {d : Document} (hnodup : (d.slots.map (·.name)).Nodup) {slot : Slot}
    (hslot : slot ∈ d.slots) : d.slot? slot.name = some slot := by
  rw [slot?]
  generalize d.slots = slots at hnodup hslot
  induction slots with
  | nil => cases hslot
  | cons first rest ih =>
      rw [List.map_cons, List.nodup_cons] at hnodup
      rcases List.mem_cons.mp hslot with rfl | hslot
      · simp
      · have hne : first.name ≠ slot.name :=
          fun heq => hnodup.1 (heq ▸ List.mem_map_of_mem (f := (·.name)) hslot)
        simp [hne, ih hnodup.2 hslot]

theorem mem_of_slot? {d : Document} {name : String} {slot : Slot}
    (hslot : d.slot? name = some slot) : slot ∈ d.slots ∧ slot.name = name :=
  ⟨List.mem_of_find?_eq_some hslot, by simpa using List.find?_some hslot⟩

theorem value_of_slot? {d : Document} {name : String} {slot : Slot}
    (hslot : d.slot? name = some slot) : d.value name = slot.value := by
  simp [value, value?, hslot]

/-- Putting back the slot that is there changes nothing. -/
theorem putSlot_of_slot? {d : Document} (hnodup : (d.slots.map (·.name)).Nodup) {name : String}
    {slot : Slot} (hslot : d.slot? name = some slot) : d.putSlot slot = d := by
  obtain ⟨hmem, hname⟩ := mem_of_slot? hslot
  have hsame : ∀ s ∈ d.slots, (if s.name = slot.name then slot else s) = s := by
    intro s hs
    split
    · next heq =>
        have hfound := slot?_of_mem hnodup hs
        rw [heq, slot?_of_mem hnodup hmem] at hfound
        exact Option.some.inj hfound
    · rfl
  simp only [putSlot, List.map_congr_left hsame, List.map_id']

/-- A document stays as its type has it when one slot is replaced by another that fits. -/
theorem Fits.putSlot {h : Heap} {d : Document} (hd : d.Fits h)
    (hnodup : d.schema.fieldNames.Nodup) {f : Field} (hf : f ∈ d.schema.fields) {slot : Slot}
    (hslot : slot.Fits h f) : (d.putSlot slot).Fits h := by
  have hpaired : List.Forall₂ (fun g s => g ∈ d.schema.fields ∧ s.Fits h g)
      d.schema.fields d.slots :=
    (List.forall₂_and_left _ _).mpr ⟨fun _ hg => hg, hd⟩
  rw [Fits, Document.putSlot, List.forall₂_map_right_iff]
  refine List.Forall₂.imp ?_ hpaired
  rintro g s ⟨hg, hs⟩
  split
  · next heq =>
      have hname : g.name = f.name := by rw [← hs.name, heq, hslot.name]
      rw [List.inj_on_of_nodup_map hnodup hg hf hname]
      exact hslot
  · exact hs

end Document

namespace Heap.Sound

variable {types : List Schema} {h : Heap} {r : DocRef} {d : Document}

/-- In a sound heap every field of a document has a slot that fits. -/
theorem slot_of_field (hsound : h.Sound types) (hdecl : Declared types)
    (hd : h.document? r = some d) {f : Field} (hf : f ∈ d.schema.fields) :
    ∃ slot, d.slot? f.name = some slot ∧ slot.Fits h f :=
  (hsound.fits hd).slot_of_field (hdecl.fieldNames_nodup (hsound.schema hd)) hf

theorem slotNames_nodup (hsound : h.Sound types) (hdecl : Declared types)
    (hd : h.document? r = some d) : (d.slots.map (·.name)).Nodup := by
  rw [(hsound.fits hd).names]
  exact hdecl.fieldNames_nodup (hsound.schema hd)

end Heap.Sound

end DocumentModel
