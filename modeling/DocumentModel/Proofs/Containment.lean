/-
Documents inside documents.

A document may hold others in any value, and those hold others again.  Unless some document comes
round to itself, no chain of them is longer than the number of documents, and cutting off at that
depth cuts off nothing.
-/
import DocumentModel.Proofs.Conformity
import Mathlib.Data.Finset.Card
import Mathlib.Data.Finset.Range

namespace DocumentModel.Heap

/-- A value is inside another, or is that value: as an item, as an entry, as a document of a list or
as what a field of a document holds, at any depth. -/
inductive Occurs (h : Heap) (w : Value) : Value → Prop
  | self : Occurs h w w
  | item {items : List Value} {v : Value} (hv : v ∈ items) (hw : Occurs h w v) :
      Occurs h w (.array items)
  | entry {entries : List (String × Value)} {e : String × Value} (he : e ∈ entries)
      (hw : Occurs h w e.2) : Occurs h w (.map entries)
  | listItem {r : ListRef} {l : DocumentList} {item : DocRef} (hl : h.list? r = some l)
      (hitem : item ∈ l.items) (hw : Occurs h w (.document item)) : Occurs h w (.list r)
  | field {r : DocRef} {d : Document} {f : Field} (hd : h.document? r = some d)
      (hf : f ∈ d.schema.fields) (hw : Occurs h w (d.value f.name)) : Occurs h w (.document r)

/-- One document is inside another. -/
def Inside (h : Heap) (s r : DocRef) : Prop :=
  ∃ d, h.document? r = some d ∧ ∃ f ∈ d.schema.fields, h.Occurs (.document s) (d.value f.name)

/-- No document that is inside `r`, nor `r` itself, is inside itself. -/
def Acyclic (h : Heap) (r : DocRef) : Prop :=
  ∀ s, h.Occurs (.document s) (.document r) → ¬ h.Inside s s

variable {h : Heap}

theorem Occurs.trans {u v w : Value} (huv : h.Occurs u v) (hvw : h.Occurs v w) :
    h.Occurs u w := by
  induction hvw with
  | self => exact huv
  | item hv _ ih => exact .item hv ih
  | entry he _ ih => exact .entry he ih
  | listItem hl hitem _ ih => exact .listItem hl hitem ih
  | field hd hf _ ih => exact .field hd hf ih

theorem Inside.occurs {r s : DocRef} (hs : h.Inside s r) :
    h.Occurs (.document s) (.document r) := by
  obtain ⟨d, hd, f, hf, hoccurs⟩ := hs
  exact .field hd hf hoccurs

theorem Inside.trans {r s t : DocRef} (hts : h.Inside t s) (hsr : h.Inside s r) :
    h.Inside t r := by
  obtain ⟨d, hd, f, hf, hoccurs⟩ := hsr
  exact ⟨d, hd, f, hf, hts.occurs.trans hoccurs⟩

theorem Acyclic.of_occurs {r s : DocRef} (hacyclic : h.Acyclic r)
    (hs : h.Occurs (.document s) (.document r)) : h.Acyclic s :=
  fun t ht => hacyclic t (ht.trans hs)

/-- No chain of documents, each inside the one before, is longer than `k`. -/
def Shallow (h : Heap) : (k : Nat) → DocRef → Prop
  | 0, r => h.document? r = none
  | k + 1, r => ∀ s, h.Inside s r → Shallow h k s

theorem length_le_of_nodup {path : List DocRef} (hnodup : path.Nodup)
    (hpath : ∀ p ∈ path, (h.document? p).isSome = true) :
    path.length ≤ h.documents.length := by
  have hindex : (path.map (·.index)).Nodup :=
    hnodup.map fun a b hab => by
      cases a
      cases b
      simpa using hab
  have hsub : (path.map (·.index)).toFinset ⊆ Finset.range h.documents.length := by
    intro i hi
    obtain ⟨p, hp, rfl⟩ := List.mem_map.mp (List.mem_toFinset.mp hi)
    obtain ⟨d, hd⟩ := Option.isSome_iff_exists.mp (hpath p hp)
    exact Finset.mem_range.mpr (document?_lt hd)
  have hcard := Finset.card_le_card hsub
  rwa [List.toFinset_card_of_nodup hindex, List.length_map, Finset.card_range] at hcard

/-- Below a path of different documents, chains are short: each document of a chain adds to the
path. -/
theorem Acyclic.shallow_of_path {k : Nat} {r : DocRef} {path : List DocRef}
    (hacyclic : h.Acyclic r) (hnodup : path.Nodup)
    (hpath : ∀ p ∈ path, (h.document? p).isSome = true ∧ h.Inside r p)
    (hk : h.documents.length ≤ k + path.length) : h.Shallow k r := by
  induction k generalizing r path with
  | zero =>
      rw [Shallow]
      cases hd : h.document? r with
      | none => rfl
      | some d =>
          have hnew : r ∉ path := fun hmem => hacyclic r .self (hpath r hmem).2
          have hle := length_le_of_nodup (h := h) (List.nodup_cons.mpr ⟨hnew, hnodup⟩)
            (List.forall_mem_cons.mpr ⟨by rw [hd]; rfl, fun p hp => (hpath p hp).1⟩)
          rw [List.length_cons] at hle
          omega
  | succ k ih =>
      intro s hs
      have hnew : r ∉ path := fun hmem => hacyclic r .self (hpath r hmem).2
      obtain ⟨d, hd, _⟩ := id hs
      refine ih (hacyclic.of_occurs hs.occurs) (List.nodup_cons.mpr ⟨hnew, hnodup⟩) ?_
        (by rw [List.length_cons]; omega)
      refine List.forall_mem_cons.mpr ⟨⟨by rw [hd]; rfl, hs⟩, fun p hp => ?_⟩
      exact ⟨(hpath p hp).1, hs.trans (hpath p hp).2⟩

/-- Without cycles no chain is longer than the number of documents. -/
theorem Acyclic.shallow {r : DocRef} (hacyclic : h.Acyclic r) :
    h.Shallow h.documents.length r :=
  hacyclic.shallow_of_path .nil (by simp) (by simp)

/-- Chains that end are well-founded. -/
theorem Shallow.acc {k : Nat} {r : DocRef} (hshallow : h.Shallow k r) : Acc h.Inside r := by
  induction k generalizing r with
  | zero =>
      have hnone : h.document? r = none := hshallow
      refine ⟨r, fun s hs => ?_⟩
      obtain ⟨d, hd, _⟩ := hs
      rw [hnone] at hd
      cases hd
  | succ k ih => exact ⟨r, fun s hs => ih (hshallow s hs)⟩

/-! Flattening to a depth. -/

/-- A value as JSON whose documents are cut off at a depth. -/
def toJsonAt (h : Heap) (depth : Nat) (v : Value) : Json :=
  v.toJsonWith (fun r => .obj (h.dataAt depth r))
    (fun l => .arr ((h.items l).map fun r => .obj (h.dataAt depth r)))

theorem dataAt_succ {r : DocRef} {d : Document} (hd : h.document? r = some d) (depth : Nat) :
    h.dataAt (depth + 1) r =
      d.schema.fields.map fun f => (f.name, h.toJsonAt depth (d.value f.name)) := by
  rw [dataAt, hd]
  rfl

/-- The data of a document is cut off below the number of documents. -/
theorem exists_data_eq {r : DocRef} {d : Document} (hd : h.document? r = some d) :
    ∃ depth, h.documents.length = depth + 1 ∧ h.data r = h.dataAt (depth + 1) r := by
  have hlt := document?_lt hd
  refine ⟨h.documents.length - 1, by omega, ?_⟩
  rw [data, Nat.sub_add_cancel (by omega)]

/-- Every field has a member in the data of the document. -/
theorem exists_mem_data {r : DocRef} {d : Document} (hd : h.document? r = some d)
    {f : Field} (hf : f ∈ d.schema.fields) :
    ∃ depth, (f.name, h.toJsonAt depth (d.value f.name)) ∈ h.data r := by
  obtain ⟨depth, _, hdata⟩ := exists_data_eq hd
  refine ⟨depth, ?_⟩
  rw [hdata, dataAt_succ hd]
  exact List.mem_map_of_mem hf

theorem data_eq_nil {r : DocRef} (hnone : h.document? r = none) : h.data r = [] := by
  rw [data]
  cases h.documents.length with
  | zero => rfl
  | succ depth => rw [dataAt, hnone]

theorem map_fst_data {r : DocRef} {d : Document} (hd : h.document? r = some d) :
    (h.data r).map Prod.fst = d.schema.fieldNames := by
  obtain ⟨depth, _, hdata⟩ := exists_data_eq hd
  rw [hdata, dataAt_succ hd, List.map_map]
  rfl

section

variable {document document' : DocRef → Json} {list list' : ListRef → Json}

mutual

/-- The JSON of a value depends on the documents and the lists inside it. -/
theorem toJsonWith_congr_of : (v : Value) →
    (∀ s, h.Occurs (.document s) v → document s = document' s) →
    (∀ l, h.Occurs (.list l) v → list l = list' l) →
    v.toJsonWith document list = v.toJsonWith document' list'
  | .array items, hdocuments, hlists => by
      rw [Value.toJsonWith, Value.toJsonWith,
        itemsToJson_congr items (fun v hv s hs => hdocuments s (.item hv hs))
          fun v hv l hl => hlists l (.item hv hl)]
  | .map entries, hdocuments, hlists => by
      rw [Value.toJsonWith, Value.toJsonWith,
        entriesToJson_congr entries (fun e he s hs => hdocuments s (.entry he hs))
          fun e he l hl => hlists l (.entry he hl)]
  | .document r, hdocuments, _ => hdocuments r .self
  | .list r, _, hlists => hlists r .self
  | .null, _, _ => rfl
  | .bool _, _, _ => rfl
  | .int _, _, _ => rfl
  | .float _, _, _ => rfl
  | .text _, _, _ => rfl
  | .instant _, _, _ => rfl
  | .objectId _, _, _ => rfl

theorem itemsToJson_congr : (items : List Value) →
    (∀ v ∈ items, ∀ s, h.Occurs (.document s) v → document s = document' s) →
    (∀ v ∈ items, ∀ l, h.Occurs (.list l) v → list l = list' l) →
    Value.itemsToJson document list items = Value.itemsToJson document' list' items
  | [], _, _ => rfl
  | v :: rest, hdocuments, hlists => by
      rw [Value.itemsToJson, Value.itemsToJson,
        toJsonWith_congr_of v (hdocuments v List.mem_cons_self) (hlists v List.mem_cons_self),
        itemsToJson_congr rest (fun w hw => hdocuments w (List.mem_cons_of_mem v hw))
          fun w hw => hlists w (List.mem_cons_of_mem v hw)]

theorem entriesToJson_congr : (entries : List (String × Value)) →
    (∀ e ∈ entries, ∀ s, h.Occurs (.document s) e.2 → document s = document' s) →
    (∀ e ∈ entries, ∀ l, h.Occurs (.list l) e.2 → list l = list' l) →
    Value.entriesToJson document list entries = Value.entriesToJson document' list' entries
  | [], _, _ => rfl
  | (key, v) :: rest, hdocuments, hlists => by
      rw [Value.entriesToJson, Value.entriesToJson,
        toJsonWith_congr_of v (hdocuments (key, v) List.mem_cons_self)
          (hlists (key, v) List.mem_cons_self),
        entriesToJson_congr rest (fun e he => hdocuments e (List.mem_cons_of_mem (key, v) he))
          fun e he => hlists e (List.mem_cons_of_mem (key, v) he)]

end

/-- Where lists are written item by item, the documents alone matter. -/
theorem toJsonWith_congr (v : Value)
    (hsame : ∀ s, h.Occurs (.document s) v → document s = document' s) :
    v.toJsonWith document (fun l => .arr ((h.items l).map document)) =
      v.toJsonWith document' (fun l => .arr ((h.items l).map document')) := by
  apply toJsonWith_congr_of v hsame
  intro r hr
  congr 1
  apply List.map_congr_left
  intro item hitem
  rw [items] at hitem
  cases hl : h.list? r with
  | none => simp [hl] at hitem
  | some l =>
      rw [hl] at hitem
      exact hsame item (Occurs.trans (.listItem hl hitem .self) hr)

end

theorem Shallow.dataAt_eq {k m : Nat} {r : DocRef} (hshallow : h.Shallow k r) (hm : k ≤ m) :
    h.dataAt m r = h.dataAt k r := by
  induction k generalizing r m with
  | zero =>
      have hnone : h.document? r = none := hshallow
      cases m <;> simp [dataAt, hnone]
  | succ k ih =>
      obtain ⟨m, rfl⟩ : ∃ m', m = m' + 1 := ⟨m - 1, by omega⟩
      rw [dataAt, dataAt]
      cases hd : h.document? r with
      | none => rfl
      | some d =>
          apply List.map_congr_left
          intro f hf
          congr 1
          apply toJsonWith_congr _
          intro s hs
          rw [ih (hshallow s ⟨d, hd, f, hf, hs⟩) (by omega)]

/-- The data of a document is the JSON of its values, field by field. -/
theorem Acyclic.data_eq {r : DocRef} (hacyclic : h.Acyclic r) {d : Document}
    (hd : h.document? r = some d) :
    h.data r = d.schema.fields.map fun f => (f.name, h.toJson (d.value f.name)) := by
  obtain ⟨depth, hlength, hdata⟩ := exists_data_eq hd
  have hshallow := hacyclic.shallow
  rw [hlength] at hshallow
  rw [hdata, dataAt_succ hd]
  apply List.map_congr_left
  intro f hf
  congr 1
  apply toJsonWith_congr _
  intro s hs
  have hinner := hshallow s ⟨d, hd, f, hf, hs⟩
  rw [data, hlength, hinner.dataAt_eq (Nat.le_succ depth)]

end DocumentModel.Heap
