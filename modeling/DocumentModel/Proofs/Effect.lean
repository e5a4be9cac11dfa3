/-
What an assignment comes to.

Assigning a field puts one slot in the place of another, refills the sequence that the field owns,
or makes a new sequence for it.  Which of these it is, depends on the field, on what the field holds
and on what the value leads to, and on nothing else.
-/
import DocumentModel.Proofs.Containment
import DocumentModel.Proofs.ListAssignment

namespace DocumentModel

/-- What an assignment to a field of a document comes to. -/
inductive Effect where
  | fill (slot : Slot)
  | refill (own : ListRef) (c : DocumentList)
  /-- Make a sequence for the field of a given name. -/
  | make (name : String) (c : DocumentList)

/-- The value that an assignment finds in a slot: a declared default counts as nothing. -/
def Slot.current (slot : Slot) : Value :=
  if slot.shared then .null else slot.value

theorem Document.map_name_putSlot (d : Document) (slot : Slot) :
    (d.putSlot slot).slots.map (·.name) = d.slots.map (·.name) := by
  rw [putSlot, List.map_map]
  apply List.map_congr_left
  intro s _
  simp only [Function.comp_apply]
  split
  · next heq => exact heq.symm
  · rfl

namespace Heap

/-- Put a slot into a document, if there is one. -/
def putSlot (h : Heap) (r : DocRef) (slot : Slot) : Heap :=
  match h.document? r with
  | none => h
  | some d => h.putDocument r (d.putSlot slot)

/-- What an assignment to a list field comes to. -/
def listEffect (h : Heap) (schema : Schema) (slot : Slot) (v : Value) : Effect :=
  match h.offered? slot.current v with
  | none => .fill slot
  | some items =>
      match slot.current with
      | .list own =>
          match h.list? own with
          | none => .fill slot
          | some c =>
              match h.checkTypes c.schema items with
              | .ok () => .refill own ⟨c.schema, items⟩
              | .error _ => .fill slot
      | _ =>
          match h.checkTypes schema items with
          | .ok () => .make slot.name ⟨schema, items⟩
          | .error _ => .fill slot

/-- What an assignment to a field with a given slot comes to. -/
def effect (h : Heap) (f : Field) (slot : Slot) (v : Value) : Effect :=
  match f.kind with
  | .list schema => h.listEffect schema slot v
  | _ => .fill ((h.assign f slot.current v).1.apply slot)

end Heap

/-- The heap after an effect on a document. -/
def Effect.run (r : DocRef) (h : Heap) : Effect → Heap
  | .fill slot => h.putSlot r slot
  | .refill own c => h.putList own c
  | .make name c => (h.addList c).2.putSlot r ⟨name, .list (h.addList c).1, false, false⟩

namespace Heap

variable {h later : Heap} {r : DocRef} {d : Document} {f : Field} {slot : Slot} {v : Value}

theorem putSlot_eq (hd : h.document? r = some d) (slot : Slot) :
    h.putSlot r slot = h.putDocument r (d.putSlot slot) := by
  rw [putSlot, hd]

/-- Putting back the slot that is there changes nothing. -/
theorem putSlot_self (hd : h.document? r = some d) {name : String}
    (hslot : d.slot? name = some slot) (hnodup : (d.slots.map (·.name)).Nodup) :
    h.putSlot r slot = h := by
  rw [putSlot_eq hd, Document.putSlot_of_slot? hnodup hslot, putDocument_self hd]

theorem list?_addList_of_ne (h : Heap) (c : DocumentList) {l : ListRef}
    (hne : l ≠ (h.addList c).1) : (h.addList c).2.list? l = h.list? l := by
  have hindex : l.index ≠ h.lists.length := fun heq => hne (by cases l; simp_all [addList])
  simp only [list?, addList, List.getElem?_append]
  split
  · rfl
  · rw [List.getElem?_eq_none (by simp; omega), List.getElem?_eq_none (by omega)]

theorem assign_heap (h : Heap) (hlist : f.kind.isList = false) (current v : Value) :
    (h.assign f current v).2 = h := by
  cases hkind : f.kind with
  | list schema => simp [hkind, Kind.isList] at hlist
  | array lengths check? => cases v <;> simp [assign, hkind]
  | embedded schema => cases v <;> simp [assign, hkind]
  | _ => simp [assign, hkind]

theorem effect_plain (h : Heap) (hlist : f.kind.isList = false) (slot : Slot) (v : Value) :
    h.effect f slot v = .fill ((h.assign f slot.current v).1.apply slot) := by
  rw [effect]
  split
  · next schema hkind => simp [hkind, Kind.isList] at hlist
  · rfl

theorem run_listEffect (hd : h.document? r = some d) {name : String}
    (hslot : d.slot? name = some slot) (hnodup : (d.slots.map (·.name)).Nodup) (schema : Schema)
    (v : Value) :
    (h.assignList schema slot.current v).2.putDocument r
        (d.putSlot ((h.assignList schema slot.current v).1.apply slot)) =
      (h.listEffect schema slot v).run r h := by
  have hkeep : h.putDocument r (d.putSlot slot) = h.putSlot r slot := (putSlot_eq hd slot).symm
  rw [assignList, listEffect]
  generalize slot.current = current
  cases h.offered? current v with
  | none => exact hkeep
  | some items =>
      cases current with
      | list own =>
          simp only [replaceItems]
          cases h.list? own with
          | none => exact hkeep
          | some c =>
              simp only
              cases h.checkTypes c.schema items with
              | error e => exact hkeep
              | ok u =>
                  have hd' : (h.putList own ⟨c.schema, items⟩).document? r = some d := hd
                  exact (putSlot_eq hd' slot).symm.trans (putSlot_self hd' hslot hnodup)
      | _ =>
          simp only
          cases h.checkTypes schema items with
          | error e => exact hkeep
          | ok u =>
              have hd' : (h.addList ⟨schema, items⟩).2.document? r = some d := hd
              exact (putSlot_eq hd' _).symm

/-- An assignment has its effect. -/
theorem set_eq_run (hd : h.document? r = some d) {name : String}
    (hfield : d.schema.field? name = some f) (hslot : d.slot? name = some slot)
    (hnodup : (d.slots.map (·.name)).Nodup) (v : Value) :
    h.set r name v = (.ok (), (h.effect f slot v).run r h) := by
  have hset : h.set r name v = (.ok (), (h.assign f slot.current v).2.putDocument r
      (d.putSlot ((h.assign f slot.current v).1.apply slot))) := by
    rw [set]
    simp only [hd, hfield, hslot]
    rfl
  rw [hset]
  congr 1
  cases hlist : f.kind.isList with
  | false => rw [effect_plain h hlist, assign_heap h hlist, Effect.run, putSlot_eq hd]
  | true =>
      obtain ⟨schema, hkind⟩ := Kind.exists_of_isList hlist
      simpa only [assign, effect, hkind] using run_listEffect hd hslot hnodup schema v

/-! ### What a value leads to -/

/-- All that a value leads to is the same later. -/
structure Untouched (h later : Heap) (v : Value) : Prop where
  document : ∀ q, h.Occurs (.document q) v → later.document? q = h.document? q
  list : ∀ l, h.Occurs (.list l) v → later.list? l = h.list? l

theorem Untouched.of_occurs {w : Value} (hv : h.Untouched later v) (hw : h.Occurs w v) :
    h.Untouched later w :=
  ⟨fun q hq => hv.document q (hq.trans hw), fun l hl => hv.list l (hl.trans hw)⟩

theorem Untouched.items_eq {l : ListRef} (hl : h.Untouched later (.list l)) :
    later.items l = h.items l := by
  rw [items, items, hl.list l .self]

theorem occurs_of_mem_items {l : ListRef} {item : DocRef} (hitem : item ∈ h.items l) :
    h.Occurs (.document item) (.list l) := by
  rw [items] at hitem
  cases hl : h.list? l with
  | none => simp [hl] at hitem
  | some c =>
      rw [hl] at hitem
      exact .listItem hl hitem .self

theorem Untouched.toJsonAt_eq {depth : Nat} (hv : h.Untouched later v)
    (hdata : ∀ q, h.Occurs (.document q) v → later.dataAt depth q = h.dataAt depth q) :
    later.toJsonAt depth v = h.toJsonAt depth v := by
  apply toJsonWith_congr_of (h := h) v
  · exact fun q hq => congrArg Json.obj (hdata q hq)
  · intro l hl
    rw [(hv.of_occurs hl).items_eq]
    congr 1
    apply List.map_congr_left
    exact fun item hitem => congrArg Json.obj (hdata item ((occurs_of_mem_items hitem).trans hl))

theorem Untouched.dataAt_eq (depth : Nat) {q : DocRef} (hq : h.Untouched later (.document q)) :
    later.dataAt depth q = h.dataAt depth q := by
  induction depth generalizing q with
  | zero => rfl
  | succ depth ih =>
      have hsame := hq.document q .self
      cases hd : h.document? q with
      | none =>
          rw [hd] at hsame
          rw [dataAt, dataAt, hd, hsame]
      | some d =>
          rw [hd] at hsame
          rw [dataAt_succ hd, dataAt_succ hsame]
          apply List.map_congr_left
          intro f hf
          have hvalue := hq.of_occurs (.field hd hf .self)
          rw [hvalue.toJsonAt_eq fun s hs => ih (hvalue.of_occurs hs)]

theorem Untouched.toJson_eq (hv : h.Untouched later v)
    (hlength : later.documents.length = h.documents.length) : later.toJson v = h.toJson v := by
  change later.toJsonAt later.documents.length v = h.toJsonAt h.documents.length v
  rw [hlength]
  exact hv.toJsonAt_eq fun q hq => (hv.of_occurs hq).dataAt_eq _

theorem Untouched.written_eq (hv : h.Untouched later v)
    (hlength : later.documents.length = h.documents.length) :
    Field.written later v = Field.written h v := by
  have hjson := congrArg Json.render (hv.toJson_eq hlength)
  cases v with
  | array items => exact hjson
  | map entries => exact hjson
  | document r => exact hjson
  | list l => exact hjson
  | _ => rfl

theorem Untouched.coerce_eq (hv : h.Untouched later v)
    (hlength : later.documents.length = h.documents.length) (f : Field) :
    f.coerce later v = f.coerce h v := by
  have htext : Field.toText later v = Field.toText h v := by
    by_cases hnull : v = .null
    · rw [hnull]
      rfl
    · rw [Field.toText_eq_text_trim hnull, Field.toText_eq_text_trim hnull, hv.written_eq hlength]
  cases hkind : f.kind <;> cases v <;> simp [Field.coerce, hkind, htext]

/-- The documents that a value offers are part of it. -/
theorem occurs_of_offered? {current : Value} {items : List DocRef}
    (hoffered : h.offered? current v = some items) :
    ∀ item ∈ items, h.Occurs (.document item) v := by
  intro item hitem
  cases lists_of_offered? hoffered with
  | list l => exact occurs_of_mem_items hitem
  | array _ => exact .item (List.mem_map_of_mem hitem) .self

theorem Untouched.offered?_eq (hv : h.Untouched later v) (current : Value) :
    later.offered? current v = h.offered? current v := by
  cases v with
  | list l => rw [offered?, offered?, hv.items_eq]
  | _ => rfl

theorem documentIsA_congr {q : DocRef} (hq : later.document? q = h.document? q)
    (schema : Schema) : later.documentIsA q schema = h.documentIsA q schema := by
  rw [documentIsA, documentIsA, hq]

theorem checkTypes_congr {items : List DocRef}
    (hitems : ∀ item ∈ items, later.document? item = h.document? item) (schema : Schema) :
    later.checkTypes schema items = h.checkTypes schema items := by
  induction items with
  | nil => rfl
  | cons item rest ih =>
      obtain ⟨hitem, hrest⟩ := List.forall_mem_cons.mp hitems
      rw [checkTypes, checkTypes, documentIsA_congr hitem, documentType, documentType, hitem,
        ih hrest]

theorem Untouched.assign_eq (hv : h.Untouched later v)
    (hlength : later.documents.length = h.documents.length) (hlist : f.kind.isList = false)
    (current current' : Value) : (later.assign f current' v).1 = (h.assign f current v).1 := by
  cases hkind : f.kind with
  | list schema => simp [hkind, Kind.isList] at hlist
  | array lengths check? =>
      cases v with
      | list l => simp [assign, hkind, hv.items_eq]
      | _ => simp [assign, hkind]
  | embedded schema =>
      cases v with
      | document q => simp [assign, hkind, documentIsA_congr (hv.document q .self)]
      | _ => simp [assign, hkind]
  | _ => simp [assign, hkind, hv.coerce_eq hlength]

/-- An assignment comes to the same later if all that the value leads to is the same, and the
field's own sequence has the same type. -/
theorem Untouched.effect_eq (hv : h.Untouched later v)
    (hlength : later.documents.length = h.documents.length)
    (hown : ∀ own, slot.current = .list own →
      (later.list? own).map (·.schema) = (h.list? own).map (·.schema)) :
    later.effect f slot v = h.effect f slot v := by
  cases hlist : f.kind.isList with
  | false =>
      rw [effect_plain later hlist, effect_plain h hlist,
        hv.assign_eq hlength hlist slot.current slot.current]
  | true =>
      obtain ⟨schema, hkind⟩ := Kind.exists_of_isList hlist
      simp only [effect, hkind, listEffect, hv.offered?_eq]
      cases hoffered : h.offered? slot.current v with
      | none => rfl
      | some items =>
          have hitems : ∀ item ∈ items, later.document? item = h.document? item := fun item hitem =>
            hv.document item (occurs_of_offered? hoffered item hitem)
          simp only [checkTypes_congr hitems]
          split
          · next own hcurrent =>
              have hschema := hown own hcurrent
              cases hc : h.list? own with
              | none =>
                  rw [hc, Option.map_none, Option.map_eq_none_iff] at hschema
                  rw [hschema]
              | some c =>
                  rw [hc, Option.map_some] at hschema
                  obtain ⟨c', hc', hsame⟩ := Option.map_eq_some_iff.mp hschema
                  simp only [hc', hsame]
          · rfl

end Heap

end DocumentModel
