/-
Assignments as changes.

Assigning a field, copying a document and editing a list are runs of elementary changes.  An
assignment reaches the document itself, and a list only if the document owns it.
-/
import DocumentModel.Proofs.Change

namespace DocumentModel

/-- The documents of a sequence are found if it holds nothing else. -/
theorem Value.documents?_eq_some_iff {values : List Value} {items : List DocRef} :
    Value.documents? values = some items ↔ values = items.map .document := by
  induction values generalizing items with
  | nil => cases items <;> simp [documents?]
  | cons v rest ih =>
      cases v with
      | document r =>
          cases items with
          | nil => simp [documents?]
          | cons item items => simp [documents?, ih, and_comm]
      | _ => cases items <;> simp [documents?]

/-! What conversion leaves in a field. -/

theorem Field.toText_eq_text_trim {h : Heap} {v : Value} (hv : v ≠ .null) :
    Field.toText h v = .text (Text.trim (Field.written h v)) := by
  cases v <;> first | rfl | exact absurd rfl hv

/-- A converted value is one that the field may hold. -/
theorem Field.coerce_admits (h : Heap) (f : Field) (v : Value) (harray : f.kind.isArray = false)
    (hschema : f.kind.schema? = none) : f.kind.Admits h (f.coerce h v) := by
  cases hkind : f.kind with
  | float range =>
      intro n
      cases v <;> simp [Field.coerce, hkind]
  | objectId =>
      intro s hs
      cases v with
      | text t =>
          cases hparse : ObjectId.parse? t with
          | none =>
              simp only [Field.coerce, hkind, hparse, Option.map_none, Option.getD_none,
                Value.text.injEq] at hs
              exact hs ▸ hparse
          | some id => simp [Field.coerce, hkind, hparse] at hs
      | _ => simp [Field.coerce, hkind] at hs
  | string rules =>
      have hcoerce : f.coerce h v = Field.toText h v := by
        simp [Field.coerce, hkind]
      rw [hcoerce]
      by_cases hnull : v = .null
      · subst hnull
        exact Or.inl rfl
      · exact Or.inr ⟨_, Field.toText_eq_text_trim hnull, Text.trim_bare _⟩
  | array lengths check? => simp [hkind, Kind.isArray] at harray
  | embedded schema => simp [hkind, Kind.schema?] at hschema
  | list schema => simp [hkind, Kind.schema?] at hschema
  | _ => trivial

theorem Assignment.name_apply (a : Assignment) (slot : Slot) : (a.apply slot).name = slot.name := by
  cases a <;> rfl

/-- Conversion keeps a value, or makes a number, an identifier or a text of it. -/
theorem Field.coerce_cases (h : Heap) (f : Field) (v : Value) :
    f.coerce h v = v ∨ (∃ x, f.coerce h v = .float x) ∨ (∃ id, f.coerce h v = .objectId id) ∨
      ∃ s, f.coerce h v = .text s := by
  cases hkind : f.kind with
  | float range => cases v <;> simp [Field.coerce, hkind]
  | objectId =>
      cases v with
      | text s => cases hparse : ObjectId.parse? s <;> simp [Field.coerce, hkind, hparse]
      | _ => simp [Field.coerce, hkind]
  | string rules =>
      have hcoerce : f.coerce h v = Field.toText h v := by
        simp [Field.coerce, hkind]
      rw [hcoerce]
      by_cases hnull : v = .null
      · exact Or.inl (by rw [hnull]; rfl)
      · exact Or.inr (Or.inr (Or.inr ⟨_, Field.toText_eq_text_trim hnull⟩))
  | _ => simp [Field.coerce, hkind]

theorem Field.coerce_proper (h : Heap) (f : Field) {v : Value} (hv : v.Proper) :
    (f.coerce h v).Proper := by
  rcases f.coerce_cases h v with heq | ⟨x, heq⟩ | ⟨id, heq⟩ | ⟨s, heq⟩ <;> rw [heq]
  · exact hv
  · exact .float x
  · exact .objectId id
  · exact .text s

namespace Heap

variable {types : List Schema} {n m : Nat} {h : Heap}

theorem putDocument_self {r : DocRef} {d : Document} (hd : h.document? r = some d) :
    h.putDocument r d = h := by
  have hset : h.documents.set r.index d = h.documents := by
    apply List.ext_getElem?
    intro i
    by_cases hi : r.index = i
    · subst hi
      rw [List.getElem?_set_self (document?_lt hd)]
      exact hd.symm
    · rw [List.getElem?_set_ne hi]
  rw [putDocument, hset]

/-- The check passes exactly if all documents are of the type. -/
theorem checkTypes_eq_ok_iff {schema : Schema} {items : List DocRef} :
    h.checkTypes schema items = .ok () ↔ ∀ item ∈ items, h.documentIsA item schema = true := by
  induction items with
  | nil => simp [checkTypes]
  | cons item rest ih => by_cases hitem : h.documentIsA item schema <;> simp [checkTypes, hitem, ih]

/-! Lists. -/

theorem replaceItems_changes {r : ListRef} (hr : m ≤ r.index) (items : List DocRef) :
    Changes types n m h (h.replaceItems r items).2 := by
  rw [replaceItems]
  split
  · exact .refl h
  · next l hl =>
      split
      · next hcheck => exact .single (.fill hr hl (checkTypes_eq_ok_iff.mp hcheck))
      · exact .refl h

theorem Sound.push_changes (hsound : h.Sound types) {r : ListRef} (hr : m ≤ r.index)
    (item : DocRef) : Changes types n m h (h.push r item).2 := by
  rw [push]
  split
  · exact .refl h
  · next l hl =>
      split
      · next hcheck =>
          refine .single (.fill hr hl ?_)
          intro found hfound
          rcases List.mem_append.mp hfound with hold | hnew
          · exact hsound.items hl found hold
          · exact checkTypes_eq_ok_iff.mp hcheck found hnew
      · exact .refl h

theorem Sound.removeAt_changes (hsound : h.Sound types) {r : ListRef} (hr : m ≤ r.index)
    (index : Nat) : Changes types n m h (h.removeAt r index).2 := by
  rw [removeAt]
  split
  · exact .refl h
  · next l hl =>
      refine .single (.fill hr hl fun item hitem => ?_)
      exact hsound.items hl item (List.mem_of_mem_eraseIdx hitem)

theorem clear_changes {r : ListRef} (hr : m ≤ r.index) : Changes types n m h (h.clear r) := by
  rw [clear]
  split
  · exact .refl h
  · next l hl => exact .single (.fill hr hl fun item hitem => by cases hitem)

theorem Sound.detach_changes (hsound : h.Sound types) (n m : Nat) (r : ListRef) :
    Changes types n m h (h.detach r).2 := by
  rw [detach]
  split
  · exact .refl h
  · next l hl => exact .single (.newList (hsound.listSchema hl) (hsound.items hl))

/-! Assignment. -/

theorem documents_replaceItems (h : Heap) (r : ListRef) (items : List DocRef) :
    (h.replaceItems r items).2.documents = h.documents := by
  rw [replaceItems]
  split
  · rfl
  · split <;> rfl

/-- What an assignment does to a list field: nothing, a new list of its own, or new contents for
the list that it owns. -/
theorem assignList_cases (h : Heap) (schema : Schema) (current v : Value) :
    h.assignList schema current v = (.keep, h) ∨
    (∃ own items, current = .list own ∧
      h.assignList schema current v = (.keep, (h.replaceItems own items).2)) ∨
    (∃ items, (∀ item ∈ items, h.documentIsA item schema = true) ∧
      h.assignList schema current v =
        (.store (.list (h.addList ⟨schema, items⟩).1), (h.addList ⟨schema, items⟩).2)) := by
  rw [assignList]
  split
  · exact Or.inl rfl
  · next items hoffered =>
      split
      · exact Or.inr (Or.inl ⟨_, items, rfl, rfl⟩)
      · split
        · next hcheck => exact Or.inr (Or.inr ⟨items, checkTypes_eq_ok_iff.mp hcheck, rfl⟩)
        · exact Or.inl rfl

theorem list?_addList_fst (h : Heap) (l : DocumentList) :
    h.list? (h.addList l).1 = none := by
  rw [list?, addList]
  exact List.getElem?_eq_none (Nat.le_refl _)

/-- Assigning a list field of a document. -/
theorem Ready.assignList_changes (hdecl : Declared types) (hready : h.Ready types n m)
    {r : DocRef} (hr : n ≤ r.index) {d : Document} (hd : h.document? r = some d) {f : Field}
    {schema : Schema} (hf : f ∈ d.schema.fields) (hkind : f.kind = .list schema) {slot : Slot}
    (hmem : slot ∈ d.slots) (hfits : slot.Fits h f) (v : Value) :
    let current := if slot.shared then .null else slot.value
    let (a, later) := h.assignList schema current v
    Changes types n m h (later.putDocument r (d.putSlot (a.apply slot))) := by
  intro current
  have hnames := hready.sound.slotNames_nodup hdecl hd
  have hkeep : d.putSlot slot = d :=
    Document.putSlot_of_slot? hnames (Document.slot?_of_mem hnames hmem)
  have hschema : schema ∈ types :=
    ((hdecl.field_over (hready.sound.schema hd) hf).kind schema (by rw [hkind]; rfl)).1
  rcases assignList_cases h schema current v with
    heq | ⟨own, items, hown, heq⟩ | ⟨items, hitems, heq⟩
  · rw [heq]
    simp only [Assignment.apply, hkeep, putDocument_self hd]
    exact .refl h
  · -- the list that is refilled is the document's own
    have hshared : slot.shared = false := by
      cases hs : slot.shared with
      | false => rfl
      | true => simp [current, hs] at hown
    have hvalue : slot.value = .list own := by simpa [current, hshared] using hown
    have howns : h.Owns r f.name own :=
      ⟨d, hd, f, hf, rfl, by rw [hkind]; rfl, slot, hmem, hfits.name, hshared, hvalue⟩
    have hd' : (h.replaceItems own items).2.document? r = some d := by
      rw [document?, documents_replaceItems]
      exact hd
    rw [heq]
    simp only [Assignment.apply, hkeep, putDocument_self hd']
    exact replaceItems_changes (hready.own r f.name own hr howns) items
  · have hnew : Change types n m h (h.addList ⟨schema, items⟩).2 := .newList hschema hitems
    have hfree : (h.addList ⟨schema, items⟩).2.Free (h.addList ⟨schema, items⟩).1 :=
      hready.sound.free_of_list?_eq_none hdecl (list?_addList_fst h _)
    rw [heq]
    refine (Changes.single hnew).trans (.single (.newSlot (f := f) hr hd hf ?_ ?_))
    · refine ⟨hfits.name, ?_, .list _, by simp [Assignment.apply], by simp [Assignment.apply], ?_⟩
      · rw [hkind]
        exact ⟨_, _, rfl, list?_addList_self h _, Schema.isA_refl schema⟩
      · intro _ schema' l hkind' hvalue
        obtain rfl : schema = schema' := by simpa [hkind] using hkind'
        obtain rfl : (h.addList ⟨schema, items⟩).1 = l := by
          simpa [Assignment.apply] using hvalue
        exact ⟨_, list?_addList_self h _, rfl⟩
    · intro _ _ l hl
      obtain rfl : (h.addList ⟨schema, items⟩).1 = l := by simpa [Assignment.apply] using hl
      exact ⟨hready.lists, hfree⟩

/-- Assigning a field of another kind stores something that the field may hold. -/
theorem assign_plain (h : Heap) {f : Field} (hlist : f.kind.isList = false) (current : Value)
    {v : Value} (hv : v.Proper) {slot : Slot} (hfits : slot.Fits h f) :
    ∃ a : Assignment, h.assign f current v = (a, h) ∧ (a.apply slot).Fits h f := by
  have hnoList : ∀ (slot : Slot) schema l, f.kind = .list schema → slot.value = .list l →
      ∃ c, h.list? l = some c ∧ c.schema = schema := by
    intro _ schema _ hkind
    rw [hkind] at hlist
    cases hlist
  have hstore : ∀ w : Value, f.kind.Admits h w → w.Proper →
      ((Assignment.store w).apply slot).Fits h f := fun w hadmits hproper =>
    ⟨hfits.name, hadmits, hproper, by simp [Assignment.apply], by simp [Assignment.apply],
      fun _ => hnoList _⟩
  cases hkind : f.kind with
  | array lengths check? =>
      have hreject : (Assignment.reject.apply slot).Fits h f := by
        refine ⟨hfits.name, ?_, .array (by simp), by simp [Assignment.apply], fun _ => ?_,
          fun _ => hnoList _⟩
        · rw [hkind]
          exact Or.inr ⟨[], rfl⟩
        · exact ⟨by rw [hkind]; rfl, rfl⟩
      rw [hkind] at hstore
      cases v with
      | null => exact ⟨.store .null, by simp [assign, hkind], hstore _ (Or.inl rfl) .null⟩
      | array items =>
          exact ⟨.store (.array items), by simp [assign, hkind], hstore _ (Or.inr ⟨items, rfl⟩) hv⟩
      | list r =>
          refine ⟨.store (.array ((h.items r).map .document)), by simp [assign, hkind],
            hstore _ (Or.inr ⟨_, rfl⟩) (.array fun w hw => ?_)⟩
          obtain ⟨s, _, rfl⟩ := List.mem_map.mp hw
          exact .document s
      | _ => exact ⟨.reject, by simp [assign, hkind], hreject⟩
  | embedded schema =>
      rw [hkind] at hstore
      cases v with
      | null => exact ⟨.store .null, by simp [assign, hkind], hstore _ (Or.inl rfl) .null⟩
      | document r =>
          by_cases hisA : h.documentIsA r schema = true
          · exact ⟨.store (.document r), by simp [assign, hkind, hisA],
              hstore _ (Or.inr ⟨r, rfl, hisA⟩) (.document r)⟩
          · exact ⟨.keep, by simp [assign, hkind, hisA], hfits⟩
      | _ => exact ⟨.keep, by simp [assign, hkind], hfits⟩
  | list schema => simp [hkind, Kind.isList] at hlist
  | _ =>
      refine ⟨.store (f.coerce h v), by simp [assign, hkind], hstore _ ?_ (f.coerce_proper h hv)⟩
      exact f.coerce_admits h v (by rw [hkind]; rfl) (by rw [hkind]; rfl)

/-- Assigning a field changes the document, and a list only if the document owns it. -/
theorem Ready.set_changes (hdecl : Declared types) (hready : h.Ready types n m)
    {r : DocRef} (hr : n ≤ r.index) (name : String) {v : Value} (hv : v.Proper) :
    Changes types n m h (h.set r name v).2 := by
  rw [set]
  split
  · exact .refl h
  · next d hd =>
      split
      · next f slot hfield hslot =>
          obtain ⟨hf, hname⟩ := Schema.mem_of_field? hfield
          obtain ⟨found, hfound, hfits⟩ := hready.sound.slot_of_field hdecl hd hf
          obtain rfl : found = slot :=
            Option.some.inj (hfound.symm.trans (hname ▸ hslot))
          have hmem := (Document.mem_of_slot? hslot).1
          cases hlist : f.kind.isList with
          | true =>
              obtain ⟨schema, hkind⟩ := Kind.exists_of_isList hlist
              have hassign : ∀ current, h.assign f current v = h.assignList schema current v := by
                intro current
                simp [assign, hkind]
              simp only [hassign]
              exact hready.assignList_changes hdecl hr hd hf hkind hmem hfits v
          | false =>
              obtain ⟨a, ha, hnew⟩ := assign_plain h hlist
                (if found.shared then .null else found.value) hv hfits
              simp only [ha]
              exact .single (.newSlot hr hd hf hnew (by simp [hlist]))
      · exact .refl h

/-! Copies. -/

theorem copySlot_cases (h : Heap) (slot : Slot) :
    (∃ r l, slot.value = .list r ∧ slot.shared = false ∧ h.list? r = some l ∧
      h.copySlot slot = ({ slot with value := .list (h.addList l).1 }, (h.addList l).2)) ∨
    ((∀ r, slot.value = .list r → slot.shared = false → h.list? r = none) ∧
      h.copySlot slot = (slot, h)) := by
  rw [copySlot]
  split
  · next r hvalue hshared =>
      cases hl : h.list? r with
      | none =>
          refine Or.inr ⟨fun s hs _ => ?_, ?_⟩
          · obtain rfl : r = s := by simpa [hvalue] using hs
            exact hl
          · simp only [detach, hl, ← hvalue]
      | some l => exact Or.inl ⟨r, l, hvalue, hshared, hl, by simp only [detach, hl]⟩
  · next hno => exact Or.inr ⟨fun r hvalue hshared => absurd hshared (hno r hvalue), rfl⟩

/-- What some slots own is made between two moments, nobody else's, and each list is owned by one
field. -/
structure OwnsNew (h later : Heap) (fields : List Field) (slots : List Slot) : Prop where
  new : ∀ p ∈ fields.zip slots, ∀ l, OwnsAt p l →
    h.list? l = none ∧ (later.list? l).isSome = true ∧ later.Free l
  apart : (fields.zip slots).Pairwise fun p q => ∀ l, OwnsAt p l → ¬ OwnsAt q l

theorem OwnsNew.nil (h later : Heap) : OwnsNew h later [] [] :=
  ⟨by simp, by simp⟩

theorem OwnsNew.cons (hdecl : Declared types) {mid later : Heap} (hsound : mid.Sound types)
    (hgrows : h.Grows mid)
    (hc : Changes types mid.documents.length mid.lists.length mid later) {f : Field}
    {slot : Slot} {fields : List Field} {slots : List Slot}
    (hfirst : ∀ l, OwnsAt (f, slot) l →
      h.list? l = none ∧ (mid.list? l).isSome = true ∧ mid.Free l)
    (hrest : mid.OwnsNew later fields slots) : h.OwnsNew later (f :: fields) (slot :: slots) where
  new p hp l hown := by
    rcases List.mem_cons.mp hp with rfl | hp
    · obtain ⟨hnone, hsome, hfree⟩ := hfirst l hown
      obtain ⟨found, hfound⟩ := Option.isSome_iff_exists.mp hsome
      obtain ⟨found', hfound', _⟩ := hc.grows.list hfound
      exact ⟨hnone, by rw [hfound']; rfl, hc.free hdecl hsound (list?_lt hfound) hfree⟩
    · obtain ⟨hnone, hsome, hfree⟩ := hrest.new p hp l hown
      refine ⟨?_, hsome, hfree⟩
      cases hl : h.list? l with
      | none => rfl
      | some old =>
          obtain ⟨new, hnew, _⟩ := hgrows.list hl
          rw [hnone] at hnew
          cases hnew
  apart := by
    refine List.pairwise_cons.mpr ⟨fun q hq l hown hown' => ?_, hrest.apart⟩
    have hsome := (hfirst l hown).2.1
    rw [(hrest.new q hq l hown').1] at hsome
    cases hsome

/-- A document of slots that own new lists only can be put into the heap. -/
theorem OwnsNew.newDocument (hdecl : Declared types) {later : Heap} {d : Document}
    (hschema : d.schema ∈ types) (hfits : d.Fits later) (hm : m ≤ h.lists.length)
    (hown : h.OwnsNew later d.schema.fields d.slots) :
    Change types n m later (later.addDocument d).2 := by
  refine .newDocument_of_pairs hdecl hschema hfits (fun p hp l hl => ?_) hown.apart
  obtain ⟨hnone, _, hfree⟩ := hown.new p hp l hl
  have hlist : ¬ l.index < h.lists.length := by
    simpa [list?] using hnone
  exact ⟨by omega, hfree⟩

/-- A copy of a slot owns a list only if that list is new. -/
theorem Sound.copySlot (hsound : h.Sound types) (hdecl : Declared types) {f : Field}
    {slot : Slot} (hslot : slot.Fits h f) :
    Changes types n m h (h.copySlot slot).2 ∧
      (h.copySlot slot).1.Fits (h.copySlot slot).2 f ∧
      ∀ l, OwnsAt (f, (h.copySlot slot).1) l → h.list? l = none ∧
        ((h.copySlot slot).2.list? l).isSome = true ∧ (h.copySlot slot).2.Free l := by
  rcases copySlot_cases h slot with ⟨r, l, hvalue, hshared, hl, heq⟩ | ⟨hnone, heq⟩
  · rw [heq]
    have hnew := hslot.mono (grows_addList h l)
    refine ⟨.single (.newList (hsound.listSchema hl) (hsound.items hl)), ?_, ?_⟩
    · refine ⟨hnew.name, ?_, .list _, hnew.shared, fun hrejected => ?_, ?_⟩
      · have hadmits := hnew.value
        cases hkind : f.kind with
        | list schema =>
            rw [hkind, hvalue] at hadmits
            obtain ⟨r', l', hr', hl', hisA⟩ := hadmits
            obtain rfl : r = r' := by injection hr'
            rw [list?_addList_old hl] at hl'
            obtain rfl : l = l' := Option.some.inj hl'
            exact ⟨_, l, rfl, list?_addList_self h l, hisA⟩
        | embedded schema => simp [Kind.Admits, hkind, hvalue] at hadmits
        | array lengths check? => simp [Kind.Admits, hkind, hvalue] at hadmits
        | string rules => simp [Kind.Admits, hkind, hvalue] at hadmits
        | _ => simp [Kind.Admits]
      · have hempty := (hslot.rejected hrejected).2
        rw [hvalue] at hempty
        cases hempty
      · intro hshared schema l' hkind hvalue'
        obtain rfl : (h.addList l).1 = l' := by simpa using hvalue'
        obtain ⟨c, hc, hschema⟩ := hslot.own hshared schema r hkind hvalue
        obtain rfl : l = c := Option.some.inj (hl.symm.trans hc)
        exact ⟨l, list?_addList_self h l, hschema⟩
    · rintro l' ⟨_, _, hl'⟩
      obtain rfl : (h.addList l).1 = l' := by simpa using hl'
      have hnone := list?_addList_fst h l
      refine ⟨hnone, by rw [list?_addList_self]; rfl, ?_⟩
      exact hsound.free_of_list?_eq_none hdecl hnone
  · rw [heq]
    refine ⟨.refl h, hslot, fun l hown => ?_⟩
    obtain ⟨hlist, hshared, hvalue⟩ := hown
    have hadmits := hslot.value
    cases hkind : f.kind with
    | list schema =>
        rw [hkind] at hadmits
        obtain ⟨r', l', hr', hl', _⟩ := hadmits
        rw [hnone r' hr' hshared] at hl'
        cases hl'
    | _ => simp [hkind, Kind.isList] at hlist

theorem Sound.copySlots (hsound : h.Sound types) (hdecl : Declared types) {fields : List Field}
    {slots : List Slot} (hfits : List.Forall₂ (Slot.Fits h) fields slots) :
    Changes types h.documents.length h.lists.length h (h.copySlots slots).2 ∧
      List.Forall₂ (Slot.Fits (h.copySlots slots).2) fields (h.copySlots slots).1 ∧
      h.OwnsNew (h.copySlots slots).2 fields (h.copySlots slots).1 := by
  induction slots generalizing h fields with
  | nil =>
      cases hfits
      exact ⟨.refl h, .nil, .nil h h⟩
  | cons slot rest ih =>
      cases hfits with
      | @cons f _ fields _ hslot hrest =>
          obtain ⟨hfirst, hfit, hown⟩ := hsound.copySlot (n := h.documents.length)
            (m := h.lists.length) hdecl hslot
          have hmid := hfirst.sound hdecl hsound
          obtain ⟨hlater, hfits, hownRest⟩ := ih hmid (hrest.imp fun _ _ hs => hs.mono hfirst.grows)
          refine ⟨hfirst.trans ?_, .cons (hfit.mono hlater.grows) hfits,
            .cons hdecl hmid hfirst.grows hlater hown hownRest⟩
          exact hlater.weaken hfirst.documents_length_le hfirst.lists_length_le

/-- A copy of a document owns copies of the lists that the document owns. -/
theorem Ready.clone_changes (hdecl : Declared types) (hready : h.Ready types n m) (r : DocRef) :
    Changes types n m h (h.clone r).2 := by
  rw [clone]
  split
  · exact .refl h
  · next d hd =>
      obtain ⟨hchanges, hfits, hown⟩ := hready.sound.copySlots hdecl (hready.sound.fits hd)
      have hschema := hready.sound.schema hd
      refine (hchanges.weaken hready.documents hready.lists).trans (.single ?_)
      exact OwnsNew.newDocument hdecl (d := { d with slots := _ }) hschema hfits hready.lists hown

end Heap

end DocumentModel
