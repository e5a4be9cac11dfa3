/-
Conversion and assignment settle at once.

What has been converted to the kind of a field is not converted any further.  So a field that is
assigned what it holds keeps its data, and to assign a value again right away does nothing at all,
unless the value is read off the document itself.
-/
import DocumentModel.Proofs.Closure
import DocumentModel.Proofs.Effect

namespace DocumentModel

/-! ### Conversion -/

theorem Text.trim_trim (text : String) : trim (trim text) = trim text :=
  trim_eq_self (trim_bare text)

/-- A converted value is not converted any further, whatever has happened to the heap meanwhile. -/
theorem Field.coerce_coerce (h h' : Heap) (f : Field) (v : Value) :
    f.coerce h' (f.coerce h v) = f.coerce h v := by
  cases hkind : f.kind with
  | float range => cases v <;> simp [coerce, hkind]
  | objectId =>
      cases v with
      | text s => cases hparse : ObjectId.parse? s <;> simp [coerce, hkind, hparse]
      | _ => simp [coerce, hkind]
  | string rules =>
      have hcoerce : ∀ h v, f.coerce h v = toText h v := by simp [coerce, hkind]
      rw [hcoerce, hcoerce]
      by_cases hnull : v = .null
      · subst hnull
        rfl
      · rw [toText_eq_text_trim hnull]
        exact congrArg Value.text (Text.trim_trim _)
  | _ => simp [coerce, hkind]

/-- A value that a field may hold is not converted. -/
theorem Field.coerce_admitted {h : Heap} {f : Field} {v : Value} (hv : f.kind.Admits h v) :
    f.coerce h v = v := by
  cases hkind : f.kind with
  | float range =>
      rw [hkind] at hv
      cases v with
      | int n => exact absurd rfl (hv n)
      | _ => simp [coerce, hkind]
  | objectId =>
      rw [hkind] at hv
      cases v with
      | text s => simp [coerce, hkind, hv s rfl]
      | _ => simp [coerce, hkind]
  | string rules =>
      rw [hkind] at hv
      rcases hv with rfl | ⟨s, rfl, hbare⟩
      · simp [coerce, hkind, toText]
      · simp [coerce, hkind, toText, written, Text.trim_eq_self hbare]
  | _ => simp [coerce, hkind]

theorem Assignment.apply_apply (a : Assignment) (slot : Slot) :
    a.apply (a.apply slot) = a.apply slot := by
  cases a <;> rfl

namespace Heap

variable {types : List Schema} {h later : Heap} {r : DocRef} {d : Document} {f : Field}
  {slot : Slot} {v : Value}

/-! ### Assigning twice -/

/-- What does not lead to a document is not affected by a change to it. -/
theorem untouched_putDocument (d : Document) (hout : ¬ h.Occurs (.document r) v) :
    h.Untouched (h.putDocument r d) v where
  document _ hq := document?_putDocument_of_ne h d fun heq => hout (heq ▸ hq)
  list _ _ := rfl

/-- An assignment to a field of another kind than lists. -/
theorem set_plain (hd : h.document? r = some d) (hfield : d.schema.field? f.name = some f)
    (hslot : d.slot? f.name = some slot) (hnodup : (d.slots.map (·.name)).Nodup)
    (hlist : f.kind.isList = false) (v : Value) :
    h.set r f.name v =
      (.ok (), h.putDocument r (d.putSlot ((h.assign f slot.current v).1.apply slot))) := by
  rw [set_eq_run hd hfield hslot hnodup, effect_plain h hlist, Effect.run, putSlot_eq hd]

theorem set_set_plain (hd : h.document? r = some d) (hfield : d.schema.field? f.name = some f)
    (hslot : d.slot? f.name = some slot) (hnodup : (d.slots.map (·.name)).Nodup)
    (hlist : f.kind.isList = false) (hout : ¬ h.Occurs (.document r) v) :
    ∃ once, h.set r f.name v = (.ok (), once) ∧ once.set r f.name v = (.ok (), once) := by
  have hname : ((h.assign f slot.current v).1.apply slot).name = f.name := by
    rw [Assignment.name_apply]
    exact (Document.mem_of_slot? hslot).2
  refine ⟨_, set_plain hd hfield hslot hnodup hlist v, ?_⟩
  have hsame := (untouched_putDocument (d.putSlot ((h.assign f slot.current v).1.apply slot))
    hout).assign_eq (f := f) (by simp [putDocument]) hlist slot.current
      ((h.assign f slot.current v).1.apply slot).current
  generalize (h.assign f slot.current v).1 = a at hname hsame
  have hd' := document?_putDocument_self h (d.putSlot (a.apply slot)) (Option.isSome_of_mem hd)
  have hslot' : (d.putSlot (a.apply slot)).slot? f.name = some (a.apply slot) := by
    rw [← hname]
    exact Document.slot?_putSlot_self d _ (by rw [hname, hslot]; rfl)
  have hnodup' : ((d.putSlot (a.apply slot)).slots.map (·.name)).Nodup := by
    rwa [Document.map_name_putSlot]
  rw [set_plain hd' hfield hslot' hnodup' hlist, hsame, Assignment.apply_apply,
    Document.putSlot_of_slot? hnodup' hslot', putDocument_self hd']

theorem items_of_list? {l : ListRef} {c : DocumentList} (hl : h.list? l = some c) :
    h.items l = c.items := by
  rw [items, hl]
  rfl

/-- What a value lists it still lists when a list has been given just that. -/
theorem lists_of_filled {items : List DocRef} (hv : v.Lists h items) {own : ListRef}
    (hfilled : later.items own = items) (hothers : ∀ l, l ≠ own → later.items l = h.items l) :
    v.Lists later items := by
  cases hv with
  | list l =>
      by_cases hl : l = own
      · rw [← hfilled, ← hl]
        exact .list l
      · rw [← hothers l hl]
        exact .list l
  | array items => exact .array items

section List

variable {schema : Schema} {own : ListRef} {items : List DocRef}

/-- To assign a list field what its own list holds already does nothing. -/
theorem set_filled (hd : h.document? r = some d) (hfield : d.schema.field? f.name = some f)
    (hkind : f.kind = .list schema) (hslot : d.slot? f.name = some slot)
    (hnodup : (d.slots.map (·.name)).Nodup) (hshared : slot.shared = false)
    (hvalue : slot.value = .list own) (hown : h.list? own = some ⟨schema, items⟩)
    (hv : v.Lists h items) (hitems : ∀ item ∈ items, h.documentIsA item schema = true) :
    h.set r f.name v = (.ok (), h) := by
  have hassign :
      h.assignList schema (if slot.shared then .null else slot.value) v = (.keep, h) := by
    have hrefill := assignList_own hown rfl hv hitems
    rw [putList_self hown] at hrefill
    rw [hshared, hvalue]
    exact hrefill
  rw [set_list hd hfield hkind hslot hassign, Assignment.apply,
    Document.putSlot_of_slot? hnodup hslot, putDocument_self hd]

/-- A list field that is marked as sharing its default gets a list of its own. -/
theorem set_marked (hd : h.document? r = some d) (hfield : d.schema.field? f.name = some f)
    (hkind : f.kind = .list schema) (hslot : d.slot? f.name = some slot)
    (hshared : slot.shared = true) (hv : v.Lists h items)
    (hitems : ∀ item ∈ items, h.documentIsA item schema = true) :
    h.set r f.name v = (.ok (), (h.addList ⟨schema, items⟩).2.putDocument r
      (d.putSlot ⟨f.name, .list (h.addList ⟨schema, items⟩).1, false, false⟩)) := by
  have hassign : h.assignList schema (if slot.shared then .null else slot.value) v =
      (.store (.list (h.addList ⟨schema, items⟩).1), (h.addList ⟨schema, items⟩).2) := by
    rw [hshared]
    exact assignList_new hv hitems
  rw [set_list hd hfield hkind hslot hassign, Assignment.apply, (Document.mem_of_slot? hslot).2]

section Accepted

variable (hd : h.document? r = some d) (hfield : d.schema.field? f.name = some f)
  (hkind : f.kind = .list schema) (hslot : d.slot? f.name = some slot)
  (hnodup : (d.slots.map (·.name)).Nodup) (hv : v.Lists h items)
  (hitems : ∀ item ∈ items, h.documentIsA item schema = true)

include hd hfield hkind hslot hnodup hv hitems

/-- The list of a field is refilled once. -/
theorem set_set_own {c : DocumentList} (hc : h.list? own = some c) (hexact : c.schema = schema)
    (hshared : slot.shared = false) (hvalue : slot.value = .list own) :
    ∃ once, h.set r f.name v = (.ok (), once) ∧ once.set r f.name v = (.ok (), once) := by
  have hassign : h.assignList schema (if slot.shared then .null else slot.value) v =
      (.keep, h.putList own ⟨schema, items⟩) := by
    rw [hshared, hvalue]
    exact assignList_own hc hexact hv hitems
  have hset := set_list hd hfield hkind hslot hassign
  have hd' : (h.putList own ⟨schema, items⟩).document? r = some d := hd
  rw [Assignment.apply, Document.putSlot_of_slot? hnodup hslot, putDocument_self hd'] at hset
  have hown := list?_putList_self h (r := own) ⟨schema, items⟩ (by rw [hc]; rfl)
  refine ⟨_, hset, set_filled hd' hfield hkind hslot hnodup hshared hvalue hown ?_ hitems⟩
  refine lists_of_filled hv (items_of_list? hown) fun l hl => ?_
  rw [Heap.items, Heap.items, list?_putList_of_ne h _ (Ne.symm hl)]

/-- A field gets a list of its own once: the list then holds the documents already. -/
theorem set_set_marked (hshared : slot.shared = true) :
    ∃ once, h.set r f.name v = (.ok (), once) ∧ once.set r f.name v = (.ok (), once) := by
  refine ⟨_, set_marked hd hfield hkind hslot hshared hv hitems, ?_⟩
  have hmade := list?_addList_self h ⟨schema, items⟩
  have hmid : (h.addList ⟨schema, items⟩).2.document? r = some d := hd
  generalize hmaking : h.addList ⟨schema, items⟩ = made at hmade hmid
  have hslot' := Document.slot?_putSlot_self d ⟨f.name, .list made.1, false, false⟩
    (by rw [hslot]; rfl)
  have hd' := document?_putDocument_self made.2
    (d.putSlot ⟨f.name, .list made.1, false, false⟩) (Option.isSome_of_mem hmid)
  have hgrows : h.Grows (made.2.putDocument r
      (d.putSlot ⟨f.name, .list made.1, false, false⟩)) := by
    rw [← hmaking]
    exact (grows_addList h _).trans (grows_putDocument hd rfl)
  refine set_filled hd' hfield hkind hslot' (by rwa [Document.map_name_putSlot]) rfl rfl
    hmade ?_ fun item hitem => hgrows.documentIsA (hitems item hitem)
  refine lists_of_filled hv (items_of_list? hmade) fun l hl => ?_
  have hothers : made.2.list? l = h.list? l := by
    subst hmaking
    exact list?_addList_of_ne h _ hl
  exact congrArg (fun c => (Option.map DocumentList.items c).getD []) hothers

end Accepted

theorem set_set_list (hdecl : Declared types) (hsound : h.Sound types)
    (hd : h.document? r = some d) (hf : f ∈ d.schema.fields) (hkind : f.kind = .list schema)
    (v : Value) :
    ∃ once, h.set r f.name v = (.ok (), once) ∧ once.set r f.name v = (.ok (), once) := by
  have hnodup := hsound.slotNames_nodup hdecl hd
  have hfield := Schema.field?_of_mem (hdecl.fieldNames_nodup (hsound.schema hd)) hf
  obtain ⟨slot, own, c, hslot, hvalue, hc, hexact⟩ := hsound.list_of_field hdecl hd hf hkind
  by_cases haccepted : ∃ items, v.Lists h items ∧
      ∀ item ∈ items, h.documentIsA item schema = true
  · obtain ⟨items, hv, hitems⟩ := haccepted
    cases hshared : slot.shared with
    | false =>
        exact set_set_own hd hfield hkind hslot hnodup hv hitems hc (hexact hshared) hshared hvalue
    | true => exact set_set_marked hd hfield hkind hslot hnodup hv hitems hshared
  · have hset : h.set r f.name v = (.ok (), h) := by
      refine set_list_refused hd hfield hkind hslot hnodup hvalue hc hexact fun items hv => ?_
      by_contra hnone
      exact haccepted ⟨items, hv, fun item hmem => by
        by_contra hfalse
        exact hnone ⟨item, hmem, by simpa using hfalse⟩⟩
    exact ⟨h, hset, hset⟩

end List

/-- To assign a value again right away does nothing, if the document cannot be reached from it. -/
theorem set_set (hdecl : Declared types) (hsound : h.Sound types)
    (hd : h.document? r = some d) (hf : f ∈ d.schema.fields)
    (hout : ¬ h.Occurs (.document r) v) :
    ∃ once, h.set r f.name v = (.ok (), once) ∧ once.set r f.name v = (.ok (), once) := by
  cases hlist : f.kind.isList with
  | true =>
      obtain ⟨schema, hkind⟩ := Kind.exists_of_isList hlist
      exact set_set_list hdecl hsound hd hf hkind v
  | false =>
      obtain ⟨slot, hslot, _⟩ := hsound.slot_of_field hdecl hd hf
      exact set_set_plain hd
        (Schema.field?_of_mem (hdecl.fieldNames_nodup (hsound.schema hd)) hf) hslot
        (hsound.slotNames_nodup hdecl hd) hlist hout

/-! ### Assigning what is there -/

/-- Documents hold the same later, where a list may stand in for one of the same documents. -/
structure Retold (h later : Heap) : Prop where
  lists : ∀ {l c}, h.list? l = some c → later.list? l = some c
  documents : ∀ {q d}, h.document? q = some d → ∃ d', later.document? q = some d' ∧
    d'.schema = d.schema ∧ ∀ f ∈ d.schema.fields, d'.value f.name = d.value f.name ∨
      ∃ l l', d.value f.name = .list l ∧ d'.value f.name = .list l' ∧ later.items l' = h.items l

theorem Retold.dataAt_eq (hretold : h.Retold later) (hcomplete : h.Complete types)
    (hsound : h.Sound types) (depth : Nat) {q : DocRef} (hq : (h.document? q).isSome = true) :
    later.dataAt depth q = h.dataAt depth q := by
  induction depth generalizing q with
  | zero => rfl
  | succ depth ih =>
      have hitems : ∀ l, (h.items l).map (fun item => Json.obj (later.dataAt depth item)) =
          (h.items l).map fun item => Json.obj (h.dataAt depth item) := fun l =>
        List.map_congr_left fun item hitem =>
          congrArg Json.obj (ih (within_document_iff.mp (hcomplete.mem_items hitem)))
      obtain ⟨d, hd⟩ := Option.isSome_iff_exists.mp hq
      obtain ⟨d', hd', hschema, hvalues⟩ := hretold.documents hd
      rw [dataAt_succ hd, dataAt_succ hd', hschema]
      apply List.map_congr_left
      intro f hf
      congr 1
      rcases hvalues f hf with hsame | ⟨l, l', hl, hl', hlists⟩
      · rw [hsame]
        have hthere : ∀ {w}, h.Occurs w (d.value f.name) → w.Within h := fun hw =>
          hw.within hsound hcomplete.closed (hcomplete.value hd f.name)
        apply toJsonWith_congr_of (h := h)
        · exact fun s hs => congrArg Json.obj (ih (within_document_iff.mp (hthere hs)))
        · intro l hl
          obtain ⟨c, hc⟩ := Option.isSome_iff_exists.mp (within_list_iff.mp (hthere hl))
          rw [← hitems l, items_of_list? hc, items_of_list? (hretold.lists hc)]
      · rw [hl, hl', toJsonAt, toJsonAt, Value.toJsonWith, Value.toJsonWith, hlists, hitems]

/-- A slot takes the place of another that holds the same. -/
theorem retold_putSlot {mid : Heap} (hdocuments : mid.documents = h.documents)
    (hlists : ∀ {l c}, h.list? l = some c → mid.list? l = some c) (hd : h.document? r = some d)
    (hslot : (d.slot? slot.name).isSome = true)
    (hvalue : slot.value = d.value slot.name ∨ ∃ l l', d.value slot.name = .list l ∧
      slot.value = .list l' ∧ mid.items l' = h.items l) :
    h.Retold (mid.putDocument r (d.putSlot slot)) where
  lists hl := hlists hl
  documents {q old} hold := by
    have hmid : ∀ q, mid.document? q = h.document? q := fun q => by
      rw [document?, document?, hdocuments]
    by_cases hq : r = q
    · subst hq
      obtain rfl := Option.some.inj (hd.symm.trans hold)
      refine ⟨_, document?_putDocument_self mid _ (by rw [hmid, hd]; rfl), rfl, fun f _ => ?_⟩
      by_cases hname : slot.name = f.name
      · rw [← hname, Document.value_of_slot? (Document.slot?_putSlot_self d slot hslot)]
        exact hvalue
      · left
        rw [Document.value, Document.value?, Document.slot?_putSlot_of_ne d slot hname]
        rfl
    · exact ⟨old, by rw [document?_putDocument_of_ne mid _ hq, hmid, hold], rfl,
        fun _ _ => Or.inl rfl⟩

/-- A value that a field holds is stored as it is. -/
theorem value_assign_self (hfits : slot.Fits h f) (hlist : f.kind.isList = false) :
    ((h.assign f slot.current slot.value).1.apply slot).value = slot.value := by
  have hvalue := hfits.value
  cases hkind : f.kind with
  | list schema => simp [hkind, Kind.isList] at hlist
  | array lengths check? =>
      rw [hkind] at hvalue
      rcases hvalue with hnull | ⟨items, hitems⟩
      · simp [assign, hkind, hnull, Assignment.apply]
      · simp [assign, hkind, hitems, Assignment.apply]
  | embedded schema =>
      rw [hkind] at hvalue
      rcases hvalue with hnull | ⟨q, hq, hisA⟩
      · simp [assign, hkind, hnull, Assignment.apply]
      · simp [assign, hkind, hq, hisA, Assignment.apply]
  | _ => simp [assign, hkind, Field.coerce_admitted hvalue, Assignment.apply]

/-- A field that is assigned what it holds holds the same, or a list of its own of the same
documents. -/
theorem set_self (hdecl : Declared types) (hsound : h.Sound types) (hd : h.document? r = some d)
    (hf : f ∈ d.schema.fields) :
    ∃ later, h.set r f.name (d.value f.name) = (.ok (), later) ∧ h.Retold later ∧
      later.documents.length = h.documents.length := by
  have hnodup := hsound.slotNames_nodup hdecl hd
  have hfield := Schema.field?_of_mem (hdecl.fieldNames_nodup (hsound.schema hd)) hf
  obtain ⟨slot, hslot, hfits⟩ := hsound.slot_of_field hdecl hd hf
  have hread := Document.value_of_slot? hslot
  rw [hread]
  cases hlist : f.kind.isList with
  | false =>
      have hname : ((h.assign f slot.current slot.value).1.apply slot).name = f.name := by
        rw [Assignment.name_apply, hfits.name]
      refine ⟨_, set_plain hd hfield hslot hnodup hlist slot.value,
        retold_putSlot rfl id hd (by rw [hname, hslot]; rfl) (Or.inl ?_), by simp [putDocument]⟩
      rw [value_assign_self hfits hlist, hname, hread]
  | true =>
      obtain ⟨schema, hkind⟩ := Kind.exists_of_isList hlist
      have hadmits := hfits.value
      rw [hkind] at hadmits
      obtain ⟨l, c, hvalue, hl, hisA⟩ := hadmits
      have hitems : ∀ item ∈ h.items l, h.documentIsA item schema = true := by
        intro item hitem
        rw [items_of_list? hl] at hitem
        obtain ⟨e, he, heisA⟩ := documentIsA_iff.mp (hsound.items hl item hitem)
        exact documentIsA_iff.mpr
          ⟨e, he, hdecl.isA_trans (hsound.listSchema hl) hisA e.schema (hsound.schema he) heisA⟩
      rw [hvalue]
      cases hshared : slot.shared with
      | false =>
          obtain ⟨c', hc', hexact⟩ := hfits.own hshared schema l hkind hvalue
          obtain rfl := Option.some.inj (hl.symm.trans hc')
          have hown : h.list? l = some ⟨schema, h.items l⟩ := by
            rw [items_of_list? hl, hl, ← hexact]
          refine ⟨h, set_filled hd hfield hkind hslot hnodup hshared hvalue hown (.list l) hitems,
            ⟨id, fun hold => ⟨_, hold, rfl, fun _ _ => Or.inl rfl⟩⟩, rfl⟩
      | true =>
          refine ⟨_, set_marked hd hfield hkind hslot hshared (.list l) hitems,
            retold_putSlot rfl list?_addList_old hd (by rw [hslot]; rfl) (Or.inr ?_),
            by simp [putDocument, addList]⟩
          exact ⟨l, _, hread.trans hvalue, rfl, items_of_list? (list?_addList_self h _)⟩

end Heap

open Heap

/-- Conversion settles in one step: a value that has been converted is not converted any further.
In every state that a program can get to, a document that is assigned what one of its fields holds
has the data that it had; and to assign any value again right away, unless the document itself can
be reached from it, gives the data that the first assignment gave. -/
theorem conversion_settles {types : List Schema} {s : Session} (hs : Attained types s) :
    (∀ (f : Field) (h h' : Heap) (v : Value), f.coerce h' (f.coerce h v) = f.coerce h v) ∧
    ∀ r d, s.heap.document? r = some d → ∀ f ∈ d.schema.fields,
      (∃ later, s.heap.set r f.name (d.value f.name) = (.ok (), later) ∧
        later.data r = s.heap.data r) ∧
      ∀ v, ¬ s.heap.Occurs (.document r) v → ∃ once twice,
        s.heap.set r f.name v = (.ok (), once) ∧ once.set r f.name v = (.ok (), twice) ∧
          twice.data r = once.data r := by
  have hdecl := hs.reachable.declared
  have hsound := hs.reachable.sound
  refine ⟨fun f h h' v => f.coerce_coerce h h' v, fun r d hd f hf => ⟨?_, fun v hout => ?_⟩⟩
  · obtain ⟨later, hset, hretold, hlength⟩ := set_self hdecl hsound hd hf
    refine ⟨later, hset, ?_⟩
    rw [data, data, hlength]
    exact hretold.dataAt_eq hs.complete hsound _ (Option.isSome_of_mem hd)
  · obtain ⟨once, hset, hagain⟩ := set_set hdecl hsound hd hf hout
    exact ⟨once, once, hset, hagain, rfl⟩

/-! A shelf that shares the declared list of books is assigned that very list, and then a sequence
that has one book twice. -/

theorem shelfRun_attained : Attained [shelfType, bookType] shelfRun := by
  have hstart : Attained [shelfType, bookType] shelfStart := by
    refine .declare shelfStart_attained shelfTypes_declared fun f hf d hd => ?_
    obtain rfl := List.mem_singleton.mp hf
    obtain rfl : Default.value (.list ⟨0⟩) = d := Option.some.inj hd
    exact .value (.list rfl)
  refine hstart.run (fun op hop => ?_) ⟨trivial, trivial, .array ?_, trivial, trivial⟩
  · simp only [List.mem_cons, List.not_mem_nil, or_false] at hop
    rcases hop with rfl | rfl | rfl | rfl <;>
      simp [Operation.Over, Value.Proper.array, Value.Proper.document]
  · intro v hv
    obtain rfl := List.mem_singleton.mp hv
    exact .document rfl

theorem conversion_settles_shelves :
    (∃ later, shelfRun.heap.set ⟨2⟩ "books" (.list ⟨0⟩) = (.ok (), later) ∧
      later.data ⟨2⟩ = shelfRun.heap.data ⟨2⟩) ∧
    ∃ once twice, shelfRun.heap.set ⟨2⟩ "books" (.array [.document ⟨0⟩, .document ⟨0⟩]) =
        (.ok (), once) ∧
      once.set ⟨2⟩ "books" (.array [.document ⟨0⟩, .document ⟨0⟩]) = (.ok (), twice) ∧
      twice.data ⟨2⟩ = once.data ⟨2⟩ := by
  have hout : ¬ shelfRun.heap.Occurs (.document ⟨2⟩)
      (.array [.document ⟨0⟩, .document ⟨0⟩]) := by
    intro hoccurs
    cases hoccurs with
    | item hmem hoccurs =>
        obtain rfl : _ = Value.document ⟨0⟩ := by simpa using hmem
        cases hoccurs with
        | field hd hf _ =>
            obtain rfl := Option.some.inj hd
            cases hf
  obtain ⟨hself, htwice⟩ := (conversion_settles shelfRun_attained).2 ⟨2⟩ _ rfl _
    (List.mem_singleton_self _)
  exact ⟨hself, htwice _ hout⟩

end DocumentModel
