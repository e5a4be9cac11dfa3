/-
No reference dangles.

A program can only pass on the references that it was given.  What documents, lists and declared
defaults refer to is then always in the heap: every operation takes what it stores from its
arguments, from what is stored already, from declared defaults or from what it has just made.

What a field shares as its declared default was there before the document had lists of its own, or
was made for that field alone.  So no document shares in one field what it owns in another.
-/
import DocumentModel.Proofs.Cloning
import DocumentModel.Proofs.Effect
import DocumentModel.Proofs.Isolation

namespace DocumentModel

theorem exists_of_forall₂ {α β : Type} {R : α → β → Prop} {as : List α} {bs : List β}
    (hall : List.Forall₂ R as bs) : ∀ b ∈ bs, ∃ a ∈ as, R a b := by
  induction hall with
  | nil => simp
  | cons hab _ ih =>
      intro b hb
      rcases List.mem_cons.mp hb with rfl | hb
      · exact ⟨_, List.mem_cons_self, hab⟩
      · obtain ⟨a, ha, hab⟩ := ih b hb
        exact ⟨a, List.mem_cons_of_mem _ ha, hab⟩

namespace Document

/-- A document holds a list of its own, in the list field that the look-up finds. -/
def HasOwn (d : Document) (l : ListRef) : Prop :=
  ∃ slot ∈ d.slots, ∃ f, d.schema.field? slot.name = some f ∧ f.kind.isList = true ∧
    slot.shared = false ∧ slot.value = .list l

/-- None of the document's own lists is also a default that it shares. -/
def Apart (d : Document) : Prop :=
  ∀ l, d.HasOwn l → ∀ slot ∈ d.slots, slot.shared = true → slot.value ≠ .list l

variable {d : Document} {slot : Slot}

theorem mem_putSlot {s : Slot} (hs : s ∈ (d.putSlot slot).slots) : s = slot ∨ s ∈ d.slots := by
  obtain ⟨old, hold, rfl⟩ := List.mem_map.mp hs
  split
  · exact Or.inl rfl
  · exact Or.inr hold

theorem Apart.putSlot (hapart : d.Apart) (hshared : slot.shared = true → slot ∈ d.slots)
    (hown : ∀ f l, d.schema.field? slot.name = some f → f.kind.isList = true →
      slot.shared = false → slot.value = .list l →
      slot ∈ d.slots ∨ ∀ s ∈ d.slots, s.shared = true → s.value ≠ .list l) :
    (d.putSlot slot).Apart := by
  rintro l ⟨own, hmem, f, hfield, hlist, hunshared, hvalue⟩ marked hmarked htrue
  have hbefore : marked ∈ d.slots := by
    rcases mem_putSlot hmarked with rfl | hold
    · exact hshared htrue
    · exact hold
  rcases mem_putSlot hmem with rfl | hold
  · rcases hown f l hfield hlist hunshared hvalue with hold | hnew
    · exact hapart l ⟨own, hold, f, hfield, hlist, hunshared, hvalue⟩ marked hbefore htrue
    · exact hnew marked hbefore htrue
  · exact hapart l ⟨own, hold, f, hfield, hlist, hunshared, hvalue⟩ marked hbefore htrue

end Document

namespace Heap

/-- Whatever documents, lists and declared defaults refer to is in the heap, and no document shares
what it owns. -/
structure Complete (types : List Schema) (h : Heap) : Prop where
  slots : ∀ {r d}, h.document? r = some d → ∀ slot ∈ d.slots, slot.value.Within h
  apart : ∀ {r d}, h.document? r = some d → d.Apart
  items : ∀ {l c}, h.list? l = some c → ∀ item ∈ c.items, (Value.document item).Within h
  defaults : ∀ t ∈ types, t.Within h

/-- A document as an operation may leave it: what it holds is there, and what it shares it shared
before. -/
structure Renewed (h later : Heap) (r : DocRef) (d : Document) : Prop where
  slots : ∀ slot ∈ d.slots, slot.value.Within later
  apart : d.Apart
  shared : ∀ old, h.document? r = some old → ∀ slot ∈ d.slots, slot.shared = true →
    slot ∈ old.slots

/-- A heap that has grown from another is complete, and no document that was there shares more. -/
structure Completes (types : List Schema) (h later : Heap) : Prop where
  grows : h.Grows later
  complete : later.Complete types
  shared : ∀ {r old d}, h.document? r = some old → later.document? r = some d →
    ∀ slot ∈ d.slots, slot.shared = true → slot ∈ old.slots

variable {types : List Schema} {h mid later : Heap} {v : Value}

theorem Completes.trans (hfirst : Completes types h mid) (hrest : Completes types mid later) :
    Completes types h later where
  grows := hfirst.grows.trans hrest.grows
  complete := hrest.complete
  shared hold hd slot hslot hshared := by
    obtain ⟨d', hd', _⟩ := hfirst.grows.document hold
    exact hfirst.shared hold hd' slot (hrest.shared hd' hd slot hslot hshared) hshared

theorem within_of_documentIsA {r : DocRef} {schema : Schema} (hr : h.documentIsA r schema = true) :
    (Value.document r).Within h := by
  obtain ⟨d, hd, _⟩ := documentIsA_iff.mp hr
  exact .document (by rw [hd]; rfl)

theorem within_document_iff {r : DocRef} :
    (Value.document r).Within h ↔ (h.document? r).isSome = true :=
  ⟨fun hr => by cases hr with | document hr => exact hr, .document⟩

theorem within_list_iff {l : ListRef} :
    (Value.list l).Within h ↔ (h.list? l).isSome = true :=
  ⟨fun hl => by cases hl with | list hl => exact hl, .list⟩

theorem within_list {l : ListRef} {c : DocumentList} (hl : h.list? l = some c) :
    (Value.list l).Within h :=
  .list (by rw [hl]; rfl)

namespace Complete

variable (hcomplete : h.Complete types)

include hcomplete

theorem refl : Completes types h h :=
  ⟨.refl h, hcomplete, fun hold hd _ hslot _ => Option.some.inj (hd.symm.trans hold) ▸ hslot⟩

/-- A heap stays complete if every document and every list in it was there before or is as it should
be. -/
theorem of_grows (hgrows : h.Grows later)
    (hdocuments : ∀ r d, later.document? r = some d →
      h.document? r = some d ∨ Renewed h later r d)
    (hlists : ∀ l c, later.list? l = some c →
      h.list? l = some c ∨ ∀ item ∈ c.items, (Value.document item).Within later) :
    Completes types h later where
  grows := hgrows
  complete :=
    { slots := fun {r d} hd => (hdocuments r d hd).elim
        (fun hold slot hslot => (hcomplete.slots hold slot hslot).mono hgrows) (·.slots)
      apart := fun {r d} hd => (hdocuments r d hd).elim hcomplete.apart (·.apart)
      items := fun {l c} hl => (hlists l c hl).elim
        (fun hold item hitem => (hcomplete.items hold item hitem).mono hgrows) id
      defaults := fun t ht => (hcomplete.defaults t ht).mono hgrows }
  shared {r old d} hold hd slot hslot hshared := by
    rcases hdocuments r d hd with hsame | hnew
    · exact Option.some.inj (hsame.symm.trans hold) ▸ hslot
    · exact hnew.shared old hold slot hslot hshared

/-- A document holds nothing that is not there. -/
theorem value {r : DocRef} {d : Document} (hd : h.document? r = some d) (name : String) :
    (d.value name).Within h := by
  cases hslot : d.slot? name with
  | none =>
      rw [Document.value, Document.value?, hslot]
      exact .null
  | some slot =>
      rw [Document.value_of_slot? hslot]
      exact hcomplete.slots hd slot (Document.mem_of_slot? hslot).1

theorem closed : h.Closed :=
  fun _ _ hd f _ => hcomplete.value hd f.name

theorem mem_items {l : ListRef} {item : DocRef} (hitem : item ∈ h.items l) :
    (Value.document item).Within h := by
  rw [Heap.items] at hitem
  cases hl : h.list? l with
  | none => simp [hl] at hitem
  | some c =>
      rw [hl] at hitem
      exact hcomplete.items hl item hitem

/-! Elementary changes. -/

theorem counters (counters : List Int64) : Completes types h { h with counters := counters } :=
  hcomplete.of_grows ⟨fun hd => ⟨_, hd, rfl⟩, fun hl => ⟨_, hl, rfl⟩⟩ (fun _ _ hd => Or.inl hd)
    fun _ _ hl => Or.inl hl

theorem addDocument {d : Document} (hd : ∀ slot ∈ d.slots, slot.value.Within h)
    (hapart : d.Apart) : Completes types h (h.addDocument d).2 := by
  have hgrows := grows_addDocument h d
  refine hcomplete.of_grows hgrows (fun r found hfound => ?_) fun _ _ hl => Or.inl hl
  rcases document?_addDocument hfound with ⟨rfl, rfl⟩ | hold
  · refine Or.inr ⟨fun slot hslot => (hd slot hslot).mono hgrows, hapart, fun old hold => ?_⟩
    exact absurd (document?_lt hold) (Nat.lt_irrefl _)
  · exact Or.inl hold

theorem addList {c : DocumentList} (hc : ∀ item ∈ c.items, (Value.document item).Within h) :
    Completes types h (h.addList c).2 := by
  have hgrows := grows_addList h c
  refine hcomplete.of_grows hgrows (fun _ _ hd => Or.inl hd) fun l found hfound => ?_
  rcases list?_addList hfound with ⟨_, rfl⟩ | hold
  · exact Or.inr fun item hitem => (hc item hitem).mono hgrows
  · exact Or.inl hold

theorem putDocument {r : DocRef} {d old : Document} (hold : h.document? r = some old)
    (hschema : d.schema = old.schema) (hd : Renewed h h r d) :
    Completes types h (h.putDocument r d) := by
  have hgrows := grows_putDocument hold hschema
  refine hcomplete.of_grows hgrows (fun s found hfound => ?_) fun _ _ hl => Or.inl hl
  rcases document?_putDocument hold hfound with ⟨rfl, rfl⟩ | ⟨_, hbefore⟩
  · exact Or.inr ⟨fun slot hslot => (hd.slots slot hslot).mono hgrows, hd.apart, hd.shared⟩
  · exact Or.inl hbefore

/-- Other errors refer to nothing. -/
theorem putErrors {r : DocRef} {d : Document} (hd : h.document? r = some d) (e : Errors) :
    Completes types h (h.putDocument r { d with errors := e }) := by
  have hslots := hcomplete.slots hd
  have hapart := hcomplete.apart hd
  refine hcomplete.putDocument hd rfl ⟨hslots, hapart, fun old hold slot hslot _ => ?_⟩
  exact Option.some.inj (hd.symm.trans hold) ▸ hslot

theorem putList {l : ListRef} {c : DocumentList} (hl : h.list? l = some c) {items : List DocRef}
    (hitems : ∀ item ∈ items, (Value.document item).Within h) :
    Completes types h (h.putList l { c with items := items }) := by
  have hgrows := grows_putList hl (l := { c with items := items }) rfl
  refine hcomplete.of_grows hgrows (fun _ _ hd => Or.inl hd) fun s found hfound => ?_
  rcases Heap.list?_putList hl hfound with ⟨_, rfl⟩ | ⟨_, hbefore⟩
  · exact Or.inr fun item hitem => (hitems item hitem).mono hgrows
  · exact Or.inl hbefore

theorem marked (hmarked : Marked h later) : Completes types h later := by
  induction hmarked with
  | refl => exact hcomplete.refl
  | tail _ hmarks ih =>
      cases hmarks with
      | errors hd e => exact ih.trans (ih.complete.putErrors hd e)

/-! Lists. -/

theorem replaceItems (l : ListRef) (items : List DocRef) :
    Completes types h (h.replaceItems l items).2 := by
  rw [Heap.replaceItems]
  split
  · exact hcomplete.refl
  · next c hl =>
      split
      · next hcheck =>
          exact hcomplete.putList hl fun item hitem =>
            within_of_documentIsA (checkTypes_eq_ok_iff.mp hcheck item hitem)
      · exact hcomplete.refl

theorem push (l : ListRef) (item : DocRef) : Completes types h (h.push l item).2 := by
  rw [Heap.push]
  split
  · exact hcomplete.refl
  · next c hl =>
      split
      · next hcheck =>
          refine hcomplete.putList hl fun found hfound => ?_
          rcases List.mem_append.mp hfound with hold | hnew
          · exact hcomplete.items hl found hold
          · exact within_of_documentIsA (checkTypes_eq_ok_iff.mp hcheck found hnew)
      · exact hcomplete.refl

theorem removeAt (l : ListRef) (index : Nat) : Completes types h (h.removeAt l index).2 := by
  rw [Heap.removeAt]
  split
  · exact hcomplete.refl
  · next c hl =>
      exact hcomplete.putList hl fun item hitem =>
        hcomplete.items hl item (List.mem_of_mem_eraseIdx hitem)

theorem clear (l : ListRef) : Completes types h (h.clear l) := by
  rw [Heap.clear]
  split
  · exact hcomplete.refl
  · next c hl => exact hcomplete.putList hl (by simp)

theorem detach (l : ListRef) : Completes types h (h.detach l).2 := by
  rw [Heap.detach]
  split
  · exact hcomplete.refl
  · next c hl => exact hcomplete.addList (hcomplete.items hl)

/-! Assignment. -/

omit hcomplete in
theorem coerce (f : Field) (hv : v.Within h) : (f.coerce h v).Within h := by
  rcases f.coerce_cases h v with heq | ⟨x, heq⟩ | ⟨id, heq⟩ | ⟨s, heq⟩ <;> rw [heq]
  · exact hv
  · exact .float x
  · exact .objectId id
  · exact .text s

/-- What an assignment stores in a field that is no list field is there already. -/
theorem stored {f : Field} (hlist : f.kind.isList = false) (current : Value) (hv : v.Within h) :
    ∀ w, (h.assign f current v).1 = .store w → w.Within h := by
  have hkept : ∀ {u w : Value}, u.Within h → Assignment.store u = .store w → w.Within h :=
    fun hu hw => Assignment.store.inj hw ▸ hu
  intro w hw
  cases hkind : f.kind with
  | list schema => simp [hkind, Kind.isList] at hlist
  | array lengths check? =>
      cases v <;> simp only [Heap.assign, hkind] at hw
      case null => exact hkept .null hw
      case array items => exact hkept hv hw
      case list l =>
        refine hkept (.array fun u hu => ?_) hw
        obtain ⟨item, hitem, rfl⟩ := List.mem_map.mp hu
        exact hcomplete.mem_items hitem
      all_goals cases hw
  | embedded schema =>
      cases v <;> simp only [Heap.assign, hkind] at hw
      case null => exact hkept .null hw
      case document r =>
        split at hw
        · exact hkept hv hw
        · cases hw
      all_goals cases hw
  | _ =>
      simp only [Heap.assign, hkind] at hw
      exact hkept (coerce f hv) hw

/-- What an assignment stores is there.  In a list field it is a new list. -/
theorem assign (f : Field) (current : Value) (hv : v.Within h) :
    Completes types h (h.assign f current v).2 ∧
      ∀ w, (h.assign f current v).1 = .store w → w.Within (h.assign f current v).2 ∧
        (f.kind.isList = true → ∀ l, w = .list l → h.list? l = none) := by
  cases hlist : f.kind.isList with
  | false =>
      rw [assign_heap h hlist]
      exact ⟨hcomplete.refl, fun w hw => ⟨hcomplete.stored hlist current hv w hw, by simp⟩⟩
  | true =>
      obtain ⟨schema, hkind⟩ := Kind.exists_of_isList hlist
      simp only [Heap.assign, hkind]
      rcases assignList_cases h schema current v with
        heq | ⟨own, items, _, heq⟩ | ⟨items, hitems, heq⟩ <;> rw [heq]
      · exact ⟨hcomplete.refl, fun w hw => by cases hw⟩
      · exact ⟨hcomplete.replaceItems own items, fun w hw => by cases hw⟩
      · refine ⟨hcomplete.addList fun item hitem => within_of_documentIsA (hitems item hitem),
          fun w hw => ?_⟩
        obtain rfl := Assignment.store.inj hw
        refine ⟨within_list (list?_addList_self h _), fun _ l hl => ?_⟩
        obtain rfl : (h.addList ⟨schema, items⟩).1 = l := by injection hl
        exact list?_addList_fst h _

theorem set (r : DocRef) (name : String) (hv : v.Within h) :
    Completes types h (h.set r name v).2 := by
  rw [Heap.set]
  cases hd : h.document? r with
  | none => exact hcomplete.refl
  | some d =>
      simp only
      cases hf : d.schema.field? name with
      | none => exact hcomplete.refl
      | some f =>
          cases hslot : d.slot? name with
          | none => exact hcomplete.refl
          | some slot =>
              simp only
              obtain ⟨hmem, hname⟩ := Document.mem_of_slot? hslot
              have hdocuments := h.documents_assign f (if slot.shared then .null else slot.value) v
              obtain ⟨hcompletes, hstored⟩ :=
                hcomplete.assign f (if slot.shared then .null else slot.value) hv
              generalize h.assign f _ v = result at hdocuments hcompletes hstored
              obtain ⟨a, later⟩ := result
              have hd' : later.document? r = some d := by rw [document?, hdocuments]; exact hd
              have hold : ∀ s ∈ d.slots, s.value.Within h := hcomplete.slots hd
              have hkept : (a.apply slot).shared = true → a.apply slot ∈ d.slots := by
                cases a with
                | keep => exact fun _ => hmem
                | _ => simp [Assignment.apply]
              refine hcompletes.trans (hcompletes.complete.putDocument hd' rfl ⟨?_, ?_, ?_⟩)
              · intro s hs
                rcases Document.mem_putSlot hs with rfl | hs
                · cases a with
                  | store w => exact (hstored w rfl).1
                  | keep => exact (hold slot hmem).mono hcompletes.grows
                  | reject => exact .array (by simp)
                · exact (hold s hs).mono hcompletes.grows
              · refine (hcomplete.apart hd).putSlot hkept fun g l hfield hlist _ hvalue => ?_
                rw [Assignment.name_apply, hname, hf] at hfield
                obtain rfl := Option.some.inj hfield
                cases a with
                | store w =>
                    refine Or.inr fun marked hmarked _ heq => ?_
                    have hthere := hold marked hmarked
                    rw [heq, within_list_iff, (hstored w rfl).2 hlist l hvalue] at hthere
                    cases hthere
                | keep => exact Or.inl hmem
                | reject => cases hvalue
              · intro old hfound s hs hshared
                obtain rfl := Option.some.inj (hd'.symm.trans hfound)
                rcases Document.mem_putSlot hs with rfl | hs
                · exact hkept hshared
                · exact hs

theorem setAll (r : DocRef) {values : List (String × Value)}
    (hvalues : ∀ e ∈ values, e.2.Within h) : Completes types h (h.setAll r values).2 := by
  induction values generalizing h with
  | nil => exact hcomplete.refl
  | cons first rest ih =>
      obtain ⟨name, v⟩ := first
      obtain ⟨hfirst, hrest⟩ := List.forall_mem_cons.mp hvalues
      have hset := hcomplete.set r name hfirst
      rw [Heap.setAll]
      cases hresult : h.set r name v with
      | mk result later =>
          rw [hresult] at hset
          cases result with
          | error e => exact hset
          | ok u =>
              exact hset.trans (ih hset.complete fun e he => (hrest e he).mono hset.grows)

theorem assignGiven (r : DocRef) {values : List (String × Value)}
    (hvalues : ∀ e ∈ values, e.2.Within h) : Completes types h (h.assignGiven r values).2 := by
  have hset := hcomplete.setAll r hvalues
  rw [Heap.assignGiven]
  cases hresult : h.setAll r values with
  | mk result later =>
      rw [hresult] at hset
      cases result with
      | error e => exact hset
      | ok u =>
          cases hd : later.document? r with
          | none => simpa only [hd] using hset
          | some d =>
              obtain ⟨e, he⟩ := checkChoices_eq d (values.map (·.1))
              simp only [hd, he]
              exact hset.trans (hset.complete.putErrors hd e)

theorem copySlots {slots : List Slot} (hslots : ∀ slot ∈ slots, slot.value.Within h) :
    Completes types h (h.copySlots slots).2 ∧
      ∀ slot ∈ (h.copySlots slots).1, slot.value.Within (h.copySlots slots).2 := by
  induction slots generalizing h with
  | nil => exact ⟨hcomplete.refl, by simp [Heap.copySlots]⟩
  | cons slot rest ih =>
      obtain ⟨hslot, hothers⟩ := List.forall_mem_cons.mp hslots
      have hone : Completes types h (h.copySlot slot).2 ∧
          (h.copySlot slot).1.value.Within (h.copySlot slot).2 := by
        rcases copySlot_cases h slot with ⟨l, c, _, _, hl, heq⟩ | ⟨_, heq⟩ <;> rw [heq]
        · exact ⟨hcomplete.addList (hcomplete.items hl), within_list (list?_addList_self h c)⟩
        · exact ⟨hcomplete.refl, hslot⟩
      obtain ⟨hrest, hcopies⟩ := ih hone.1.complete fun s hs => (hothers s hs).mono hone.1.grows
      exact ⟨hone.1.trans hrest, List.forall_mem_cons.mpr ⟨hone.2.mono hrest.grows, hcopies⟩⟩

/-- The lists that a copy owns are new, and what it shares was there. -/
theorem clone (r : DocRef) : Completes types h (h.clone r).2 := by
  rw [Heap.clone]
  split
  · exact hcomplete.refl
  · next d hd =>
      obtain ⟨hcompletes, hslots⟩ := hcomplete.copySlots (hcomplete.slots hd)
      obtain ⟨hcopies, _, _⟩ := h.copySlots_copyOf d.slots
      refine hcompletes.trans (hcompletes.complete.addDocument hslots ?_)
      rintro l ⟨own, hown, f, _, _, hunshared, hvalue⟩ marked hmarked hshared heq
      obtain ⟨source, hsource, hsame⟩ := exists_of_forall₂ hcopies marked hmarked
      have hold := hcomplete.slots hd source hsource
      rw [← hsame.same (Or.inl (hsame.shared.symm.trans hshared)), heq] at hold
      obtain ⟨slot, hslot, hcopy⟩ := exists_of_forall₂ hcopies own hown
      by_cases hplain : ∀ k, slot.value ≠ .list k
      · exact hplain l ((hcopy.same (Or.inr hplain)).symm.trans hvalue)
      · obtain ⟨k, hk⟩ := not_forall_not.mp hplain
        have hthere := hcomplete.slots hd slot hslot
        rw [hk] at hthere
        obtain ⟨c, hc⟩ := Option.isSome_iff_exists.mp (within_list_iff.mp hthere)
        obtain ⟨l', hl', hnone, _⟩ :=
          hcopy.owned k c hk (hcopy.shared.symm.trans hunshared) hc
        obtain rfl : l' = l := by simpa [hl'] using hvalue
        simp [within_list_iff, hnone] at hold

end Complete

end Heap

open Heap

namespace Build

variable {α β : Type} {types : List Schema} {h : Heap}

/-- An operation leaves the heap complete, and what it gives back is as promised. -/
def Completes (types : List Schema) (x : Build α) (h : Heap) (post : α → Heap → Prop) : Prop :=
  Heap.Completes types h (x h).2 ∧ ∀ a, (x h).1 = .ok a → post a (x h).2

theorem Completes.pure (hcomplete : h.Complete types) {post : α → Heap → Prop} {a : α}
    (hpost : post a h) : Completes types (pure a) h post :=
  ⟨hcomplete.refl, fun b hb => by
    obtain rfl : a = b := by simpa [pure_apply] using hb
    exact hpost⟩

/-- One operation after the other. -/
theorem Completes.bind {x : Build α} {f : α → Build β} {P : α → Heap → Prop}
    {post : β → Heap → Prop} (hx : Completes types x h P)
    (hf : ∀ a later, Heap.Completes types h later → P a later → Completes types (f a) later post) :
    Completes types (x >>= f) h post := by
  obtain ⟨hfirst, hmid⟩ := hx
  rw [Completes, bind_apply]
  cases hresult : x h with
  | mk result later =>
      rw [hresult] at hfirst hmid
      cases result with
      | error e => exact ⟨hfirst, fun b hb => by cases hb⟩
      | ok a =>
          obtain ⟨hrest, hpost⟩ := hf a later hfirst (hmid a rfl)
          exact ⟨hfirst.trans hrest, hpost⟩

/-- Nothing is promised of an operation that only changes the heap. -/
theorem Completes.of_heap {x : Build α} (hx : Heap.Completes types h (x h).2) :
    Completes types x h fun _ _ => True :=
  ⟨hx, fun _ _ => trivial⟩

end Build

variable {types : List Schema} {h later : Heap}

theorem Default.Within.mono (hgrows : h.Grows later) {d : Default} (hd : d.Within h) :
    d.Within later := by
  cases hd with
  | value hv => exact .value (hv.mono hgrows)
  | factory hrecipe => exact .factory (hrecipe.mono hgrows)

theorem Value.mapOf_within {entries : List (String × Value)}
    (hentries : ∀ e ∈ entries, e.2.Within h) : (Value.mapOf entries).Within h := by
  apply Within.map
  intro e he
  rcases mem_foldl_insertEntry he with hnil | hmem
  · cases hnil
  · exact hentries e hmem

/-! ### Construction -/

open Build

theorem Heap.Complete.impliedDefault (hcomplete : h.Complete types) (kind : Kind) :
    Heap.Completes types h (h.impliedDefault kind).2 ∧
      (h.impliedDefault kind).1.Within (h.impliedDefault kind).2 := by
  cases kind with
  | list schema =>
      exact ⟨hcomplete.addList (by simp), within_list (list?_addList_self h ⟨schema, []⟩)⟩
  | array lengths check? => exact ⟨hcomplete.refl, .array (by simp)⟩
  | _ => exact ⟨hcomplete.refl, .null⟩

theorem Heap.Complete.initialValue (hcomplete : h.Complete types) (f : Field) {v : Value}
    (hv : v.Within h) :
    Build.Completes types (fun h => h.initialValue f v) h fun w later => w.Within later := by
  rw [Build.Completes]
  cases hkind : f.kind with
  | list schema =>
      simp only [Heap.initialValue, hkind]
      rcases initialList_cases h f schema v with
        ⟨e, heq⟩ | ⟨l, c, rfl, hl, _, heq⟩ | ⟨items, hitems, heq⟩ <;> rw [heq]
      · exact ⟨hcomplete.refl, fun w hw => by cases hw⟩
      · exact ⟨hcomplete.refl, fun w hw => Except.ok.inj hw ▸ hv⟩
      · exact ⟨hcomplete.addList fun item hitem => within_of_documentIsA (hitems item hitem),
          fun w hw => Except.ok.inj hw ▸ within_list (list?_addList_self h _)⟩
  | embedded schema =>
      cases v with
      | document r =>
          simp only [Heap.initialValue, hkind]
          refine ⟨hcomplete.refl, fun w hw => ?_⟩
          split at hw
          · exact Except.ok.inj hw ▸ hv
          · cases hw
      | null => simp [Heap.initialValue, hkind, hcomplete.refl, Value.Within.null]
      | _ => simp [Heap.initialValue, hkind, hcomplete.refl]
  | _ =>
      simp only [Heap.initialValue, hkind]
      refine ⟨hcomplete.refl, fun w hw => ?_⟩
      split at hw
      · exact Except.ok.inj hw ▸ Heap.Complete.coerce f hv
      · cases hw

/-- The list that a first value refers to is the one that the default refers to, or new. -/
theorem Heap.initialList_origin {f : Field} {schema : Schema} (hkind : f.kind = .list schema)
    {v : Value} {l : ListRef} (hl : (h.initialValue f v).1 = .ok (.list l)) :
    v = .list l ∨ h.list? l = none := by
  simp only [Heap.initialValue, hkind] at hl
  rcases initialList_cases h f schema v with
    ⟨e, heq⟩ | ⟨l', c, rfl, _, _, heq⟩ | ⟨items, _, heq⟩ <;> rw [heq] at hl
  · cases hl
  · exact Or.inl (Except.ok.inj hl)
  · obtain rfl : (h.addList ⟨schema, items⟩).1 = l := Value.list.inj (Except.ok.inj hl)
    exact Or.inr (list?_addList_fst h _)

/-- The first slot of a field, made from heap `h` on by a default that refers to heap `base`.  The
list that it owns is new, and so is the one that it shares, unless that is part of the default. -/
structure Slot.Begun (base h : Heap) (f : Field) (slot : Slot) : Prop where
  name : slot.name = f.name
  own : f.kind.isList = true → slot.shared = false → ∀ l, slot.value = .list l →
    h.list? l = none
  shared : slot.shared = true → ∀ l, slot.value = .list l →
    (base.list? l).isSome = true ∨ h.list? l = none

theorem Heap.Grows.list?_eq_none (hgrows : h.Grows later) {l : ListRef}
    (hl : later.list? l = none) : h.list? l = none := by
  by_contra hsome
  obtain ⟨c, hc⟩ := Option.ne_none_iff_exists'.mp hsome
  obtain ⟨c', hc', _⟩ := hgrows.list hc
  rw [hl] at hc'
  cases hc'

theorem Slot.Begun.of_later {base : Heap} {f : Field} {slot : Slot} (hgrows : h.Grows later)
    (hslot : slot.Begun base later f) : slot.Begun base h f where
  name := hslot.name
  own hlist hshared l hl := hgrows.list?_eq_none (hslot.own hlist hshared l hl)
  shared hshared l hl := (hslot.shared hshared l hl).imp id hgrows.list?_eq_none

/-- The first slot of a field, from the value of its default. -/
theorem Heap.Complete.slot (hcomplete : h.Complete types) {base start : Heap}
    (hgrows : start.Grows h) (f : Field) {v : Value} (hv : v.Within h)
    (horigin : ∀ l, v = .list l → (base.list? l).isSome = true ∨ start.list? l = none)
    (himplied : f.default? = none → ∀ l, v = .list l → start.list? l = none) :
    Build.Completes types (do
      let v ← fun h => h.initialValue f v
      return (⟨f.name, v, f.kind.isList && f.default?.isSome, false⟩ : Slot)) h
      fun slot later => slot.value.Within later ∧ slot.Begun base start f := by
  obtain ⟨hcompletes, hpost⟩ := hcomplete.initialValue f hv
  refine Build.Completes.bind (P := fun w later => w.Within later ∧
      (f.kind.isList = true → ∀ l, w = .list l → v = .list l ∨ h.list? l = none))
    ⟨hcompletes, fun w hw => ⟨hpost w hw, fun hlist l hl => ?_⟩⟩ ?_
  · obtain ⟨schema, hkind⟩ := Kind.exists_of_isList hlist
    exact Heap.initialList_origin hkind (hl ▸ hw)
  · rintro w later hlater ⟨hw, hlists⟩
    refine .pure hlater.complete ⟨hw, rfl, fun hlist hshared l hl => ?_, fun hshared l hl => ?_⟩
    · have hnone : f.default? = none := by simpa [hlist] using hshared
      exact (hlists hlist l hl).elim (himplied hnone l) hgrows.list?_eq_none
    · rcases hlists (Bool.and_eq_true_iff.mp hshared).1 l hl with heq | hnew
      · exact horigin l heq
      · exact Or.inr (hgrows.list?_eq_none hnew)

/-- A list that a recipe makes is one that it starts from, or new. -/
theorem Recipe.make_list {recipe : Recipe} {base : Heap} (hwithin : recipe.Within base)
    {l : ListRef} (hl : (recipe.make h).1 = .ok (.list l)) :
    (base.list? l).isSome = true ∨ h.list? l = none := by
  cases recipe with
  | plain v =>
      obtain rfl : v = .list l := Except.ok.inj hl
      cases hwithin with
      | plain hv => exact Or.inl (within_list_iff.mp hv)
  | counter ref => cases Except.ok.inj hl
  | list schema items =>
      obtain ⟨later, hrun⟩ : ∃ later, (Recipe.list schema items).make h = (.ok (.list l), later) :=
        ⟨_, Prod.ext hl rfl⟩
      rw [Recipe.make] at hrun
      obtain ⟨own, mid, hnew, hrest⟩ := Build.bind_eq_ok hrun
      obtain ⟨_, last, _, hdone⟩ := Build.bind_eq_ok hrest
      obtain rfl : own = l := Value.list.inj (Except.ok.inj (Prod.mk.inj hdone).1)
      obtain rfl : (h.addList ⟨schema, []⟩).1 = own := Except.ok.inj (Prod.mk.inj hnew).1
      exact Or.inr (list?_addList_fst h _)
  | array items =>
      obtain ⟨later, hrun⟩ : ∃ later, (Recipe.array items).make h = (.ok (.list l), later) :=
        ⟨_, Prod.ext hl rfl⟩
      rw [Recipe.make] at hrun
      obtain ⟨_, _, _, hdone⟩ := Build.bind_eq_ok hrun
      cases hdone
  | map entries =>
      obtain ⟨later, hrun⟩ : ∃ later, (Recipe.map entries).make h = (.ok (.list l), later) :=
        ⟨_, Prod.ext hl rfl⟩
      rw [Recipe.make] at hrun
      obtain ⟨_, _, _, hdone⟩ := Build.bind_eq_ok hrun
      cases hdone
  | document schema values =>
      obtain ⟨later, hrun⟩ :
          ∃ later, (Recipe.document schema values).make h = (.ok (.list l), later) :=
        ⟨_, Prod.ext hl rfl⟩
      rw [Recipe.make] at hrun
      obtain ⟨_, _, _, hrest⟩ := Build.bind_eq_ok hrun
      obtain ⟨_, _, _, hrest⟩ := Build.bind_eq_ok hrest
      obtain ⟨_, _, _, hdone⟩ := Build.bind_eq_ok hrest
      cases hdone

theorem Default.produce_list {d : Default} {base : Heap} (hwithin : d.Within base) {l : ListRef}
    (hl : (d.produce h).1 = .ok (.list l)) :
    (base.list? l).isSome = true ∨ h.list? l = none := by
  cases hwithin with
  | @value v hv =>
      obtain rfl : v = .list l := Except.ok.inj hl
      exact Or.inl (within_list_iff.mp hv)
  | @factory recipe hrecipe =>
      simp only [Default.produce] at hl
      split at hl
      · next v later hresult =>
          obtain rfl : v = .list l := Except.ok.inj hl
          exact Recipe.make_list hrecipe (by rw [hresult])
      · cases hl

/-- The slots of a new document: each is as its field starts it, and none shares what another
owns. -/
structure Slot.AllBegun (base h later : Heap) (fields : List Field) (slots : List Slot) : Prop where
  there : ∀ slot ∈ slots, slot.value.Within later
  begun : List.Forall₂ (fun f slot => slot.Begun base h f) fields slots
  apart : ∀ p ∈ fields.zip slots, p.1.kind.isList = true → p.2.shared = false →
    ∀ l, p.2.value = .list l → ∀ s ∈ slots, s.shared = true → s.value ≠ .list l

/-- The first slot was there before the others were made, which therefore own other lists, and share
others if they do not share what is part of their default. -/
theorem Slot.AllBegun.cons {base mid : Heap} {f : Field} {slot : Slot} {fields : List Field}
    {slots : List Slot} (hbase : base.Grows h) (hmid : h.Grows mid) (hlater : mid.Grows later)
    (hwithin : slot.value.Within mid) (hslot : slot.Begun base h f)
    (hslots : Slot.AllBegun base mid later fields slots) :
    Slot.AllBegun base h later (f :: fields) (slot :: slots) where
  there := List.forall_mem_cons.mpr ⟨hwithin.mono hlater, hslots.there⟩
  begun := .cons hslot (hslots.begun.imp fun _ _ hs => hs.of_later hmid)
  apart := by
    rw [List.zip_cons_cons]
    refine List.forall_mem_cons.mpr ⟨fun hlist hshared l hl s hs htrue heq => ?_,
      fun p hp hlist hshared l hl s hs htrue heq => ?_⟩
    · rcases List.mem_cons.mp hs with rfl | hs
      · exact absurd (hshared.symm.trans htrue) Bool.false_ne_true
      · rw [hl, within_list_iff] at hwithin
        obtain ⟨g, _, hbegun⟩ := exists_of_forall₂ hslots.begun s hs
        rcases hbegun.shared htrue l heq with hthere | hnone
        · have hin := (within_list_iff.mpr hthere).mono hbase
          simp [within_list_iff, hslot.own hlist hshared l hl] at hin
        · simp [hnone] at hwithin
    · have hnone := (List.forall₂_zip hslots.begun hp).own hlist hshared l hl
      rcases List.mem_cons.mp hs with rfl | hs
      · simp [heq, within_list_iff, hnone] at hwithin
      · exact hslots.apart p hp hlist hshared l hl s hs htrue heq

/-- A document with such slots does not share what it owns. -/
theorem Slot.AllBegun.document {base : Heap} {d : Document}
    (hslots : Slot.AllBegun base h later d.schema.fields d.slots)
    (hnodup : d.schema.fieldNames.Nodup) : d.Apart := by
  rintro l ⟨own, hown, f, hfield, hlist, hunshared, hvalue⟩ marked hmarked hshared
  obtain ⟨g, hg⟩ : ∃ g, (g, own) ∈ d.schema.fields.zip d.slots := by
    obtain ⟨i, hi, hget⟩ := List.mem_iff_getElem.mp hown
    have hlength := hslots.begun.length_eq
    refine ⟨d.schema.fields[i], List.mem_iff_getElem.mpr ⟨i, ?_, ?_⟩⟩
    · simp [hlength, hi]
    · simp [hget]
  obtain ⟨hf, hname⟩ := Schema.mem_of_field? hfield
  obtain rfl : g = f := List.inj_on_of_nodup_map hnodup (List.of_mem_zip hg).1 hf
    ((List.forall₂_zip hslots.begun hg).name.symm.trans hname.symm)
  exact hslots.apart (g, own) hg hlist hunshared l hvalue marked hmarked hshared

mutual

/-- A new document is there, and shares nothing that it owns. -/
theorem Schema.instantiate_completes (hdecl : Declared types) {h : Heap}
    (hcomplete : h.Complete types) : (s : Schema) → s ∈ types →
    Build.Completes types s.instantiate h fun r later => (Value.document r).Within later
  | ⟨id, name, role, parent?, fields⟩, hs => by
      have hover : ∀ f ∈ fields, f.Over types := fun f hf => hdecl.field_over hs hf
      rw [Schema.instantiate]
      apply (Field.initialSlots_completes hdecl hcomplete (.refl h) fields hover
        (hcomplete.defaults _ hs)).bind
      intro slots later hcompletes hslots
      refine ⟨hcompletes.complete.addDocument (d := ⟨_, slots, .empty⟩) hslots.there
        (hslots.document (hdecl.fieldNames_nodup hs)), fun r hr => ?_⟩
      obtain rfl : (later.addDocument _).1 = r := Except.ok.inj hr
      exact .document (by rw [document?_addDocument_self]; rfl)
termination_by structural s => s

theorem Field.initialSlots_completes (hdecl : Declared types) {base h : Heap}
    (hcomplete : h.Complete types) (hbase : base.Grows h) :
    (fields : List Field) → (∀ f ∈ fields, f.Over types) →
    (∀ f ∈ fields, ∀ d, f.default? = some d → d.Within base) →
    Build.Completes types (Field.initialSlots fields) h fun slots later =>
      Slot.AllBegun base h later fields slots
  | [], _, _ => Build.Completes.pure hcomplete ⟨by simp, .nil, by simp⟩
  | f :: rest, hover, hwithin => by
      rw [Field.initialSlots]
      apply (Field.initialSlot_completes hdecl hcomplete hbase f (hover f List.mem_cons_self)
        (hwithin f List.mem_cons_self)).bind
      rintro slot mid hfirst ⟨hslot, hbegun⟩
      obtain ⟨hcompletes, hpost⟩ := Field.initialSlots_completes hdecl hfirst.complete
        (hbase.trans hfirst.grows) rest (fun g hg => hover g (List.mem_cons_of_mem f hg))
        fun g hg => hwithin g (List.mem_cons_of_mem f hg)
      refine Build.Completes.bind (P := fun slots later => mid.Grows later ∧
        Slot.AllBegun base mid later rest slots)
        ⟨hcompletes, fun slots hslots => ⟨hcompletes.grows, hpost slots hslots⟩⟩ ?_
      rintro slots later hlater ⟨hgrows, hslots⟩
      exact .pure hlater.complete (.cons hbase hfirst.grows hgrows hslot hbegun hslots)
termination_by structural fields => fields

theorem Field.initialSlot_completes (hdecl : Declared types) {base h : Heap}
    (hcomplete : h.Complete types) (hbase : base.Grows h) :
    (f : Field) → f.Over types → (∀ d, f.default? = some d → d.Within base) →
    Build.Completes types f.initialSlot h fun slot later =>
      slot.value.Within later ∧ slot.Begun base h f
  | ⟨name, required, none, kind⟩, _, _ => by
      rw [Field.initialSlot.eq_def]
      obtain ⟨hcompletes, himplied⟩ := hcomplete.impliedDefault kind
      refine Build.Completes.bind
        (P := fun v later => v.Within later ∧ ∀ l, v = .list l → h.list? l = none)
        ⟨hcompletes, fun v hv => ?_⟩ ?_
      · obtain rfl : (h.impliedDefault kind).1 = v := Except.ok.inj hv
        refine ⟨himplied, fun l hl => ?_⟩
        cases kind with
        | list schema =>
            obtain rfl : (h.addList ⟨schema, []⟩).1 = l := Value.list.inj hl
            exact list?_addList_fst h _
        | _ => cases hl
      · rintro v later hlater ⟨hv, hnew⟩
        exact hlater.complete.slot hlater.grows ⟨name, required, none, kind⟩ hv
          (fun l hl => Or.inr (hnew l hl)) fun _ => hnew
  | ⟨name, required, some d, kind⟩, hover, hwithin => by
      rw [Field.initialSlot.eq_def]
      have hd := hwithin d rfl
      obtain ⟨hcompletes, hpost⟩ :=
        Default.produce_completes hdecl hcomplete d (hover.default d rfl) (hd.mono hbase)
      refine Build.Completes.bind (P := fun v later => v.Within later ∧
        ∀ l, v = .list l → (base.list? l).isSome = true ∨ h.list? l = none)
        ⟨hcompletes, fun v hv => ⟨hpost v hv, ?_⟩⟩ ?_
      · rintro l rfl
        exact Default.produce_list hd hv
      · rintro v later hlater ⟨hv, horigin⟩
        exact hlater.complete.slot hlater.grows ⟨name, required, some d, kind⟩ hv horigin
          fun hnone => by cases hnone
termination_by structural f => f

theorem Default.produce_completes (hdecl : Declared types) {h : Heap}
    (hcomplete : h.Complete types) :
    (d : Default) → d.Over types → d.Within h →
    Build.Completes types d.produce h fun v later => v.Within later
  | .value v, _, hwithin => by
      cases hwithin with
      | value hv => exact Build.Completes.pure hcomplete hv
  | .factory recipe, hover, hwithin => by
      obtain ⟨hcompletes, hpost⟩ :=
        Recipe.make_completes hdecl hcomplete recipe hover.of_factory hwithin.of_factory
      rw [Default.produce, Build.Completes]
      cases hresult : recipe.make h with
      | mk result later =>
          rw [hresult] at hcompletes hpost
          cases result with
          | error e =>
              refine ⟨hcompletes, fun v hv => ?_⟩
              obtain rfl : Value.null = v := Except.ok.inj hv
              exact .null
          | ok v => exact ⟨hcompletes, hpost⟩
termination_by structural d => d

theorem Recipe.make_completes (hdecl : Declared types) {h : Heap}
    (hcomplete : h.Complete types) :
    (r : Recipe) → r.Over types → r.Within h →
    Build.Completes types r.make h fun v later => v.Within later
  | .plain v, _, hwithin => by
      cases hwithin with
      | plain hv => exact Build.Completes.pure hcomplete hv
  | .counter ref, _, _ => by
      rw [Recipe.make]
      refine ⟨hcomplete.counters _, fun v hv => ?_⟩
      obtain rfl : Value.int _ = v := Except.ok.inj hv
      exact .int _
  | .array items, hover, hwithin => by
      rw [Recipe.make]
      exact (Recipe.makeAll_completes hdecl hcomplete items hover.of_array hwithin.of_array).bind
        fun values _ hlater hvalues => .pure hlater.complete (.array hvalues)
  | .map entries, hover, hwithin => by
      rw [Recipe.make]
      exact (Recipe.makeEntries_completes hdecl hcomplete entries hover.of_map hwithin.of_map).bind
        fun values _ hlater hvalues => .pure hlater.complete (Value.mapOf_within hvalues)
  | .document schema values, hover, hwithin => by
      obtain ⟨hschema, hentries⟩ := hover.of_document
      rw [Recipe.make]
      apply (Recipe.makeEntries_completes hdecl hcomplete values hentries hwithin.of_document).bind
      intro given later hlater hgiven
      apply (Schema.instantiate_completes hdecl hlater.complete schema hschema).bind
      intro r final hfinal hr
      have hassign := hfinal.complete.assignGiven r fun e he => (hgiven e he).mono hfinal.grows
      refine Build.Completes.bind (x := fun h => h.assignGiven r given)
        (P := fun _ last => (Value.document r).Within last)
        ⟨hassign, fun _ _ => hr.mono hassign.grows⟩ fun _ last hlast hr => ?_
      exact .pure hlast.complete hr
  | .list schema items, hover, hwithin => by
      obtain ⟨hschema, hitems⟩ := hover.of_list
      rw [Recipe.make]
      refine Build.Completes.bind (P := fun l later => (Value.list l).Within later)
        ⟨hcomplete.addList (c := ⟨schema, []⟩) (by simp), fun l hl => ?_⟩ ?_
      · obtain rfl : (h.addList ⟨schema, []⟩).1 = l := Except.ok.inj hl
        exact within_list (list?_addList_self h _)
      · intro l later hlater hl
        have hpush := Recipe.pushAll_completes hdecl hlater.complete schema.name l items hitems
          fun r hr => (hwithin.of_list r hr).mono hlater.grows
        refine Build.Completes.bind (P := fun _ last => (Value.list l).Within last)
          ⟨hpush.1, fun _ _ => hl.mono hpush.1.grows⟩ fun _ last hlast hl => ?_
        exact .pure hlast.complete hl
termination_by structural r => r

theorem Recipe.makeAll_completes (hdecl : Declared types) {h : Heap}
    (hcomplete : h.Complete types) :
    (recipes : List Recipe) → (∀ r ∈ recipes, r.Over types) → (∀ r ∈ recipes, r.Within h) →
    Build.Completes types (Recipe.makeAll recipes) h fun values later =>
      ∀ v ∈ values, v.Within later
  | [], _, _ => Build.Completes.pure hcomplete (by simp)
  | r :: rest, hover, hwithin => by
      rw [Recipe.makeAll]
      apply (Recipe.make_completes hdecl hcomplete r (hover r List.mem_cons_self)
        (hwithin r List.mem_cons_self)).bind
      intro v mid hfirst hv
      refine (Recipe.makeAll_completes hdecl hfirst.complete rest
        (fun s hs => hover s (List.mem_cons_of_mem r hs)) fun s hs =>
          (hwithin s (List.mem_cons_of_mem r hs)).mono hfirst.grows).bind ?_
      intro values later hrest hvalues
      exact .pure hrest.complete (List.forall_mem_cons.mpr ⟨hv.mono hrest.grows, hvalues⟩)
termination_by structural recipes => recipes

theorem Recipe.makeEntries_completes (hdecl : Declared types) {h : Heap}
    (hcomplete : h.Complete types) :
    (entries : List (String × Recipe)) → (∀ e ∈ entries, e.2.Over types) →
    (∀ e ∈ entries, e.2.Within h) →
    Build.Completes types (Recipe.makeEntries entries) h fun values later =>
      ∀ e ∈ values, e.2.Within later
  | [], _, _ => Build.Completes.pure hcomplete (by simp)
  | (key, r) :: rest, hover, hwithin => by
      rw [Recipe.makeEntries]
      apply (Recipe.make_completes hdecl hcomplete r (hover (key, r) List.mem_cons_self)
        (hwithin (key, r) List.mem_cons_self)).bind
      intro v mid hfirst hv
      refine (Recipe.makeEntries_completes hdecl hfirst.complete rest
        (fun s hs => hover s (List.mem_cons_of_mem _ hs)) fun s hs =>
          (hwithin s (List.mem_cons_of_mem _ hs)).mono hfirst.grows).bind ?_
      intro values later hrest hvalues
      exact .pure hrest.complete (List.forall_mem_cons.mpr ⟨hv.mono hrest.grows, hvalues⟩)
termination_by structural entries => entries

theorem Recipe.pushAll_completes (hdecl : Declared types) {h : Heap}
    (hcomplete : h.Complete types) (expected : String)
    (list : ListRef) :
    (recipes : List Recipe) → (∀ r ∈ recipes, r.Over types) → (∀ r ∈ recipes, r.Within h) →
    Build.Completes types (Recipe.pushAll expected list recipes) h fun _ _ => True
  | [], _, _ => Build.Completes.pure hcomplete trivial
  | r :: rest, hover, hwithin => by
      rw [Recipe.pushAll]
      apply (Recipe.make_completes hdecl hcomplete r (hover r List.mem_cons_self)
        (hwithin r List.mem_cons_self)).bind
      intro v mid hfirst _
      have hpush : ∀ x : Build Unit, Heap.Completes types mid (x mid).2 →
          Build.Completes types (x >>= fun _ => Recipe.pushAll expected list rest) mid
            fun _ _ => True := by
        intro x hx
        apply (Build.Completes.of_heap hx).bind
        intro _ later hlater _
        exact Recipe.pushAll_completes hdecl hlater.complete expected list rest
          (fun s hs => hover s (List.mem_cons_of_mem r hs)) fun s hs =>
            (hwithin s (List.mem_cons_of_mem r hs)).mono (hfirst.trans hlater).grows
      cases v with
      | document item => exact hpush _ (hfirst.complete.push list item)
      | _ => exact hpush _ hfirst.complete.refl
termination_by structural recipes => recipes

end

theorem Schema.withValues_completes (hdecl : Declared types) (hcomplete : h.Complete types)
    {s : Schema} (hs : s ∈ types)
    {values : List (String × Value)} (hvalues : ∀ e ∈ values, e.2.Within h) :
    Build.Completes types (s.withValues values) h fun _ _ => True := by
  rw [Schema.withValues]
  apply (Schema.instantiate_completes hdecl hcomplete s hs).bind
  intro r later hlater _
  refine (Build.Completes.of_heap (x := fun h => h.assignGiven r values)
    (hlater.complete.assignGiven r fun e he => (hvalues e he).mono hlater.grows)).bind ?_
  exact fun _ _ hlast _ => .pure hlast.complete trivial

/-! ### Hydration -/

theorem Value.ofJson_within (h : Heap) (j : Json) : (Value.ofJson j).Within h :=
  (Value.ofJson_grounded h j).within

/-- A list that the document does not share can be put into a field. -/
theorem Heap.Complete.installList (hcomplete : h.Complete types) (r : DocRef) (name : String)
    {l : ListRef} (hl : (Value.list l).Within h)
    (hnew : ∀ d, h.document? r = some d → ∀ slot ∈ d.slots, slot.shared = true →
      slot.value ≠ .list l) : Heap.Completes types h (h.installList r name l) := by
  rw [Heap.installList]
  split
  · exact hcomplete.refl
  · next d hd =>
      split
      · exact hcomplete.refl
      · refine hcomplete.putDocument hd rfl ⟨fun s hs => ?_, ?_, fun old hold s hs hshared => ?_⟩
        · rcases Document.mem_putSlot hs with rfl | hs
          · exact hl
          · exact hcomplete.slots hd s hs
        · refine (hcomplete.apart hd).putSlot (fun hshared => by cases hshared) ?_
          intro f l' _ _ _ hvalue
          obtain rfl : l = l' := by injection hvalue
          exact Or.inr (hnew d hd)
        · obtain rfl := Option.some.inj (hd.symm.trans hold)
          rcases Document.mem_putSlot hs with rfl | hs
          · cases hshared
          · exact hs

/-- Filling a list from JSON, one item after the other. -/
theorem Schema.hydrateItems_completes {schema : Schema}
    (hitem : ∀ {h : Heap} (nested : Json.Object), h.Complete types →
      Build.Completes types (schema.hydrate nested) h fun _ _ => True)
    (list : ListRef) (items : List Json) {h : Heap} (hcomplete : h.Complete types) :
    Build.Completes types (items.forM (schema.hydrateItem list)) h fun _ _ => True := by
  induction items generalizing h with
  | nil => exact .pure hcomplete trivial
  | cons item rest ih =>
      have hone : Build.Completes types (schema.hydrateItem list item) h fun _ _ => True := by
        cases item with
        | obj nested =>
            exact (hitem nested hcomplete).bind fun inner mid hmid _ =>
              .of_heap (hmid.complete.push list inner)
        | _ => exact .pure hcomplete trivial
      exact hone.bind fun _ later hlater _ => ih hlater.complete

mutual

theorem Schema.hydrate_completes (hdecl : Declared types) {h : Heap}
    (hcomplete : h.Complete types) (data : Json.Object) : (s : Schema) → s ∈ types →
    Build.Completes types (s.hydrate data) h fun r later => (Value.document r).Within later
  | ⟨id, name, role, parent?, fields⟩, hs => by
      have hover : ∀ f ∈ fields, f.Over types := fun f hf => hdecl.field_over hs hf
      rw [Schema.hydrate]
      apply (Schema.instantiate_completes hdecl hcomplete _ hs).bind
      intro r later hlater hr
      have hfill := (Field.hydrateAll_completes hdecl hlater.complete (within_document_iff.mp hr)
        data fields hover).1
      refine Build.Completes.bind (P := fun _ last => (Value.document r).Within last)
        ⟨hfill, fun _ _ => hr.mono hfill.grows⟩ fun _ last hlast hr => ?_
      exact .pure hlast.complete hr
termination_by structural s => s

theorem Field.hydrateAll_completes (hdecl : Declared types) {h : Heap}
    (hcomplete : h.Complete types) {r : DocRef} (hr : (h.document? r).isSome = true)
    (data : Json.Object) :
    (fields : List Field) → (∀ f ∈ fields, f.Over types) →
    Build.Completes types (Field.hydrateAll r fields data) h fun _ _ => True
  | [], _ => Build.Completes.pure hcomplete trivial
  | f :: rest, hover => by
      rw [Field.hydrateAll]
      refine (Field.hydrate_completes hdecl hcomplete hr data f (hover f List.mem_cons_self)).bind
        fun _ later hlater _ => ?_
      exact Field.hydrateAll_completes hdecl hlater.complete (within_document_iff.mp
        ((within_document_iff.mpr hr).mono hlater.grows)) data rest
        fun g hg => hover g (List.mem_cons_of_mem f hg)
termination_by structural fields => fields

theorem Field.hydrate_completes (hdecl : Declared types) {h : Heap}
    (hcomplete : h.Complete types) {r : DocRef} (hr : (h.document? r).isSome = true)
    (data : Json.Object) :
    (f : Field) → f.Over types → Build.Completes types (f.hydrate r data) h fun _ _ => True
  | ⟨name, required, default?, kind⟩, hover => by
      rw [Field.hydrate.eq_def]
      simp only
      cases data.get? name with
      | none => exact Build.Completes.pure hcomplete trivial
      | some json => exact Kind.hydrate_completes hdecl hcomplete hr name json kind hover.kind
termination_by structural f => f

theorem Kind.hydrate_completes (hdecl : Declared types) {h : Heap}
    (hcomplete : h.Complete types) {r : DocRef} (hr : (h.document? r).isSome = true)
    (name : String) (json : Json) :
    (kind : Kind) → (∀ s, kind.schema? = some s → s ∈ types ∧ s.isEmbedded = true) →
    Build.Completes types (kind.hydrate r name json) h fun _ _ => True
  | kind, hover => by
      have hset : ∀ {h : Heap} {v : Value}, h.Complete types → v.Within h →
          Build.Completes types (fun h => h.set r name v) h fun _ _ => True :=
        fun hcomplete hv => .of_heap (hcomplete.set r name hv)
      cases hnests : kind.nests json with
      | false =>
          rw [Kind.hydrate_of_not_nests r name hnests]
          exact hset hcomplete (Value.ofJson_within h json)
      | true =>
          match kind, json with
          | .embedded schema, .obj nested =>
              rw [Kind.hydrate_embedded_obj]
              have hnested :=
                Schema.hydrate_completes hdecl hcomplete nested schema (hover schema rfl).1
              exact hnested.bind fun inner later hlater hinner => hset hlater.complete hinner
          | .list schema, .arr items =>
              have hs := (hover schema rfl).1
              rw [Kind.hydrate_list_arr]
              refine Build.Completes.bind
                (P := fun l later => (Value.list l).Within later ∧ h.list? l = none)
                ⟨hcomplete.addList (c := ⟨schema, []⟩) (by simp), fun l hl => ?_⟩ ?_
              · obtain rfl : (h.addList ⟨schema, []⟩).1 = l := Except.ok.inj hl
                exact ⟨within_list (list?_addList_self h _), list?_addList_fst h _⟩
              · rintro l mid hmid ⟨hl, hnew⟩
                obtain ⟨hfill, _⟩ := Schema.hydrateItems_completes (fun nested hcomplete =>
                  .of_heap (Schema.hydrate_completes hdecl hcomplete nested schema hs).1)
                  l items hmid.complete
                refine Build.Completes.bind (P := fun _ later => (Value.list l).Within later)
                  ⟨hfill, fun _ _ => hl.mono hfill.grows⟩ fun _ later hlater hl => ?_
                -- what the document shares was there before the list was made
                refine .of_heap (hlater.complete.installList r name hl ?_)
                intro d hd slot hslot hshared heq
                obtain ⟨d₀, hd₀⟩ := Option.isSome_iff_exists.mp hr
                have hbefore :=
                  (hmid.trans hlater).shared hd₀ hd slot hslot hshared
                have hthere := hcomplete.slots hd₀ slot hbefore
                rw [heq, within_list_iff, hnew] at hthere
                cases hthere
termination_by structural kind => kind

end

/-! ### Stores -/

namespace Store

variable {s : Session}

theorem stamp_completes (hcomplete : h.Complete types) (r : DocRef) (field : String)
    (now : Instant) : Heap.Completes types h (stamp h r field now) :=
  hcomplete.set r field (.instant now)

theorem write_completes (hcomplete : s.heap.Complete types) (store : Store) (p : Persisted)
    (now : Instant) (fresh : ObjectId) (took : String) :
    Heap.Completes types s.heap (store.write p now fresh took s).session.heap := by
  have hmodified := stamp_completes hcomplete p.document store.config.modifiedField now
  have hcreated :=
    stamp_completes hmodified.complete p.document store.config.createdField now
  rw [write]
  simp only
  split
  · split
    · exact hmodified
    · simpa only [heap_log] using hmodified
  · simpa only [heap_log] using hmodified.trans hcreated

theorem save_completes (hcomplete : s.heap.Complete types) (store : Store) (p : Persisted)
    (now : Instant) (fresh : ObjectId) (took : String) :
    Heap.Completes types s.heap (store.save p now fresh took s).session.heap := by
  have hvalidate := hcomplete.marked (s.validate_marked p.document)
  rcases store.save_cases p now fresh took s with
    ⟨_, _, heq⟩ | ⟨_, later, hlater, heq⟩ | ⟨_, _, heq⟩ <;> rw [heq]
  · exact hcomplete.refl
  · simpa only [hlater] using hvalidate
  · exact hvalidate.trans (write_completes hvalidate.complete store p now fresh took)

theorem hydrate_completes (hdecl : Declared types) (hcomplete : h.Complete types) {store : Store}
    (hschema : store.schema ∈ types) (id : ObjectId) (data : Json.Object) :
    Heap.Completes types h (store.hydrate id data h).2 := by
  obtain ⟨hcompletes, _⟩ := Schema.hydrate_completes hdecl hcomplete data store.schema hschema
  rw [hydrate]
  split <;> next hresult => simpa only [hresult] using hcompletes

theorem hydrateAll_completes (hdecl : Declared types) {store : Store}
    (hschema : store.schema ∈ types) (entries : List (ObjectId × Json.Object)) {h : Heap}
    (hcomplete : h.Complete types) :
    Heap.Completes types h (store.hydrateAll h entries).2 := by
  induction entries generalizing h with
  | nil => exact hcomplete.refl
  | cons entry rest ih =>
      obtain ⟨id, data⟩ := entry
      have hone := hydrate_completes hdecl hcomplete hschema id data
      rw [hydrateAll]
      split
      · next hresult => simpa only [hresult] using hone
      · next hresult =>
          rw [hresult] at hone
          have hrest := hone.trans (ih hone.complete)
          split <;> next hlater => simpa only [hlater] using hrest

theorem find_completes (hdecl : Declared types) (hcomplete : s.heap.Complete types)
    {store : Store} (hschema : store.schema ∈ types) (filter : Json.Object) (took : String) :
    Heap.Completes types s.heap (store.find filter took s).2.heap := by
  have hall := hydrateAll_completes hdecl hschema (store.collection.find filter) hcomplete
  rw [find]
  split
  · next hresult => simpa only [hresult] using hall
  · next hresult => simpa only [hresult, heap_log] using hall

theorem findOne_completes (hdecl : Declared types) (hcomplete : s.heap.Complete types)
    {store : Store} (hschema : store.schema ∈ types) (id : ObjectId) (took : String) :
    Heap.Completes types s.heap (store.findOne id took s).2.heap := by
  rw [findOne]
  split
  · simpa only [heap_log] using hcomplete.refl
  · next data _ =>
      have hone := hydrate_completes hdecl hcomplete hschema id data
      rw [heap_log]
      split <;> next hresult => simpa only [hresult] using hone

end Store

/-! ### Runs -/

namespace Operation

/-- The references that an operation passes on are there. -/
def Within (h : Heap) : Operation → Prop
  | withValues _ values => ∀ e ∈ values, e.2.Within h
  | defaultValue field => ∀ d, field.default? = some d → d.Within h
  | set _ _ v => v.Within h
  | _ => True

/-- The same of several operations: each may use what those before have made. -/
def AllWithin (s : Session) : List Operation → Prop
  | [] => True
  | op :: rest => op.Within s.heap ∧ AllWithin (op.perform s) rest

theorem perform_completes (hdecl : Declared types) {s : Session}
    (hcomplete : s.heap.Complete types) {op : Operation} (hop : op.Over types)
    (hwithin : op.Within s.heap) : Heap.Completes types s.heap (op.perform s).heap := by
  cases op with
  | new schema => exact (Schema.instantiate_completes hdecl hcomplete schema hop).1
  | withValues schema values =>
      exact (Schema.withValues_completes hdecl hcomplete hop.1 hwithin).1
  | hydrate schema data => exact (Schema.hydrate_completes hdecl hcomplete data schema hop).1
  | defaultValue field =>
      rw [perform, Field.defaultValue]
      cases hdefault : field.default? with
      | none => exact (hcomplete.impliedDefault field.kind).1
      | some d =>
          exact (Default.produce_completes hdecl hcomplete d (Field.Over.default hop d hdefault)
            (hwithin d hdefault)).1
  | set r name v => exact hcomplete.set r name hwithin
  | clone r => exact hcomplete.clone r
  | validate r => exact hcomplete.marked (s.validate_marked r)
  | newList schema => exact hcomplete.addList (by simp)
  | push list item => exact hcomplete.push list item
  | replaceItems list items => exact hcomplete.replaceItems list items
  | removeAt list index => exact hcomplete.removeAt list index
  | clear list => exact hcomplete.clear list
  | detach list => exact hcomplete.detach list
  | newCounter n => exact hcomplete.counters _
  | save store p now fresh took => exact Store.save_completes hcomplete store p now fresh took
  | find store filter took => exact Store.find_completes hdecl hcomplete hop filter took
  | findOne store id took => exact Store.findOne_completes hdecl hcomplete hop id took
  | delete store p took =>
      change Heap.Completes types s.heap (store.delete p took s).2.2.heap
      rw [store.heap_delete]
      exact hcomplete.refl

end Operation

/-- The states of a program that passes on the references that it was given. -/
inductive Attained : List Schema → Session → Prop
  | empty : Attained [] .empty
  | declare {types : List Schema} {s : Session} {new : Schema} (hs : Attained types s)
      (hnew : Declared (new :: types)) (hwithin : new.Within s.heap) : Attained (new :: types) s
  | perform {types : List Schema} {s : Session} {op : Operation} (hs : Attained types s)
      (hop : op.Over types) (hwithin : op.Within s.heap) : Attained types (op.perform s)

namespace Attained

variable {s : Session}

theorem reachable (hs : Attained types s) : Reachable types s := by
  induction hs with
  | empty => exact .empty
  | declare _ hnew hwithin ih => exact ih.declare hnew hwithin
  | perform _ hop _ ih => exact ih.perform hop

/-- No matter what such a program does, no reference dangles. -/
theorem complete (hs : Attained types s) : s.heap.Complete types := by
  induction hs with
  | empty =>
      exact ⟨by simp [Session.empty, Heap.empty, document?],
        by simp [Session.empty, Heap.empty, document?],
        by simp [Session.empty, Heap.empty, list?], by simp⟩
  | declare _ _ hwithin ih =>
      exact ⟨ih.slots, ih.apart, ih.items, List.forall_mem_cons.mpr ⟨hwithin, ih.defaults⟩⟩
  | perform hbefore hop hwithin ih =>
      exact (Operation.perform_completes hbefore.reachable.declared ih hop hwithin).complete

/-- Several operations, one after the other. -/
theorem run {ops : List Operation} (hs : Attained types s) (hover : ∀ op ∈ ops, op.Over types)
    (hwithin : Operation.AllWithin s ops) : Attained types (ops.foldl Operation.perform s) := by
  induction ops generalizing s with
  | nil => exact hs
  | cons op rest ih =>
      obtain ⟨hop, hrest⟩ := List.forall_mem_cons.mp hover
      exact ih (hs.perform hop hwithin.1) hrest hwithin.2

/-- Types whose defaults refer to nothing can be declared at the start. -/
theorem of_declared (hdecl : Declared types) (hwithin : ∀ t ∈ types, t.Within Heap.empty) :
    Attained types .empty := by
  induction hdecl using Declared.induct with
  | nil => exact .empty
  | cons _ later _ ih =>
      obtain ⟨hnew, hold⟩ := List.forall_mem_cons.mp hwithin
      exact (ih hold).declare later hnew

end Attained

/-- A list with a book in it can be had before there are any shelves. -/
theorem shelfStart_attained : Attained [bookType] shelfStart := by
  have hbook : Attained [bookType] .empty := by
    refine .of_declared (.embedded .nil (by simp) (by simp)) fun t ht f hf => ?_
    obtain rfl := List.mem_singleton.mp ht
    cases hf
  refine hbook.run (fun op hop => ?_) ⟨trivial, trivial, trivial, trivial⟩
  simp only [List.mem_cons, List.not_mem_nil, or_false] at hop
  rcases hop with rfl | rfl | rfl <;> simp [Operation.Over]

end DocumentModel
