/-
Copies of documents and their lists.

A copy of a document has a list of its own for every list that the document owns.  An owned list
stays with its owner for good: an assignment refills it, and no operation takes it away.  So as the
program goes on, the list of the copy is out of reach of whatever is done through the document, and
the other way round.  A list field that still counts as holding its declared default hands that very
list to the copy.
-/
import DocumentModel.Proofs.ListOwnership
import DocumentModel.Proofs.SaveTimes

namespace DocumentModel

theorem Document.Owns.putSlot {d : Document} {name : String} {l : ListRef} (howns : d.Owns name l)
    {slot : Slot} (hne : slot.name ≠ name) : (d.putSlot slot).Owns name l := by
  obtain ⟨f, hf, hname, hlist, own, hown, honame, hunshared, hvalue⟩ := howns
  have hkept : own ∈ (d.putSlot slot).slots :=
    List.mem_map.mpr ⟨own, hown, if_neg fun heq => hne (heq.symm.trans honame)⟩
  exact ⟨f, hf, hname, hlist, own, hkept, honame, hunshared, hvalue⟩

namespace Heap

variable {types : List Schema} {n m : Nat} {h later : Heap} {r : DocRef} {name : String}
  {l : ListRef}

/-- Whoever was there before what is made anew owns what it owned. -/
theorem Keeps.owns (hkeeps : h.Keeps h.documents.length m later) (howns : h.Owns r name l) :
    later.Owns r name l := by
  obtain ⟨d, hd, hown⟩ := howns
  exact ⟨d, hkeeps.document (document?_lt hd) hd, hown⟩

theorem Marked.owns (hmarked : Marked h later) (howns : h.Owns r name l) :
    later.Owns r name l := by
  obtain ⟨d, hd, hown⟩ := howns
  obtain ⟨e, he⟩ := hmarked.document? hd
  exact ⟨_, he, hown⟩

theorem documents_assign (h : Heap) (f : Field) (current v : Value) :
    (h.assign f current v).2.documents = h.documents := by
  cases hkind : f.kind with
  | list schema =>
      simp only [assign, hkind]
      rcases assignList_cases h schema current v with heq | ⟨own, items, _, heq⟩ | ⟨items, _, heq⟩
      · rw [heq]
      · rw [heq, documents_replaceItems]
      · rw [heq]
        rfl
  | array lengths check? => cases v <;> simp [assign, hkind]
  | embedded schema => cases v <;> simp [assign, hkind]
  | _ => simp [assign, hkind]

/-- An assignment to a list field that holds a list of its own refills it, at most. -/
theorem assign_owned (h : Heap) {f : Field} (hlist : f.kind.isList = true) (l : ListRef)
    (v : Value) : (h.assign f (.list l) v).1 = .keep := by
  obtain ⟨schema, hkind⟩ := Kind.exists_of_isList hlist
  simp only [assign, hkind, assignList]
  split <;> rfl

/-- No assignment takes an owned list away from its owner. -/
theorem Sound.owns_set (hdecl : Declared types) (hsound : h.Sound types)
    (howns : h.Owns r name l) (s : DocRef) (other : String) (v : Value) :
    (h.set s other v).2.Owns r name l := by
  rw [set]
  split
  · exact howns
  · next d hd =>
      split
      · next f slot hfield hslot =>
          have hdocuments := h.documents_assign f (if slot.shared then .null else slot.value) v
          by_cases hs : s = r
          · subst hs
            obtain ⟨e, he, hown⟩ := howns
            obtain rfl : d = e := Option.some.inj (hd.symm.trans he)
            by_cases hother : other = name
            · -- the assignment is to the owner itself
              subst hother
              obtain ⟨hf, hfname⟩ := Schema.mem_of_field? hfield
              have hnames := hsound.slotNames_nodup hdecl hd
              obtain ⟨g, hg, hgname, hglist, own, hmem, honame, hunshared, hvalue⟩ := id hown
              obtain rfl : f = g :=
                hdecl.field_eq_of_name_eq (hsound.schema hd) hf hg (hfname.trans hgname.symm)
              obtain rfl : slot = own := Option.some.inj
                (hslot.symm.trans (honame ▸ Document.slot?_of_mem hnames hmem))
              simp only [hunshared, Bool.false_eq_true, ↓reduceIte, hvalue] at hdocuments ⊢
              have hd' : (h.assign f (.list l) v).2.document? s = some d := by
                rw [document?, hdocuments]
                exact hd
              rw [assign_owned h hglist l v, Assignment.apply,
                Document.putSlot_of_slot? hnames hslot, putDocument_self hd']
              exact ⟨d, hd', hown⟩
            · refine ⟨_, document?_putDocument_self _ _ ?_, hown.putSlot ?_⟩
              · rw [document?, hdocuments]
                exact Option.isSome_of_mem hd
              · rwa [Assignment.name_apply, (Document.mem_of_slot? hslot).2]
          · obtain ⟨e, he, hown⟩ := howns.of_documents hdocuments
            exact ⟨e, by rw [document?_putDocument_of_ne _ _ hs, he], hown⟩
      · exact howns

/-! ### Copies of slots -/

/-- The lists that there are stay as they are. -/
def KeepsLists (h later : Heap) : Prop :=
  ∀ l found, h.list? l = some found → later.list? l = some found

/-- A slot and its copy, made of the lists there are: a list that the slot owns becomes a new list
of the same documents, and all else is the same. -/
structure CopyOf (h later : Heap) (slot copy : Slot) : Prop where
  name : copy.name = slot.name
  shared : copy.shared = slot.shared
  owned : ∀ l found, slot.value = .list l → slot.shared = false → h.list? l = some found →
    ∃ l', copy.value = .list l' ∧ h.list? l' = none ∧ later.list? l' = some found
  same : slot.shared = true ∨ (∀ l, slot.value ≠ .list l) → copy.value = slot.value

/-- A copy that is made in between. -/
theorem CopyOf.between {mid mid' : Heap} {slot copy : Slot} (hcopy : CopyOf mid mid' slot copy)
    (hbefore : h.KeepsLists mid) (hafter : mid'.KeepsLists later) : CopyOf h later slot copy where
  name := hcopy.name
  shared := hcopy.shared
  owned l found hvalue hunshared hl := by
    obtain ⟨l', hl', hnone, hfound⟩ := hcopy.owned l found hvalue hunshared (hbefore l found hl)
    refine ⟨l', hl', ?_, hafter l' found hfound⟩
    cases hold : h.list? l' with
    | none => rfl
    | some old =>
        rw [hbefore l' old hold] at hnone
        cases hnone
  same := hcopy.same

theorem copySlot_copyOf (h : Heap) (slot : Slot) :
    CopyOf h (h.copySlot slot).2 slot (h.copySlot slot).1 ∧ h.KeepsLists (h.copySlot slot).2 ∧
      (h.copySlot slot).2.documents = h.documents := by
  rcases copySlot_cases h slot with ⟨r, l, hvalue, hunshared, hl, heq⟩ | ⟨hnone, heq⟩
  · rw [heq]
    refine ⟨⟨rfl, rfl, fun l' found hl' _ hfound => ?_, fun hsame => ?_⟩,
      fun _ _ hold => list?_addList_old hold, rfl⟩
    · obtain rfl : r = l' := by simpa [hvalue] using hl'
      obtain rfl : l = found := Option.some.inj (hl.symm.trans hfound)
      exact ⟨_, rfl, list?_addList_fst h l, list?_addList_self h l⟩
    · rcases hsame with hshared | hplain
      · rw [hunshared] at hshared
        cases hshared
      · exact absurd hvalue (hplain r)
  · rw [heq]
    refine ⟨⟨rfl, rfl, fun l found hl hunshared hfound => ?_, fun _ => rfl⟩,
      fun _ _ hold => hold, rfl⟩
    rw [hnone l hl hunshared] at hfound
    cases hfound

/-- Copying slots, one after the other, makes new lists and touches nothing else. -/
theorem copySlots_copyOf (h : Heap) (slots : List Slot) :
    List.Forall₂ (CopyOf h (h.copySlots slots).2) slots (h.copySlots slots).1 ∧
      h.KeepsLists (h.copySlots slots).2 ∧ (h.copySlots slots).2.documents = h.documents := by
  induction slots generalizing h with
  | nil => exact ⟨.nil, fun _ _ hl => hl, rfl⟩
  | cons slot rest ih =>
      obtain ⟨hcopy, hlists, hdocuments⟩ := h.copySlot_copyOf slot
      obtain ⟨hcopies, hlists', hdocuments'⟩ := ih (h.copySlot slot).2
      refine ⟨.cons (hcopy.between (fun _ _ hl => hl) hlists') (hcopies.imp fun _ _ hc => ?_),
        fun l found hl => hlists' l found (hlists l found hl), hdocuments'.trans hdocuments⟩
      exact hc.between hlists fun _ _ hl => hl

theorem CopyOf.slot? {d c : Document} (hcopies : List.Forall₂ (CopyOf h later) d.slots c.slots)
    {slot : Slot} (hslot : d.slot? name = some slot) :
    ∃ copy, c.slot? name = some copy ∧ CopyOf h later slot copy := by
  rw [Document.slot?] at hslot ⊢
  generalize d.slots = slots at hcopies hslot
  generalize c.slots = copies at hcopies ⊢
  induction hcopies with
  | nil => cases hslot
  | @cons first copy rest copies hfirst _ ih =>
      by_cases hname : first.name = name
      · obtain rfl : first = slot := by simpa [hname] using hslot
        exact ⟨copy, by simp [hfirst.name, hname], hfirst⟩
      · rw [List.find?_cons_of_neg (by simpa using hname)] at hslot
        rw [List.find?_cons_of_neg (by simpa [hfirst.name] using hname)]
        exact ih hslot

end Heap

/-! ### What becomes of an owned list -/

open Heap

variable {types : List Schema} {s : Session} {r : DocRef} {name : String} {l : ListRef}

theorem Store.owns_save (hdecl : Declared types) (hsound : s.heap.Sound types)
    (howns : s.heap.Owns r name l) (store : Store) (p : Persisted) (now : Instant)
    (fresh : ObjectId) (took : String) :
    (store.save p now fresh took s).session.heap.Owns r name l := by
  have hmarked := s.validate_marked p.document
  rcases store.save_cases p now fresh took s with
    ⟨_, _, heq⟩ | ⟨_, later, hlater, heq⟩ | ⟨_, _, heq⟩
  · rwa [heq]
  · rw [heq]
    exact (hmarked.owns howns).of_documents (congrArg Heap.documents hlater)
  · rw [heq, heap_write]
    have hsound' := (hmarked.changes types).sound hdecl hsound
    have howns' := hmarked.owns howns
    generalize (s.validate p.document).2.heap = h at hsound' howns'
    -- the times are assigned one after the other
    induction store.timeFields p.isNew generalizing h with
    | nil => exact howns'
    | cons field rest ih =>
        exact ih _ ((stamp_changes hdecl hsound' p.document field now).sound hdecl hsound')
          (hsound'.owns_set hdecl howns' p.document field (.instant now))

/-- No operation takes an owned list away from its owner. -/
theorem Operation.perform_owns (hdecl : Declared types) (hsound : s.heap.Sound types)
    {op : Operation} (hop : op.Over types) (howns : s.heap.Owns r name l) :
    (op.perform s).heap.Owns r name l := by
  have hready := hsound.ready
  cases op with
  | new schema => exact (Schema.instantiate_runs hdecl hready schema hop).1.keeps.owns howns
  | withValues schema values =>
      exact (Schema.withValues_runs hdecl hready hop.1 hop.2).1.keeps.owns howns
  | hydrate schema data =>
      exact (Schema.hydrate_runs hdecl hready data schema hop).1.keeps.owns howns
  | defaultValue field => exact (field.defaultValue_changes hdecl hready hop).keeps.owns howns
  | set s' other v => exact hsound.owns_set hdecl howns s' other v
  | clone s' => exact (hready.clone_changes hdecl s').keeps.owns howns
  | validate s' => exact (s.validate_marked s').owns howns
  | newList schema => exact howns.of_documents rfl
  | push list item => exact (hsound.push_changes (Nat.zero_le _) item).keeps.owns howns
  | replaceItems list items =>
      have hchanges : Changes types s.heap.documents.length 0 s.heap
          (s.heap.replaceItems list items).2 := replaceItems_changes (Nat.zero_le _) items
      exact hchanges.keeps.owns howns
  | removeAt list index => exact (hsound.removeAt_changes (Nat.zero_le _) index).keeps.owns howns
  | clear list =>
      have hchanges : Changes types s.heap.documents.length 0 s.heap (s.heap.clear list) :=
        clear_changes (Nat.zero_le _)
      exact hchanges.keeps.owns howns
  | detach list => exact (hsound.detach_changes _ 0 list).keeps.owns howns
  | newCounter n => exact howns.of_documents rfl
  | save store p now fresh took => exact store.owns_save hdecl hsound howns p now fresh took
  | find store filter took =>
      exact (Store.find_changes hdecl hready hop filter took).keeps.owns howns
  | findOne store id took => exact (Store.findOne_changes hdecl hready hop id took).keeps.owns howns
  | delete store p took =>
      change (store.delete p took s).2.2.heap.Owns r name l
      rwa [store.heap_delete]

/-- The states that a program can go on to from a state, and the types it has declared by then. -/
inductive Onward (types : List Schema) (s : Session) : List Schema → Session → Prop
  | here : Onward types s types s
  | declare {types' : List Schema} {t : Session} {new : Schema} (ht : Onward types s types' t)
      (hnew : Declared (new :: types')) (hwithin : new.Within t.heap) :
      Onward types s (new :: types') t
  | perform {types' : List Schema} {t : Session} {op : Operation} (ht : Onward types s types' t)
      (hop : op.Over types') : Onward types s types' (op.perform t)

namespace Onward

variable {types' : List Schema} {t : Session}

theorem reachable (ht : Onward types s types' t) (hs : Reachable types s) : Reachable types' t := by
  induction ht with
  | here => exact hs
  | declare _ hnew hwithin ih => exact ih.declare hnew hwithin
  | perform _ hop ih => exact ih.perform hop

/-- An owned list stays with its owner, whatever the program goes on to do. -/
theorem owns (ht : Onward types s types' t) (hs : Reachable types s)
    (howns : s.heap.Owns r name l) : t.heap.Owns r name l := by
  induction ht with
  | here => exact howns
  | declare _ _ _ ih => exact ih
  | perform hbefore hop ih =>
      have hreachable := hbefore.reachable hs
      exact Operation.perform_owns hreachable.declared hreachable.sound hop ih

end Onward

/-- The operation assigns a list field, or edits the list that it holds. -/
def Operation.Edits (r : DocRef) (name : String) (l : ListRef) : Operation → Prop
  | .set r' name' _ => r' = r ∧ name' = name
  | .push l' _ => l' = l
  | .replaceItems l' _ => l' = l
  | .removeAt l' _ => l' = l
  | .clear l' => l' = l
  | _ => False

theorem Heap.list?_push_of_ne (h : Heap) {l l' : ListRef} (hne : l ≠ l') (item : DocRef) :
    (h.push l item).2.list? l' = h.list? l' := by
  rw [push]
  split
  · rfl
  · split
    · exact list?_putList_of_ne h _ hne
    · rfl

theorem Heap.list?_removeAt_of_ne (h : Heap) {l l' : ListRef} (hne : l ≠ l') (index : Nat) :
    (h.removeAt l index).2.list? l' = h.list? l' := by
  rw [removeAt]
  split
  · rfl
  · exact list?_putList_of_ne h _ hne

theorem Heap.list?_clear_of_ne (h : Heap) {l l' : ListRef} (hne : l ≠ l') :
    (h.clear l).list? l' = h.list? l' := by
  rw [clear]
  split
  · rfl
  · exact list?_putList_of_ne h _ hne

/-- What is done through one owner does not reach the list of another. -/
theorem Operation.Edits.list?_perform (hdecl : Declared types) (hsound : s.heap.Sound types)
    (hunique : s.heap.OwnersUnique) (howns : s.heap.Owns r name l) {r' : DocRef} {name' : String}
    {l' : ListRef} (howns' : s.heap.Owns r' name' l') (hne : r ≠ r') {op : Operation}
    (hop : op.Edits r name l) : (op.perform s).heap.list? l' = s.heap.list? l' := by
  have hlists : l ≠ l' := fun heq => hne (hunique r r' name name' l howns (heq ▸ howns')).1
  cases op with
  | set s' other v =>
      obtain ⟨rfl, rfl⟩ := hop
      have hother : ¬ s.heap.Owns s' other l' := fun hboth =>
        hne (hunique s' r' other name' l' hboth howns').1
      cases hl : s.heap.list? l' with
      | none => exact absurd howns' (hsound.free_of_list?_eq_none hdecl hl r' name')
      | some found => exact list?_set hl hother
  | push list item =>
      obtain rfl : list = l := hop
      exact s.heap.list?_push_of_ne hlists item
  | replaceItems list items =>
      obtain rfl : list = l := hop
      exact s.heap.list?_replaceItems_of_ne hlists items
  | removeAt list index =>
      obtain rfl : list = l := hop
      exact s.heap.list?_removeAt_of_ne hlists index
  | clear list =>
      obtain rfl : list = l := hop
      exact s.heap.list?_clear_of_ne hlists
  | _ => exact absurd hop (by simp [Operation.Edits])

namespace Heap

/-- What a copy of a document is: its slots are copies, and all that there was is still there. -/
theorem clone_copyOf {h : Heap} {d : Document} (hd : h.document? r = some d) :
    ∃ c, (h.clone r).2.document? (h.clone r).1 = some c ∧ c.schema = d.schema ∧
      h.document? (h.clone r).1 = none ∧ (h.clone r).2.document? r = some d ∧
      h.KeepsLists (h.clone r).2 ∧ List.Forall₂ (CopyOf h (h.clone r).2) d.slots c.slots := by
  obtain ⟨hcopies, hlists, hdocuments⟩ := h.copySlots_copyOf d.slots
  generalize hcopied : h.copySlots d.slots = copied at hcopies hlists hdocuments
  have hclone : h.clone r = copied.2.addDocument { d with slots := copied.1 } := by
    simp only [clone, hd, hcopied]
  have hd' : copied.2.document? r = some d := by
    rw [document?, hdocuments]
    exact hd
  rw [hclone]
  refine ⟨_, document?_addDocument_self _ _, rfl, ?_, document?_addDocument_old hd', hlists,
    hcopies.imp fun _ _ hc => hc.between (fun _ _ hl => hl) fun _ _ hl => hl⟩
  rw [document?, addDocument, hdocuments]
  exact List.getElem?_eq_none (Nat.le_refl _)

/-- The copy owns a copy of each list that the document owns. -/
theorem CopyOf.owns {h later : Heap} {d c : Document} {copy : DocRef}
    (hc : later.document? copy = some c) (hschema : c.schema = d.schema)
    {f : Field} (hf : f ∈ d.schema.fields) (hlist : f.kind.isList = true) {slot slot' : Slot}
    (hslot' : c.slot? f.name = some slot') (hcopy : CopyOf h later slot slot')
    (hunshared : slot.shared = false) {l' : ListRef} (hvalue : slot'.value = .list l') :
    later.Owns copy f.name l' := by
  obtain ⟨hmem, hname⟩ := Document.mem_of_slot? hslot'
  exact ⟨c, hc, f, hschema ▸ hf, rfl, hlist, slot', hmem, hname, hcopy.shared.trans hunshared,
    hvalue⟩

end Heap

/-- A copy is a new document of the same type.  For a list field it holds another list of the same
documents, exactly if the field is no longer marked as holding its declared default; without a
declared default there never is such a mark.  From then on, whatever the program does, document and
copy keep these lists, and no assignment to the field of the one and no edit of its list reaches the
list of the other. -/
theorem clone_lists (hs : Reachable types s) {d : Document} (hd : s.heap.document? r = some d) :
    ∃ copy later c, s.heap.clone r = (copy, later) ∧ s.heap.document? copy = none ∧
      later.document? copy = some c ∧ c.schema = d.schema ∧
      ∀ f ∈ d.schema.fields, f.kind.isList = true → ∃ slot l l' found,
        d.slot? f.name = some slot ∧ slot.value = .list l ∧ c.value f.name = .list l' ∧
        (f.default? = none → slot.shared = false) ∧ (l' ≠ l ↔ slot.shared = false) ∧
        s.heap.list? l = some found ∧ later.list? l = some found ∧ later.list? l' = some found ∧
        (slot.shared = false → ∀ types' t,
          Onward types { s with heap := later } types' t →
            t.heap.Owns r f.name l ∧ t.heap.Owns copy f.name l' ∧
            (∀ op : Operation, op.Edits r f.name l →
              (op.perform t).heap.list? l' = t.heap.list? l') ∧
            ∀ op : Operation, op.Edits copy f.name l' →
              (op.perform t).heap.list? l = t.heap.list? l) := by
  have hdecl := hs.declared
  have hsound := hs.sound
  have hlater : Reachable types { s with heap := (s.heap.clone r).2 } :=
    @Reachable.perform types s (.clone r) hs trivial
  obtain ⟨c, hc, hschema, hnew, hd', hlists, hcopies⟩ := clone_copyOf hd
  refine ⟨(s.heap.clone r).1, (s.heap.clone r).2, c, rfl, hnew, hc, hschema, fun f hf hlist => ?_⟩
  obtain ⟨schema, hkind⟩ := Kind.exists_of_isList hlist
  obtain ⟨slot, hslot, hfits⟩ := hsound.slot_of_field hdecl hd hf
  obtain ⟨slot', hslot', hcopy⟩ := CopyOf.slot? hcopies hslot
  have hadmits := hfits.value
  rw [hkind] at hadmits
  obtain ⟨l, found, hvalue, hl, _⟩ := hadmits
  have hvalue' := Document.value_of_slot? hslot'
  have hmark : f.default? = none → slot.shared = false := fun hnone =>
    Bool.eq_false_iff.mpr fun hshared => by simpa [hnone] using (hfits.shared hshared).2
  cases hshared : slot.shared with
  | true =>
      refine ⟨slot, l, l, found, hslot, hvalue, ?_, hmark, by simp [hshared], hl,
        hlists l found hl, hlists l found hl, fun hfalse => ?_⟩
      · rw [hvalue', hcopy.same (Or.inl hshared), hvalue]
      · rw [hshared] at hfalse
        cases hfalse
  | false =>
      obtain ⟨l', hl', hfresh, hfound'⟩ := hcopy.owned l found hvalue hshared hl
      have hne : l' ≠ l := fun heq => by
        rw [heq, hl] at hfresh
        cases hfresh
      have hother : r ≠ (s.heap.clone r).1 := fun heq => by
        rw [← heq, hd] at hnew
        cases hnew
      refine ⟨slot, l, l', found, hslot, hvalue, hvalue'.trans hl', hmark, by simp [hne, hshared],
        hl, hlists l found hl, hfound', fun _ types' t ht => ?_⟩
      have hreachable := ht.reachable hlater
      have howns : t.heap.Owns r f.name l := ht.owns hlater
        ⟨d, hd', f, hf, rfl, hlist, slot, (Document.mem_of_slot? hslot).1, hfits.name, hshared,
          hvalue⟩
      have howns' : t.heap.Owns (s.heap.clone r).1 f.name l' := ht.owns hlater
        (CopyOf.owns hc hschema hf hlist hslot' hcopy hshared hl')
      exact ⟨howns, howns',
        fun op hop => hop.list?_perform hreachable.declared hreachable.sound
          hreachable.ownersUnique howns howns' hother,
        fun op hop => hop.list?_perform hreachable.declared hreachable.sound
          hreachable.ownersUnique howns' howns (Ne.symm hother)⟩

/-! A notebook with a page in it, and its copy.  The pages have no default, the drafts have one that
is made anew for every notebook. -/

def pageType : Schema :=
  .embedded 0 "Page" []

def notebookFields : List Field :=
  [⟨"pages", false, none, .list pageType⟩,
    ⟨"drafts", false, some (.factory (.list pageType [])), .list pageType⟩]

def notebookType : Schema :=
  .document 1 "Notebook" notebookFields

def notebookRun : Session :=
  [.new notebookType, .new pageType, .push ⟨0⟩ ⟨1⟩].foldl Operation.perform .empty

def notebookCopied : Session :=
  (Operation.clone ⟨0⟩).perform notebookRun

theorem notebookTypes_declared : Declared [notebookType, pageType] := by
  refine .document (.embedded .nil (by simp) (by simp)) (by decide) fun f hf => ?_
  have hpage : ∀ s, some pageType = some s → s ∈ [pageType] ∧ s.isEmbedded = true := by
    intro s hs
    obtain rfl := Option.some.inj hs
    exact ⟨List.mem_singleton_self _, rfl⟩
  simp only [notebookFields, List.mem_cons, List.not_mem_nil, or_false] at hf
  rcases hf with rfl | rfl
  · exact ⟨hpage, by simp⟩
  · refine ⟨hpage, fun d hd => ?_⟩
    obtain rfl := Option.some.inj hd
    exact .factory (.list (List.mem_singleton_self _) (by simp))

theorem notebookRun_reachable : Reachable [notebookType, pageType] notebookRun := by
  refine (Reachable.of_declared notebookTypes_declared
    fun t ht f hf d hd => ?_).run fun op hop => ?_
  · simp only [List.mem_cons, List.not_mem_nil, or_false] at ht
    rcases ht with rfl | rfl
    · have hfield : f ∈ notebookFields := hf
      simp only [notebookFields, List.mem_cons, List.not_mem_nil, or_false] at hfield
      rcases hfield with rfl | rfl
      · cases hd
      · obtain rfl := Option.some.inj hd
        exact .factory (.list (by simp))
    · cases hf
  · simp only [List.mem_cons, List.not_mem_nil, or_false] at hop
    rcases hop with rfl | rfl | rfl <;> simp [Operation.Over]

/-- A page that is added to the copy stays out of the notebook. -/
theorem clone_lists_pages :
    Reachable [notebookType, pageType] notebookRun ∧
      notebookCopied.heap.Owns ⟨0⟩ "pages" ⟨0⟩ ∧ notebookCopied.heap.Owns ⟨2⟩ "pages" ⟨2⟩ ∧
      notebookCopied.heap.items ⟨2⟩ = [⟨1⟩] ∧
      ((Operation.push ⟨2⟩ ⟨1⟩).perform notebookCopied).heap.items ⟨2⟩ = [⟨1⟩, ⟨1⟩] ∧
      ((Operation.push ⟨2⟩ ⟨1⟩).perform notebookCopied).heap.list? ⟨0⟩ =
        notebookCopied.heap.list? ⟨0⟩ := by
  obtain ⟨copy, later, c, hclone, _, hc, _, hlists⟩ :=
    clone_lists notebookRun_reachable (r := ⟨0⟩) rfl
  obtain ⟨slot, l, l', found, hslot, hvalue, hvalue', hmark, _, _, _, _, honward⟩ :=
    hlists _ (List.mem_cons_self : ⟨"pages", false, none, .list pageType⟩ ∈ notebookFields) rfl
  obtain ⟨rfl, rfl⟩ := Prod.mk.inj hclone
  obtain rfl := Option.some.inj hslot
  obtain rfl : (⟨0⟩ : ListRef) = l := by injection hvalue
  obtain rfl := Option.some.inj hc
  obtain rfl : (⟨2⟩ : ListRef) = l' := by injection hvalue'
  obtain ⟨howns, howns', _, hedits⟩ := honward rfl _ _ .here
  exact ⟨notebookRun_reachable, howns, howns', rfl, rfl, hedits _ rfl⟩

/-- The drafts are no declared list, yet the copy holds the very same ones: what is added to them
through the copy is added to the notebook. -/
theorem clone_lists_drafts :
    Reachable [notebookType, pageType] notebookRun ∧
      (∀ f ∈ notebookFields, ∀ l, f.default? ≠ some (.value (.list l))) ∧
      (notebookCopied.heap.document? ⟨0⟩).map (·.value "drafts") = some (.list ⟨1⟩) ∧
      (notebookCopied.heap.document? ⟨2⟩).map (·.value "drafts") = some (.list ⟨1⟩) ∧
      notebookCopied.heap.items ⟨1⟩ = [] ∧
      ((Operation.push ⟨1⟩ ⟨1⟩).perform notebookCopied).heap.items ⟨1⟩ = [⟨1⟩] := by
  refine ⟨notebookRun_reachable, fun f hf l => ?_, rfl, rfl, rfl, rfl⟩
  simp only [notebookFields, List.mem_cons, List.not_mem_nil, or_false] at hf
  rcases hf with rfl | rfl <;> simp

end DocumentModel
