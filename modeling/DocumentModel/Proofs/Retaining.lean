/-
What fields retain.

A field of a document is changed by assigning it and by saving the document, if the time of the save
goes into it.  Whatever else a program does, the document keeps its type and the field holds what it
held.
-/
import DocumentModel.Proofs.Cloning

namespace DocumentModel

namespace Heap

variable {types : List Schema} {h later final : Heap} {r : DocRef} {name : String}

/-- If there is such a document, it keeps its type, and one of its fields what it holds. -/
def Retains (h : Heap) (r : DocRef) (name : String) (later : Heap) : Prop :=
  ∀ d, h.document? r = some d →
    ∃ d', later.document? r = some d' ∧ d'.schema = d.schema ∧ d'.value name = d.value name

theorem Retains.of_document? (hsame : later.document? r = h.document? r) :
    h.Retains r name later :=
  fun d hd => ⟨d, hsame.trans hd, rfl, rfl⟩

theorem Retains.of_documents (hsame : later.documents = h.documents) : h.Retains r name later :=
  .of_document? (by rw [document?, document?, hsame])

theorem Retains.refl (h : Heap) (r : DocRef) (name : String) : h.Retains r name h :=
  .of_document? rfl

theorem Retains.trans (hlater : h.Retains r name later) (hfinal : later.Retains r name final) :
    h.Retains r name final := by
  intro d hd
  obtain ⟨d', hd', hschema, hvalue⟩ := hlater d hd
  obtain ⟨d'', hd'', hschema', hvalue'⟩ := hfinal d' hd'
  exact ⟨d'', hd'', hschema'.trans hschema, hvalue'.trans hvalue⟩

theorem Keeps.retains {m : Nat} (hkeeps : h.Keeps h.documents.length m later) :
    h.Retains r name later :=
  fun d hd => ⟨d, hkeeps.document (document?_lt hd) hd, rfl, rfl⟩

theorem Marked.retains (hmarked : Marked h later) : h.Retains r name later := by
  intro d hd
  obtain ⟨e, he⟩ := hmarked.document? hd
  exact ⟨_, he, rfl, rfl⟩

/-- An assignment changes one field of one document. -/
theorem set_retains (h : Heap) {r' : DocRef} {name' : String} (hother : r' = r → name' ≠ name)
    (v : Value) : h.Retains r name (h.set r' name' v).2 := by
  rw [set]
  split
  · exact .refl h r name
  · next d hd =>
      split
      · next f slot hfield hslot =>
          have hdocuments := h.documents_assign f (if slot.shared then .null else slot.value) v
          dsimp only
          generalize h.assign f (if slot.shared then .null else slot.value) v = assigned
            at hdocuments ⊢
          obtain ⟨a, mid⟩ := assigned
          have hmid : ∀ s, mid.document? s = h.document? s := fun s => by
            rw [document?, document?, hdocuments]
          by_cases hr : r' = r
          · subst hr
            intro e he
            obtain rfl := Option.some.inj (hd.symm.trans he)
            refine ⟨_, document?_putDocument_self mid _ (by rw [hmid, hd]; rfl), rfl, ?_⟩
            have hname : (a.apply slot).name ≠ name := by
              rw [Assignment.name_apply, (Document.mem_of_slot? hslot).2]
              exact hother rfl
            rw [Document.value, Document.value?, Document.slot?_putSlot_of_ne d _ hname]
            rfl
          · exact .of_document? ((document?_putDocument_of_ne mid _ hr).trans (hmid r))
      · exact .refl h r name

/-- A copy of a document holds the same in every field that holds no list. -/
theorem clone_value {d : Document} (hdecl : Declared types) (hsound : h.Sound types)
    (hd : h.document? r = some d) :
    ∃ c, (h.clone r).2.document? (h.clone r).1 = some c ∧ c.schema = d.schema ∧
      h.document? (h.clone r).1 = none ∧ ∀ f ∈ d.schema.fields,
        (∀ l, d.value f.name ≠ .list l) → c.value f.name = d.value f.name := by
  obtain ⟨c, hc, hschema, hnew, _, _, hcopies⟩ := clone_copyOf hd
  refine ⟨c, hc, hschema, hnew, fun f hf hplain => ?_⟩
  obtain ⟨slot, hslot, _⟩ := hsound.slot_of_field hdecl hd hf
  obtain ⟨slot', hslot', hcopy⟩ := CopyOf.slot? hcopies hslot
  rw [Document.value_of_slot? hslot] at hplain ⊢
  rw [Document.value_of_slot? hslot']
  exact hcopy.same (Or.inr hplain)

end Heap

open Heap

variable {types : List Schema} {s : Session} {r : DocRef} {name : String}

namespace Store

theorem foldl_stamp_retains {p : DocRef} {names : List String} (hother : p = r → name ∉ names)
    (now : Instant) (h : Heap) :
    h.Retains r name (names.foldl (fun h field => stamp h p field now) h) := by
  induction names generalizing h with
  | nil => exact .refl h r name
  | cons field rest ih =>
      have hfirst : p = r → field ≠ name := fun hp heq => hother hp (heq ▸ List.mem_cons_self)
      have hrest : p = r → name ∉ rest := fun hp hmem => hother hp (List.mem_cons_of_mem field hmem)
      exact (h.set_retains hfirst (.instant now)).trans (ih hrest _)

/-- A save changes the fields of the document that the time goes into. -/
theorem save_retains (store : Store) (p : Persisted) (now : Instant) (fresh : ObjectId)
    (took : String) (hother : p.document = r → name ∉ store.timeFields p.isNew) :
    s.heap.Retains r name (store.save p now fresh took s).session.heap := by
  have hmarked := s.validate_marked p.document
  rcases store.save_cases p now fresh took s with
    ⟨_, _, heq⟩ | ⟨_, later, hlater, heq⟩ | ⟨_, _, heq⟩
  · rw [heq]
    exact .refl s.heap r name
  · rw [heq]
    exact hlater ▸ hmarked.retains
  · rw [heq, heap_write]
    exact hmarked.retains.trans (foldl_stamp_retains hother now _)

end Store

/-- The operation assigns a field of a document, or saves the document and puts the time into it. -/
def Operation.Assigns (r : DocRef) (name : String) : Operation → Prop
  | .set r' name' _ => r' = r ∧ name' = name
  | .save store p _ _ _ => p.document = r ∧ name ∈ store.timeFields p.isNew
  | _ => False

/-- A field that an operation does not assign holds what it held. -/
theorem Operation.perform_retains (hdecl : Declared types) (hsound : s.heap.Sound types)
    {op : Operation} (hop : op.Over types) (hother : ¬ op.Assigns r name) :
    s.heap.Retains r name (op.perform s).heap := by
  have hready := hsound.ready
  cases op with
  | new schema => exact (Schema.instantiate_runs hdecl hready schema hop).1.keeps.retains
  | withValues schema values =>
      exact (Schema.withValues_runs hdecl hready hop.1 hop.2).1.keeps.retains
  | hydrate schema data => exact (Schema.hydrate_runs hdecl hready data schema hop).1.keeps.retains
  | defaultValue field => exact (field.defaultValue_changes hdecl hready hop).keeps.retains
  | set r' name' v => exact s.heap.set_retains (fun hr hname => hother ⟨hr, hname⟩) v
  | clone r' => exact (hready.clone_changes hdecl r').keeps.retains
  | validate r' => exact (s.validate_marked r').retains
  | newList schema => exact .of_documents rfl
  | push list item => exact (hsound.push_changes (Nat.zero_le _) item).keeps.retains
  | replaceItems list items =>
      have hchanges : Changes types s.heap.documents.length 0 s.heap
          (s.heap.replaceItems list items).2 := replaceItems_changes (Nat.zero_le _) items
      exact hchanges.keeps.retains
  | removeAt list index => exact (hsound.removeAt_changes (Nat.zero_le _) index).keeps.retains
  | clear list =>
      have hchanges : Changes types s.heap.documents.length 0 s.heap (s.heap.clear list) :=
        clear_changes (Nat.zero_le _)
      exact hchanges.keeps.retains
  | detach list => exact (hsound.detach_changes _ 0 list).keeps.retains
  | newCounter n => exact .of_documents rfl
  | save store p now fresh took =>
      exact store.save_retains p now fresh took fun hp hname => hother ⟨hp, hname⟩
  | find store filter took => exact (Store.find_changes hdecl hready hop filter took).keeps.retains
  | findOne store id took => exact (Store.findOne_changes hdecl hready hop id took).keeps.retains
  | delete store p took =>
      change s.heap.Retains r name (store.delete p took s).2.2.heap
      rw [store.heap_delete]
      exact .refl s.heap r name

end DocumentModel
