/-
Runs of a program.

`Operation` lists what a program can do to documents, lists and stores, with any arguments that the
language lets it pass: references may be stale or of the wrong type, data and collections are
arbitrary.  `Reachable types` are the states after any operations in any order, those that fail
included.  Types are declared along the way, and a declared default refers to what is there when its
type is declared.
-/
import DocumentModel.Proofs.Agreement
import DocumentModel.Proofs.Store

namespace DocumentModel

/-- Something that a program does. -/
inductive Operation where
  | new (schema : Schema)
  | withValues (schema : Schema) (values : List (String × Value))
  | hydrate (schema : Schema) (data : Json.Object)
  | defaultValue (field : Field)
  | set (r : DocRef) (name : String) (v : Value)
  | clone (r : DocRef)
  | validate (r : DocRef)
  | newList (schema : Schema)
  | push (list : ListRef) (item : DocRef)
  | replaceItems (list : ListRef) (items : List DocRef)
  | removeAt (list : ListRef) (index : Nat)
  | clear (list : ListRef)
  | detach (list : ListRef)
  | newCounter (n : Int64)
  | save (store : Store) (p : Persisted) (now : Instant) (fresh : ObjectId) (took : String)
  | find (store : Store) (filter : Json.Object) (took : String)
  | findOne (store : Store) (id : ObjectId) (took : String)
  | delete (store : Store) (p : Persisted) (took : String)

namespace Operation

/-- The operation is over some given types, and its values are in order. -/
def Over (types : List Schema) : Operation → Prop
  | new schema => schema ∈ types
  | withValues schema values => schema ∈ types ∧ ∀ e ∈ values, e.2.Proper
  | hydrate schema _ => schema ∈ types
  | defaultValue field => field.Over types
  | set _ _ v => v.Proper
  | newList schema => schema ∈ types
  | save store _ _ _ _ => store.schema ∈ types
  | find store _ _ => store.schema ∈ types
  | findOne store _ _ => store.schema ∈ types
  | delete store _ _ => store.schema ∈ types
  | _ => True

/-- The state after the operation. -/
def perform (s : Session) : Operation → Session
  | new schema => { s with heap := (schema.instantiate s.heap).2 }
  | withValues schema values => { s with heap := (schema.withValues values s.heap).2 }
  | hydrate schema data => { s with heap := (schema.hydrate data s.heap).2 }
  | defaultValue field => { s with heap := (field.defaultValue s.heap).2 }
  | set r name v => { s with heap := (s.heap.set r name v).2 }
  | clone r => { s with heap := (s.heap.clone r).2 }
  | validate r => (s.validate r).2
  | newList schema => { s with heap := (s.heap.addList ⟨schema, []⟩).2 }
  | push list item => { s with heap := (s.heap.push list item).2 }
  | replaceItems list items => { s with heap := (s.heap.replaceItems list items).2 }
  | removeAt list index => { s with heap := (s.heap.removeAt list index).2 }
  | clear list => { s with heap := s.heap.clear list }
  | detach list => { s with heap := (s.heap.detach list).2 }
  | newCounter n => { s with heap := (s.heap.addCounter n).2 }
  | save store p now fresh took => (store.save p now fresh took s).session
  | find store filter took => (store.find filter took s).2
  | findOne store id took => (store.findOne id took s).2
  | delete store p took => (store.delete p took s).2.2

end Operation

/-- The states of a program, and the types that it has declared so far, latest first. -/
inductive Reachable : List Schema → Session → Prop
  | empty : Reachable [] .empty
  | declare {types : List Schema} {s : Session} {new : Schema} (hs : Reachable types s)
      (hnew : Declared (new :: types)) (hwithin : new.Within s.heap) :
      Reachable (new :: types) s
  | perform {types : List Schema} {s : Session} {op : Operation} (hs : Reachable types s)
      (hop : op.Over types) : Reachable types (op.perform s)

open Heap

variable {types : List Schema}

/-- Several operations, one after the other. -/
theorem Reachable.run {s : Session} (hs : Reachable types s) {ops : List Operation}
    (hops : ∀ op ∈ ops, op.Over types) : Reachable types (ops.foldl Operation.perform s) := by
  induction ops generalizing s with
  | nil => exact hs
  | cons op rest ih =>
      obtain ⟨hop, hrest⟩ := List.forall_mem_cons.mp hops
      exact ih (hs.perform hop) hrest

theorem Field.defaultValue_changes (hdecl : Declared types) {n m : Nat} {h : Heap}
    (hready : h.Ready types n m) {f : Field} (hover : f.Over types) :
    Changes types n m h (f.defaultValue h).2 := by
  rw [Field.defaultValue]
  cases hdefault : f.default? with
  | none => exact (hready.sound.impliedDefault hdecl hover).1
  | some d => exact (Default.produce_runs hdecl hready d (hover.default d hdefault)).1

/-- Every operation is a run of elementary changes. -/
theorem Operation.perform_changes (hdecl : Declared types) {s : Session}
    (hsound : s.heap.Sound types) {op : Operation} (hop : op.Over types) :
    Changes types 0 0 s.heap (op.perform s).heap := by
  have hready := hsound.ready_zero
  cases op with
  | new schema => exact (Schema.instantiate_runs hdecl hready schema hop).1
  | withValues schema values => exact (Schema.withValues_runs hdecl hready hop.1 hop.2).1
  | hydrate schema data => exact (Schema.hydrate_runs hdecl hready data schema hop).1
  | defaultValue field => exact field.defaultValue_changes hdecl hready hop
  | set r name v => exact hready.set_changes hdecl (Nat.zero_le _) name hop
  | clone r => exact hready.clone_changes hdecl r
  | validate r => exact (s.validate_marked r).changes types
  | newList schema => exact .single (.newList hop (by simp))
  | push list item => exact hsound.push_changes (Nat.zero_le _) item
  | replaceItems list items => exact replaceItems_changes (Nat.zero_le _) items
  | removeAt list index => exact hsound.removeAt_changes (Nat.zero_le _) index
  | clear list => exact clear_changes (Nat.zero_le _)
  | detach list => exact hsound.detach_changes 0 0 list
  | newCounter n => exact .single (.counters s.heap _)
  | save store p now fresh took => exact store.save_changes hdecl hsound p now fresh took
  | find store filter took => exact Store.find_changes hdecl hready hop filter took
  | findOne store id took => exact Store.findOne_changes hdecl hready hop id took
  | delete store p took =>
      change Changes types 0 0 s.heap (store.delete p took s).2.2.heap
      rw [store.heap_delete]
      exact .refl s.heap

namespace Reachable

theorem declared {s : Session} (hs : Reachable types s) : Declared types := by
  induction hs with
  | empty => exact .nil
  | declare _ hnew _ _ => exact hnew
  | perform _ _ ih => exact ih

/-- No matter what a program does, documents and lists are as their types have them. -/
theorem sound {s : Session} (hs : Reachable types s) : s.heap.Sound types := by
  induction hs with
  | empty => exact ⟨by simp [Session.empty, Heap.empty, document?],
      by simp [Session.empty, Heap.empty, document?], by simp [Session.empty, Heap.empty, list?],
      by simp [Session.empty, Heap.empty, list?]⟩
  | @declare types s new _ _ _ ih => exact ih.mono (List.subset_cons_self new types)
  | perform hbefore hop ih =>
      exact (Operation.perform_changes hbefore.declared ih hop).sound hbefore.declared ih

/-- No matter what a program does, no list is owned twice. -/
theorem ownersUnique {s : Session} (hs : Reachable types s) : s.heap.OwnersUnique := by
  induction hs with
  | empty =>
      rintro r r' name name' l ⟨d, hd, _⟩
      simp [Session.empty, Heap.empty, document?] at hd
  | declare _ _ _ ih => exact ih
  | perform hbefore hop ih =>
      have hdecl := hbefore.declared
      have hsound := hbefore.sound
      exact (Operation.perform_changes hdecl hsound hop).ownersUnique hdecl hsound ih

/-- What declared defaults refer to stays there. -/
theorem within {s : Session} (hs : Reachable types s) : ∀ t ∈ types, t.Within s.heap := by
  induction hs with
  | empty => simp
  | declare _ _ hwithin ih => exact List.forall_mem_cons.mpr ⟨hwithin, ih⟩
  | perform hbefore hop ih =>
      have hchanges := Operation.perform_changes hbefore.declared hbefore.sound hop
      exact fun t ht => (ih t ht).mono hchanges.grows

/-- Types whose defaults refer to nothing can be declared at the start. -/
theorem of_declared (hdecl : Declared types) (hwithin : ∀ t ∈ types, t.Within Heap.empty) :
    Reachable types .empty := by
  induction hdecl using Declared.induct with
  | nil => exact .empty
  | cons _ later _ ih =>
      obtain ⟨hnew, hold⟩ := List.forall_mem_cons.mp hwithin
      exact (ih hold).declare later hnew

theorem of_no_default (hdecl : Declared types)
    (hnone : ∀ t ∈ types, ∀ f ∈ t.fields, f.default? = none) : Reachable types .empty :=
  .of_declared hdecl fun t ht f hf d hd => by
    rw [hnone t ht f hf] at hd
    cases hd

/-- A type of plain fields without defaults can be declared at the start. -/
theorem of_plain {id : Nat} {name : String} {fields : List Field}
    (hplain : ∀ f ∈ fields, f.kind.schema? = none ∧ f.default? = none) :
    Reachable [.document id name fields] .empty := by
  refine .of_no_default (.document .nil (by simp) fun f hf => ?_) fun t ht f hf => ?_
  · exact .plain (hplain f hf).1 (hplain f hf).2
  · obtain rfl := List.mem_singleton.mp ht
    rcases Schema.mem_addFields hf with hfield | hnone
    · exact (hplain f hfield).2
    · cases hnone

end Reachable

end DocumentModel
