/-
Lists behind handles.

A program has its typed lists in hand.  A copy of a handle stands for the same sequence; detaching
makes a handle to a sequence of its own with the same documents.  A `HandleTable` numbers the
handles of a program, and a run is any calls through them.

Everything a call does is one of four things (`HandleTable.Does`): nothing, another handle to a
sequence, a new sequence, or new contents for the sequence behind the handle that is called.  What
holds in every state of a run is read off these four.
-/
import DocumentModel.Proofs.Defaults
import DocumentModel.Proofs.ListAssignment

namespace DocumentModel

/-- The handles of a program, by number, and the heap with the sequences they stand for. -/
structure HandleTable where
  heap : Heap
  handles : List ListRef

/-- A call through the handle of a number.  The handles that calls make come last. -/
inductive ListCall where
  | create (schema : Schema)
  | copy (i : Nat)
  | detach (i : Nat)
  | push (i : Nat) (item : DocRef)
  | replaceItems (i : Nat) (items : List DocRef)
  | removeAt (i index : Nat)
  | clear (i : Nat)
  | get (i index : Nat)

/-- What a call gives back. -/
inductive ListAnswer where
  | done
  | refused (e : SchemaError)
  | item (found : Option DocRef)
  | noHandle

def ListAnswer.ofResult : Except SchemaError Unit → ListAnswer
  | .ok () => .done
  | .error e => .refused e

namespace ListCall

/-- Lists are created for declared types. -/
def Over (types : List Schema) : ListCall → Prop
  | create schema => schema ∈ types
  | _ => True

/-- The handle through which a call can change a sequence. -/
def writes? : ListCall → Option Nat
  | push i _ => some i
  | replaceItems i _ => some i
  | removeAt i _ => some i
  | clear i => some i
  | _ => none

/-- A call offers documents to the list `c` behind a handle, which holds the last argument if it
takes them. -/
inductive Offers (i : Nat) (c : DocumentList) : ListCall → List DocRef → List DocRef → Prop
  | push (item : DocRef) : Offers i c (.push i item) [item] (c.items ++ [item])
  | replaceItems (items : List DocRef) : Offers i c (.replaceItems i items) items items

end ListCall

namespace HandleTable

/-- Call the sequence behind a handle. -/
def through (t : HandleTable) (i : Nat) (call : ListRef → ListAnswer × HandleTable) :
    ListAnswer × HandleTable :=
  match t.handles[i]? with
  | some l => call l
  | none => (.noHandle, t)

/-- The answer to a call, and the table after it. -/
def perform (t : HandleTable) : ListCall → ListAnswer × HandleTable
  | .create schema =>
      let (l, h) := t.heap.addList ⟨schema, []⟩
      (.done, ⟨h, t.handles ++ [l]⟩)
  | .copy i => t.through i fun l => (.done, ⟨t.heap, t.handles ++ [l]⟩)
  | .detach i => t.through i fun l =>
      let (own, h) := t.heap.detach l
      (.done, ⟨h, t.handles ++ [own]⟩)
  | .push i item => t.through i fun l =>
      let (result, h) := t.heap.push l item
      (.ofResult result, ⟨h, t.handles⟩)
  | .replaceItems i items => t.through i fun l =>
      let (result, h) := t.heap.replaceItems l items
      (.ofResult result, ⟨h, t.handles⟩)
  | .removeAt i index => t.through i fun l =>
      let (found, h) := t.heap.removeAt l index
      (.item found, ⟨h, t.handles⟩)
  | .clear i => t.through i fun l => (.done, ⟨t.heap.clear l, t.handles⟩)
  | .get i index => t.through i fun l => (.item (t.heap.items l)[index]?, t)

/-- The table after several calls. -/
def after (t : HandleTable) (calls : List ListCall) : HandleTable :=
  calls.foldl (fun t call => (t.perform call).2) t

/-! ### The specification -/

/-- The list that is seen through a handle. -/
def shows (t : HandleTable) (i : Nat) : Option DocumentList :=
  t.handles[i]?.bind t.heap.list?

/-- Two handles stand for one sequence. -/
def Linked (t : HandleTable) (i j : Nat) : Prop :=
  ∃ l, t.handles[i]? = some l ∧ t.handles[j]? = some l

/-- No call of a run can change the sequence behind a handle, whichever handles the run makes. -/
def Apart (i : Nat) : HandleTable → List ListCall → Prop
  | _, [] => True
  | t, call :: rest =>
      (∀ j, call.writes? = some j → ¬ t.Linked i j) ∧ Apart i (t.perform call).2 rest

/-- Only the sequence behind a handle is another one: all handles that are linked show `c`, and
there is no other change. -/
structure Refills (t : HandleTable) (i : Nat) (c : DocumentList) (later : HandleTable) : Prop where
  handles : later.handles = t.handles
  documents : later.heap.documents = t.heap.documents
  counters : later.heap.counters = t.heap.counters
  linked : ∀ {j}, t.Linked i j → later.shows j = some c
  unlinked : ∀ {j}, ¬ t.Linked i j → later.shows j = t.shows j
  others : ∀ {l}, t.handles[i]? ≠ some l → later.heap.list? l = t.heap.list? l

/-- The list `c` behind a handle takes documents that are offered, or refuses them all. -/
structure Takes (t : HandleTable) (i : Nat) (c : DocumentList) (call : ListCall)
    (offered items : List DocRef) : Prop where
  refused_iff : (∃ e, (t.perform call).1 = .refused e) ↔
    ∃ item ∈ offered, t.heap.documentIsA item c.schema = false
  refused : ∀ {e}, (t.perform call).1 = .refused e →
    (t.perform call).2 = t ∧ ∃ item ∈ offered, t.heap.documentIsA item c.schema = false ∧
      e = .typeMismatch c.schema.name (t.heap.documentType item)
  done : (∀ item ∈ offered, t.heap.documentIsA item c.schema = true) →
    (t.perform call).1 = .done ∧ t.Refills i ⟨c.schema, items⟩ (t.perform call).2

/-- What the calls through a handle do if `c` is the list behind it. -/
structure Obeys (t : HandleTable) (i : Nat) (c : DocumentList) : Prop where
  takes : ∀ {call offered items}, call.Offers i c offered items → t.Takes i c call offered items
  clear : (t.perform (.clear i)).1 = .done ∧ t.Refills i ⟨c.schema, []⟩ (t.perform (.clear i)).2
  get : ∀ index, t.perform (.get i index) = (.item c.items[index]?, t)
  /-- The document at an index comes out, and those before and after it stay in order. -/
  removed : ∀ before item rest, c.items = before ++ item :: rest →
    (t.perform (.removeAt i before.length)).1 = .item (some item) ∧
      t.Refills i ⟨c.schema, before ++ rest⟩ (t.perform (.removeAt i before.length)).2
  outOfRange : ∀ {index}, c.items.length ≤ index →
    t.perform (.removeAt i index) = (.item none, t)
  /-- A copy is linked with what its original is linked with. -/
  copy : (t.perform (.copy i)).2.heap = t.heap ∧
    ∀ {j}, j < t.handles.length →
      ((t.perform (.copy i)).2.Linked j t.handles.length ↔ t.Linked j i)
  /-- A detached list shows the same at first and is linked with no handle there is. -/
  detach : (t.perform (.detach i)).2.shows t.handles.length = some c ∧
    (∀ {j}, j < t.handles.length → ¬ (t.perform (.detach i)).2.Linked j t.handles.length) ∧
    (∀ {l d}, t.heap.list? l = some d → (t.perform (.detach i)).2.heap.list? l = some d) ∧
    (t.perform (.detach i)).2.heap.documents = t.heap.documents

/-- What holds of all lists, and of all handles in a table. -/
structure Lawful (types : List Schema) (t : HandleTable) : Prop where
  items : ∀ {l c}, t.heap.list? l = some c → ∀ item ∈ c.items,
    ∃ d, t.heap.document? item = some d ∧ d.schema.isA c.schema = true
  obeys : ∀ {i}, i < t.handles.length → ∃ c, t.shows i = some c ∧ t.Obeys i c
  /-- Handles are linked for good, or never. -/
  links : ∀ {calls}, (∀ call ∈ calls, call.Over types) → ∀ {i j}, i < t.handles.length →
    j < t.handles.length → ((t.after calls).Linked i j ↔ t.Linked i j)
  /-- Nothing is seen of what is done through handles that are not linked. -/
  apart : ∀ {calls}, (∀ call ∈ calls, call.Over types) → ∀ {i}, i < t.handles.length →
    Apart i t calls → (t.after calls).shows i = t.shows i

/-! ### What a call does -/

section Call

variable {types : List Schema} {t later : HandleTable} {call : ListCall} {i j : Nat} {l : ListRef}
  {c : DocumentList} {offered items : List DocRef}

theorem through_eq (hl : t.handles[i]? = some l) (f : ListRef → ListAnswer × HandleTable) :
    t.through i f = f l := by
  rw [through, hl]

theorem shows_eq (hl : t.handles[i]? = some l) : t.shows i = t.heap.list? l := by
  rw [shows, hl, Option.bind_some]

/-- Both calls that offer documents check them all before they touch the sequence. -/
theorem perform_offers (hl : t.handles[i]? = some l) (hc : t.heap.list? l = some c)
    (hoffers : call.Offers i c offered items) :
    t.perform call = match t.heap.checkTypes c.schema offered with
      | .ok () => (.done, ⟨t.heap.putList l ⟨c.schema, items⟩, t.handles⟩)
      | .error e => (.refused e, t) := by
  cases hoffers with
  | push item =>
      simp only [perform, through_eq hl, Heap.push, hc]
      cases t.heap.checkTypes c.schema [item] <;> rfl
  | replaceItems =>
      simp only [perform, through_eq hl, Heap.replaceItems, hc]
      cases t.heap.checkTypes c.schema offered <;> rfl

theorem perform_removeAt (hl : t.handles[i]? = some l) (hc : t.heap.list? l = some c)
    (index : Nat) :
    t.perform (.removeAt i index) = (.item c.items[index]?,
      ⟨t.heap.putList l ⟨c.schema, c.items.eraseIdx index⟩, t.handles⟩) := by
  simp only [perform, through_eq hl, Heap.removeAt, hc]

theorem perform_clear (hl : t.handles[i]? = some l) (hc : t.heap.list? l = some c) :
    t.perform (.clear i) = (.done, ⟨t.heap.putList l ⟨c.schema, []⟩, t.handles⟩) := by
  simp only [perform, through_eq hl, Heap.clear, hc]

theorem perform_detach (hl : t.handles[i]? = some l) (hc : t.heap.list? l = some c) :
    t.perform (.detach i) =
      (.done, ⟨(t.heap.addList c).2, t.handles ++ [(t.heap.addList c).1]⟩) := by
  simp only [perform, through_eq hl, Heap.detach, hc]

/-- The heap is sound, and every handle stands for a sequence. -/
structure Sound (types : List Schema) (t : HandleTable) : Prop where
  heap : t.heap.Sound types
  handles : ∀ l ∈ t.handles, (t.heap.list? l).isSome = true

theorem Sound.list_of_handle (ht : t.Sound types) (hl : t.handles[i]? = some l) :
    ∃ c, t.heap.list? l = some c :=
  Option.isSome_iff_exists.mp (ht.handles l (List.mem_of_getElem? hl))

/-- All that a call can do to a table. -/
inductive Does (types : List Schema) (t : HandleTable) (call : ListCall) : HandleTable → Prop
  | nothing : Does types t call t
  | copies {l : ListRef} (hl : l ∈ t.handles) : Does types t call ⟨t.heap, t.handles ++ [l]⟩
  | makes {c : DocumentList} (hschema : c.schema ∈ types)
      (hitems : ∀ item ∈ c.items, t.heap.documentIsA item c.schema = true) :
      Does types t call ⟨(t.heap.addList c).2, t.handles ++ [(t.heap.addList c).1]⟩
  | refills {i : Nat} {l : ListRef} {c : DocumentList} {items : List DocRef}
      (hi : call.writes? = some i) (hl : t.handles[i]? = some l) (hc : t.heap.list? l = some c)
      (hitems : ∀ item ∈ items, t.heap.documentIsA item c.schema = true) :
      Does types t call ⟨t.heap.putList l ⟨c.schema, items⟩, t.handles⟩

/-- A call through a number without a handle does nothing. -/
theorem Sound.through_does (ht : t.Sound types) {f : ListRef → ListAnswer × HandleTable}
    (hf : ∀ l c, t.handles[i]? = some l → t.heap.list? l = some c → Does types t call (f l).2) :
    Does types t call (t.through i f).2 := by
  rw [through]
  split
  · next l hl =>
      obtain ⟨c, hc⟩ := ht.list_of_handle hl
      exact hf l c hl hc
  · exact .nothing

theorem Sound.perform_does (ht : t.Sound types) (hcall : call.Over types) :
    Does types t call (t.perform call).2 := by
  cases call with
  | create schema => exact .makes hcall (by simp)
  | copy i => exact ht.through_does fun l _ hl _ => .copies (List.mem_of_getElem? hl)
  | detach i =>
      refine ht.through_does fun l c hl hc => ?_
      simp only [Heap.detach, hc]
      exact .makes (ht.heap.listSchema hc) (ht.heap.items hc)
  | push i item =>
      refine ht.through_does fun l c hl hc => ?_
      simp only [Heap.push, hc]
      cases hcheck : t.heap.checkTypes c.schema [item] with
      | error e => exact .nothing
      | ok =>
          refine .refills rfl hl hc fun found hfound => ?_
          rcases List.mem_append.mp hfound with hold | hnew
          · exact ht.heap.items hc found hold
          · exact Heap.checkTypes_eq_ok_iff.mp hcheck found hnew
  | replaceItems i items =>
      refine ht.through_does fun l c hl hc => ?_
      simp only [Heap.replaceItems, hc]
      cases hcheck : t.heap.checkTypes c.schema items with
      | error e => exact .nothing
      | ok => exact .refills rfl hl hc (Heap.checkTypes_eq_ok_iff.mp hcheck)
  | removeAt i index =>
      refine ht.through_does fun l c hl hc => ?_
      simp only [Heap.removeAt, hc]
      exact .refills rfl hl hc fun item hitem =>
        ht.heap.items hc item (List.mem_of_mem_eraseIdx hitem)
  | clear i =>
      refine ht.through_does fun l c hl hc => ?_
      simp only [Heap.clear, hc]
      exact .refills rfl hl hc (by simp)
  | get i index => exact ht.through_does fun _ _ _ _ => .nothing

/-! ### What every call keeps -/

namespace Does

theorem changes (hdoes : Does types t call later) :
    Heap.Changes types 0 0 t.heap later.heap := by
  cases hdoes with
  | nothing => exact .refl t.heap
  | copies => exact .refl t.heap
  | makes hschema hitems => exact .single (.newList hschema hitems)
  | refills _ _ hc hitems => exact .single (.fill (Nat.zero_le _) hc hitems)

/-- Handles keep their numbers. -/
theorem handles (hdoes : Does types t call later) : t.handles <+: later.handles := by
  cases hdoes with
  | nothing => exact List.prefix_rfl
  | copies => exact List.prefix_append _ _
  | makes => exact List.prefix_append _ _
  | refills => exact List.prefix_rfl

theorem sound (hdoes : Does types t call later) (hdecl : Declared types) (ht : t.Sound types) :
    later.Sound types where
  heap := hdoes.changes.sound hdecl ht.heap
  handles l hl := by
    have hold : l ∈ t.handles → (later.heap.list? l).isSome = true := fun hmem => by
      obtain ⟨c, hc⟩ := Option.isSome_iff_exists.mp (ht.handles l hmem)
      obtain ⟨c', hc', _⟩ := hdoes.changes.grows.list hc
      exact Option.isSome_iff_exists.mpr ⟨c', hc'⟩
    cases hdoes with
    | nothing => exact hold hl
    | copies hcopied =>
        rcases List.mem_append.mp hl with hmem | hnew
        · exact hold hmem
        · exact hold (List.mem_singleton.mp hnew ▸ hcopied)
    | @makes c _ _ =>
        rcases List.mem_append.mp hl with hmem | hnew
        · exact hold hmem
        · rw [List.mem_singleton.mp hnew, Heap.list?_addList_self]
          rfl
    | refills => exact hold hl

/-- A handle shows what it did unless the call is through one that is linked with it. -/
theorem shows (hdoes : Does types t call later) (ht : t.Sound types) (hi : i < t.handles.length)
    (hcall : ∀ j, call.writes? = some j → ¬ t.Linked i j) : later.shows i = t.shows i := by
  obtain ⟨l, hl⟩ : ∃ l, t.handles[i]? = some l := ⟨_, List.getElem?_eq_getElem hi⟩
  have hl' : later.handles[i]? = some l := by
    obtain ⟨new, hnew⟩ := hdoes.handles
    rw [← hnew, List.getElem?_append_left hi, hl]
  rw [shows_eq hl, shows_eq hl']
  cases hdoes with
  | nothing => rfl
  | copies => rfl
  | makes => exact Heap.list?_addList_of_isSome _ _ (ht.handles l (List.mem_of_getElem? hl))
  | @refills j l' _ _ hj hlj _ _ =>
      refine Heap.list?_putList_of_ne _ _ fun heq => hcall j hj ⟨l, hl, ?_⟩
      rw [hlj, heq]

end Does

theorem linked_iff_of_prefix (hhandles : t.handles <+: later.handles) (hi : i < t.handles.length)
    (hj : j < t.handles.length) : later.Linked i j ↔ t.Linked i j := by
  obtain ⟨new, hnew⟩ := hhandles
  rw [Linked, Linked, ← hnew, List.getElem?_append_left hi, List.getElem?_append_left hj]

/-! ### Runs -/

variable {calls : List ListCall}

theorem Sound.after (ht : t.Sound types) (hdecl : Declared types)
    (hcalls : ∀ call ∈ calls, call.Over types) :
    (t.after calls).Sound types ∧ t.handles <+: (t.after calls).handles := by
  induction calls generalizing t with
  | nil => exact ⟨ht, List.prefix_rfl⟩
  | cons call rest ih =>
      obtain ⟨hcall, hrest⟩ := List.forall_mem_cons.mp hcalls
      have hdoes := ht.perform_does hcall
      obtain ⟨hsound, hhandles⟩ := ih (hdoes.sound hdecl ht) hrest
      exact ⟨hsound, hdoes.handles.trans hhandles⟩

/-- What is done through handles that are not linked is not seen, at any time. -/
theorem Sound.shows_after (ht : t.Sound types) (hdecl : Declared types)
    (hcalls : ∀ call ∈ calls, call.Over types) (hi : i < t.handles.length)
    (hapart : Apart i t calls) : (t.after calls).shows i = t.shows i := by
  induction calls generalizing t with
  | nil => rfl
  | cons call rest ih =>
      obtain ⟨hcall, hrest⟩ := List.forall_mem_cons.mp hcalls
      obtain ⟨hunlinked, hapart⟩ := hapart
      have hdoes := ht.perform_does hcall
      have hlater := ih (hdoes.sound hdecl ht) hrest
        (Nat.lt_of_lt_of_le hi hdoes.handles.length_le) hapart
      exact hlater.trans (hdoes.shows ht hi hunlinked)

/-! ### The calls through one handle -/

theorem refills_putList (hl : t.handles[i]? = some l) (hc : t.heap.list? l = some c)
    (items : List DocRef) :
    t.Refills i ⟨c.schema, items⟩ ⟨t.heap.putList l ⟨c.schema, items⟩, t.handles⟩ where
  handles := rfl
  documents := rfl
  counters := rfl
  linked := by
    rintro j ⟨l', hl', hj⟩
    obtain rfl : l = l' := Option.some.inj (hl.symm.trans hl')
    simp only [shows, hj, Option.bind_some]
    exact Heap.list?_putList_self _ _ (by rw [hc]; rfl)
  unlinked := by
    intro j hj
    cases hl' : t.handles[j]? with
    | none => simp only [shows, hl', Option.bind_none]
    | some l' =>
        simp only [shows, hl', Option.bind_some]
        refine Heap.list?_putList_of_ne _ _ fun heq => hj ⟨l, hl, ?_⟩
        rw [hl', heq]
  others := by
    intro l' hl'
    refine Heap.list?_putList_of_ne _ _ fun heq => hl' ?_
    rw [hl, heq]

theorem takes_of_offers (hl : t.handles[i]? = some l) (hc : t.heap.list? l = some c)
    (hoffers : call.Offers i c offered items) : t.Takes i c call offered items := by
  have hperform := perform_offers hl hc hoffers
  by_cases hfits : ∀ item ∈ offered, t.heap.documentIsA item c.schema = true
  · rw [Heap.checkTypes_eq_ok_iff.mpr hfits] at hperform
    refine ⟨⟨?_, ?_⟩, ?_, ?_⟩
    · rintro ⟨e, he⟩
      rw [hperform] at he
      cases he
    · rintro ⟨item, hitem, hmisfit⟩
      rw [hfits item hitem] at hmisfit
      cases hmisfit
    · intro e he
      rw [hperform] at he
      cases he
    · intro _
      rw [hperform]
      exact ⟨rfl, refills_putList hl hc items⟩
  · -- The first document that does not fit is at fault.
    obtain ⟨item, hfind, hcheck⟩ := Heap.checkTypes_eq_error hfits
    have hitem : item ∈ offered := List.mem_of_find?_eq_some hfind
    have hmisfit : t.heap.documentIsA item c.schema = false := by
      simpa using List.find?_some hfind
    rw [hcheck] at hperform
    constructor
    · rw [hperform]
      exact ⟨fun _ => ⟨item, hitem, hmisfit⟩, fun _ => ⟨_, rfl⟩⟩
    · intro e he
      rw [hperform] at he ⊢
      exact ⟨rfl, item, hitem, hmisfit, (ListAnswer.refused.inj he).symm⟩
    · exact fun hall => absurd hall hfits

theorem obeys_of_list (hl : t.handles[i]? = some l) (hc : t.heap.list? l = some c)
    (ht : t.Sound types) : t.Obeys i c where
  takes hoffers := takes_of_offers hl hc hoffers
  clear := by
    rw [perform_clear hl hc]
    exact ⟨rfl, refills_putList hl hc []⟩
  get index := by
    simp only [perform, through_eq hl, Heap.items, hc, Option.map_some, Option.getD_some]
  removed := by
    intro before item rest hitems
    have hrest : c.items.eraseIdx before.length = before ++ rest := by
      rw [hitems, List.eraseIdx_append_of_length_le (Nat.le_refl _), Nat.sub_self,
        List.eraseIdx_cons_zero]
    have hitem : c.items[before.length]? = some item := by
      rw [hitems, List.getElem?_append_right (Nat.le_refl _), Nat.sub_self,
        List.getElem?_cons_zero]
    rw [perform_removeAt hl hc, hrest, hitem]
    exact ⟨rfl, refills_putList hl hc _⟩
  outOfRange := by
    intro index hindex
    rw [perform_removeAt hl hc, List.getElem?_eq_none hindex, List.eraseIdx_of_length_le hindex,
      Heap.putList_self hc]
  copy := by
    simp only [perform, through_eq hl]
    refine ⟨trivial, fun hj => ?_⟩
    rw [Linked, Linked, List.getElem?_append_left hj, List.getElem?_concat_length, hl]
  detach := by
    rw [perform_detach hl hc]
    refine ⟨?_, fun {j} hj => ?_, Heap.list?_addList_old, rfl⟩
    · simp only [shows, List.getElem?_concat_length, Option.bind_some, Heap.list?_addList_self]
    · rintro ⟨l', hold, hnew⟩
      rw [List.getElem?_append_left hj] at hold
      rw [List.getElem?_concat_length] at hnew
      -- The new sequence comes after all that handles stand for.
      obtain ⟨c', hc'⟩ := ht.list_of_handle hold
      have hlt := Heap.list?_lt hc'
      rw [← Option.some.inj hnew] at hlt
      exact absurd hlt (Nat.lt_irrefl _)

theorem Sound.lawful (ht : t.Sound types) (hdecl : Declared types) : t.Lawful types where
  items hc item hitem := Heap.documentIsA_iff.mp (ht.heap.items hc item hitem)
  obeys := by
    intro i hi
    have hl : t.handles[i]? = some t.handles[i] := List.getElem?_eq_getElem hi
    obtain ⟨c, hc⟩ := ht.list_of_handle hl
    exact ⟨c, (shows_eq hl).trans hc, obeys_of_list hl hc ht⟩
  links hcalls _ _ hi hj := linked_iff_of_prefix (ht.after hdecl hcalls).2 hi hj
  apart hcalls _ hi hapart := ht.shows_after hdecl hcalls hi hapart

end Call

/-- From any reachable state, with any handles to its lists, any run of calls leads to a table in
which every list holds documents of its type only and the calls through every handle are as in
`HandleTable.Obeys`.  Documents that are offered to a list are refused exactly if one of them is not
of its type, and then nothing changes.  Otherwise only the sequence of that list changes, for all
handles that are linked with the one that was called and for no other, and handles are linked for
good or never. -/
theorem typed_list_calls {types : List Schema} {s : Session} (hs : Reachable types s)
    {handles : List ListRef} (hhandles : ∀ l ∈ handles, (s.heap.list? l).isSome = true)
    {calls : List ListCall} (hcalls : ∀ call ∈ calls, call.Over types) :
    (after ⟨s.heap, handles⟩ calls).Lawful types := by
  have hstart : Sound types ⟨s.heap, handles⟩ := ⟨hs.sound, hhandles⟩
  exact (hstart.after hs.declared hcalls).1.lawful hs.declared

/-! A playlist of two tracks in two hands, one track of a type that extends the declared one, and a
copy that was detached when there was only the first track. -/

def trackType : Schema :=
  .embedded 0 "Track" []

def liveTrackType : Schema :=
  .extend 1 trackType "LiveTrack" []

def advertType : Schema :=
  .embedded 2 "Advert" []

def playlistTypes : List Schema :=
  [advertType, liveTrackType, trackType]

theorem playlistTypes_declared : Declared playlistTypes :=
  .embedded (.extend (.embedded .nil (by simp) (by simp)) (by decide) (List.mem_singleton_self _)
    (by simp)) (by decide) (by simp)

def playlistStart : Session :=
  [.new trackType, .new liveTrackType, .new advertType, .newList trackType].foldl
    Operation.perform .empty

theorem playlistStart_reachable : Reachable playlistTypes playlistStart := by
  have hdeclared : Reachable playlistTypes .empty := by
    refine .of_declared playlistTypes_declared fun t ht f hf => ?_
    simp only [playlistTypes, List.mem_cons, List.not_mem_nil, or_false] at ht
    rcases ht with rfl | rfl | rfl <;> cases hf
  apply hdeclared.run
  intro op hop
  simp only [List.mem_cons, List.not_mem_nil, or_false] at hop
  rcases hop with rfl | rfl | rfl | rfl <;> simp [Operation.Over, playlistTypes]

def playlists : HandleTable :=
  after ⟨playlistStart.heap, [⟨0⟩]⟩ [.push 0 ⟨0⟩, .copy 0, .detach 1, .push 1 ⟨1⟩]

/-- The detached playlist refuses an advert together with the track before it.  When the first track
is taken out of the playlist, both hands see it go, and the detached playlist does not. -/
theorem typed_list_calls_playlist :
    playlists.shows 1 = some ⟨trackType, [⟨0⟩, ⟨1⟩]⟩ ∧
      playlists.shows 2 = some ⟨trackType, [⟨0⟩]⟩ ∧
      (playlists.perform (.replaceItems 2 [⟨1⟩, ⟨2⟩])).2 = playlists ∧
      (playlists.perform (.removeAt 0 0)).1 = .item (some ⟨0⟩) ∧
      (playlists.perform (.removeAt 0 0)).2.shows 1 = some ⟨trackType, [⟨1⟩]⟩ ∧
      (playlists.perform (.removeAt 0 0)).2.shows 2 = some ⟨trackType, [⟨0⟩]⟩ := by
  have hlawful : playlists.Lawful playlistTypes := by
    refine typed_list_calls playlistStart_reachable ?_ ?_
    · simp only [List.mem_singleton, forall_eq]
      rfl
    · simp [ListCall.Over]
  have htwo : playlists.shows 2 = some ⟨trackType, [⟨0⟩]⟩ := rfl
  obtain ⟨c, hc, hfirst⟩ := hlawful.obeys (i := 0) (by decide)
  obtain rfl : _ = c := Option.some.inj hc
  obtain ⟨d, hd, hdetached⟩ := hlawful.obeys (i := 2) (by decide)
  obtain rfl : _ = d := Option.some.inj hd
  obtain ⟨hremoved, hrefills⟩ := hfirst.removed [] _ _ rfl
  have htakes := hdetached.takes (.replaceItems [⟨1⟩, ⟨2⟩])
  obtain ⟨e, he⟩ := htakes.refused_iff.mpr ⟨⟨2⟩, by simp, by decide⟩
  have hunlinked : ¬ playlists.Linked 0 2 := by
    rintro ⟨l, hfirst, hthird⟩
    cases hfirst
    cases hthird
  exact ⟨rfl, htwo, (htakes.refused he).1, hremoved, hrefills.linked ⟨_, rfl, rfl⟩,
    (hrefills.unlinked hunlinked).trans htwo⟩

end HandleTable

end DocumentModel
