/-
Assignments to different fields.

An assignment that comes to something touches one field of one document: nothing else of the
document changes, no other document does, and no list but the one that the field owns.  If what is
assigned leads neither to the document nor to the lists in the two fields, it makes no difference
which of two fields is assigned first.  Where both get a list of their own, the two lists are made
in the other order, and only their references tell.
-/
import DocumentModel.Proofs.Closure
import DocumentModel.Proofs.Renaming
import DocumentModel.Proofs.Stuck
import Mathlib.Logic.Equiv.Basic

namespace DocumentModel

/-! ### Updates in different places -/

theorem Document.putSlot_comm {s t : Slot} (d : Document) (hne : s.name ≠ t.name) :
    (d.putSlot s).putSlot t = (d.putSlot t).putSlot s := by
  have hswap : ∀ slot : Slot,
      (if (if slot.name = s.name then s else slot).name = t.name then t
        else if slot.name = s.name then s else slot) =
      if (if slot.name = t.name then t else slot).name = s.name then s
        else if slot.name = t.name then t else slot := by
    intro slot
    by_cases hs : slot.name = s.name
    · have ht : slot.name ≠ t.name := fun heq => hne (hs.symm.trans heq)
      simp [hs, hne]
    · by_cases ht : slot.name = t.name
      · simp [ht, Ne.symm hne]
      · simp [hs, ht]
  simp only [putSlot, List.map_map]
  congr 1
  exact List.map_congr_left fun slot _ => hswap slot

namespace Heap

variable {types : List Schema} {h later : Heap} {r : DocRef} {d : Document} {s t : Slot}

theorem document?_putSlot_of_ne (h : Heap) (slot : Slot) {q : DocRef} (hne : r ≠ q) :
    (h.putSlot r slot).document? q = h.document? q := by
  rw [putSlot]
  split
  · rfl
  · exact document?_putDocument_of_ne h _ hne

theorem documents_length_putSlot (h : Heap) (r : DocRef) (slot : Slot) :
    (h.putSlot r slot).documents.length = h.documents.length := by
  rw [putSlot]
  split
  · rfl
  · exact List.length_set

theorem putSlot_comm (h : Heap) (r : DocRef) (hne : s.name ≠ t.name) :
    (h.putSlot r s).putSlot r t = (h.putSlot r t).putSlot r s := by
  cases hd : h.document? r with
  | none => simp only [putSlot, hd]
  | some d =>
      have hput : ∀ d', (h.putDocument r d').document? r = some d' := fun d' =>
        document?_putDocument_self h d' (Option.isSome_of_mem hd)
      rw [putSlot_eq hd, putSlot_eq hd, putSlot_eq (hput _), putSlot_eq (hput _),
        d.putSlot_comm hne]
      simp only [putDocument, List.set_set]

theorem putSlot_putList (h : Heap) (r : DocRef) (s : Slot) (l : ListRef) (c : DocumentList) :
    (h.putList l c).putSlot r s = (h.putSlot r s).putList l c := by
  have hsame : (h.putList l c).document? r = h.document? r := rfl
  rw [putSlot, putSlot, hsame]
  cases h.document? r <;> rfl

theorem addList_putSlot (h : Heap) (r : DocRef) (s : Slot) (c : DocumentList) :
    (h.putSlot r s).addList c = ((h.addList c).1, (h.addList c).2.putSlot r s) := by
  have hsame : (h.addList c).2.document? r = h.document? r := rfl
  rw [putSlot, putSlot, hsame]
  cases h.document? r <;> rfl

theorem putList_comm (h : Heap) {l l' : ListRef} (hne : l ≠ l') (c c' : DocumentList) :
    (h.putList l c).putList l' c' = (h.putList l' c').putList l c := by
  have hindex : l.index ≠ l'.index := fun heq => hne (by cases l; cases l'; simp_all)
  simp only [putList, List.set_comm c c' hindex]

theorem addList_putList {l : ListRef} (hl : (h.list? l).isSome = true) (c c' : DocumentList) :
    (h.putList l c).addList c' = ((h.addList c').1, (h.addList c').2.putList l c) := by
  obtain ⟨old, hold⟩ := Option.isSome_iff_exists.mp hl
  simp [putList, addList, List.set_append_left _ _ (list?_lt hold)]

end Heap

namespace Effect

open Heap

variable {types : List Schema} {h : Heap} {r : DocRef} {d : Document} {e e' : Effect}
  {name name' : String}

/-- The effect is on the field of a given name. -/
def At (name : String) : Effect → Prop
  | fill slot => slot.name = name
  | refill _ _ => True
  | make name' _ => name' = name

theorem At.document? (he : e.At name) (hd : h.document? r = some d) :
    ∃ d', (e.run r h).document? r = some d' ∧ d'.schema = d.schema ∧ d'.errors = d.errors ∧
      (∀ other, other ≠ name → d'.slot? other = d.slot? other) ∧
      d'.slots.map (·.name) = d.slots.map (·.name) := by
  have hput : ∀ {mid : Heap} {slot : Slot}, mid.document? r = some d → slot.name = name →
      ∃ d', (mid.putSlot r slot).document? r = some d' ∧ d'.schema = d.schema ∧
        d'.errors = d.errors ∧ (∀ other, other ≠ name → d'.slot? other = d.slot? other) ∧
        d'.slots.map (·.name) = d.slots.map (·.name) := by
    intro mid slot hmid hname
    rw [putSlot_eq hmid, document?_putDocument_self mid _ (Option.isSome_of_mem hmid)]
    refine ⟨_, rfl, rfl, rfl, fun other hne => ?_, d.map_name_putSlot slot⟩
    exact d.slot?_putSlot_of_ne slot fun heq => hne (heq.symm.trans hname)
  cases e with
  | fill slot => exact hput hd he
  | refill own c => exact ⟨d, hd, rfl, rfl, fun _ _ => rfl, rfl⟩
  | make name' c =>
      have hmid : (h.addList c).2.document? r = some d := hd
      exact hput hmid he

theorem document?_run_of_ne (e : Effect) (h : Heap) {q : DocRef} (hne : r ≠ q) :
    (e.run r h).document? q = h.document? q := by
  cases e with
  | fill slot => exact document?_putSlot_of_ne h slot hne
  | refill own c => rfl
  | make name c => exact document?_putSlot_of_ne (h.addList c).2 _ hne

theorem documents_length_run (e : Effect) (r : DocRef) (h : Heap) :
    (e.run r h).documents.length = h.documents.length := by
  cases e with
  | fill slot => exact documents_length_putSlot h r slot
  | refill own c => rfl
  | make name c => exact documents_length_putSlot (h.addList c).2 r _

/-- Two effects that do not both make a list can change places. -/
theorem run_comm (hne : name ≠ name') (he : e.At name) (he' : e'.At name')
    (hlists : ∀ own c, e = .refill own c ∨ e' = .refill own c → (h.list? own).isSome = true)
    (howners : ∀ own c c', e = .refill own c → e' ≠ .refill own c')
    (hmakes : ∀ c c', e = .make name c → e' ≠ .make name' c') :
    e'.run r (e.run r h) = e.run r (e'.run r h) := by
  cases e with
  | fill s =>
      obtain rfl := he
      cases e' with
      | fill t =>
          obtain rfl := he'
          exact h.putSlot_comm r hne
      | refill own c => exact (h.putSlot_putList r s own c).symm
      | make other c =>
          obtain rfl := he'
          simp only [run, addList_putSlot]
          exact (h.addList c).2.putSlot_comm r hne
  | refill own c =>
      cases e' with
      | fill t => exact h.putSlot_putList r t own c
      | refill own' c' =>
          refine h.putList_comm (fun heq => ?_) c c'
          exact howners own c c' rfl (by rw [heq])
      | make other c' =>
          simp only [run, addList_putList (hlists own c (Or.inl rfl)), putSlot_putList]
  | make other c =>
      obtain rfl := he
      cases e' with
      | fill t =>
          obtain rfl := he'
          simp only [run, addList_putSlot]
          exact (h.addList c).2.putSlot_comm r hne
      | refill own' c' =>
          simp only [run, addList_putList (hlists own' c' (Or.inr rfl)), putSlot_putList]
      | make other' c' =>
          obtain rfl := he'
          exact absurd rfl (hmakes c c' rfl)

end Effect

/-! ### Lists made in another order -/

/-- The item checks of a type know no list but those in a heap, and treat all others alike.  This is
so of any check that was written before the others were made. -/
def Schema.Unbiased (h : Heap) (s : Schema) : Prop :=
  ∀ π, Function.Involutive π → (∀ l, (h.list? l).isSome = true → π l = l) → s.Impartial π

section

variable {π : ListRef → ListRef} {h h' : Heap}

theorem Value.rename_of_within (hfixed : ∀ l, (h.list? l).isSome = true → π l = l) {v : Value}
    (hv : v.Within h) : v.rename π = v := by
  induction hv with
  | array _ ih =>
      rw [rename, renameItems_eq_map, List.map_congr_left ih, List.map_id']
  | @map entries _ ih =>
      have hentries : entries.map (fun e => (e.1, e.2.rename π)) = entries.map id :=
        List.map_congr_left fun e he => by rw [ih e he, id]
      rw [rename, renameEntries_eq_map, hentries, List.map_id]
  | list hr => rw [rename, hfixed _ hr]
  | _ => rfl

theorem Document.rename_of_within (hfixed : ∀ l, (h.list? l).isSome = true → π l = l)
    {d : Document} (hd : ∀ slot ∈ d.slots, slot.value.Within h) : d.rename π = d := by
  obtain ⟨schema, slots, errors⟩ := d
  have hslots : slots.map (Slot.rename π) = slots.map id :=
    List.map_congr_left fun slot hslot => by
      rw [Slot.rename, Value.rename_of_within hfixed (hd slot hslot), id]
  rw [rename, hslots, List.map_id]

theorem Document.rename_putSlot (d : Document) (slot : Slot) :
    (d.putSlot slot).rename π = (d.rename π).putSlot (slot.rename π) := by
  simp only [rename, putSlot, List.map_map]
  congr 1
  apply List.map_congr_left
  intro s _
  by_cases hname : s.name = slot.name
  · simp [hname, Slot.rename]
  · simp [hname, Slot.rename]

namespace Heap

theorem Renamed.putSlot (hrenamed : h.Renamed π h') (r : DocRef) (slot : Slot) :
    (h.putSlot r slot).Renamed π (h'.putSlot r (slot.rename π)) := by
  have hd' := hrenamed.documents r
  cases hd : h.document? r with
  | none =>
      rw [hd, Option.map_none] at hd'
      rw [Heap.putSlot, Heap.putSlot, hd, hd']
      exact hrenamed
  | some d =>
      have himpartial := hrenamed.impartial hd
      rw [hd, Option.map_some] at hd'
      rw [putSlot_eq hd, putSlot_eq hd', ← d.rename_putSlot]
      refine ⟨by simpa [putDocument] using hrenamed.length, fun q => ?_, hrenamed.lists, ?_⟩
      · by_cases hq : r = q
        · subst hq
          rw [document?_putDocument_self h _ (Option.isSome_of_mem hd),
            document?_putDocument_self h' _ (Option.isSome_of_mem hd')]
          rfl
        · rw [document?_putDocument_of_ne h _ hq, document?_putDocument_of_ne h' _ hq,
            hrenamed.documents]
      · intro q found hfound
        rcases document?_putDocument hd hfound with ⟨_, rfl⟩ | ⟨_, hold⟩
        · exact himpartial
        · exact hrenamed.impartial hold

/-- The next two lists, the one under the reference of the other. -/
def swapNext (h : Heap) : ListRef → ListRef :=
  Equiv.swap ⟨h.lists.length⟩ ⟨h.lists.length + 1⟩

theorem swapNext_involutive (h : Heap) : Function.Involutive h.swapNext :=
  Equiv.swap_apply_self _ _

theorem swapNext_of_isSome {l : ListRef} (hl : (h.list? l).isSome = true) :
    h.swapNext l = l := by
  obtain ⟨c, hc⟩ := Option.isSome_iff_exists.mp hl
  have hlt := list?_lt hc
  apply Equiv.swap_apply_of_ne_of_ne
  · rintro rfl
    exact absurd hlt (Nat.lt_irrefl _)
  · rintro rfl
    simp at hlt

variable {types : List Schema}

/-- Two lists may be made in either order. -/
theorem addList_renamed (hsound : h.Sound types) (hcomplete : h.Complete types)
    (hunbiased : ∀ t ∈ types, t.Unbiased h) (c c' : DocumentList) :
    ((h.addList c).2.addList c').2.Renamed h.swapNext ((h.addList c').2.addList c).2 where
  length := rfl
  documents q := by
    have hsame : ∀ c c', ((h.addList c).2.addList c').2.document? q = h.document? q :=
      fun _ _ => rfl
    rw [hsame, hsame]
    cases hd : h.document? q with
    | none => rfl
    | some d =>
        rw [Option.map_some, Document.rename_of_within (fun l hl => swapNext_of_isSome hl)
          (hcomplete.slots hd)]
  lists l := by
    have hfirst : ∀ c c', ((h.addList c).2.addList c').2.list? ⟨h.lists.length⟩ = some c := by
      intro c c'
      exact list?_addList_old (list?_addList_self h c)
    have hsecond : ∀ c c',
        ((h.addList c).2.addList c').2.list? ⟨h.lists.length + 1⟩ = some c' := by
      intro c c'
      simp [addList, list?]
    by_cases hl : l = ⟨h.lists.length⟩
    · rw [hl, swapNext, Equiv.swap_apply_left, hsecond, hfirst]
    · by_cases hl' : l = ⟨h.lists.length + 1⟩
      · rw [hl', swapNext, Equiv.swap_apply_right, hfirst, hsecond]
      · have hnext : ∀ c c', l ≠ ((h.addList c).2.addList c').1 := by
          intro c c'
          simpa [addList] using hl'
        rw [swapNext, Equiv.swap_apply_of_ne_of_ne hl hl', list?_addList_of_ne _ _ (hnext c' c),
          list?_addList_of_ne _ _ (hnext c c'), list?_addList_of_ne h c hl,
          list?_addList_of_ne h c' hl]
  impartial hd :=
    hunbiased _ (hsound.schema hd) _ h.swapNext_involutive fun _ hl => swapNext_of_isSome hl

end Heap

end

namespace Effect

open Heap

variable {types : List Schema} {h : Heap} {r : DocRef} {name name' : String}

theorem run_make_make (h : Heap) (r : DocRef) (name name' : String) (c c' : DocumentList) :
    (make name' c').run r ((make name c).run r h) =
      (((h.addList c).2.addList c').2.putSlot r
        ⟨name, .list ⟨h.lists.length⟩, false, false⟩).putSlot r
          ⟨name', .list ⟨h.lists.length + 1⟩, false, false⟩ := by
  rw [run, run, addList_putSlot]
  simp only [addList, List.length_append, List.length_cons, List.length_nil]

/-- Two effects that both make a list can change places, but for the references of the lists. -/
theorem make_renamed (hsound : h.Sound types) (hcomplete : h.Complete types)
    (hunbiased : ∀ t ∈ types, t.Unbiased h) (hne : name ≠ name') (c c' : DocumentList) :
    ((make name' c').run r ((make name c).run r h)).Renamed h.swapNext
      ((make name c).run r ((make name' c').run r h)) := by
  have hmade := addList_renamed hsound hcomplete hunbiased c c'
  have hboth := (hmade.putSlot r ⟨name, .list ⟨h.lists.length⟩, false, false⟩).putSlot r
    ⟨name', .list ⟨h.lists.length + 1⟩, false, false⟩
  have hfirst : h.swapNext ⟨h.lists.length⟩ = ⟨h.lists.length + 1⟩ := Equiv.swap_apply_left _ _
  have hsecond : h.swapNext ⟨h.lists.length + 1⟩ = ⟨h.lists.length⟩ :=
    Equiv.swap_apply_right _ _
  simp only [Slot.rename, Value.rename, hfirst, hsecond] at hboth
  rw [run_make_make, run_make_make h r name' name]
  rwa [putSlot_comm _ r (s := ⟨name', _, _, _⟩) (Ne.symm hne)]

end Effect

/-! ### Assignments -/

/-- A list that an assignment finds in a slot is the slot's own. -/
theorem Slot.of_current {slot : Slot} {l : ListRef} (hcurrent : slot.current = .list l) :
    slot.shared = false ∧ slot.value = .list l := by
  rw [current] at hcurrent
  split at hcurrent
  · cases hcurrent
  · next hshared => exact ⟨by simpa using hshared, hcurrent⟩

namespace Heap

variable {types : List Schema} {h later : Heap} {r : DocRef} {d : Document} {f g : Field}
  {slot slot' : Slot} {v w : Value} {name : String} {l : ListRef}

/-- An assignment to a field has its effect on that field. -/
theorem effect_at (h : Heap) (f : Field) (v : Value) (hname : slot.name = name) :
    (h.effect f slot v).At name := by
  subst hname
  cases hlist : f.kind.isList with
  | false =>
      rw [effect_plain h hlist]
      exact Assignment.name_apply _ slot
  | true =>
      obtain ⟨schema, hkind⟩ := Kind.exists_of_isList hlist
      simp only [effect, hkind, listEffect]
      split
      · rfl
      · split
        · split
          · rfl
          · split
            · trivial
            · rfl
        · split <;> rfl

/-- What is refilled is the field's own list. -/
theorem of_effect_refill {own : ListRef} {c : DocumentList}
    (heffect : h.effect f slot v = .refill own c) :
    f.kind.isList = true ∧ slot.current = .list own ∧ (h.list? own).isSome = true := by
  cases hlist : f.kind.isList with
  | false =>
      rw [effect_plain h hlist] at heffect
      cases heffect
  | true =>
      obtain ⟨schema, hkind⟩ := Kind.exists_of_isList hlist
      simp only [effect, hkind, listEffect] at heffect
      split at heffect
      · cases heffect
      · split at heffect
        · next own' hcurrent =>
            split at heffect
            · cases heffect
            · next c' hc' =>
                split at heffect
                · injection heffect with hown
                  subst hown
                  exact ⟨rfl, hcurrent, by rw [hc']; rfl⟩
                · cases heffect
        · split at heffect <;> cases heffect

/-- A later heap differs in one field of one document, and in the list that the field owns. -/
structure AltersOnly (h later : Heap) (r : DocRef) (name : String) : Prop where
  document : ∀ {d}, h.document? r = some d → ∃ d', later.document? r = some d' ∧
    d'.schema = d.schema ∧ d'.errors = d.errors ∧
    ∀ other, other ≠ name → d'.slot? other = d.slot? other
  others : ∀ {q}, r ≠ q → later.document? q = h.document? q
  lists : ∀ {l c}, h.list? l = some c → ¬ h.Owns r name l → later.list? l = some c

theorem set?_unknown (hd : h.document? r = some d) (hfield : d.schema.field? name = none)
    (v : Value) : h.set? r name v = some (.error (.unknownField d.schema.name name), h) := by
  simp only [set?, set, hd, hfield]

theorem Owns.value_eq (hdecl : Declared types) (hsound : h.Sound types)
    (hd : h.document? r = some d) (howns : h.Owns r name l) : d.value name = .list l := by
  obtain ⟨found, hfound, f, _, _, _, slot, hmem, hname, _, hvalue⟩ := howns
  obtain rfl := Option.some.inj (hd.symm.trans hfound)
  rw [← hname, Document.value_of_slot?
    (Document.slot?_of_mem (hsound.slotNames_nodup hdecl hd) hmem), hvalue]

/-- What a list field holds, no other field of the document owns. -/
theorem not_owns_of_value (hdecl : Declared types) (hsound : h.Sound types)
    (hcomplete : h.Complete types) (hunique : h.OwnersUnique) (hd : h.document? r = some d)
    (hg : g ∈ d.schema.fields) (hlist : g.kind.isList = true) (hvalue : d.value g.name = .list l)
    (hne : g.name ≠ name) : ¬ h.Owns r name l := by
  intro howns
  obtain ⟨slot, hslot, hfits⟩ := hsound.slot_of_field hdecl hd hg
  obtain ⟨hmem, hname⟩ := Document.mem_of_slot? hslot
  rw [Document.value_of_slot? hslot] at hvalue
  cases hshared : slot.shared with
  | false =>
      have hother : h.Owns r g.name l :=
        ⟨d, hd, g, hg, rfl, hlist, slot, hmem, hname, hshared, hvalue⟩
      exact hne (hunique r r g.name name l hother howns).2
  | true =>
      obtain ⟨found, hfound, f, hf, hfname, hflist, own, hown, honame, hunshared, hovalue⟩ := howns
      obtain rfl := Option.some.inj (hd.symm.trans hfound)
      have hfield := Schema.field?_of_mem (hdecl.fieldNames_nodup (hsound.schema hd)) hf
      rw [hfname, ← honame] at hfield
      exact hcomplete.apart hd l ⟨own, hown, f, hfield, hflist, hunshared, hovalue⟩ slot hmem
        hshared hvalue

/-- An assignment alters one field. -/
theorem set_altersOnly (hdecl : Declared types) (hsound : h.Sound types)
    (hd : h.document? r = some d) (hf : f ∈ d.schema.fields) (v : Value) :
    ∃ later, h.set r f.name v = (.ok (), later) ∧ h.AltersOnly later r f.name := by
  obtain ⟨slot, hslot, hfits⟩ := hsound.slot_of_field hdecl hd hf
  have hset := set_eq_run hd (Schema.field?_of_mem (hdecl.fieldNames_nodup (hsound.schema hd)) hf)
    hslot (hsound.slotNames_nodup hdecl hd) v
  refine ⟨_, hset, ⟨fun hfound => ?_, fun hne => ?_, fun hl howns => ?_⟩⟩
  · obtain ⟨d', hd', hschema, herrors, hothers, _⟩ :=
      (h.effect_at f v hfits.name).document? hfound
    exact ⟨d', hd', hschema, herrors, hothers⟩
  · exact Effect.document?_run_of_ne _ h hne
  · have hsame := list?_set (v := v) hl howns
    rwa [hset] at hsame

/-- Neither a document nor a list that it holds in one of two fields can be reached from a value. -/
def LeadsElsewhere (h : Heap) (r : DocRef) (d : Document) (f g : Field) (v : Value) : Prop :=
  ¬ h.Occurs (.document r) v ∧
    ∀ l, d.value f.name = .list l ∨ d.value g.name = .list l → ¬ h.Occurs (.list l) v

theorem LeadsElsewhere.symm (hv : h.LeadsElsewhere r d f g v) : h.LeadsElsewhere r d g f v :=
  ⟨hv.1, fun l hl => hv.2 l hl.symm⟩

/-- One assignment, and then another. -/
def SetBoth (h : Heap) (r : DocRef) (name : String) (v : Value) (name' : String) (w : Value)
    (later : Heap) : Prop :=
  ∃ first, h.set? r name v = some (.ok (), first) ∧
    first.set? r name' w = some (.ok (), later)

/-- The field of a refilled list owns it. -/
theorem owns_of_refill (hd : h.document? r = some d) (hf : f ∈ d.schema.fields)
    (hslot : d.slot? f.name = some slot) {c : DocumentList}
    (heffect : h.effect f slot v = .refill l c) : h.Owns r f.name l := by
  obtain ⟨hlist, hcurrent, _⟩ := of_effect_refill heffect
  obtain ⟨hmem, hname⟩ := Document.mem_of_slot? hslot
  obtain ⟨hshared, hvalue⟩ := Slot.of_current hcurrent
  exact ⟨d, hd, f, hf, rfl, hlist, slot, hmem, hname, hshared, hvalue⟩

variable (hdecl : Declared types) (hsound : h.Sound types) (hcomplete : h.Complete types)
  (hd : h.document? r = some d)

include hdecl hsound hcomplete hd

/-- A value that leads elsewhere is not touched when one of the fields is assigned. -/
theorem AltersOnly.untouched (halters : h.AltersOnly later r f.name) (hw : w.Within h)
    (hout : h.LeadsElsewhere r d f g w) : h.Untouched later w where
  document q hq := halters.others fun heq => hout.1 (heq ▸ hq)
  list l hl := by
    have hthere := hl.within hsound hcomplete.closed hw
    obtain ⟨c, hc⟩ := Option.isSome_iff_exists.mp (within_list_iff.mp hthere)
    rw [hc, halters.lists hc fun howns =>
      hout.2 l (Or.inl (howns.value_eq hdecl hsound hd)) hl]

/-- The second assignment has the effect that it would have had as the first. -/
theorem setBoth_run (hf : f ∈ d.schema.fields) (hg : g ∈ d.schema.fields)
    (hne : f.name ≠ g.name) (hslot : d.slot? f.name = some slot)
    (hslot' : d.slot? g.name = some slot') (hv : v.Within h) (hw : w.Within h)
    (hout : h.LeadsElsewhere r d f g w) (hcan : h.canAssign r f slot.current v = true)
    (hcan' : h.canAssign r g slot'.current w = true) :
    h.SetBoth r f.name v g.name w ((h.effect g slot' w).run r ((h.effect f slot v).run r h)) := by
  have hnames := hdecl.fieldNames_nodup (hsound.schema hd)
  have hnodup := hsound.slotNames_nodup hdecl hd
  have hset := set_eq_run hd (Schema.field?_of_mem hnames hf) hslot hnodup v
  obtain ⟨first, hfirst, halters⟩ := set_altersOnly hdecl hsound hd hf v
  obtain rfl : (h.effect f slot v).run r h = first := by
    have hsame := hset.symm.trans hfirst
    exact congrArg Prod.snd hsame
  have hlength := (h.effect f slot v).documents_length_run r h
  have hgrows := (hcomplete.set r f.name hv).grows
  rw [hset] at hgrows
  have hat := h.effect_at f v (Document.mem_of_slot? hslot).2
  obtain ⟨d', hd', hschema, _, hothers, hmap⟩ := hat.document? hd
  have huntouched := halters.untouched hdecl hsound hcomplete hd hw hout
  have heffect : ((h.effect f slot v).run r h).effect g slot' w = h.effect g slot' w := by
    refine huntouched.effect_eq hlength fun own hown => ?_
    have hthere := hcomplete.slots hd slot' (Document.mem_of_slot? hslot').1
    rw [(Slot.of_current hown).2, within_list_iff] at hthere
    obtain ⟨c, hc⟩ := Option.isSome_iff_exists.mp hthere
    obtain ⟨c', hc', hsame⟩ := hgrows.list hc
    rw [hc, hc', Option.map_some, Option.map_some, hsame]
  have hfield : d'.schema.field? g.name = some g := by
    rw [hschema]
    exact Schema.field?_of_mem hnames hg
  have hslot'' : d'.slot? g.name = some slot' := (hothers g.name (Ne.symm hne)).trans hslot'
  refine ⟨(h.effect f slot v).run r h, ?_, ?_⟩
  · rw [set?_of_canAssign hd (Schema.field?_of_mem hnames hf) hslot hcan, hset]
  · rw [set?_of_canAssign hd' hfield hslot'' (huntouched.canAssign hout.1 hcan'),
      set_eq_run hd' hfield hslot'' (by rwa [hmap]), heffect]

/-- Two assignments come to the same in either order, but for the references of lists that both
make. -/
theorem set_comm (hunique : h.OwnersUnique) (hunbiased : ∀ t ∈ types, t.Unbiased h)
    (hf : f ∈ d.schema.fields) (hg : g ∈ d.schema.fields) (hne : f.name ≠ g.name)
    (hv : v.Within h) (hw : w.Within h) (hvout : h.LeadsElsewhere r d f g v)
    (hwout : h.LeadsElsewhere r d f g w) (hvends : ¬ h.Stuck r f v) (hwends : ¬ h.Stuck r g w) :
    ∃ fg gf, h.SetBoth r f.name v g.name w fg ∧ h.SetBoth r g.name w f.name v gf ∧
      (gf = fg ∨ fg.Renamed h.swapNext gf) := by
  obtain ⟨slot, hslot, _⟩ := hsound.slot_of_field hdecl hd hf
  obtain ⟨slot', hslot', _⟩ := hsound.slot_of_field hdecl hd hg
  have hcan := canAssign_of_not_stuck hdecl hsound hd hf hslot hvends
  have hcan' := canAssign_of_not_stuck hdecl hsound hd hg hslot' hwends
  have hfg := setBoth_run hdecl hsound hcomplete hd hf hg hne hslot hslot' hv hw hwout hcan hcan'
  have hgf := setBoth_run hdecl hsound hcomplete hd hg hf (Ne.symm hne) hslot' hslot hw hv
    hvout.symm hcan' hcan
  have hat := h.effect_at f v (Document.mem_of_slot? hslot).2
  have hat' := h.effect_at g w (Document.mem_of_slot? hslot').2
  refine ⟨_, _, hfg, hgf, ?_⟩
  by_cases hmakes : ∃ c c', h.effect f slot v = .make f.name c ∧
      h.effect g slot' w = .make g.name c'
  · obtain ⟨c, c', heffect, heffect'⟩ := hmakes
    rw [heffect, heffect']
    exact Or.inr (Effect.make_renamed hsound hcomplete hunbiased hne c c')
  · refine Or.inl (Effect.run_comm hne hat hat' ?_ ?_ ?_).symm
    · rintro own c (heffect | heffect) <;> exact (of_effect_refill heffect).2.2
    · intro own c c' heffect heffect'
      exact hne (hunique r r f.name g.name own (owns_of_refill hd hf hslot heffect)
        (owns_of_refill hd hg hslot' heffect')).2
    · exact fun c c' heffect heffect' => hmakes ⟨c, c', heffect, heffect'⟩

end Heap

open Heap

/-- What a validation comes to: its result, and the errors that each document has then. -/
def Session.verdict? (s : Session) (r : DocRef) : Option (Bool × (DocRef → Option Errors)) :=
  (s.validate? r).map fun (valid, later) =>
    (valid, fun q => (later.heap.document? q).map (·.errors))

theorem Session.verdict?_renamed {π : ListRef → ListRef} (hπ : Function.Involutive π)
    {s s' : Session} (hheap : s.heap.Renamed π s'.heap) (r : DocRef) :
    s'.verdict? r = s.verdict? r := by
  obtain ⟨hresult, hafter⟩ := validate_renamed hπ hheap r
  have herrors : (fun q => ((s'.validate r).2.heap.document? q).map (·.errors)) =
      fun q => ((s.validate r).2.heap.document? q).map (·.errors) := by
    funext q
    rw [hafter.documents, Option.map_map]
    rfl
  rw [verdict?, verdict?, validate?, validate?, clashes_renamed hπ hheap]
  split
  · simp only [Option.map_some, hresult, herrors]
  · rfl

/-- A field that is not declared cannot be assigned, and nothing changes.  An assignment to a
declared field succeeds unless it is stuck, and alters that field only: what the other fields of the
document hold, their marks and the errors stay, as does what is in the lists that they hold, unless
a field that is no list field holds the very list that the assigned field owns.  Assignments to two
fields that are not stuck may change places if neither of the values leads to the document or to a
list in one of the two fields: both orders give the same data, or none, and the same verdict, with
the same errors on every document. -/
theorem assignments_commute {types : List Schema} {s : Session} (hs : Attained types s)
    {r : DocRef} {d : Document} (hd : s.heap.document? r = some d) :
    (∀ name v, d.schema.field? name = none →
      s.heap.set? r name v = some (.error (.unknownField d.schema.name name), s.heap)) ∧
    (∀ f ∈ d.schema.fields, ∀ v, (s.heap.set? r f.name v = none ↔ s.heap.Stuck r f v) ∧
      ∀ result later, s.heap.set? r f.name v = some (result, later) → result = .ok () ∧
        s.heap.AltersOnly later r f.name ∧
        ∀ g ∈ d.schema.fields, g ≠ f → ∀ l, d.value g.name = .list l →
          g.kind.isList = true ∨ ¬ s.heap.Owns r f.name l → later.list? l = s.heap.list? l) ∧
    ((∀ t ∈ types, t.Unbiased s.heap) → ∀ f ∈ d.schema.fields, ∀ g ∈ d.schema.fields, f ≠ g →
      ∀ v w, v.Within s.heap → w.Within s.heap →
        s.heap.LeadsElsewhere r d f g v → s.heap.LeadsElsewhere r d f g w →
        ¬ s.heap.Stuck r f v → ¬ s.heap.Stuck r g w →
        ∃ fg gf, s.heap.SetBoth r f.name v g.name w fg ∧ s.heap.SetBoth r g.name w f.name v gf ∧
          gf.data? r = fg.data? r ∧
          Session.verdict? { s with heap := gf } r = Session.verdict? { s with heap := fg } r) := by
  have hdecl := hs.reachable.declared
  have hsound := hs.reachable.sound
  have hnames := hdecl.fieldNames_nodup (hsound.schema hd)
  have hunique := hs.reachable.ownersUnique
  refine ⟨fun name v hfield => set?_unknown hd hfield v,
    fun f hf v => ⟨set?_eq_none_iff hdecl hsound hd hf, fun result later hresult => ?_⟩, ?_⟩
  · obtain ⟨later', hset, halters⟩ := set_altersOnly hdecl hsound hd hf v
    obtain ⟨rfl, rfl⟩ := Prod.mk.inj (hset.symm.trans (set_of_set? hresult))
    refine ⟨rfl, halters, fun g hg hne l hvalue hother => ?_⟩
    have hthere := hs.complete.value hd g.name
    rw [hvalue, within_list_iff] at hthere
    obtain ⟨c, hc⟩ := Option.isSome_iff_exists.mp hthere
    rw [hc, halters.lists hc]
    rcases hother with hlist | howns
    · exact not_owns_of_value hdecl hsound hs.complete hunique hd hg hlist hvalue
        fun heq => hne (List.inj_on_of_nodup_map hnames hg hf heq)
    · exact howns
  · intro hunbiased f hf g hg hne v w hv hw hvout hwout hvends hwends
    obtain ⟨fg, gf, hfg, hgf, hsame⟩ := set_comm hdecl hsound hs.complete hd hunique hunbiased hf
      hg (fun heq => hne (List.inj_on_of_nodup_map hnames hf hg heq)) hv hw hvout hwout hvends
      hwends
    refine ⟨fg, gf, hfg, hgf, ?_⟩
    rcases hsame with rfl | hrenamed
    · exact ⟨rfl, rfl⟩
    · have hheap : Session.heap { s with heap := fg } |>.Renamed s.heap.swapNext
          (Session.heap { s with heap := gf }) := hrenamed
      exact ⟨hrenamed.data?_eq r, Session.verdict?_renamed s.heap.swapNext_involutive hheap r⟩

/-! A cabinet has two lists of books, which both start as the same declared list.  Each gets a list
of its own when it is assigned. -/

/-- A drawer for books that starts as the declared list. -/
def drawerField (name : String) : Field :=
  ⟨name, false, some (.value (.list ⟨0⟩)), .list bookType⟩

def cabinetFields : List Field :=
  [drawerField "kept", drawerField "lent",
    ⟨"marked", false, none, .array .free (some (.nested fun text => "book: " ++ text))⟩,
    ⟨"count", false, none, .integer ⟨none, none⟩⟩]

def cabinetType : Schema :=
  .document 1 "Cabinet" cabinetFields

def cabinetRun : Session :=
  (Operation.new cabinetType).perform shelfStart

theorem cabinetRun_attained : Attained [cabinetType, bookType] cabinetRun := by
  have hdrawer : ∀ name d, (drawerField name).default? = some d → d = .value (.list ⟨0⟩) :=
    fun _ _ hd => (Option.some.inj hd).symm
  have hdefault : ∀ f ∈ cabinetFields, ∀ d, f.default? = some d → d = .value (.list ⟨0⟩) := by
    intro f hf d hd
    simp only [cabinetFields, List.mem_cons, List.not_mem_nil, or_false] at hf
    rcases hf with rfl | rfl | rfl | rfl
    · exact hdrawer "kept" d hd
    · exact hdrawer "lent" d hd
    · cases hd
    · cases hd
  have hkind : ∀ f ∈ cabinetFields, ∀ s, f.kind.schema? = some s → s = bookType := by
    intro f hf s hs
    simp only [cabinetFields, List.mem_cons, List.not_mem_nil, or_false] at hf
    rcases hf with rfl | rfl | rfl | rfl <;> simp_all [drawerField, Kind.schema?]
  have hdecl : Declared [cabinetType, bookType] := by
    refine .document (.embedded .nil (by simp) (by simp)) (by decide) fun f hf => ⟨?_, ?_⟩
    · intro s hs
      rw [hkind f hf s hs]
      exact ⟨List.mem_singleton_self _, rfl⟩
    · intro d hd
      rw [hdefault f hf d hd]
      exact .value (.list ⟨0⟩)
  refine .perform (.declare shelfStart_attained hdecl fun f hf d hd => ?_)
    List.mem_cons_self trivial
  rw [hdefault f hf d hd]
  exact .value (.list rfl)

theorem cabinetTypes_unbiased (h : Heap) : ∀ t ∈ [cabinetType, bookType], t.Unbiased h := by
  intro t ht π _ _ f hf lengths check hkind name item
  simp only [List.mem_cons, List.not_mem_nil, or_false] at ht
  rcases ht with rfl | rfl
  · change f ∈ cabinetFields at hf
    simp only [cabinetFields, List.mem_cons, List.not_mem_nil, or_false] at hf
    rcases hf with rfl | rfl | rfl | rfl
    · cases hkind
    · cases hkind
    · cases hkind
      exact Check.nested_mirrors _ name item
    · cases hkind
  · cases hf

theorem eq_of_occurs_nil {h : Heap} {w : Value} (hw : h.Occurs w (.array [])) : w = .array [] := by
  cases hw with
  | self => rfl
  | item hmem _ => cases hmem

theorem not_stuck_nil {h : Heap} {r : DocRef} {f : Field} : ¬ h.Stuck r f (.array []) := by
  intro hstuck
  obtain ⟨q, hq, _⟩ := hstuck.occurs
  cases eq_of_occurs_nil hq

/-- The book holds nothing. -/
theorem eq_of_occurs_book {w : Value} (hw : cabinetRun.heap.Occurs w (.array [.document ⟨0⟩])) :
    w = .array [.document ⟨0⟩] ∨ w = .document ⟨0⟩ := by
  cases hw with
  | self => exact Or.inl rfl
  | item hmem hw =>
      obtain rfl := List.mem_singleton.mp hmem
      cases hw with
      | self => exact Or.inr rfl
      | field hd hf _ =>
          obtain rfl := Option.some.inj hd
          cases hf

theorem not_stuck_book {f : Field} :
    ¬ cabinetRun.heap.Stuck ⟨1⟩ f (.array [.document ⟨0⟩]) := by
  intro hstuck
  obtain ⟨q, hq, hback⟩ := hstuck.occurs
  obtain rfl : q = ⟨0⟩ := by simpa using eq_of_occurs_book hq
  rcases hback with heq | ⟨d, hd, f, hf, _⟩
  · cases heq
  · obtain rfl := Option.some.inj hd
    cases hf

theorem assignments_commute_cabinet :
    cabinetRun.heap.set? ⟨1⟩ "title" .null =
      some (.error (.unknownField "Cabinet" "title"), cabinetRun.heap) ∧
    (∃ later, cabinetRun.heap.set? ⟨1⟩ "kept" (.array []) = some (.ok (), later) ∧
      cabinetRun.heap.AltersOnly later ⟨1⟩ "kept" ∧
      later.list? ⟨0⟩ = cabinetRun.heap.list? ⟨0⟩) ∧
    ∃ fg gf,
      cabinetRun.heap.SetBoth ⟨1⟩ "kept" (.array [.document ⟨0⟩]) "lent" (.array []) fg ∧
      cabinetRun.heap.SetBoth ⟨1⟩ "lent" (.array []) "kept" (.array [.document ⟨0⟩]) gf ∧
      gf.data? ⟨1⟩ = fg.data? ⟨1⟩ ∧
      Session.verdict? { cabinetRun with heap := gf } ⟨1⟩ =
        Session.verdict? { cabinetRun with heap := fg } ⟨1⟩ := by
  obtain ⟨hunknown, hone, hcomm⟩ := assignments_commute cabinetRun_attained (r := ⟨1⟩) rfl
  have hkept : drawerField "kept" ∈ cabinetType.fields := List.mem_cons_self
  have hlent : drawerField "lent" ∈ cabinetType.fields := List.mem_cons_of_mem _ List.mem_cons_self
  have hne : drawerField "kept" ≠ drawerField "lent" := fun heq => by
    simpa [drawerField] using congrArg Field.name heq
  refine ⟨hunknown "title" .null rfl, ?_, ?_⟩
  · obtain ⟨hends, hresult⟩ := hone _ hkept (.array [])
    obtain ⟨⟨result, later⟩, hset⟩ :=
      Option.ne_none_iff_exists'.mp fun hset => not_stuck_nil (hends.mp hset)
    obtain ⟨rfl, halters, hlists⟩ := hresult _ _ hset
    exact ⟨later, hset, halters, hlists _ hlent (Ne.symm hne) ⟨0⟩ rfl (Or.inl rfl)⟩
  · have hbooks : (Value.array [.document ⟨0⟩]).Within cabinetRun.heap := by
      refine .array fun v hv => ?_
      obtain rfl := List.mem_singleton.mp hv
      exact .document rfl
    exact hcomm (cabinetTypes_unbiased _) _ hkept _ hlent hne (.array [.document ⟨0⟩]) (.array [])
      hbooks (.array (by simp))
      ⟨fun hr => by simpa using eq_of_occurs_book hr, fun l _ hl => by
        simpa using eq_of_occurs_book hl⟩
      ⟨fun hr => by simpa using eq_of_occurs_nil hr, fun l _ hl => by
        simpa using eq_of_occurs_nil hl⟩
      not_stuck_book not_stuck_nil

/-! A hamper has a list of books.  A count is an odd place for this list, but it can be put there,
and so can the hamper itself. -/

def hamperType : Schema :=
  .embedded 1 "Hamper" [⟨"kept", false, none, .list bookType⟩,
    ⟨"count", false, none, .integer ⟨none, none⟩⟩,
    ⟨"label", false, none, .string ⟨.free, none, none⟩⟩]

def hamperRun : Session :=
  [.new bookType, .new hamperType, .set ⟨1⟩ "kept" (.array [.document ⟨0⟩]),
    .set ⟨1⟩ "count" (.list ⟨0⟩), .new hamperType, .set ⟨2⟩ "count" (.document ⟨2⟩)].foldl
    Operation.perform .empty

theorem hamperRun_reachable : Reachable [hamperType, bookType] hamperRun := by
  have hkept : Field.Over [bookType] ⟨"kept", false, none, .list bookType⟩ := by
    constructor
    · rintro t ⟨⟩
      exact ⟨List.mem_cons_self, rfl⟩
    · rintro d ⟨⟩
  have hdecl : Declared [hamperType, bookType] := by
    refine .embedded (.embedded .nil (by simp) (by simp)) (by decide) ?_
    simp only [List.forall_mem_cons]
    exact ⟨hkept, .plain rfl rfl, .plain rfl rfl, by simp⟩
  have hstart : Reachable [hamperType, bookType] .empty :=
    .of_no_default hdecl (by simp [hamperType, bookType, Schema.embedded, Schema.addFields,
      Schema.addField])
  apply hstart.run
  simp [Operation.Over, Value.Proper.array, Value.Proper.document, Value.Proper.list]

/-- The count of the first hamper is now the list of the books that are kept.  To keep no books any
more empties what stands there.  A label can be written neither of the hamper itself nor of the
second one, which contains itself. -/
theorem set_alters_count :
    Reachable [hamperType, bookType] hamperRun ∧
      (hamperRun.heap.document? ⟨1⟩).map (·.value "count") = some (.list ⟨0⟩) ∧
      hamperRun.heap.items ⟨0⟩ = [⟨0⟩] ∧
      (∃ later, hamperRun.heap.set? ⟨1⟩ "kept" (.array []) = some (.ok (), later) ∧
        (later.document? ⟨1⟩).map (·.value "count") = some (.list ⟨0⟩) ∧
        later.items ⟨0⟩ = []) ∧
      hamperRun.heap.set? ⟨1⟩ "label" (.document ⟨1⟩) = none ∧
      hamperRun.heap.set? ⟨1⟩ "label" (.document ⟨2⟩) = none :=
  ⟨hamperRun_reachable, rfl, rfl, ⟨_, rfl, rfl, rfl⟩, rfl, rfl⟩

end DocumentModel
