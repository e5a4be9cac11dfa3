/-
Assigning a list field.

What a list field is assigned is copied into its sequence, all of it or nothing.  The sequence stays
the same one, unless it is a declared default: then the field gets a sequence of its own.  Since a
sequence of a field's own is of the declared type itself, what the declared type admits is admitted
there too.

The documents that are listed are asked for their type one after the other.  The document whose
field it is cannot be asked, since it is held: if its turn comes, the assignment comes to nothing.
-/
import DocumentModel.Proofs.Cycles
import DocumentModel.Proofs.ListOwnership

namespace DocumentModel

/-- The documents that a value lists: those of a list, or a plain sequence of nothing but
documents. -/
inductive Value.Lists (h : Heap) : Value → List DocRef → Prop
  | list (l : ListRef) : Lists h (.list l) (h.items l)
  | array (items : List DocRef) : Lists h (.array (items.map .document)) items

namespace Heap

variable {types : List Schema} {h : Heap} {schema : Schema} {current v : Value}
  {items : List DocRef}

/-- The sequence in a list field of a document, and whether it is marked as the declared default. -/
def HasList (h : Heap) (r : DocRef) (name : String) (own : ListRef) (marked : Bool) : Prop :=
  ∃ d slot, h.document? r = some d ∧ d.slot? name = some slot ∧ slot.value = .list own ∧
    slot.shared = marked

theorem lists_of_offered? (hoffered : h.offered? current v = some items) : v.Lists h items := by
  cases v with
  | list l =>
      rw [offered?] at hoffered
      split at hoffered
      · cases hoffered
      · obtain rfl := Option.some.inj hoffered
        exact .list l
  | array values =>
      obtain rfl := Value.documents?_eq_some_iff.mp hoffered
      exact .array items
  | _ => cases hoffered

/-- A value offers what it lists, except to itself. -/
theorem offered?_of_lists (hv : v.Lists h items) (hother : ∀ l, v = .list l → current ≠ .list l) :
    h.offered? current v = some items := by
  cases hv with
  | list l =>
      have hne : current.asList? ≠ some l := by
        intro heq
        cases current with
        | list own => exact hother l rfl (congrArg Value.list (Option.some.inj heq))
        | _ => cases heq
      rw [offered?, if_neg hne]
  | array items => exact Value.documents?_eq_some_iff.mpr rfl

theorem putList_self {l : ListRef} {c : DocumentList} (hl : h.list? l = some c) :
    h.putList l c = h := by
  have hset : h.lists.set l.index c = h.lists := by
    apply List.ext_getElem?
    intro i
    by_cases hi : l.index = i
    · subst hi
      rw [List.getElem?_set_self (list?_lt hl)]
      exact hl.symm
    · rw [List.getElem?_set_ne hi]
  rw [putList, hset]

theorem checkTypes_refused (hitems : ∃ item ∈ items, h.documentIsA item schema = false) :
    ∃ e, h.checkTypes schema items = .error e := by
  cases hcheck : h.checkTypes schema items with
  | error e => exact ⟨e, rfl⟩
  | ok u =>
      obtain ⟨item, hmem, hfalse⟩ := hitems
      rw [checkTypes_eq_ok_iff.mp hcheck item hmem] at hfalse
      cases hfalse

/-- A document is asked for its type if all before it have the right one. -/
theorem mem_asked_iff {r : DocRef} : r ∈ h.asked schema items ↔
    ∃ before after, items = before ++ r :: after ∧
      ∀ item ∈ before, h.documentIsA item schema = true := by
  induction items with
  | nil => simp [asked]
  | cons first rest ih =>
      rw [asked, List.mem_cons]
      constructor
      · rintro (rfl | hlater)
        · exact ⟨[], rest, rfl, by simp⟩
        · split at hlater
          · next hfirst =>
              obtain ⟨before, after, rfl, hbefore⟩ := ih.mp hlater
              exact ⟨first :: before, after, rfl, List.forall_mem_cons.mpr ⟨hfirst, hbefore⟩⟩
          · cases hlater
      · rintro ⟨before, after, heq, hbefore⟩
        cases before with
        | nil => exact Or.inl (List.cons.inj heq).1.symm
        | cons first' before =>
            obtain ⟨rfl, hrest⟩ := List.cons.inj heq
            obtain ⟨hfirst, hbefore⟩ := List.forall_mem_cons.mp hbefore
            rw [if_pos hfirst]
            exact Or.inr (ih.mpr ⟨before, after, hrest, hbefore⟩)

theorem mem_askedBy_iff {f : Field} {r : DocRef} (hkind : f.kind = .list schema)
    (hown : ∀ own, current = .list own → ∃ c, h.list? own = some c ∧ c.schema = schema) :
    r ∈ h.askedBy f current v ↔
      ∃ items, h.offered? current v = some items ∧ r ∈ h.asked schema items := by
  have hschema : ((current.asList?.bind h.list?).map (·.schema)).getD schema = schema := by
    cases current with
    | list own =>
        obtain ⟨c, hc, rfl⟩ := hown own rfl
        simp [Value.asList?, hc]
    | _ => rfl
  simp only [askedBy, hkind, hschema]
  cases h.offered? current v <;> simp

/-- A value that lists something of another type, or lists nothing at all, is refused. -/
theorem assignList_refused
    (hown : ∀ own, current = .list own → ∃ c, h.list? own = some c ∧ c.schema = schema)
    (hrefused : ∀ items, v.Lists h items → ∃ item ∈ items, h.documentIsA item schema = false) :
    h.assignList schema current v = (.keep, h) := by
  rw [assignList]
  cases hoffered : h.offered? current v with
  | none => rfl
  | some items =>
      obtain ⟨e, he⟩ := checkTypes_refused (hrefused items (lists_of_offered? hoffered))
      cases current with
      | list own =>
          obtain ⟨c, hc, rfl⟩ := hown own rfl
          simp only [replaceItems, hc, he]
      | _ => simp only [he]

/-- A sequence of the declared type takes over what is listed.  If it is itself what is listed,
nothing is done, and it holds the documents already. -/
theorem assignList_own {own : ListRef} {c : DocumentList} (hc : h.list? own = some c)
    (hschema : c.schema = schema) (hv : v.Lists h items)
    (hitems : ∀ item ∈ items, h.documentIsA item schema = true) :
    h.assignList schema (.list own) v = (.keep, h.putList own ⟨schema, items⟩) := by
  subst hschema
  by_cases hself : v = .list own
  · subst hself
    cases hv
    have hsame : (⟨c.schema, h.items own⟩ : DocumentList) = c := by simp [Heap.items, hc]
    rw [hsame, putList_self hc]
    simp [assignList, offered?, Value.asList?]
  · have hoffered : h.offered? (.list own) v = some items := by
      apply offered?_of_lists hv
      intro l hl heq
      exact hself (hl.trans heq.symm)
    simp only [assignList, hoffered, replaceItems, hc, checkTypes_eq_ok_iff.mpr hitems]

/-- Where there is no sequence yet, what is listed goes into a new one. -/
theorem assignList_new (hv : v.Lists h items)
    (hitems : ∀ item ∈ items, h.documentIsA item schema = true) :
    h.assignList schema .null v =
      (.store (.list (h.addList ⟨schema, items⟩).1), (h.addList ⟨schema, items⟩).2) := by
  have hoffered : h.offered? .null v = some items := by
    apply offered?_of_lists hv
    intro l _ heq
    cases heq
  simp only [assignList, hoffered, checkTypes_eq_ok_iff.mpr hitems]

theorem Lists.unique {items' : List DocRef} (hv : v.Lists h items) (hv' : v.Lists h items') :
    items = items' := by
  have hnull : ∀ l, v = .list l → Value.null ≠ .list l := by
    intro l _ heq
    cases heq
  exact Option.some.inj ((offered?_of_lists hv hnull).symm.trans (offered?_of_lists hv' hnull))

/-- What an assignment comes to, it comes to as long as the document need not be looked into. -/
theorem set_of_set? {r : DocRef} {name : String} {result : Except SchemaError Unit × Heap}
    (hset : h.set? r name v = some result) : h.set r name v = result := by
  rw [set?] at hset
  split at hset
  · exact Option.some.inj hset
  · split at hset
    · exact Option.some.inj (Option.ite_none_right_eq_some.mp hset).2
    · exact Option.some.inj hset

/-! ### The field -/

section Field

variable {r : DocRef} {d : Document} {f : Field} {slot : Slot} {own : ListRef} {c : DocumentList}

/-- Every list field has a sequence.  One that is not marked is of the declared type. -/
theorem Sound.list_of_field (hsound : h.Sound types) (hdecl : Declared types)
    (hd : h.document? r = some d) (hf : f ∈ d.schema.fields) (hkind : f.kind = .list schema) :
    ∃ slot own c, d.slot? f.name = some slot ∧ slot.value = .list own ∧ h.list? own = some c ∧
      (slot.shared = false → c.schema = schema) := by
  obtain ⟨slot, hslot, hfits⟩ := hsound.slot_of_field hdecl hd hf
  have hadmits := hfits.value
  rw [hkind] at hadmits
  obtain ⟨own, c, hvalue, hc, _⟩ := hadmits
  refine ⟨slot, own, c, hslot, hvalue, hc, fun hshared => ?_⟩
  obtain ⟨c', hc', hschema⟩ := hfits.own hshared schema own hkind hvalue
  obtain rfl : c = c' := Option.some.inj (hc.symm.trans hc')
  exact hschema

variable (hd : h.document? r = some d) (hfield : d.schema.field? f.name = some f)
  (hkind : f.kind = .list schema) (hslot : d.slot? f.name = some slot)

include hd hfield hkind hslot

/-- A list field counts as empty as long as it is marked. -/
theorem set_list {a : Assignment} {later : Heap}
    (hassign : h.assignList schema (if slot.shared then .null else slot.value) v = (a, later)) :
    h.set r f.name v = (.ok (), later.putDocument r (d.putSlot (a.apply slot))) := by
  rw [Heap.set]
  simp only [hd, hfield, hslot, assign, hkind, hassign]

variable (hnodup : (d.slots.map (·.name)).Nodup) (hvalue : slot.value = .list own)
  (hc : h.list? own = some c) (hexact : slot.shared = false → c.schema = schema)

include hvalue hc hexact

omit hd hfield hkind hslot in
theorem schema_of_current (own' : ListRef)
    (hcurrent : (if slot.shared then .null else slot.value) = Value.list own') :
    ∃ c, h.list? own' = some c ∧ c.schema = schema := by
  cases hshared : slot.shared with
  | true => simp [hshared] at hcurrent
  | false =>
      obtain rfl : own = own' := by simpa [hshared, hvalue] using hcurrent
      exact ⟨c, hc, hexact hshared⟩

/-- An assignment to a list field comes to nothing exactly if the document itself is listed after
none but documents of the declared type.  The field's own sequence is not looked at. -/
theorem set?_list_eq_none_iff : h.set? r f.name v = none ↔
    (slot.shared = true ∨ v ≠ .list own) ∧ ∃ before after, v.Lists h (before ++ r :: after) ∧
      ∀ item ∈ before, h.documentIsA item schema = true := by
  have hset : h.set? r f.name v = none ↔
      r ∈ h.askedBy f (if slot.shared then .null else slot.value) v := by
    simp only [set?, hd, hfield, hslot, canAssign, hkind, decide_eq_true_eq]
    split <;> simp_all
  rw [hset, mem_askedBy_iff hkind (schema_of_current hvalue hc hexact)]
  constructor
  · rintro ⟨items, hoffered, hmem⟩
    obtain ⟨before, after, rfl, hbefore⟩ := mem_asked_iff.mp hmem
    refine ⟨?_, before, after, lists_of_offered? hoffered, hbefore⟩
    by_contra hself
    obtain ⟨hshared, rfl⟩ : slot.shared = false ∧ v = .list own := by simpa using hself
    simp [offered?, hshared, hvalue, Value.asList?] at hoffered
  · rintro ⟨hother, before, after, hv, hbefore⟩
    refine ⟨_, offered?_of_lists hv ?_, mem_asked_iff.mpr ⟨before, after, rfl, hbefore⟩⟩
    rintro l rfl heq
    cases hshared : slot.shared with
    | true => simp [hshared] at heq
    | false =>
        rw [hshared] at heq
        exact hother.resolve_left (by simp [hshared]) (heq.symm.trans hvalue)

include hnodup

theorem set_list_refused
    (hrefused : ∀ items, v.Lists h items → ∃ item ∈ items, h.documentIsA item schema = false) :
    h.set r f.name v = (.ok (), h) := by
  have hassign :
      h.assignList schema (if slot.shared then .null else slot.value) v = (.keep, h) :=
    assignList_refused (schema_of_current hvalue hc hexact) hrefused
  rw [set_list hd hfield hkind hslot hassign, Assignment.apply,
    Document.putSlot_of_slot? hnodup hslot, putDocument_self hd]

/-- The field keeps a sequence of its own, which alone is refilled. -/
theorem set_list_own (hshared : slot.shared = false) (hv : v.Lists h items)
    (hitems : ∀ item ∈ items, h.documentIsA item schema = true) :
    ∃ later, h.set r f.name v = (.ok (), later) ∧ later.HasList r f.name own false ∧
      later.list? own = some ⟨schema, items⟩ ∧
      ∀ l found, h.list? l = some found → (l = own → v = .list own) →
        later.list? l = some found := by
  have hassign : h.assignList schema (if slot.shared then .null else slot.value) v =
      (.keep, h.putList own ⟨schema, items⟩) := by
    rw [hshared, hvalue]
    exact assignList_own hc (hexact hshared) hv hitems
  have hset := set_list hd hfield hkind hslot hassign
  have hd' : (h.putList own ⟨schema, items⟩).document? r = some d := hd
  rw [Assignment.apply, Document.putSlot_of_slot? hnodup hslot, putDocument_self hd'] at hset
  have hself := list?_putList_self h (r := own) ⟨schema, items⟩ (by rw [hc]; rfl)
  refine ⟨_, hset, ⟨d, slot, hd', hslot, hvalue, hshared⟩, hself, ?_⟩
  intro l found hl hown
  by_cases heq : own = l
  · -- the sequence was assigned to its own field
    subst heq
    obtain rfl : c = found := Option.some.inj (hc.symm.trans hl)
    obtain rfl := hown rfl
    obtain rfl := Lists.unique hv (.list own)
    rw [hself, ← hexact hshared]
    simp [Heap.items, hc]
  · rw [list?_putList_of_ne h _ heq, hl]

omit hnodup hvalue hc hexact in
/-- A field that is marked gets a sequence of its own, and all others stay as they are. -/
theorem set_list_marked (hshared : slot.shared = true) (hv : v.Lists h items)
    (hitems : ∀ item ∈ items, h.documentIsA item schema = true) :
    ∃ later own', h.set r f.name v = (.ok (), later) ∧ later.HasList r f.name own' false ∧
      later.list? own' = some ⟨schema, items⟩ ∧ h.list? own' = none ∧
      ∀ l found, h.list? l = some found → later.list? l = some found := by
  have hassign : h.assignList schema (if slot.shared then .null else slot.value) v =
      (.store (.list (h.addList ⟨schema, items⟩).1), (h.addList ⟨schema, items⟩).2) := by
    rw [hshared]
    exact assignList_new hv hitems
  have hset := set_list hd hfield hkind hslot hassign
  obtain ⟨_, hname⟩ := Document.mem_of_slot? hslot
  have hd' : ((h.addList ⟨schema, items⟩).2.document? r).isSome = true := by
    change (h.document? r).isSome = true
    rw [hd]
    rfl
  have hslot' := Document.slot?_putSlot_self d
    ((Assignment.store (.list (h.addList ⟨schema, items⟩).1)).apply slot)
    ((congrArg (fun n => (d.slot? n).isSome) hname).trans (by rw [hslot]; rfl))
  exact ⟨_, _, hset, ⟨_, _, document?_putDocument_self _ _ hd',
    (congrArg _ hname.symm).trans hslot', rfl, rfl⟩, list?_addList_self h _,
    list?_addList_fst h _, fun l found hl => list?_addList_old hl⟩

/-- What is accepted fills the field's sequence, or a new one in the place of the declared default;
what is refused changes nothing. -/
theorem set_list_cases : ∃ later, h.set r f.name v = (.ok (), later) ∧
    (∀ items, v.Lists h items → (∀ item ∈ items, h.documentIsA item schema = true) →
      ∃ own', later.HasList r f.name own' false ∧ later.list? own' = some ⟨schema, items⟩ ∧
        (slot.shared = false → own' = own) ∧ (slot.shared = true → h.list? own' = none)) ∧
    ((∀ items, v.Lists h items → ∃ item ∈ items, h.documentIsA item schema = false) →
      later = h) ∧
    ∀ l c, h.list? l = some c → (l = own → slot.shared = true ∨ v = .list own) →
      later.list? l = some c := by
  by_cases haccepted : ∃ items, v.Lists h items ∧ ∀ item ∈ items, h.documentIsA item schema = true
  · obtain ⟨items, hv, hitems⟩ := haccepted
    have hnot : ¬ ∀ items, v.Lists h items → ∃ item ∈ items, h.documentIsA item schema = false := by
      intro hrefused
      obtain ⟨item, hmem, hfalse⟩ := hrefused items hv
      rw [hitems item hmem] at hfalse
      cases hfalse
    cases hshared : slot.shared with
    | false =>
        obtain ⟨later, hset, hafter, hown, hothers⟩ :=
          set_list_own hd hfield hkind hslot hnodup hvalue hc hexact hshared hv hitems
        refine ⟨later, hset, ?_, fun h => absurd h hnot, ?_⟩
        · intro items' hv' _
          obtain rfl := Lists.unique hv hv'
          exact ⟨own, hafter, hown, fun _ => rfl, fun htrue => absurd htrue Bool.false_ne_true⟩
        · intro l found hl hself
          exact hothers l found hl fun heq => (hself heq).resolve_left Bool.false_ne_true
    | true =>
        obtain ⟨later, own', hset, hafter, hown, hnew, hothers⟩ :=
          set_list_marked hd hfield hkind hslot hshared hv hitems
        refine ⟨later, hset, ?_, fun h => absurd h hnot, fun l found hl _ => hothers l found hl⟩
        intro items' hv' _
        obtain rfl := Lists.unique hv hv'
        exact ⟨own', hafter, hown, fun hfalse => absurd hfalse.symm Bool.false_ne_true,
          fun _ => hnew⟩
  · have hrefused : ∀ items, v.Lists h items →
        ∃ item ∈ items, h.documentIsA item schema = false := by
      intro items hv
      by_contra hnone
      exact haccepted ⟨items, hv, fun item hmem => by
        by_contra hfalse
        exact hnone ⟨item, hmem, by simpa using hfalse⟩⟩
    have hset := set_list_refused hd hfield hkind hslot hnodup hvalue hc hexact hrefused
    refine ⟨h, hset, fun items hv hitems => absurd ⟨items, hv, hitems⟩ haccepted, fun _ => rfl,
      fun l found hl _ => hl⟩

end Field

end Heap

open Heap

theorem shelfRun_reachable : Reachable [shelfType, bookType] shelfRun := by
  apply shelfTypes_reachable.run
  intro op hop
  simp only [List.mem_cons, List.not_mem_nil, or_false] at hop
  rcases hop with rfl | rfl | rfl | rfl <;>
    simp [Operation.Over, Value.Proper.array, Value.Proper.document]

def beadType : Schema :=
  .embedded 2 "Bead" []

def beadRun : Session :=
  [.new linkType, .new beadType].foldl Operation.perform .empty

theorem beadRun_reachable : Reachable [beadType, linkType, nodeType] beadRun := by
  have hdecl : Declared [beadType, linkType, nodeType] :=
    .embedded linkTypes_declared (by decide) (by simp)
  have hstart : Reachable [beadType, linkType, nodeType] .empty :=
    .of_no_default hdecl (by simp [beadType, linkType, nodeType, Schema.extend, Schema.embedded,
      Schema.addFields, Schema.addField])
  exact hstart.run (by simp [Operation.Over])

end DocumentModel
