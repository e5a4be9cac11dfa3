/-
Assignments that come to nothing.

A document is held while a field of it is assigned.  The assignment comes to nothing if it has to
look into the document meanwhile, or has to write out a value that has no end.  It looks only into
what the value leads to, so most assignments are far from that.
-/
import DocumentModel.Proofs.Writing

namespace DocumentModel.Heap

variable {types : List Schema} {h later : Heap} {r q : DocRef} {d : Document} {f : Field}
  {slot : Slot} {v current : Value}

/-- An assignment to a field of a document has to look into what is held, or does not end.  A text
field writes out all that the value leads to; the fields for documents ask those that they are given
for their type, lists one after the other up to the first that does not fit. -/
inductive Stuck (h : Heap) (r : DocRef) (f : Field) (v : Value) : Prop
  | writes {rules : StringRules} {q : DocRef} (hkind : f.kind = .string rules)
      (hq : h.Occurs (.document q) v) (hback : q = r ∨ h.Inside q q) : Stuck h r f v
  | asks {T : Schema} (hkind : f.kind = .embedded T) (hv : v = .document r) : Stuck h r f v
  | asksEach {T : Schema} {own : ListRef} {marked : Bool} {before after : List DocRef}
      (hkind : f.kind = .list T) (hlist : h.HasList r f.name own marked)
      (hother : marked = true ∨ v ≠ .list own) (hv : v.Lists h (before ++ r :: after))
      (hbefore : ∀ item ∈ before, h.documentIsA item T = true) : Stuck h r f v

theorem occurs_of_lists {items : List DocRef} (hv : v.Lists h items) (hq : q ∈ items) :
    h.Occurs (.document q) v := by
  cases hv with
  | list l => exact occurs_of_mem_items hq
  | array _ => exact .item (List.mem_map_of_mem hq) .self

/-- Only what the value leads to can be in the way. -/
theorem Stuck.occurs (hstuck : h.Stuck r f v) :
    ∃ q, h.Occurs (.document q) v ∧ (q = r ∨ h.Inside q q) := by
  cases hstuck with
  | writes _ hq hback => exact ⟨_, hq, hback⟩
  | asks _ hv => exact ⟨r, hv ▸ .self, Or.inl rfl⟩
  | asksEach _ _ _ hv _ => exact ⟨r, occurs_of_lists hv (by simp), Or.inl rfl⟩

theorem occurs_of_mem_askedBy (hq : q ∈ h.askedBy f current v) : h.Occurs (.document q) v := by
  rw [askedBy] at hq
  split at hq
  · cases v with
    | document s =>
        obtain rfl : q = s := by simpa [Value.asDocument?] using hq
        exact .self
    | _ => simp [Value.asDocument?] at hq
  · simp only at hq
    split at hq
    · cases hq
    · next items hoffered =>
        obtain ⟨before, after, rfl, _⟩ := mem_asked_iff.mp hq
        exact occurs_of_offered? hoffered q (by simp)
  · cases hq

/-- Of a value that does not lead to the document, only the writing out can be in the way. -/
theorem canAssign_iff_of_not_occurs (hout : ¬ h.Occurs (.document r) v) :
    h.canAssign r f current v = true ↔
      ∀ rules, f.kind = .string rules → h.canWrite [r] v = true := by
  have hasked : r ∉ h.askedBy f current v := fun hmem => hout (occurs_of_mem_askedBy hmem)
  rw [canAssign]
  split
  · next rules hkind => exact ⟨fun hcan _ _ => hcan, fun hcan => hcan rules hkind⟩
  · next hplain => simpa [hasked] using fun rules hkind => (hplain rules hkind).elim

/-- What does not lead to the document can be assigned later if it can be now, as long as all that
it leads to is the same. -/
theorem Untouched.canAssign (hv : h.Untouched later v) (hout : ¬ h.Occurs (.document r) v)
    (hcan : h.canAssign r f current v = true) : later.canAssign r f current v = true := by
  have hout' : ¬ later.Occurs (.document r) v := fun hr => hout (hv.occurs_iff.mp hr)
  rw [canAssign_iff_of_not_occurs hout] at hcan
  rw [canAssign_iff_of_not_occurs hout', hv.canWrite_eq]
  exact hcan

theorem set?_of_canAssign (hd : h.document? r = some d)
    (hfield : d.schema.field? f.name = some f) (hslot : d.slot? f.name = some slot)
    (hcan : h.canAssign r f slot.current v = true) :
    h.set? r f.name v = some (h.set r f.name v) := by
  rw [Slot.current] at hcan
  simp only [set?, hd, hfield, hslot, hcan, if_true]

theorem set?_eq_none_iff_canAssign (hd : h.document? r = some d)
    (hfield : d.schema.field? f.name = some f) (hslot : d.slot? f.name = some slot) :
    h.set? r f.name v = none ↔ h.canAssign r f slot.current v = false := by
  simp only [set?, hd, hfield, hslot, Slot.current]
  split <;> simp_all

/-- A text field has to write out all that the value leads to. -/
theorem canAssign_string {rules : StringRules} (hkind : f.kind = .string rules) :
    h.canAssign r f current v = false ↔ ∃ q, h.Occurs (.document q) v ∧ (q = r ∨ h.Inside q q) := by
  rw [canAssign, hkind, ← Bool.not_eq_true, canWrite_iff]
  simp only [not_forall, List.mem_singleton, not_and_or, not_not, exists_prop]

/-- A field for a document asks the one that it is given for its type. -/
theorem canAssign_embedded {T : Schema} (hkind : f.kind = .embedded T) :
    h.canAssign r f current v = false ↔ v = .document r := by
  have hasked : h.canAssign r f current v = false ↔ r ∈ v.asDocument?.toList := by
    simp [canAssign, askedBy, hkind]
  rw [hasked]
  cases v with
  | document q => rw [Value.document.injEq, eq_comm]; exact List.mem_singleton
  | _ => simp [Value.asDocument?]

/-- An assignment comes to nothing exactly if it is stuck. -/
theorem set?_eq_none_iff (hdecl : Declared types) (hsound : h.Sound types)
    (hd : h.document? r = some d) (hf : f ∈ d.schema.fields) :
    h.set? r f.name v = none ↔ h.Stuck r f v := by
  have hfield := Schema.field?_of_mem (hdecl.fieldNames_nodup (hsound.schema hd)) hf
  obtain ⟨slot, hslot, _⟩ := hsound.slot_of_field hdecl hd hf
  have hnone := set?_eq_none_iff_canAssign (v := v) hd hfield hslot
  constructor
  · intro hset
    cases hkind : f.kind with
    | string rules =>
        obtain ⟨q, hq, hback⟩ := (canAssign_string hkind).mp (hnone.mp hset)
        exact .writes hkind hq hback
    | list T =>
        obtain ⟨slot, own, c, hslot, hvalue, hc, hexact⟩ := hsound.list_of_field hdecl hd hf hkind
        obtain ⟨hother, before, after, hv, hbefore⟩ :=
          (set?_list_eq_none_iff hd hfield hkind hslot hvalue hc hexact).mp hset
        exact .asksEach hkind ⟨d, slot, hd, hslot, hvalue, rfl⟩ hother hv hbefore
    | embedded T => exact .asks hkind ((canAssign_embedded hkind).mp (hnone.mp hset))
    | _ => simp [canAssign, askedBy, hkind, hset] at hnone
  · intro hstuck
    cases hstuck with
    | writes hkind hq hback => exact hnone.mpr ((canAssign_string hkind).mpr ⟨_, hq, hback⟩)
    | asks hkind hv => exact hnone.mpr ((canAssign_embedded hkind).mpr hv)
    | @asksEach T own marked before after hkind hlist hother hv hbefore =>
        obtain ⟨d', slot, hd', hslot, hvalue, rfl⟩ := hlist
        obtain rfl := Option.some.inj (hd.symm.trans hd')
        obtain ⟨slot', own', c, hslot', hvalue', hc, hexact⟩ :=
          hsound.list_of_field hdecl hd hf hkind
        obtain rfl := Option.some.inj (hslot.symm.trans hslot')
        obtain rfl := Value.list.inj (hvalue.symm.trans hvalue')
        exact (set?_list_eq_none_iff hd hfield hkind hslot hvalue hc hexact).mpr
          ⟨hother, before, after, hv, hbefore⟩

theorem canAssign_of_not_stuck (hdecl : Declared types) (hsound : h.Sound types)
    (hd : h.document? r = some d) (hf : f ∈ d.schema.fields) (hslot : d.slot? f.name = some slot)
    (hends : ¬ h.Stuck r f v) : h.canAssign r f slot.current v = true := by
  have hfield := Schema.field?_of_mem (hdecl.fieldNames_nodup (hsound.schema hd)) hf
  rw [← set?_eq_none_iff hdecl hsound hd hf, set?_eq_none_iff_canAssign hd hfield hslot,
    Bool.not_eq_false] at hends
  exact hends

end DocumentModel.Heap
