/-
Where writing out ends.

To write out a document is to look into it and into those that it holds.  That ends exactly if none
of them comes back to itself, and it does not look into a document that is held exactly if none of
them is it.  What a value leads to decides, so nothing changes as long as all that stays.
-/
import DocumentModel.Proofs.Effect

namespace DocumentModel.Heap

variable {h later : Heap} {held : List DocRef} {r s : DocRef} {v : Value} {k : Nat}

/-! ### Handles -/

mutual

theorem occurs_of_mem_handles : (v : Value) → ∀ q ∈ v.handles h.items, h.Occurs (.document q) v
  | .array values, q, hq => by
      rw [Value.handles] at hq
      obtain ⟨v, hv, hoccurs⟩ := occurs_of_mem_itemHandles values q hq
      exact .item hv hoccurs
  | .map entries, q, hq => by
      rw [Value.handles] at hq
      obtain ⟨e, he, hoccurs⟩ := occurs_of_mem_entryHandles entries q hq
      exact .entry he hoccurs
  | .document r, q, hq => by
      rw [Value.handles, List.mem_singleton] at hq
      exact hq ▸ .self
  | .list l, q, hq => occurs_of_mem_items hq
  | .null, _, hq | .bool _, _, hq | .int _, _, hq | .float _, _, hq | .text _, _, hq
  | .instant _, _, hq | .objectId _, _, hq => absurd hq List.not_mem_nil

theorem occurs_of_mem_itemHandles : (values : List Value) →
    ∀ q ∈ Value.itemHandles h.items values, ∃ v ∈ values, h.Occurs (.document q) v
  | [], _, hq => absurd hq List.not_mem_nil
  | v :: rest, q, hq => by
      rw [Value.itemHandles, List.mem_append] at hq
      rcases hq with hfirst | hrest
      · exact ⟨v, List.mem_cons_self, occurs_of_mem_handles v q hfirst⟩
      · obtain ⟨w, hw, hoccurs⟩ := occurs_of_mem_itemHandles rest q hrest
        exact ⟨w, List.mem_cons_of_mem v hw, hoccurs⟩

theorem occurs_of_mem_entryHandles : (entries : List (String × Value)) →
    ∀ q ∈ Value.entryHandles h.items entries, ∃ e ∈ entries, h.Occurs (.document q) e.2
  | [], _, hq => absurd hq List.not_mem_nil
  | (key, v) :: rest, q, hq => by
      rw [Value.entryHandles, List.mem_append] at hq
      rcases hq with hfirst | hrest
      · exact ⟨(key, v), List.mem_cons_self, occurs_of_mem_handles v q hfirst⟩
      · obtain ⟨e, he, hoccurs⟩ := occurs_of_mem_entryHandles rest q hrest
        exact ⟨e, List.mem_cons_of_mem (key, v) he, hoccurs⟩

end

theorem mem_itemHandles {items : ListRef → List DocRef} {values : List Value} {q : DocRef}
    (hv : v ∈ values) (hq : q ∈ v.handles items) : q ∈ Value.itemHandles items values := by
  induction values with
  | nil => cases hv
  | cons first rest ih =>
      rw [Value.itemHandles, List.mem_append]
      rcases List.mem_cons.mp hv with rfl | hrest
      · exact Or.inl hq
      · exact Or.inr (ih hrest)

theorem mem_entryHandles {items : ListRef → List DocRef} {entries : List (String × Value)}
    {e : String × Value} {q : DocRef} (he : e ∈ entries) (hq : q ∈ e.2.handles items) :
    q ∈ Value.entryHandles items entries := by
  induction entries with
  | nil => cases he
  | cons first rest ih =>
      obtain ⟨key, v⟩ := first
      rw [Value.entryHandles, List.mem_append]
      rcases List.mem_cons.mp he with rfl | hrest
      · exact Or.inl hq
      · exact Or.inr (ih hrest)

/-- What documents a value leads to, it leads to by way of those that it refers to. -/
theorem occurs_iff_handles :
    h.Occurs (.document s) v ↔ ∃ q ∈ v.handles h.items, h.Occurs (.document s) (.document q) := by
  constructor
  · intro hs
    induction hs with
    | self => exact ⟨s, List.mem_singleton_self s, .self⟩
    | item hv _ ih =>
        obtain ⟨q, hq, hoccurs⟩ := ih
        exact ⟨q, mem_itemHandles hv hq, hoccurs⟩
    | entry he _ ih =>
        obtain ⟨q, hq, hoccurs⟩ := ih
        exact ⟨q, mem_entryHandles he hq, hoccurs⟩
    | @listItem l c item hl hitem hw _ =>
        have hmem : item ∈ h.items l := by rwa [items, hl]
        exact ⟨item, hmem, hw⟩
    | @field r d f hd hf hw _ => exact ⟨r, List.mem_singleton_self r, .field hd hf hw⟩
  · rintro ⟨q, hq, hs⟩
    exact hs.trans (occurs_of_mem_handles v q hq)

theorem occurs_document_iff :
    h.Occurs (.document s) (.document r) ↔ s = r ∨ h.Inside s r := by
  constructor
  · intro hs
    cases hs with
    | self => exact Or.inl rfl
    | field hd hf hw => exact Or.inr ⟨_, hd, _, hf, hw⟩
  · rintro (rfl | hinside)
    · exact .self
    · exact hinside.occurs

/-! ### Chains of a length -/

theorem Shallow.succ (hshallow : h.Shallow k r) : h.Shallow (k + 1) r := by
  induction k generalizing r with
  | zero =>
      have hnone : h.document? r = none := hshallow
      rintro s ⟨d, hd, _⟩
      rw [hnone] at hd
      cases hd
  | succ k ih => exact fun s hs => ih (hshallow s hs)

theorem Shallow.of_occurs (hshallow : h.Shallow k r)
    (hs : h.Occurs (.document s) (.document r)) : h.Shallow k s := by
  rcases occurs_document_iff.mp hs with rfl | hinside
  · exact hshallow
  · cases k with
    | zero =>
        have hnone : h.document? r = none := hshallow
        obtain ⟨d, hd, _⟩ := hinside
        rw [hnone] at hd
        cases hd
    | succ k => exact (hshallow s hinside).succ

/-- Documents come back to themselves exactly if some chain of them is longer than their number. -/
theorem acyclic_iff_shallow : h.Acyclic r ↔ h.Shallow h.documents.length r := by
  refine ⟨Acyclic.shallow, fun hshallow s hs hself => ?_⟩
  have hnever : ∀ q, Acc h.Inside q → ¬ h.Inside q q := fun q hq => by
    induction hq with
    | intro q _ ih => exact fun hself => ih q hself hself
  exact hnever s (hshallow.of_occurs hs).acc hself

theorem endsAt_succ_iff : h.endsAt held (k + 1) r = true ↔ r ∉ held ∧
    ∀ d, h.document? r = some d → ∀ f ∈ d.schema.fields,
      ∀ q ∈ (d.value f.name).handles h.items, h.endsAt held k q = true := by
  rw [endsAt, Bool.and_eq_true, decide_eq_true_iff]
  refine and_congr_right fun _ => ?_
  cases h.document? r with
  | none => simp
  | some d => simp [List.all_eq_true]

/-- Looking into a document ends in time and spares what is held exactly if the chains of what it
leads to are short and nothing that is held is in them. -/
theorem endsAt_iff : h.endsAt held k r = true ↔
    h.Shallow k r ∧ ∀ s ∈ held, ¬ h.Occurs (.document s) (.document r) := by
  induction k generalizing r with
  | zero =>
      rw [endsAt, Bool.and_eq_true, decide_eq_true_iff, Option.isNone_iff_eq_none, Shallow]
      constructor
      · rintro ⟨hout, hnone⟩
        refine ⟨hnone, fun s hs hoccurs => ?_⟩
        rcases occurs_document_iff.mp hoccurs with rfl | ⟨d, hd, _⟩
        · exact hout hs
        · rw [hnone] at hd
          cases hd
      · rintro ⟨hnone, hspared⟩
        exact ⟨fun hmem => hspared r hmem .self, hnone⟩
  | succ k ih =>
      rw [endsAt_succ_iff]
      constructor
      · rintro ⟨hout, hall⟩
        -- what is inside the document is what one of its handles leads to
        have hinside : ∀ s, h.Inside s r → ∃ q, h.Occurs (.document s) (.document q) ∧
            h.Shallow k q ∧ ∀ t ∈ held, ¬ h.Occurs (.document t) (.document q) := by
          rintro s ⟨d, hd, f, hf, hs⟩
          obtain ⟨q, hq, hoccurs⟩ := occurs_iff_handles.mp hs
          exact ⟨q, hoccurs, ih.mp (hall d hd f hf q hq)⟩
        refine ⟨fun s hs => ?_, fun s hs hoccurs => ?_⟩
        · obtain ⟨q, hoccurs, hshallow, _⟩ := hinside s hs
          exact hshallow.of_occurs hoccurs
        · rcases occurs_document_iff.mp hoccurs with rfl | hs'
          · exact hout hs
          · obtain ⟨q, hoccurs, _, hspared⟩ := hinside s hs'
            exact hspared s hs hoccurs
      · rintro ⟨hshallow, hspared⟩
        refine ⟨fun hmem => hspared r hmem .self, fun d hd f hf q hq => ?_⟩
        have hinside : h.Inside q r := ⟨d, hd, f, hf, occurs_of_mem_handles _ q hq⟩
        exact ih.mpr ⟨hshallow q hinside, fun s hs hoccurs =>
          hspared s hs (hoccurs.trans hinside.occurs)⟩

/-- A value can be written out exactly if none of the documents that it leads to is held or comes
back to itself. -/
theorem canWrite_iff : h.canWrite held v = true ↔
    ∀ s, h.Occurs (.document s) v → s ∉ held ∧ ¬ h.Inside s s := by
  rw [canWrite, List.all_eq_true]
  constructor
  · intro hall s hs
    obtain ⟨q, hq, hoccurs⟩ := occurs_iff_handles.mp hs
    obtain ⟨hshallow, hspared⟩ := endsAt_iff.mp (hall q hq)
    exact ⟨fun hmem => hspared s hmem hoccurs, acyclic_iff_shallow.mpr hshallow s hoccurs⟩
  · intro hv q hq
    have hoccurs := occurs_of_mem_handles v q hq
    exact endsAt_iff.mpr ⟨acyclic_iff_shallow.mp fun s hs => (hv s (hs.trans hoccurs)).2,
      fun s hs hin => (hv s (hin.trans hoccurs)).1 hs⟩

theorem canWrite_document_iff : h.canWrite [] (.document r) = true ↔ h.Acyclic r := by
  simp only [canWrite_iff, Acyclic, List.not_mem_nil, not_false_eq_true, true_and]

/-- A document has data exactly if nothing that it leads to comes back to itself. -/
theorem data?_eq_some_iff {o : Json.Object} :
    h.data? r = some o ↔ h.Acyclic r ∧ h.data r = o := by
  rw [data?, Option.ite_none_right_eq_some, canWrite_document_iff, Option.some.injEq]

/-! ### What stays -/

/-- What a value leads to, as long as all that is the same. -/
theorem Untouched.occurs_iff (hv : h.Untouched later v) {w : Value} :
    later.Occurs w v ↔ h.Occurs w v := by
  constructor
  · intro hw
    induction hw with
    | self => exact .self
    | item hmem _ ih => exact .item hmem (ih (hv.of_occurs (.item hmem .self)))
    | entry hmem _ ih => exact .entry hmem (ih (hv.of_occurs (.entry hmem .self)))
    | listItem hl hitem _ ih =>
        rw [hv.list _ .self] at hl
        exact .listItem hl hitem (ih (hv.of_occurs (.listItem hl hitem .self)))
    | field hd hf _ ih =>
        rw [hv.document _ .self] at hd
        exact .field hd hf (ih (hv.of_occurs (.field hd hf .self)))
  · intro hw
    induction hw with
    | self => exact .self
    | item hmem _ ih => exact .item hmem (ih (hv.of_occurs (.item hmem .self)))
    | entry hmem _ ih => exact .entry hmem (ih (hv.of_occurs (.entry hmem .self)))
    | listItem hl hitem _ ih =>
        have hrest := ih (hv.of_occurs (.listItem hl hitem .self))
        exact .listItem ((hv.list _ .self).trans hl) hitem hrest
    | field hd hf _ ih =>
        have hrest := ih (hv.of_occurs (.field hd hf .self))
        exact .field ((hv.document _ .self).trans hd) hf hrest

theorem Untouched.inside_iff (hv : h.Untouched later v) (hr : h.Occurs (.document r) v) :
    later.Inside s r ↔ h.Inside s r := by
  have hsame := hv.document r hr
  constructor
  · rintro ⟨d, hd, f, hf, hs⟩
    rw [hsame] at hd
    have hvalue := hv.of_occurs ((Occurs.field hd hf .self).trans hr)
    exact ⟨d, hd, f, hf, hvalue.occurs_iff.mp hs⟩
  · rintro ⟨d, hd, f, hf, hs⟩
    have hvalue := hv.of_occurs ((Occurs.field hd hf .self).trans hr)
    exact ⟨d, hsame.trans hd, f, hf, hvalue.occurs_iff.mpr hs⟩

theorem Untouched.canWrite_eq (hv : h.Untouched later v) (held : List DocRef) :
    later.canWrite held v = h.canWrite held v := by
  rw [Bool.eq_iff_iff, canWrite_iff, canWrite_iff]
  refine forall_congr' fun s => ?_
  rw [hv.occurs_iff]
  refine imp_congr_right fun hs => ?_
  rw [hv.inside_iff hs]

end DocumentModel.Heap
