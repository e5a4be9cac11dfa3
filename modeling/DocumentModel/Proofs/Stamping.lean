/-
What a save does to documents.

Validation replaces errors, and the time of a save is put into fields that hold no documents.  What
is put there is an empty sequence, a text or a date-time, so a restorable document stays restorable,
and a save of a document that does not contain itself has something to write.
-/
import DocumentModel.Proofs.Flattening
import DocumentModel.Proofs.Store
import DocumentModel.Proofs.Writing

namespace DocumentModel

/-- A value that a time is stored as: what is refused leaves an empty sequence. -/
inductive Value.Stamped : Value → Prop
  | refused : Stamped (.array [])
  | text (s : String) : Stamped (.text s)
  | instant {t : Instant} (hrange : Instant.inRange t.floorMillis = true) : Stamped (.instant t)

/-- What assigning a time does to a field of a kind. -/
def Kind.timed (now : Instant) : Kind → Assignment
  | .array _ _ => .reject
  | .embedded _ => .keep
  | .list _ => .keep
  | .string _ => .store (.text (Text.trim (Time.rfc3339 now)))
  | _ => .store (.instant now)

/-- The document with a time assigned to a field, if it has that field. -/
def Document.timed (now : Instant) (d : Document) (name : String) : Document :=
  match d.schema.field? name, d.slot? name with
  | some f, some slot => d.putSlot ((f.kind.timed now).apply slot)
  | _, _ => d

namespace Document

variable {d : Document} {f : Field} {name : String}

theorem schema_timed (now : Instant) (d : Document) (name : String) :
    (d.timed now name).schema = d.schema := by
  rw [timed]
  split <;> rfl

theorem slot?_timed_of_ne (now : Instant) (d : Document) (hne : f.name ≠ name) :
    (d.timed now name).slot? f.name = d.slot? f.name := by
  rw [timed]
  split
  · next g slot hfield hslot =>
      have hname : (((g.kind.timed now).apply slot)).name = name := by
        rw [Assignment.name_apply]
        exact (mem_of_slot? hslot).2
      exact slot?_putSlot_of_ne d _ (by rw [hname]; exact Ne.symm hne)
  · rfl

theorem slot?_timed_self (now : Instant) (hfield : d.schema.field? f.name = some f) {slot : Slot}
    (hslot : d.slot? f.name = some slot) :
    (d.timed now f.name).slot? f.name = some ((f.kind.timed now).apply slot) := by
  have hname : ((f.kind.timed now).apply slot).name = f.name := by
    rw [Assignment.name_apply]
    exact (mem_of_slot? hslot).2
  have hself := slot?_putSlot_self d ((f.kind.timed now).apply slot)
    (by rw [hname, hslot]; rfl)
  rw [hname] at hself
  simp only [timed, hfield, hslot, hself]

theorem value_timed_of_ne (now : Instant) (d : Document) (hne : f.name ≠ name) :
    (d.timed now name).value f.name = d.value f.name := by
  rw [value, value?, slot?_timed_of_ne now d hne]
  rfl

/-- A field keeps what it holds, or has a value without documents. -/
theorem value_timed (now : Instant) (d : Document) (name field : String) (h : Heap) :
    (d.timed now name).value field = d.value field ∨
      ∀ s, ¬ h.Occurs (.document s) ((d.timed now name).value field) := by
  rw [timed]
  split
  · next f slot _ hslot =>
      have hname : ((f.kind.timed now).apply slot).name = slot.name :=
        Assignment.name_apply _ _
      by_cases hfield : slot.name = field
      · have hfound : d.slot? slot.name = some slot := by rwa [(mem_of_slot? hslot).2]
        have hself := slot?_putSlot_self d ((f.kind.timed now).apply slot)
          (by rw [hname, hfound]; rfl)
        rw [hname] at hself
        rw [← hfield, value_of_slot? hself, value_of_slot? hfound]
        cases f.kind with
        | embedded schema => exact Or.inl rfl
        | list schema => exact Or.inl rfl
        | array lengths check? =>
            refine Or.inr fun s hs => ?_
            cases hs with
            | item hitem _ => cases hitem
        | _ => exact Or.inr fun s hs => by cases hs
      · refine Or.inl ?_
        rw [value, value?, slot?_putSlot_of_ne d _ (by rwa [hname])]
        rfl
  · exact Or.inl rfl

/-- A field for documents keeps what it holds. -/
theorem slot?_timed_of_schema? (now : Instant) (d : Document) (name : String)
    (hfield : d.schema.field? f.name = some f) (hheld : f.kind.schema? ≠ none) :
    (d.timed now name).slot? f.name = d.slot? f.name := by
  by_cases hname : f.name = name
  · subst hname
    cases hslot : d.slot? f.name with
    | none => simp only [timed, hfield, hslot]
    | some slot =>
        rw [slot?_timed_self now hfield hslot]
        cases hkind : f.kind <;> simp [hkind, Kind.schema?] at hheld <;> rfl
  · exact slot?_timed_of_ne now d hname

end Document

namespace Heap

theorem assign_timed (h : Heap) (f : Field) (current : Value) (now : Instant) :
    h.assign f current (.instant now) = (f.kind.timed now, h) := by
  cases hkind : f.kind <;>
    simp only [assign, hkind, Kind.timed, assignList, offered?, Field.coerce, Field.toText,
      Field.written]

/-- Putting a time into a field changes the document only. -/
theorem stamp_eq {h : Heap} {r : DocRef} {d : Document} (hd : h.document? r = some d)
    (name : String) (now : Instant) :
    Store.stamp h r name now = h.putDocument r (d.timed now name) := by
  rw [Store.stamp, set, hd, Document.timed]
  cases hfield : d.schema.field? name with
  | none => simp only [hfield, putDocument_self hd]
  | some f =>
      cases hslot : d.slot? name with
      | none => simp only [hfield, hslot, putDocument_self hd]
      | some slot => simp only [hfield, hslot, assign_timed]

theorem document?_stamp {h : Heap} {r : DocRef} {d : Document} (hd : h.document? r = some d)
    (name : String) (now : Instant) :
    (Store.stamp h r name now).document? r = some (d.timed now name) := by
  rw [stamp_eq hd]
  exact document?_putDocument_self _ _ (by rw [hd]; rfl)

theorem lists_stamp {h : Heap} {r : DocRef} {d : Document} (hd : h.document? r = some d)
    (name : String) (now : Instant) : (Store.stamp h r name now).lists = h.lists := by
  rw [stamp_eq hd]
  rfl

/-- Documents keep their types and their values, except for some values that hold no document. -/
structure Plainer (h later : Heap) : Prop where
  lists : ∀ l, later.list? l = h.list? l
  documents : ∀ {r d'}, later.document? r = some d' → ∃ d, h.document? r = some d ∧
    d'.schema = d.schema ∧ ∀ f ∈ d.schema.fields, d'.value f.name = d.value f.name ∨
      ∀ s, ¬ later.Occurs (.document s) (d'.value f.name)

section

variable {h later : Heap} {r s : DocRef}

/-- A document that is inside a value was inside it before. -/
theorem Plainer.occurs_document (hlater : h.Plainer later) {v : Value}
    (hr : later.Occurs (.document r) v) : h.Occurs (.document r) v := by
  induction hr with
  | self => exact .self
  | item hv _ ih => exact .item hv ih
  | entry he _ ih => exact .entry he ih
  | listItem hl hitem _ ih =>
      rw [hlater.lists] at hl
      exact .listItem hl hitem ih
  | field hd' hf hr ih =>
      obtain ⟨d, hd, hschema, hvalues⟩ := hlater.documents hd'
      rcases hvalues _ (hschema ▸ hf) with hsame | hnone
      · exact .field hd (hschema ▸ hf) (hsame ▸ ih)
      · exact absurd hr (hnone r)

theorem Plainer.inside (hlater : h.Plainer later) (hs : later.Inside s r) : h.Inside s r := by
  obtain ⟨d', hd', f, hf, hoccurs⟩ := hs
  obtain ⟨d, hd, hschema, hvalues⟩ := hlater.documents hd'
  refine ⟨d, hd, f, hschema ▸ hf, ?_⟩
  rcases hvalues f (hschema ▸ hf) with hsame | hnone
  · exact hsame ▸ hlater.occurs_document hoccurs
  · exact absurd hoccurs (hnone s)

/-- A document that did not contain itself still does not. -/
theorem Plainer.acyclic (hlater : h.Plainer later) (hr : h.Acyclic r) : later.Acyclic r :=
  fun s hs hinside => hr s (hlater.occurs_document hs) (hlater.inside hinside)

/-- Where only errors are replaced, documents keep their types and what they hold. -/
theorem Marked.document?_before (hmarked : Marked h later) {d' : Document}
    (hd' : later.document? r = some d') : ∃ d, h.document? r = some d ∧ d'.schema = d.schema ∧
      ∀ name, d'.value name = d.value name := by
  obtain ⟨d, hd⟩ : ∃ d, h.document? r = some d := by
    have hlt := document?_lt hd'
    rw [hmarked.documents_length] at hlt
    exact ⟨_, List.getElem?_eq_getElem hlt⟩
  obtain ⟨e, he⟩ := hmarked.document? hd
  obtain rfl := Option.some.inj (hd'.symm.trans he)
  exact ⟨d, hd, rfl, fun _ => rfl⟩

theorem Marked.plainer (hmarked : Marked h later) : h.Plainer later where
  lists l := by rw [list?, list?, hmarked.lists]
  documents hd' := by
    obtain ⟨d, hd, hschema, hvalues⟩ := hmarked.document?_before hd'
    exact ⟨d, hd, hschema, fun f _ => Or.inl (hvalues f.name)⟩

theorem stamp_plainer (h : Heap) (r : DocRef) (name : String) (now : Instant) :
    h.Plainer (Store.stamp h r name now) := by
  cases hd : h.document? r with
  | none =>
      rw [Store.stamp, set, hd]
      exact ⟨fun _ => rfl, fun hd => ⟨_, hd, rfl, fun _ _ => Or.inl rfl⟩⟩
  | some d =>
      rw [stamp_eq hd]
      refine ⟨fun l => rfl, fun {s found} hfound => ?_⟩
      rcases document?_putDocument hd hfound with ⟨rfl, rfl⟩ | ⟨_, hold⟩
      · exact ⟨d, hd, Document.schema_timed now d name,
          fun f _ => Document.value_timed now d name f.name _⟩
      · exact ⟨found, hold, rfl, fun _ _ => Or.inl rfl⟩

end

/-- Documents keep their types and their values, except where a time was put. -/
structure Restamped (h later : Heap) : Prop where
  lists : ∀ l, later.list? l = h.list? l
  documents : ∀ {r d'}, later.document? r = some d' → ∃ d, h.document? r = some d ∧
    d'.schema = d.schema ∧ ∀ f ∈ d.schema.fields, d'.value f.name = d.value f.name ∨
      (f.kind.schema? = none ∧ (d'.value f.name).Stamped)

variable {types : List Schema} {h later final : Heap}

theorem Restamped.refl (h : Heap) : h.Restamped h :=
  ⟨fun _ => rfl, fun hd => ⟨_, hd, rfl, fun _ _ => Or.inl rfl⟩⟩

theorem Restamped.trans (hlater : h.Restamped later) (hfinal : later.Restamped final) :
    h.Restamped final where
  lists l := (hfinal.lists l).trans (hlater.lists l)
  documents hd'' := by
    obtain ⟨d', hd', hschema', hvalues'⟩ := hfinal.documents hd''
    obtain ⟨d, hd, hschema, hvalues⟩ := hlater.documents hd'
    refine ⟨d, hd, hschema'.trans hschema, fun f hf => ?_⟩
    rcases hvalues' f (hschema ▸ hf) with hsame | hstamped
    · rw [hsame]
      exact hvalues f hf
    · exact Or.inr hstamped

theorem Marked.restamped (hmarked : Marked h later) : h.Restamped later where
  lists l := by rw [list?, list?, hmarked.lists]
  documents hd' := by
    obtain ⟨d, hd, hschema, hvalues⟩ := hmarked.document?_before hd'
    exact ⟨d, hd, hschema, fun f _ => Or.inl (hvalues f.name)⟩

/-- A field that a time was assigned to holds the time, or what it held if it is for documents. -/
theorem value_timed_self {d : Document} {f : Field} {now : Instant}
    (hnow : Instant.inRange now.floorMillis = true) (hfield : d.schema.field? f.name = some f)
    {slot : Slot} (hslot : d.slot? f.name = some slot) :
    (d.timed now f.name).value f.name = d.value f.name ∨
      (f.kind.schema? = none ∧ ((d.timed now f.name).value f.name).Stamped) := by
  rw [Document.value_of_slot? (Document.slot?_timed_self now hfield hslot),
    Document.value_of_slot? hslot]
  cases f.kind with
  | array lengths check? => exact Or.inr ⟨rfl, .refused⟩
  | embedded schema => exact Or.inl rfl
  | list schema => exact Or.inl rfl
  | string rules => exact Or.inr ⟨rfl, .text _⟩
  | _ => exact Or.inr ⟨rfl, .instant hnow⟩

/-- Putting a time into a field, if there is one of that name, changes nothing else. -/
theorem stamp_restamped (hdecl : Declared types) (hsound : h.Sound types) (r : DocRef)
    (name : String) {now : Instant} (hnow : Instant.inRange now.floorMillis = true) :
    h.Restamped (Store.stamp h r name now) := by
  cases hd : h.document? r with
  | none =>
      rw [Store.stamp, set, hd]
      exact .refl h
  | some d =>
      rw [stamp_eq hd]
      refine ⟨fun l => rfl, fun {s found} hfound => ?_⟩
      rcases document?_putDocument hd hfound with ⟨rfl, rfl⟩ | ⟨_, hold⟩
      · refine ⟨d, hd, Document.schema_timed now d name, fun f hf => ?_⟩
        by_cases hname : f.name = name
        · -- the field that the time went into
          subst hname
          obtain ⟨slot, hslot, _⟩ := hsound.slot_of_field hdecl hd hf
          exact value_timed_self hnow
            (Schema.field?_of_mem (hdecl.fieldNames_nodup (hsound.schema hd)) hf) hslot
        · exact Or.inl (Document.value_timed_of_ne now d hname)
      · exact ⟨found, hold, rfl, fun _ _ => Or.inl rfl⟩

/-! A restorable document stays restorable. -/

/-- Nothing is inside what was put there. -/
theorem Occurs.of_stamped {w v : Value} (hw : h.Occurs w v) (hv : v.Stamped) : w = v := by
  cases hv with
  | refused =>
      cases hw with
      | self => rfl
      | item hitem _ => cases hitem
  | text s =>
      cases hw
      rfl
  | instant hrange =>
      cases hw
      rfl

/-- What is inside a value was inside it before, or was put there. -/
theorem Restamped.occurs (hlater : h.Restamped later) {w v : Value} (hw : later.Occurs w v) :
    h.Occurs w v ∨ w.Stamped := by
  induction hw with
  | self => exact Or.inl .self
  | item hv _ ih => exact ih.imp_left (.item hv)
  | entry he _ ih => exact ih.imp_left (.entry he)
  | listItem hl hitem _ ih =>
      rw [hlater.lists] at hl
      exact ih.imp_left (.listItem hl hitem)
  | @field r d' f hd' hf hw ih =>
      obtain ⟨d, hd, hschema, hvalues⟩ := hlater.documents hd'
      rcases hvalues f (hschema ▸ hf) with hsame | ⟨_, hstamped⟩
      · rw [hsame] at ih
        exact ih.imp_left (.field hd (hschema ▸ hf))
      · obtain rfl := hw.of_stamped hstamped
        exact Or.inr hstamped

/-- What was put there holds no document. -/
theorem Restamped.plainer (hlater : h.Restamped later) : h.Plainer later where
  lists := hlater.lists
  documents hd' := by
    obtain ⟨d, hd, hschema, hvalues⟩ := hlater.documents hd'
    refine ⟨d, hd, hschema, fun f hf => (hvalues f hf).imp_right fun hstamped s hs => ?_⟩
    have hself := hs.of_stamped hstamped.2
    rw [← hself] at hstamped
    cases hstamped.2

/-- Fields that hold documents hold the same ones. -/
theorem Restamped.held (hlater : h.Restamped later) {d d' : Document} {f : Field} {s : Schema}
    (hvalues : d'.value f.name = d.value f.name ∨
      (f.kind.schema? = none ∧ (d'.value f.name).Stamped)) (hkind : f.kind.schema? = some s)
    {inner : DocRef} (hinner : later.Held inner (d'.value f.name)) :
    h.Held inner (d.value f.name) := by
  rcases hvalues with hsame | ⟨hplain, _⟩
  · rw [hsame] at hinner
    rcases hinner with hdocument | ⟨r, l, hr, hl, hitem⟩
    · exact Or.inl hdocument
    · exact Or.inr ⟨r, l, hr, (hlater.lists r) ▸ hl, hitem⟩
  · rw [hkind] at hplain
    cases hplain

theorem Restamped.nested (hlater : h.Restamped later) {r s : DocRef} (hs : later.Nested r s) :
    h.Nested r s := by
  induction hs with
  | self => exact .self
  | held _ hd' hf hkind hinner ih =>
      obtain ⟨d, hd, hschema, hvalues⟩ := hlater.documents hd'
      exact .held ih hd (hschema ▸ hf) hkind
        (hlater.held (hvalues _ (hschema ▸ hf)) hkind hinner)

/-- Whether an object looks like an identifier or a date-time is a matter of its keys. -/
theorem looksWrapped_congr {members members' : Json.Object}
    (hkeys : members.map Prod.fst = members'.map Prod.fst) :
    members.looksWrapped = members'.looksWrapped := by
  match members, members' with
  | [], [] => rfl
  | [(key, _)], [(key', _)] =>
      obtain rfl : key = key' := by simpa using hkeys
      rfl
  | _ :: _ :: _, _ :: _ :: _ => rfl
  | [], _ :: _ => cases hkeys
  | _ :: _, [] => cases hkeys
  | [_], _ :: _ :: _ => simp at hkeys
  | _ :: _ :: _, [_] => simp at hkeys

/-- The keys of mappings and documents stay what they were. -/
theorem Restamped.looksWrapped (hlater : h.Restamped later) {w : Value}
    (hw : later.LooksWrapped w) : h.LooksWrapped w := by
  cases w with
  | map entries =>
      obtain ⟨members, hmembers, hwrapped⟩ := hw
      rw [toJson, Value.toJsonWith, Value.entriesToJson_eq_map, Json.obj.injEq] at hmembers
      refine ⟨_, by rw [toJson, Value.toJsonWith, Value.entriesToJson_eq_map], ?_⟩
      rw [← hwrapped, ← hmembers]
      exact looksWrapped_congr (by simp)
  | document r =>
      cases hd' : later.document? r with
      | none =>
          rw [LooksWrapped, data_eq_nil hd'] at hw
          cases hw
      | some d' =>
          obtain ⟨d, hd, hschema, _⟩ := hlater.documents hd'
          have hkeys : (h.data r).map Prod.fst = (later.data r).map Prod.fst := by
            rw [map_fst_data hd, map_fst_data hd', hschema]
          rw [LooksWrapped, looksWrapped_congr hkeys]
          exact hw
  | _ => exact hw

/-- Documents in embedded and list fields keep their types. -/
theorem Restamped.holds (hlater : h.Restamped later) {suits : Schema → Schema → Prop} {r : DocRef}
    (hr : h.Holds suits r) : later.Holds suits r := by
  intro s d' f schema inner di' hs hd' hf hkind hinner hinner'
  obtain ⟨d, hd, hschema, hvalues⟩ := hlater.documents hd'
  obtain ⟨di, hdi, heq, _⟩ := hlater.documents hinner'
  rw [heq]
  rw [hschema] at hf
  exact hr (hlater.nested hs) hd hf hkind (hlater.held (hvalues _ hf) hkind hinner) hdi

/-- A readable document stays readable. -/
theorem Restamped.readable (hlater : h.Restamped later) {r : DocRef} (hr : h.Readable r) :
    later.Readable r where
  plain {s d' f w} hs hd' hf hkind hw hwrapped := by
    obtain ⟨d, hd, hschema, hvalues⟩ := hlater.documents hd'
    rw [hschema] at hf
    have hbefore : h.Occurs w (d.value f.name) ∨ w.Stamped := by
      rcases hvalues f hf with hsame | ⟨_, hstamped⟩
      · exact hlater.occurs (hsame ▸ hw)
      · exact Or.inr (hw.of_stamped hstamped ▸ hstamped)
    rcases hbefore with hbefore | hstamped
    · exact hr.plain (hlater.nested hs) hd hf hkind hbefore (hlater.looksWrapped hwrapped)
    · cases hstamped <;> exact hwrapped
  dates ht := by
    rcases hlater.occurs ht with hbefore | hstamped
    · exact hr.dates hbefore
    · cases hstamped with
      | instant hrange => exact hrange
  acyclic := hlater.plainer.acyclic hr.acyclic

/-- A restorable document stays restorable. -/
theorem Restamped.restorable (hlater : h.Restamped later) {r : DocRef} (hr : h.Restorable r) :
    later.Restorable r :=
  have hreadable := hlater.readable hr.readable
  ⟨hlater.holds hr.types, hreadable.plain, hreadable.dates, hreadable.acyclic⟩

end Heap

namespace Store

open Heap

/-- Writing a document leaves documents that do not contain themselves so. -/
theorem write_acyclic {s : Session} {r : DocRef} (hr : s.heap.Acyclic r) (store : Store)
    (p : Persisted) (now : Instant) (fresh : ObjectId) (took : String) :
    (store.write p now fresh took s).session.heap.Acyclic r := by
  have hmodified :=
    (stamp_plainer s.heap p.document store.config.modifiedField now).acyclic hr
  rw [write]
  simp only
  split
  · split
    · exact hmodified
    · rwa [heap_log]
  · rw [heap_log]
    exact (stamp_plainer _ p.document store.config.createdField now).acyclic hmodified

/-- A save has a result if the validation has one and the document does not contain itself. -/
theorem save?_of_acyclic {s later : Session} {p : Persisted} {valid : Bool}
    (hends : s.validate? p.document = some (valid, later)) (hr : s.heap.Acyclic p.document)
    (store : Store) (now : Instant) (fresh : ObjectId) (took : String) :
    store.save? p now fresh took s = some (store.save p now fresh took s) := by
  obtain ⟨_, hresult⟩ := Session.validate?_eq_some_iff.mp hends
  rw [save?, hends]
  rcases store.save_cases p now fresh took s with ⟨e, herror, _⟩ | ⟨hinvalid, _⟩ | ⟨_, _, heq⟩
  · rw [herror]
  · rw [hresult] at hinvalid
    obtain rfl : valid = false := hinvalid
    split <;> rfl
  · have hafter : (store.save p now fresh took s).session.heap.Acyclic p.document := by
      rw [heq]
      exact write_acyclic ((s.validate_marked p.document).plainer.acyclic hr) store p now fresh took
    rw [data?_eq_some_iff.mpr ⟨hafter, rfl⟩]
    split
    · rfl
    · cases valid <;> rfl

end Store

end DocumentModel
