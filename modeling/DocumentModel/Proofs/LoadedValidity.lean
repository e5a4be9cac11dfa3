/-
Validity after loading.

What a save writes is JSON, and what is loaded is judged anew.  Each value in order comes back as
one in order, except for a number that is not finite: JSON has no form for it but null, which is no
value for a field that requires one.
-/
import DocumentModel.Proofs.ExtendedJson
import DocumentModel.Proofs.ReadBack
import DocumentModel.Proofs.Reading
import DocumentModel.Proofs.Rules
import DocumentModel.Proofs.SaveTimes

namespace DocumentModel

namespace Instant

/-- An instant that there is: its second lies between the first and the last, and its nanoseconds
are those of a second or of a leap second. -/
structure Real (t : Instant) : Prop where
  earliest : Instant.earliest.seconds ≤ t.seconds
  latest : t.seconds ≤ Instant.latest.seconds
  nanos : t.nanos < 2000000000

theorem Real.fitsInt64 {t : Instant} (ht : t.Real) : Value.fitsInt64 t.floorMillis = true := by
  obtain ⟨hearliest, hlatest, hnanos⟩ := ht
  have hmin : Int64.minValue.toInt = -9223372036854775808 := by decide
  have hmax : Int64.maxValue.toInt = 9223372036854775807 := by decide
  rw [Value.fitsInt64, Bool.and_eq_true, decide_eq_true_iff, decide_eq_true_iff, floorMillis]
  simp only [Instant.earliest, Instant.latest] at hearliest hlatest
  omega

end Instant

namespace Field

variable {h : Heap} {f : Field} {v : Value} (document : DocRef → Json) (list : ListRef → Json)

/-- JSON can carry what a field holds, as far as the field requires a value. -/
def Carries (f : Field) (v : Value) : Prop :=
  f.required = true → ∀ x, v = .float x → x.isFinite = true

/-- What is in order in a plain field is null or of the kind of the field. -/
theorem holdsKind_of_messages_eq_nil (hplain : f.kind.schema? = none)
    (hadmits : f.kind.Admits h v) (hvalid : f.messages h v = []) :
    v = .null ∨ f.holdsKind v = true := by
  obtain ⟨name, required, default?, kind⟩ := f
  have hmessages := (List.append_eq_nil_iff.mp hvalid).2
  cases kind with
  | string rules => exact hadmits.imp_right fun ⟨s, hv, _⟩ => by rw [hv]; rfl
  | array lengths check? => exact hadmits.imp_right fun ⟨items, hv⟩ => by rw [hv]; rfl
  | embedded schema => cases hplain
  | list schema => cases hplain
  | float range =>
      cases v with
      | int n => exact absurd rfl (hadmits n)
      | null => exact Or.inl rfl
      | float x => exact Or.inr rfl
      | _ => cases hmessages
  | _ => cases v <;> first | exact Or.inl rfl | exact Or.inr rfl | cases hmessages

/-- For plain fields the heap does not matter. -/
theorem messages_plain (hplain : f.kind.schema? = none) (h h' : Heap) (v : Value) :
    f.messages h v = f.messages h' v := by
  obtain ⟨name, required, default?, kind⟩ := f
  cases kind with
  | embedded schema => cases hplain
  | list schema => cases hplain
  | _ => cases v <;> rfl

/-- What is of the kind of a plain field, written and read, is judged as it was, unless it is a
number that is not finite. -/
theorem messages_ofJson (hholds : f.holdsKind v = true)
    (hdates : ∀ t, v = .instant t → Value.fitsInt64 t.floorMillis = true)
    (hfinite : ∀ x, v = .float x → x.isFinite = true) (h : Heap) :
    f.messages h (.ofJson (v.toJsonWith document list)) = f.messages h v := by
  obtain ⟨name, required, default?, kind⟩ := f
  cases v with
  | float x => simp [Value.toJsonWith, hfinite x rfl, Value.ofJson]
  | int n => rw [Value.toJsonWith, Value.ofJson_toInt]
  | objectId id =>
      simp only [Value.toJsonWith, ObjectId.toJson, Value.ofJson, Value.ofWrapper?,
        ObjectId.parse?_toHex, Option.map_some, Option.getD_some]
  | instant t =>
      have hread := Value.dateMillis?_dateMember (hdates t rfl)
      cases kind with
      | dateTime =>
          simp only [Value.toJsonWith, Instant.toJson, Value.ofJson, Value.ofWrapper?, hread,
            Option.map_some, Option.getD_some]
          rfl
      | _ => cases hholds
  | array items =>
      cases kind with
      | array lengths check? =>
          rw [Value.toJsonWith, Value.ofJson, Value.ofItems_eq_map, Value.itemsToJson_eq_map]
          simp [messages, isAbsent, Kind.messages]
      | _ => cases hholds
  | bool b => rfl
  | text s => rfl
  | _ => cases kind <;> cases hholds

/-- A plain field takes over what is written for a value that it may hold. -/
theorem accepts_toJsonWith (hadmits : f.kind.Admits h v)
    (hholds : v = .null ∨ f.holdsKind v = true) :
    f.kind.Accepts (v.toJsonWith document list) := by
  obtain ⟨name, required, default?, kind⟩ := f
  cases kind with
  | string rules =>
      exact hadmits.imp (by rintro rfl; rfl) fun ⟨s, hv, hbare⟩ => ⟨s, by rw [hv]; rfl, hbare⟩
  | array lengths check? =>
      exact hadmits.imp (by rintro rfl; rfl) fun ⟨items, hv⟩ => ⟨_, by rw [hv]; rfl⟩
  | float range =>
      rcases hholds with rfl | hholds
      · exact fun _ => by simp [Value.toJsonWith]
      · cases v with
        | float x =>
            rw [Value.toJsonWith]
            split <;> exact fun _ heq => by cases heq
        | _ => cases hholds
  | objectId =>
      rcases hholds with rfl | hholds
      · exact fun _ heq => by cases heq
      · cases v with
        | objectId id => exact fun _ heq => by cases heq
        | _ => cases hholds
  | _ => trivial

/-- A plain field that is in order, written and read, is in order again exactly if JSON can carry
what it holds. -/
theorem messages_ofJson_eq_nil_iff (hplain : f.kind.schema? = none) (hvalid : f.messages h v = [])
    (hholds : v = .null ∨ f.holdsKind v = true)
    (hdates : ∀ t, v = .instant t → Value.fitsInt64 t.floorMillis = true) (h' : Heap) :
    f.messages h' (.ofJson (v.toJsonWith document list)) = [] ↔ f.Carries v := by
  rcases hholds with rfl | hholds
  · rw [messages_plain hplain h h'] at hvalid
    exact ⟨fun _ _ x hx => (by cases hx), fun _ => hvalid⟩
  · by_cases hfinite : ∀ x, v = .float x → x.isFinite = true
    · rw [messages_ofJson document list hholds hdates hfinite, messages_plain hplain h' h]
      exact ⟨fun _ _ => hfinite, fun _ => hvalid⟩
    · -- what is not finite comes back as null
      push Not at hfinite
      obtain ⟨x, rfl, hnot⟩ := hfinite
      obtain ⟨name, required, default?, kind⟩ := f
      cases kind with
      | float range =>
          cases required <;>
            simp [Value.toJsonWith, hnot, Value.ofJson, messages, isAbsent, Kind.messages,
              Value.isNull, Carries]
      | _ => cases hholds

/-- A field for documents asks for nothing but a value, if it requires one. -/
theorem messages_held {schema : Schema} (hkind : f.kind.schema? = some schema) :
    f.messages h v = [] ↔ (f.required = true → f.isAbsent h v = false) := by
  obtain ⟨name, required, default?, kind⟩ := f
  have hnone : ∀ absent, kind.messages required absent v = [] := by
    intro absent
    cases kind <;> cases hkind <;> cases v <;> rfl
  rw [messages, hnone]
  cases required <;> simp

/-- A field for documents has a value again exactly if it had one. -/
theorem isAbsent_of_reads {schema : Schema} (hkind : f.kind.schema? = some schema)
    (hadmits : f.kind.Admits h v) {h' : Heap} {depth : Nat} {w : Value} {refused : Bool}
    (hreads : f.kind.Reads h' (h.toJsonAt depth v) w refused) :
    f.isAbsent h' w = f.isAbsent h v := by
  obtain ⟨name, required, default?, kind⟩ := f
  cases kind with
  | embedded schema =>
      rcases hadmits with rfl | ⟨r, rfl, _⟩
      · obtain rfl : w = .null := hreads
        rfl
      · obtain ⟨inner, rfl⟩ := hreads
        rfl
  | list schema =>
      obtain ⟨r, l, rfl, hl, _⟩ := hadmits
      obtain ⟨own, l', rfl, hl', hlength⟩ := hreads
      have hitems : h.items r = l.items := by simp [Heap.items, hl]
      have hitems' : h'.items own = l'.items := by simp [Heap.items, hl']
      have hsame : l'.items.length = l.items.length := by
        rw [hlength, hitems, List.countP_map]
        exact List.countP_eq_length.mpr fun _ _ => rfl
      change (h'.items own).isEmpty = (h.items r).isEmpty
      rw [hitems, hitems', Bool.eq_iff_iff, List.isEmpty_iff, List.isEmpty_iff,
        ← List.length_eq_zero_iff, ← List.length_eq_zero_iff, hsame]
  | _ => cases hkind

/-- A field for documents never holds a number. -/
theorem carries_held {schema : Schema} (hkind : f.kind.schema? = some schema)
    (hadmits : f.kind.Admits h v) : f.Carries v := by
  rintro - x rfl
  cases hk : f.kind with
  | embedded schema => simp [hk, Kind.Admits] at hadmits
  | list schema => simp [hk, Kind.Admits] at hadmits
  | _ => simp [hk, Kind.schema?] at hkind

/-- A date-time field that is in order holds no number. -/
theorem carries_dateTime (hkind : f.kind = .dateTime) (hvalid : f.messages h v = []) :
    f.Carries v := by
  rintro - x rfl
  simp [messages, hkind, Kind.messages, Value.isNull, Value.asInstant?] at hvalid

end Field

open Heap

variable {types : List Schema}

/-- A field that was in order and is filled from what was written for it is in order exactly if JSON
can carry what it held. -/
theorem Document.faults_of_reads (hdecl : Declared types) {h later : Heap}
    (hsound : h.Sound types) {r : DocRef} {d : Document} (hd : h.document? r = some d) {f : Field}
    (hf : f ∈ d.schema.fields) (hvalid : f.messages h (d.value f.name) = [])
    (hdates : ∀ t, d.value f.name = .instant t → Value.fitsInt64 t.floorMillis = true)
    (hlater : later.Sound types) {r' : DocRef} {d' : Document}
    (hd' : later.document? r' = some d') (hf' : f ∈ d'.schema.fields) {depth : Nat}
    (hreads : later.FieldReads r' f (h.toJsonAt depth (d.value f.name))) :
    d'.faults later f = [] ↔ f.Carries (d.value f.name) := by
  obtain ⟨slot, hslot, hfits⟩ := hsound.slot_of_field hdecl hd hf
  have hadmits : f.kind.Admits h (d.value f.name) := value_of_slot? hslot ▸ hfits.value
  obtain ⟨e, he, hread⟩ := hreads
  obtain rfl := Option.some.inj (he.symm.trans hd')
  rw [faults]
  cases hkind : f.kind.schema? with
  | none =>
      have hholds := Field.holdsKind_of_messages_eq_nil hkind hadmits hvalid
      obtain ⟨hvalue, hrefused⟩ := (Kind.reads_plain hkind).mp hread
        (Field.accepts_toJsonWith _ _ hadmits hholds)
      rw [hrefused, hvalue]
      exact Field.messages_ofJson_eq_nil_iff _ _ hkind hvalid hholds hdates later
  | some schema =>
      have hrefused : e.refused f.name = false := by
        obtain ⟨slot', hslot', hfits'⟩ := hlater.slot_of_field hdecl hd' hf'
        rw [refused, hslot']
        by_contra hnot
        have harray := (hfits'.rejected (by simpa using hnot)).1
        cases hk : f.kind <;> simp [hk, Kind.schema?, Kind.isArray] at hkind harray
      rw [Field.messages_held hkind] at hvalid
      rw [hrefused]
      change f.messages later (e.value f.name) = [] ↔ _
      rw [Field.messages_held hkind, Field.isAbsent_of_reads hkind hadmits hread]
      exact ⟨fun _ => Field.carries_held hkind hadmits, fun _ => hvalid⟩

theorem Document.value_foldl_timed_of_not_mem (now : Instant) {f : Field} {names : List String}
    (hname : f.name ∉ names) (d : Document) :
    (names.foldl (timed now) d).value f.name = d.value f.name := by
  induction names generalizing d with
  | nil => rfl
  | cons name rest ih =>
      rw [List.mem_cons, not_or] at hname
      rw [List.foldl_cons, ih hname.2, value_timed_of_ne now d hname.1]

/-- Without a check for its items there is nothing to report about the items of a field. -/
theorem Session.itemErrors_plain (s : Session) (d : Document) {f : Field}
    (hplain : f.kind.checksItems = false) : s.itemErrors d f = .empty := by
  rw [itemErrors, Kind.checkItems_plain _ d f.name _ _ hplain]

namespace Store

variable {s : Session}

/-- If the time of a save goes into date-time fields only, each field is in order after the save,
and JSON can carry what it holds exactly if it could before. -/
theorem save_in_order (hs : Reachable types s) {store : Store} {p : Persisted} {d : Document}
    (hd : s.heap.document? p.document = some d)
    (htimes : ∀ f ∈ d.schema.fields, f.name ∈ store.timeFields p.isNew → f.kind = .dateTime)
    {now : Instant} {fresh : ObjectId} {took : String}
    (hresult : (store.save p now fresh took s).result = .ok true) :
    ∃ d', (store.save p now fresh took s).session.heap.document? p.document = some d' ∧
      d'.schema = d.schema ∧ ∀ f ∈ d.schema.fields,
        f.messages (store.save p now fresh took s).session.heap (d'.value f.name) = [] ∧
        (f.Carries (d'.value f.name) ↔ f.Carries (d.value f.name)) := by
  obtain ⟨hvalid, hlists, e, hd'⟩ := save_document hd hresult
  refine ⟨_, hd', Document.schema_foldl_timed now _ _, fun f hf => ?_⟩
  generalize (store.save p now fresh took s).session.heap = later at hlists
  have hnodup := hs.declared.fieldNames_nodup (hs.sound.schema hd)
  have hfield := Schema.field?_of_mem hnodup hf
  obtain ⟨slot, hslot, _⟩ := hs.sound.slot_of_field hs.declared hd hf
  have hbefore := ((Session.validate_eq_true_iff hd hnodup).mp hvalid f hf).1
  have hcleared : Document.faults later { d with errors := e } f = [] :=
    (Document.faults_congr hlists rfl).trans hbefore
  have hafter := (Document.faults_foldl_timed_eq_nil_iff (d := { d with errors := e }) later now
    hfield (Option.isSome_of_mem hslot) hcleared (store.timeFields p.isNew)).mpr
    fun hname => by rw [htimes f hf hname]; rfl
  rw [Document.faults, List.append_eq_nil_iff] at hbefore hafter
  refine ⟨hafter.2, ?_⟩
  by_cases hname : f.name ∈ store.timeFields p.isNew
  · have hkind := htimes f hf hname
    exact ⟨fun _ => Field.carries_dateTime hkind hbefore.2,
      fun _ => Field.carries_dateTime hkind hafter.2⟩
  · rw [Document.value_foldl_timed_of_not_mem now hname]
    rfl

end Store

/-- A document that was saved is valid again when it is loaded, exactly if no field that requires a
number held one that is not finite.  Its type has no item checks, the time of the save goes into
date-time fields, documents of the types concerned can be made, its date-times are such as there
are, the clock shows a date that there is, and a generated identifier is new. -/
theorem valid_after_load {types : List Schema} {s : Session} (hs : Reachable types s)
    {store : Store} {p : Persisted} {d : Document} (hd : s.heap.document? p.document = some d)
    (hschema : d.schema = store.schema)
    (hplain : ∀ f ∈ d.schema.fields, f.kind.checksItems = false)
    (htimes : ∀ f ∈ d.schema.fields, f.name ∈ store.timeFields p.isNew → f.kind = .dateTime)
    (hmakes : ∀ t, d.schema.Nests t → ∃ made, (t.instantiate s.heap).1 = .ok made)
    (hdates : ∀ f ∈ d.schema.fields, ∀ t, d.value f.name = .instant t → t.Real)
    {now : Instant} (hnow : Instant.inRange now.floorMillis = true) {fresh : ObjectId}
    (hfresh : p.id? = none → store.collection.find? fresh = none) {took : String}
    {saved : Store.Saved} (hsaved : store.save p now fresh took s = saved)
    (hresult : saved.result = .ok true) :
    ∃ id, saved.document = ⟨p.document, some id⟩ ∧ ∀ took' : String, ∃ found later,
      saved.store.findOne id took' saved.session = (.ok (some ⟨found, some id⟩), later) ∧
      ((later.validate found).1 = true ↔ ∀ f ∈ d.schema.fields, f.Carries (d.value f.name)) := by
  subst hsaved
  have hdecl := hs.declared
  obtain ⟨d', hd', hschema', horder⟩ := Store.save_in_order hs hd htimes hresult
  obtain ⟨hdocument, hstore, hrestamped, ⟨stored, hfound, hmembers⟩, _, _⟩ :=
    Store.save_writes hdecl hs.sound (by rw [hd]; rfl) hnow hfresh hresult
  have hchanges := store.save_changes hdecl hs.sound p now fresh took
  generalize store.save p now fresh took s = saved at *
  have hsound := hchanges.sound hdecl hs.sound
  refine ⟨_, hdocument, fun took' => ?_⟩
  have hwritten : ∀ f ∈ d.schema.fields, ∀ t, d'.value f.name = .instant t →
      Value.fitsInt64 t.floorMillis = true := by
    intro f hf t ht
    obtain ⟨before, hbefore, _, hvalues⟩ := hrestamped.documents hd'
    obtain rfl := Option.some.inj (hbefore.symm.trans hd)
    rcases hvalues f hf with hsame | ⟨_, hstamped⟩
    · exact (hdates f hf t (hsame ▸ ht)).fitsInt64
    · rw [ht] at hstamped
      cases hstamped with
      | instant hrange => exact Instant.fitsInt64_of_inRange hrange
  have hconstructs : ∀ t, d.schema.Nests t → t.Constructs types saved.session.heap := by
    intro t ht
    obtain ⟨made, hmade⟩ := hmakes t ht
    exact (hs.constructs (hdecl.mem_of_nests (hs.sound.schema hd) ht) hmade).mono hchanges.grows
  have hmem := hs.sound.schema hd
  obtain ⟨found, heap, hrun, dl, hdl, hsame, hreads⟩ :=
    Schema.hydrate_reads hdecl hsound stored d.schema hmem (Or.inl hconstructs)
  have hruns := (Schema.hydrate_runs hdecl hsound.ready stored d.schema hmem).1
  rw [hrun] at hruns
  rw [hschema, ← hstore] at hrun
  obtain ⟨later, hfind, rfl⟩ := Store.findOne_of_hydrate hfound hrun took'
  refine ⟨found, later, hfind, ?_⟩
  rw [Session.validate_eq_true_iff hdl (hsame ▸ hdecl.fieldNames_nodup hmem), hsame]
  refine forall₂_congr fun f hf => ?_
  obtain ⟨hvalid, hcarries⟩ := horder f hf
  have hf' : f ∈ d'.schema.fields := hschema' ▸ hf
  obtain ⟨depth, hmember⟩ := exists_mem_data hd' hf'
  have hfaults := Document.faults_of_reads hdecl hsound hd' hf' hvalid (hwritten f hf)
    (hruns.sound hdecl hsound) hdl (hsame ▸ hf) (hreads f hf _ (hmembers _ hmember))
  rw [later.itemErrors_plain dl (hplain f hf), hfaults, hcarries]
  exact and_iff_left rfl

/-! A measurement with a reading, and one whose reading is not a number. -/

def measurementFields : List Field :=
  [⟨"reading", true, none, .float ⟨none, some 100⟩⟩, ⟨"taken", false, none, .dateTime⟩]

def measurementType : Schema :=
  .document 0 "Measurement" measurementFields

def measurementRun (reading : Float) : Session :=
  [.new measurementType, .set ⟨0⟩ "reading" (.float reading)].foldl Operation.perform .empty

def measurementStore : Store :=
  ⟨measurementType, "measurements", .empty, ⟨"created_at", "taken", true⟩⟩

def savedMeasurement (reading : Float) : Store.Saved :=
  measurementStore.save (.ofDocument ⟨0⟩) ⟨1700000000, 0⟩ (personId 7) "0" (measurementRun reading)

def loadedMeasurement (reading : Float) : Except StoreError (Option Persisted) × Session :=
  (savedMeasurement reading).store.findOne (personId 7) "0" (savedMeasurement reading).session

theorem measurementRun_reachable (reading : Float) :
    Reachable [measurementType] (measurementRun reading) := by
  have hstart : Reachable [measurementType] .empty :=
    .of_plain (by simp [measurementFields, Kind.schema?])
  exact hstart.run (by simp [Operation.Over, Value.Proper.float])

theorem measurementType_nests {t : Schema} (ht : measurementType.Nests t) :
    t = measurementType := by
  induction ht with
  | refl => rfl
  | tail _ hstep ih =>
      obtain ⟨f, hf, hkind⟩ := hstep
      rw [ih] at hf
      have hfields : f ∈ measurementFields := hf
      simp only [measurementFields, List.mem_cons, List.not_mem_nil, or_false] at hfields
      rcases hfields with rfl | rfl <;> cases hkind

/-- A reading of 1.5 is valid when it is loaded. -/
theorem valid_after_load_measurement :
    ∃ found later, loadedMeasurement 1.5 = (.ok (some ⟨found, some (personId 7)⟩), later) ∧
      (later.validate found).1 = true := by
  obtain ⟨d, hd, hschema⟩ : ∃ d, (measurementRun 1.5).heap.document? ⟨0⟩ = some d ∧
      d.schema = measurementType := ⟨_, rfl, rfl⟩
  have hfields : ∀ f ∈ d.schema.fields, f = ⟨"reading", true, none, .float ⟨none, some 100⟩⟩ ∨
      f = ⟨"taken", false, none, .dateTime⟩ := by
    intro f hf
    rw [hschema] at hf
    have hmem : f ∈ measurementFields := hf
    simpa [measurementFields] using hmem
  have hplain : ∀ f ∈ d.schema.fields, f.kind.checksItems = false := by
    intro f hf
    rcases hfields f hf with rfl | rfl <;> rfl
  have htimes : ∀ f ∈ d.schema.fields,
      f.name ∈ measurementStore.timeFields true → f.kind = .dateTime := by
    intro f hf hname
    rcases hfields f hf with rfl | rfl
    · simp [Store.timeFields, measurementStore] at hname
    · rfl
  have hmakes : ∀ t, d.schema.Nests t →
      ∃ made, (t.instantiate (measurementRun 1.5).heap).1 = .ok made := by
    intro t ht
    rw [hschema] at ht
    rw [measurementType_nests ht]
    exact ⟨⟨1⟩, rfl⟩
  have hdates : ∀ f ∈ d.schema.fields, ∀ t, d.value f.name = .instant t → t.Real := by
    intro f hf t ht
    obtain rfl := Option.some.inj hd
    rcases hfields f hf with rfl | rfl <;> cases ht
  have hcarries : ∀ f ∈ d.schema.fields, f.Carries (d.value f.name) := by
    intro f hf _ x hx
    obtain rfl := Option.some.inj hd
    rcases hfields f hf with rfl | rfl
    · obtain rfl : (1.5 : Float) = x := Value.float.inj hx
      decide +kernel
    · cases hx
  have hsaved : measurementStore.save (.ofDocument ⟨0⟩) ⟨1700000000, 0⟩ (personId 7) "0"
      (measurementRun 1.5) = savedMeasurement 1.5 := rfl
  have hresult : (savedMeasurement 1.5).result = .ok true := by decide +kernel
  obtain ⟨id, hid, hload⟩ := valid_after_load (measurementRun_reachable 1.5)
    (p := .ofDocument ⟨0⟩) hd hschema hplain htimes hmakes hdates (by decide) (fun _ => rfl) hsaved
    hresult
  obtain rfl : id = personId 7 := by
    have hnew : (savedMeasurement 1.5).document = ⟨⟨0⟩, some (personId 7)⟩ := by decide +kernel
    rw [hnew] at hid
    exact (Option.some.inj (congrArg Persisted.id? hid)).symm
  obtain ⟨found, later, hfind, hvalid⟩ := hload "0"
  exact ⟨found, later, hfind, hvalid.mpr hcarries⟩

/-- A reading that is not a number is valid when it is saved, and missing when it is loaded. -/
theorem valid_after_load_not_a_number :
    Reachable [measurementType] (measurementRun (0 / 0)) ∧
      (savedMeasurement (0 / 0)).result = .ok true ∧
      (loadedMeasurement (0 / 0)).1 = .ok (some ⟨⟨1⟩, some (personId 7)⟩) ∧
      ((loadedMeasurement (0 / 0)).2.validate ⟨1⟩).1 = false :=
  ⟨measurementRun_reachable _, by decide +kernel⟩

end DocumentModel
