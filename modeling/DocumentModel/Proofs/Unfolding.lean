/-
What hydration makes of JSON, place by place.

Where a field has an object or a sequence to fill it from, hydration puts a new document or a new
list there, and what is in them comes of the objects in the same way.  In every other place there is
what was read, which refers to nothing, or what the field started with.  `Heap.Unfolds` says so of
the outcome, and hydration that succeeds unfolds its data.
-/
import DocumentModel.Proofs.Defaults
import DocumentModel.Proofs.Grounding
import DocumentModel.Proofs.Reading
import DocumentModel.Proofs.Relevance

namespace DocumentModel

/-- A value that refers to no document and to no list. -/
def Value.Flat (v : Value) : Prop :=
  v.Within .empty

/-- The declared defaults of a type are values, which documents share; none is made anew. -/
def Schema.ValueDefaults (s : Schema) : Prop :=
  ∀ f ∈ s.fields, ∀ d, f.default? = some d → ∃ v, d = .value v

/-- JSON that a field of a kind has no place for: it is passed over, and the field keeps what it
has. -/
def Kind.KeepsOut : Kind → Json → Prop
  | .embedded _, j => j ≠ .null ∧ ∀ data, j ≠ .obj data
  | .list _, j => ∀ items, j ≠ .arr items
  | _, _ => False

theorem Kind.KeepsOut.not_nests {kind : Kind} {j : Json} (hkept : kind.KeepsOut j) :
    kind.nests j = false := by
  cases kind with
  | embedded schema =>
      cases j with
      | obj data => exact absurd rfl (hkept.2 data)
      | _ => rfl
  | list schema =>
      cases j with
      | arr items => exact absurd rfl (hkept items)
      | _ => rfl
  | _ => cases hkept

/-! ### Values without references -/

theorem Value.Grounded.within {h : Heap} {v : Value} (hv : v.Grounded h) : v.Within h := by
  induction hv with
  | array _ ih => exact .array ih
  | map _ ih => exact .map ih
  | document hd _ _ => exact .document (by rw [hd]; rfl)
  | list hl _ _ => exact .list (by rw [hl]; rfl)
  | _ => constructor

theorem Value.ofJson_flat (j : Json) : (ofJson j).Flat :=
  (ofJson_grounded .empty j).within

theorem Field.coerce_flat {v : Value} (hv : v.Flat) (h : Heap) (f : Field) :
    (f.coerce h v).Flat := by
  rcases f.coerce_cases h v with heq | ⟨x, heq⟩ | ⟨id, heq⟩ | ⟨s, heq⟩ <;> rw [heq]
  · exact hv
  · exact .float x
  · exact .objectId id
  · exact .text s

theorem Value.Flat.of_array {items : List Value} (hitems : (Value.array items).Flat) :
    ∀ v ∈ items, v.Flat := by
  cases hitems with
  | array hitems => exact hitems

theorem Value.Flat.not_document {r : DocRef} : ¬ (Value.document r).Flat := by
  rintro (_ | _ | _ | _ | _ | _ | _ | _ | _ | hr)
  simp [Heap.document?, Heap.empty] at hr

theorem Value.Flat.not_list {l : ListRef} : ¬ (Value.list l).Flat := by
  rintro (_ | _ | _ | _ | _ | _ | _ | _ | _ | _ | hl)
  simp [Heap.list?, Heap.empty] at hl

/-! ### Where fields start from -/

/-- What a field can hold that starts from a declared value or from nothing: a value without
references, the declared value itself, or a list from number `m` on of documents in it. -/
inductive Field.Initial (h : Heap) (m : Nat) (f : Field) : Value → Prop
  | flat {v : Value} (hv : v.Flat) : Initial h m f v
  | declared {v : Value} (hdefault : f.default? = some (.value v)) : Initial h m f v
  | list {own : ListRef} {l : DocumentList} (hown : m ≤ own.index) (hl : h.list? own = some l)
      (hitems : ∀ item ∈ l.items, ∃ values, f.default? = some (.value (.array values)) ∧
        Value.document item ∈ values) : Initial h m f (.list own)

section

variable {h mid next later : Heap} {m : Nat} {f : Field} {v w : Value}

theorem Field.Initial.mono (hv : f.Initial h m v)
    (hlists : ∀ l c, m ≤ l.index → h.list? l = some c → later.list? l = some c) :
    f.Initial later m v := by
  cases hv with
  | flat hv => exact .flat hv
  | declared hdefault => exact .declared hdefault
  | list hown hl hitems => exact .list hown (hlists _ _ hown hl) hitems

theorem Field.Initial.weaken {m' : Nat} (hm : m' ≤ m) (hv : f.Initial h m v) :
    f.Initial h m' v := by
  cases hv with
  | flat hv => exact .flat hv
  | declared hdefault => exact .declared hdefault
  | list hown hl hitems => exact .list (Nat.le_trans hm hown) hl hitems

theorem Heap.stays_addList (h : Heap) (l : DocumentList) : h.Stays (h.addList l).2 :=
  ⟨fun hd => hd, list?_addList_old⟩

/-- A field starts from the value that is declared, or from one without references. -/
theorem Field.Defaults.initial (hvalues : ∀ d, f.default? = some d → ∃ v, d = .value v)
    (hdefault : f.Defaults h v mid) :
    mid = h ∧ (f.default? = some (.value v) ∨ v.Flat) := by
  cases hdefault with
  | declared hsome hrun =>
      obtain ⟨u, rfl⟩ := hvalues _ hsome
      obtain ⟨hv, rfl⟩ := Prod.mk.inj hrun
      obtain rfl := Except.ok.inj hv
      exact ⟨rfl, Or.inl hsome⟩
  | sequence _ _ => exact ⟨rfl, Or.inr (.array (by simp))⟩
  | null _ _ => exact ⟨rfl, Or.inr .null⟩

theorem Field.Takes.initial (hv : f.default? = some (.value v) ∨ v.Flat)
    (htakes : f.Takes h v w later) (hm : m ≤ h.lists.length) :
    h.Stays later ∧ f.Initial later m w := by
  cases htakes with
  | converted _ =>
      refine ⟨.refl h, ?_⟩
      rcases hv with hdefault | hflat
      · rcases f.coerce_cases h v with heq | ⟨x, heq⟩ | ⟨id, heq⟩ | ⟨s, heq⟩ <;> rw [heq]
        · exact .declared hdefault
        · exact .flat (.float x)
        · exact .flat (.objectId id)
        · exact .flat (.text s)
      · exact .flat (f.coerce_flat hflat h)
  | itself _ _ => exact ⟨.refl h, hv.elim .declared .flat⟩
  | @filled schema rs _ heq =>
      refine ⟨h.stays_addList _, .list hm (Heap.list?_addList_self h _) fun item hitem => ?_⟩
      have hmem : Value.document item ∈ rs.map Value.document := List.mem_map_of_mem hitem
      subst heq
      rcases hv with hdefault | hflat
      · exact ⟨_, hdefault, hmem⟩
      · exact absurd (hflat.of_array _ hmem) Value.Flat.not_document
  | empty _ _ => exact ⟨h.stays_addList _, .list hm (Heap.list?_addList_self h _) (by simp)⟩

theorem Heap.Stays.lists_length_le (hstays : h.Stays later) :
    h.lists.length ≤ later.lists.length := by
  cases hlast : h.lists.length with
  | zero => exact Nat.zero_le _
  | succ last =>
      obtain ⟨l, hl⟩ : ∃ l, h.list? ⟨last⟩ = some l :=
        ⟨_, List.getElem?_eq_getElem (hlast ▸ Nat.lt_succ_self last)⟩
      exact list?_lt (hstays.list hl)

theorem Started.initial {fields : List Field} {ws : List Value}
    (hvalues : ∀ f ∈ fields, ∀ d, f.default? = some d → ∃ v, d = .value v)
    (hstarted : Started h fields ws later) (hm : m ≤ h.lists.length) :
    h.Stays later ∧ List.Forall₂ (fun f slot => slot.name = f.name ∧ f.Initial later m slot.value)
      fields (List.zipWith Field.firstSlot fields ws) := by
  induction hstarted with
  | nil h => exact ⟨.refl h, .nil⟩
  | cons hdefault _ htakes _ ih =>
      obtain ⟨hfirst, hrest⟩ := List.forall_mem_cons.mp hvalues
      obtain ⟨rfl, hv⟩ := hdefault.initial hfirst
      obtain ⟨hnext, hinitial⟩ := htakes.initial hv hm
      obtain ⟨hlater, hslots⟩ := ih hrest (Nat.le_trans hm hnext.lists_length_le)
      exact ⟨hnext.trans hlater,
        .cons ⟨rfl, hinitial.mono fun _ _ _ hl => hlater.list hl⟩ hslots⟩

end

/-! ### What is in the place of JSON -/

/-- Where the content of a slot comes from that has been filled from a member, if there is one. -/
inductive Slot.Source (h : Heap) (m : Nat) (f : Field) : Option Json → Slot → Prop
  /-- An object or a sequence that has become a document or a list. -/
  | nested {j : Json} {slot : Slot} (hnests : f.kind.nests j = true)
      (hshared : slot.shared = false) : Source h m f (some j) slot
  | read {j : Json} {slot : Slot} (hnests : f.kind.nests j = false) (hv : slot.value.Flat) :
      Source h m f (some j) slot
  | initial {j? : Option Json} {slot : Slot} (hkept : ∀ j, j? = some j → f.kind.KeepsOut j)
      (hv : f.Initial h m slot.value) : Source h m f j? slot

theorem Slot.Source.mono {h later : Heap} {m : Nat} {f : Field} {j? : Option Json} {slot : Slot}
    (hslot : slot.Source h m f j?)
    (hlists : ∀ l c, m ≤ l.index → h.list? l = some c → later.list? l = some c) :
    slot.Source later m f j? := by
  cases hslot with
  | nested hnests hshared => exact .nested hnests hshared
  | read hnests hv => exact .read hnests hv
  | initial hkept hv => exact .initial hkept (hv.mono hlists)

theorem Slot.Source.weaken {h : Heap} {m m' : Nat} {f : Field} {j? : Option Json} {slot : Slot}
    (hm : m' ≤ m) (hslot : slot.Source h m f j?) : slot.Source h m' f j? := by
  cases hslot with
  | nested hnests hshared => exact .nested hnests hshared
  | read hnests hv => exact .read hnests hv
  | initial hkept hv => exact .initial hkept (hv.weaken hm)

namespace Heap

/-- Some JSON has become a value.  An object is a document of a type, from number `n` on, and each
document that it holds in the place of JSON comes after it.  A sequence is a list from number `m` on
with a document for each object. -/
inductive Unfolds (h : Heap) (m : Nat) : (n : Nat) → Schema → Json → Value → Prop
  | document {n : Nat} {s : Schema} {data : Json.Object} {r : DocRef} {d : Document}
      (hr : n ≤ r.index) (hd : h.document? r = some d) (hschema : d.schema = s)
      (hslots : ∀ f ∈ s.fields, ∀ slot, d.slot? f.name = some slot →
        slot.Source h m f (data.get? f.name))
      (hnested : ∀ f ∈ s.fields, ∀ t j, f.kind.schema? = some t → data.get? f.name = some j →
        f.kind.nests j = true → Unfolds h m (r.index + 1) t j (d.value f.name)) :
      Unfolds h m n s (.obj data) (.document r)
  | list {n : Nat} {s : Schema} {items : List Json} {own : ListRef} {l : DocumentList}
      (hown : m ≤ own.index) (hl : h.list? own = some l) (hschema : l.schema = s)
      (hlength : (Json.objects items).length = l.items.length)
      (hitems : ∀ p ∈ (Json.objects items).zip l.items,
        Unfolds h m n s (.obj p.1) (.document p.2)) :
      Unfolds h m n s (.arr items) (.list own)

variable {types : List Schema} {h later : Heap} {m n : Nat} {s : Schema} {j : Json} {v : Value}
  {r : DocRef} {f : Field} {j? : Option Json}

theorem Unfolds.mono (hv : h.Unfolds m n s j v)
    (hdocuments : ∀ r d, n ≤ r.index → h.document? r = some d → later.document? r = some d)
    (hlists : ∀ l c, m ≤ l.index → h.list? l = some c → later.list? l = some c) :
    later.Unfolds m n s j v := by
  induction hv with
  | document hr hd hschema hslots _ ih =>
      refine .document hr (hdocuments _ _ hr hd) hschema
        (fun f hf slot hslot => (hslots f hf slot hslot).mono hlists)
        fun f hf t j hkind hj hnests => ih f hf t j hkind hj hnests fun s d hs hd => ?_
      exact hdocuments s d (by omega) hd
  | list hown hl hschema hlength _ ih =>
      exact .list hown (hlists _ _ hown hl) hschema hlength fun p hp => ih p hp hdocuments

theorem Unfolds.weaken {m' n' : Nat} (hm : m' ≤ m) (hn : n' ≤ n) (hv : h.Unfolds m n s j v) :
    h.Unfolds m' n' s j v := by
  induction hv generalizing n' with
  | document hr hd hschema hslots _ ih =>
      exact .document (Nat.le_trans hn hr) hd hschema
        (fun f hf slot hslot => (hslots f hf slot hslot).weaken hm)
        fun f hf t j hkind hj hnests => ih f hf t j hkind hj hnests (Nat.le_refl _)
  | list hown hl hschema hlength _ ih =>
      exact .list (Nat.le_trans hm hown) hl hschema hlength fun p hp => ih p hp hn

/-- A field of a document holds what its member has become, if it has one. -/
def FieldUnfolds (h : Heap) (m : Nat) (r : DocRef) (f : Field) (j? : Option Json) : Prop :=
  ∃ d slot, h.document? r = some d ∧ d.slot? f.name = some slot ∧ slot.Source h m f j? ∧
    ∀ t j, f.kind.schema? = some t → j? = some j → f.kind.nests j = true →
      h.Unfolds m (r.index + 1) t j slot.value

/-- What a field of the document holds is out of reach of changes to the document. -/
theorem OnlyAt.unfolds {names : List String} (honly : h.OnlyAt r names later)
    (hv : h.Unfolds m (r.index + 1) s j v) : later.Unfolds m (r.index + 1) s j v :=
  hv.mono (fun _ _ hs hd => honly.documents (fun heq => by simp [heq] at hs) hd)
    fun _ _ _ hl => honly.lists hl

theorem FieldUnfolds.mono (hf : h.FieldUnfolds m r f j?) {names : List String}
    (honly : h.OnlyAt r names later) (hname : f.name ∉ names) : later.FieldUnfolds m r f j? := by
  obtain ⟨d, slot, hd, hslot, hsource, hnested⟩ := hf
  obtain ⟨d', hd', _, hslots⟩ := honly.slots hd
  refine ⟨d', slot, hd', (hslots f.name hname).trans hslot, hsource.mono fun _ _ _ => honly.lists,
    fun t j hkind hj hnests => honly.unfolds (hnested t j hkind hj hnests)⟩

/-- A field with no member to fill it from holds what it starts with. -/
theorem FieldUnfolds.initial (hf : h.FieldUnfolds m r f none) :
    ∃ d slot, h.document? r = some d ∧ d.slot? f.name = some slot ∧ f.Initial h m slot.value := by
  obtain ⟨d, slot, hd, hslot, hsource, _⟩ := hf
  cases hsource with
  | initial _ hv => exact ⟨d, slot, hd, hslot, hv⟩

/-- A member that is not nested is kept out only if the field has no place for it. -/
theorem keepsOut_of_assign (hnests : f.kind.nests j = false) {current : Value}
    (hkeep : h.assign f current (.ofJson j) = (.keep, h)) : f.kind.KeepsOut j := by
  cases hkind : f.kind with
  | embedded schema =>
      refine ⟨?_, fun data heq => ?_⟩
      · rintro rfl
        simp [assign, hkind, Value.ofJson] at hkeep
      · rw [hkind, heq] at hnests
        cases hnests
  | list schema =>
      intro items heq
      rw [hkind, heq] at hnests
      cases hnests
  | array lengths check? => cases hv : Value.ofJson j <;> simp [assign, hkind, hv] at hkeep
  | _ => simp [assign, hkind] at hkeep

/-- What is not nested is read, or the field keeps what it started with. -/
theorem set_unfolds (hdecl : Declared types) (hsound : h.Sound types) (hf : h.HasField r f)
    (hnests : f.kind.nests j = false) (hstart : h.FieldUnfolds m r f none)
    (hrun : h.set r f.name (.ofJson j) = (.ok (), later)) :
    h.OnlyAt r [f.name] later ∧ later.FieldUnfolds m r f (some j) := by
  obtain ⟨a, hassign, _, hshape⟩ := assign_reads hnests
  obtain ⟨last, hset, honly, before, d, slot, hbefore, hslotBefore, hd, hslot⟩ :=
    set_apply hdecl hsound hf (hassign h)
  obtain rfl := (Prod.mk.inj (hset.symm.trans hrun)).2
  refine ⟨honly, d, _, hd, hslot, ?_, fun t j' _ hj hnests' => ?_⟩
  · have hread := Value.ofJson_flat j
    rcases hshape with rfl | rfl | rfl | rfl
    · obtain ⟨before', slot', hbefore', hslot', hinitial⟩ := hstart.initial
      obtain rfl := Option.some.inj (hbefore.symm.trans hbefore')
      obtain rfl := Option.some.inj (hslotBefore.symm.trans hslot')
      refine .initial (fun j' hj' => ?_) (hinitial.mono fun _ _ _ => honly.lists)
      exact Option.some.inj hj' ▸ keepsOut_of_assign hnests (hassign h .null)
    · exact .read hnests (.array (by simp))
    · exact .read hnests hread
    · exact .read hnests (f.coerce_flat hread h)
  · rw [Option.some.inj hj, hnests'] at hnests
    cases hnests

end Heap

open Build Heap

variable {types : List Schema}

/-- The fields of a new document hold what they start with. -/
theorem Schema.instantiate_unfolds (hdecl : Declared types) {s : Schema} (hs : s ∈ types)
    (hvalues : s.ValueDefaults) {h later : Heap} {r : DocRef}
    (hrun : s.instantiate h = (.ok r, later)) :
    ∀ f ∈ s.fields, later.FieldUnfolds h.lists.length r f none := by
  obtain ⟨ws, last, hstarted, hadd⟩ := Schema.instantiate_eq_ok_iff.mp hrun
  obtain ⟨_, hslots⟩ := hstarted.initial hvalues (Nat.le_refl _)
  intro f hf
  obtain ⟨slot, hslot, _, hinitial⟩ := Document.slot_of_forall₂ (d := s.fresh ws)
    (fun _ _ h => h.1) hslots (hdecl.fieldNames_nodup hs) hf
  have hd := document?_addDocument_self last (s.fresh ws)
  rw [hadd] at hd
  obtain rfl := (Prod.mk.inj hadd).2
  refine ⟨_, slot, hd, hslot, .initial (fun j hj => ?_) (hinitial.mono fun _ _ _ hl => hl),
    fun t j _ hj => ?_⟩ <;> cases hj

/-- Whatever hydration succeeds for, it unfolds. -/
def Schema.HydratesUnfolded (types : List Schema) (s : Schema) : Prop :=
  ∀ {h later : Heap} {data : Json.Object} {r : DocRef}, h.Sound types →
    s.hydrate data h = (.ok r, later) →
    later.Unfolds h.lists.length h.documents.length s (.obj data) (.document r)

/-- One object after the other becomes a document of the list. -/
theorem Schema.hydrateObjects_unfolds (hdecl : Declared types) {schema : Schema}
    (hs : schema ∈ types) (hunfolds : schema.HydratesUnfolded types) {own : ListRef} {n : Nat}
    (datas : List Json.Object) {h later : Heap} (hsound : h.Sound types)
    (hn : n ≤ h.documents.length) {held : List DocRef}
    (hl : h.list? own = some ⟨schema, held⟩)
    (hrun : (datas.forM fun data => schema.hydrateItem own (.obj data)) h = (.ok (), later)) :
    later.Sound types ∧ ∃ new, later.list? own = some ⟨schema, held ++ new⟩ ∧
      datas.length = new.length ∧
      (∀ s d, h.document? s = some d → later.document? s = some d) ∧
      (∀ s l, s ≠ own → h.list? s = some l → later.list? s = some l) ∧
      ∀ p ∈ datas.zip new, later.Unfolds (own.index + 1) n schema (.obj p.1) (.document p.2) := by
  induction datas generalizing h held with
  | nil =>
      obtain ⟨_, rfl⟩ := Prod.mk.inj hrun
      exact ⟨hsound, [], by simpa using hl, rfl, fun _ _ hd => hd, fun _ _ _ hl => hl, by simp⟩
  | cons data rest ih =>
      rw [List.forM] at hrun
      obtain ⟨_, next, hone, hrun⟩ := bind_eq_ok hrun
      obtain ⟨inner, mid, hhydrate, _⟩ := bind_eq_ok hone
      obtain ⟨hchanges, hpost⟩ := Schema.hydrate_runs hdecl hsound.ready data schema hs
      rw [hhydrate] at hchanges hpost
      have hkeeps := hchanges.keeps
      obtain ⟨next', hone', hfill, hown, hdocument, hlist⟩ :=
        Schema.hydrateItem_obj hdecl hhydrate hchanges hsound (hpost inner rfl).2 hl
      obtain rfl := (Prod.mk.inj (hone'.symm.trans hone)).2
      obtain ⟨hfinal, new, hitems, hlength, hdocuments, hlists, hrest⟩ :=
        ih (hfill.sound hdecl hsound) (Nat.le_trans hn hfill.documents_length_le) hown hrun
      have hlater : ∀ l c, own.index + 1 ≤ l.index → mid.list? l = some c →
          later.list? l = some c := by
        intro s l hs hl
        have hne : s ≠ own := fun heq => by simp [heq] at hs
        exact hlists s l hne (hlist s l hne hl)
      refine ⟨hfinal, inner :: new, by simpa using hitems, by simpa using hlength,
        fun s d hd => hdocuments s d (hdocument s d (hkeeps.document (document?_lt hd) hd)),
        fun s l hne hl => hlists s l hne (hlist s l hne (hkeeps.list (list?_lt hl) hl)), ?_⟩
      rw [List.zip_cons_cons]
      refine List.forall_mem_cons.mpr ⟨?_, hrest⟩
      exact ((hunfolds hsound hhydrate).weaken (list?_lt hl) hn).mono
        (fun s d _ hd => hdocuments s d (hdocument s d hd)) hlater

/-- An object in an embedded field becomes a document. -/
theorem Kind.hydrate_embedded_unfolds (hdecl : Declared types) {schema : Schema}
    (hover : ∀ s, (Kind.embedded schema).schema? = some s → s ∈ types ∧ s.isEmbedded = true)
    (hunfolds : schema.HydratesUnfolded types) {h later : Heap} (hsound : h.Sound types) {m : Nat}
    (hm : m ≤ h.lists.length) {r : DocRef} {f : Field} (hf : h.HasField r f)
    (hkind : f.kind = .embedded schema) {data : Json.Object}
    (hrun : (Kind.embedded schema).hydrate r f.name (.obj data) h = (.ok (), later)) :
    h.OnlyAt r [f.name] later ∧ later.FieldUnfolds m r f (some (.obj data)) := by
  obtain ⟨d, hd, _⟩ := id hf
  have hset := hrun
  rw [Kind.hydrate_embedded_obj] at hset
  obtain ⟨inner, mid, hhydrate, _⟩ := bind_eq_ok hset
  have hs := (hover schema rfl).1
  obtain ⟨hchanges, hpost⟩ := Schema.hydrate_runs hdecl hsound.ready data schema hs
  rw [hhydrate] at hchanges hpost
  obtain ⟨last, hlast, honly, d', hd', hvalue⟩ := Kind.hydrate_embedded_holds hdecl hhydrate
    (hchanges.sound hdecl hsound) (hpost inner rfl).2 (hf.mono hchanges.grows) hkind
  obtain rfl := (Prod.mk.inj (hlast.symm.trans hrun)).2
  have hruns := (Kind.hydrate_runs hdecl hsound.ready_zero (Nat.zero_le r.index) (.obj data) _ hover
    hf hkind).1
  rw [hrun] at hruns
  obtain ⟨d'', hd'', hmem⟩ := hf.mono hruns.grows
  obtain rfl := Option.some.inj (hd''.symm.trans hd')
  obtain ⟨slot, hslot, hfits⟩ := (hruns.sound hdecl hsound).slot_of_field hdecl hd' hmem
  refine ⟨(hchanges.keeps.onlyAt r []).trans honly, _, slot, hd', hslot,
    .nested (by rw [hkind]; rfl) ?_, fun t j hkind' hj _ => ?_⟩
  · cases hshared : slot.shared with
    | false => rfl
    | true =>
        have hlist := (hfits.shared hshared).1
        simp [hkind, Kind.isList] at hlist
  · obtain rfl := Option.some.inj hj
    obtain rfl : schema = t := Option.some.inj (by rwa [hkind] at hkind')
    rw [← Document.value_of_slot? hslot, hvalue]
    exact honly.unfolds ((hunfolds hsound hhydrate).weaken hm (document?_lt hd))

/-- A sequence in a list field becomes a list. -/
theorem Kind.hydrate_list_unfolds (hdecl : Declared types) {schema : Schema} (hs : schema ∈ types)
    (hunfolds : schema.HydratesUnfolded types) {h later : Heap} (hsound : h.Sound types) {m : Nat}
    (hm : m ≤ h.lists.length) {r : DocRef} {f : Field} (hf : h.HasField r f)
    (hkind : f.kind = .list schema) {items : List Json}
    (hrun : (Kind.list schema).hydrate r f.name (.arr items) h = (.ok (), later)) :
    h.OnlyAt r [f.name] later ∧ later.FieldUnfolds m r f (some (.arr items)) := by
  obtain ⟨d, hd, hmem⟩ := id hf
  have hadd : Changes types h.documents.length h.lists.length h (h.addList ⟨schema, []⟩).2 :=
    .single (.newList hs (by simp))
  have hown := list?_addList_self h ⟨schema, []⟩
  have hindex : (h.addList ⟨schema, []⟩).1.index = h.lists.length := rfl
  have hinstall := hrun
  rw [Kind.hydrate_list_arr] at hinstall
  obtain ⟨own, start, hnew, hinstall⟩ := bind_eq_ok hinstall
  have hfresh : (h.addList ⟨schema, []⟩).1 = own := Except.ok.inj (congrArg Prod.fst hnew)
  obtain rfl : (h.addList ⟨schema, []⟩).2 = start := congrArg Prod.snd hnew
  obtain ⟨_, mid, hfill, _⟩ := bind_eq_ok hinstall
  rw [hfresh] at hown hindex
  have hobjects := hfill
  rw [schema.forM_hydrateItem] at hobjects
  obtain ⟨hmid, new, hitems, hlength, hdocuments, hlists, hunfolded⟩ :=
    Schema.hydrateObjects_unfolds (n := r.index + 1) hdecl hs hunfolds (Json.objects items)
      (hadd.sound hdecl hsound) (document?_lt hd) hown hobjects
  obtain ⟨last, hlast, hbefore, honly, d', hd', hvalue, hshared⟩ := Kind.hydrate_list_holds hdecl
    hfresh hfill hmid (fun s d hd => hdocuments s d hd) hlists hf
  obtain rfl := (Prod.mk.inj (hlast.symm.trans hrun)).2
  obtain ⟨slot, hslot⟩ : ∃ slot, d'.slot? f.name = some slot := by
    cases hslot : d'.slot? f.name with
    | some slot => exact ⟨slot, rfl⟩
    | none => simp [Document.value, Document.value?, hslot] at hvalue
  refine ⟨hbefore, d', slot, hd', hslot, .nested (by rw [hkind]; rfl) (hshared slot hslot),
    fun t j hkind' hj _ => ?_⟩
  obtain rfl := Option.some.inj hj
  obtain rfl : schema = t := Option.some.inj (by rwa [hkind] at hkind')
  rw [← Document.value_of_slot? hslot, hvalue]
  refine .list (by omega) (honly.lists hitems) rfl (by simpa using hlength) fun p hp => ?_
  exact honly.unfolds ((hunfolded p hp).weaken (by omega) (Nat.le_refl _))

mutual

/-- Hydration unfolds its data. -/
theorem Schema.hydrate_unfolds (hdecl : Declared types) {h later : Heap} (hsound : h.Sound types)
    {data : Json.Object} {r : DocRef} : (s : Schema) → s ∈ types →
    (∀ t, s.Nests t → t.ValueDefaults) → s.hydrate data h = (.ok r, later) →
    later.Unfolds h.lists.length h.documents.length s (.obj data) (.document r)
  | ⟨id, name, role, parent?, fields⟩, hs, hvalues, hrun => by
      rw [Schema.hydrate] at hrun
      obtain ⟨made, mid, hmake, hrun⟩ := bind_eq_ok hrun
      obtain ⟨_, last, hfill, hrun⟩ := bind_eq_ok hrun
      obtain ⟨hr, rfl⟩ := Prod.mk.inj hrun
      obtain rfl := Except.ok.inj hr
      obtain ⟨hchanges, hpost⟩ := Schema.instantiate_runs hdecl hsound.ready _ hs
      rw [hmake] at hchanges hpost
      obtain ⟨hnew, d, hd, hschema⟩ := hpost made rfl
      obtain ⟨honly, hfields⟩ := Field.hydrateAll_unfolds hdecl (hchanges.sound hdecl hsound) fields
        (hdecl.fieldNames_nodup hs) (fun f hf => hdecl.field_over hs hf)
        (fun f hf => ⟨d, hd, by rw [hschema]; exact hf⟩)
        (fun f hf t ⟨s, hkind, ht⟩ => hvalues t (.head ⟨f, hf, hkind⟩ ht)) hchanges.lists_length_le
        (Schema.instantiate_unfolds hdecl hs (hvalues _ .refl) hmake) hfill
      obtain ⟨d', hd', hschema', _⟩ := honly.slots hd
      refine .document hnew hd' (hschema'.trans hschema) (fun f hf slot hslot => ?_)
        fun f hf t j hkind hj hnests => ?_
      · obtain ⟨d'', slot', hd'', hslot', hsource, _⟩ := hfields f hf
        obtain rfl := Option.some.inj (hd''.symm.trans hd')
        obtain rfl := Option.some.inj (hslot'.symm.trans hslot)
        exact hsource
      · obtain ⟨d'', slot, hd'', hslot, _, hnested⟩ := hfields f hf
        obtain rfl := Option.some.inj (hd''.symm.trans hd')
        rw [Document.value_of_slot? hslot]
        exact hnested t j hkind hj hnests
termination_by structural s => s

theorem Field.hydrateAll_unfolds (hdecl : Declared types) {h later : Heap} (hsound : h.Sound types)
    {r : DocRef} {data : Json.Object} {m : Nat} : (fields : List Field) →
    (fields.map (·.name)).Nodup → (∀ f ∈ fields, f.Over types) → (∀ f ∈ fields, h.HasField r f) →
    (∀ f ∈ fields, ∀ t, f.kind.Needs t → t.ValueDefaults) → m ≤ h.lists.length →
    (∀ f ∈ fields, h.FieldUnfolds m r f none) →
    Field.hydrateAll r fields data h = (.ok (), later) →
    h.OnlyAt r (fields.map (·.name)) later ∧
      ∀ f ∈ fields, later.FieldUnfolds m r f (data.get? f.name)
  | [], _, _, _, _, _, _, hrun => by
      obtain ⟨_, rfl⟩ := Prod.mk.inj hrun
      exact ⟨.refl r [] h, by simp⟩
  | f :: rest, hnodup, hover, hfields, hvalues, hm, hstart, hrun => by
      obtain ⟨hname, hnodupRest⟩ := List.nodup_cons.mp hnodup
      rw [Field.hydrateAll] at hrun
      obtain ⟨_, mid, hfirst, hrest⟩ := bind_eq_ok hrun
      obtain ⟨honly, hunfolds⟩ := Field.hydrate_unfolds hdecl hsound f (hover f List.mem_cons_self)
        (hfields f List.mem_cons_self) (hvalues f List.mem_cons_self) hm
        (hstart f List.mem_cons_self) hfirst
      have hchanges := (Field.hydrate_runs hdecl hsound.ready_zero (Nat.zero_le r.index) data f
        (hover f List.mem_cons_self) (hfields f List.mem_cons_self)).1
      rw [hfirst] at hchanges
      have hmem : ∀ {g}, g ∈ rest → g ∈ f :: rest := List.mem_cons_of_mem f
      obtain ⟨honlyRest, hunfoldsRest⟩ := Field.hydrateAll_unfolds hdecl
        (hchanges.sound hdecl hsound) rest hnodupRest (fun g hg => hover g (hmem hg))
        (fun g hg => (hfields g (hmem hg)).mono hchanges.grows) (fun g hg => hvalues g (hmem hg))
        (Nat.le_trans hm hchanges.lists_length_le)
        (fun g hg => (hstart g (hmem hg)).mono honly (Field.name_not_mem_of_mem hname hg)) hrest
      -- the first field is none of the others
      exact ⟨honly.trans honlyRest,
        List.forall_mem_cons.mpr ⟨hunfolds.mono honlyRest hname, hunfoldsRest⟩⟩
termination_by structural fields => fields

theorem Field.hydrate_unfolds (hdecl : Declared types) {h later : Heap} (hsound : h.Sound types)
    {r : DocRef} {data : Json.Object} {m : Nat} : (f : Field) → f.Over types → h.HasField r f →
    (∀ t, f.kind.Needs t → t.ValueDefaults) → m ≤ h.lists.length → h.FieldUnfolds m r f none →
    f.hydrate r data h = (.ok (), later) →
    h.OnlyAt r [f.name] later ∧ later.FieldUnfolds m r f (data.get? f.name)
  | ⟨name, required, default?, kind⟩, hover, hf, hvalues, hm, hstart, hrun => by
      rw [Field.hydrate.eq_def] at hrun
      simp only at hrun ⊢
      cases hget : data.get? name with
      | none =>
          rw [hget] at hrun
          obtain ⟨_, rfl⟩ := Prod.mk.inj hrun
          exact ⟨.refl r _ h, hstart⟩
      | some j =>
          rw [hget] at hrun
          exact Kind.hydrate_unfolds hdecl hsound (f := ⟨name, required, default?, kind⟩) kind
            hover.kind hf rfl hvalues hm hstart hrun
termination_by structural f => f

theorem Kind.hydrate_unfolds (hdecl : Declared types) {h later : Heap} (hsound : h.Sound types)
    {r : DocRef} {f : Field} {j : Json} {m : Nat} : (kind : Kind) →
    (∀ s, kind.schema? = some s → s ∈ types ∧ s.isEmbedded = true) → h.HasField r f →
    f.kind = kind → (∀ t, kind.Needs t → t.ValueDefaults) → m ≤ h.lists.length →
    h.FieldUnfolds m r f none → kind.hydrate r f.name j h = (.ok (), later) →
    h.OnlyAt r [f.name] later ∧ later.FieldUnfolds m r f (some j)
  | kind, hover, hf, hkind, hvalues, hm, hstart, hrun => by
      cases hnests : kind.nests j with
      | false =>
          rw [Kind.hydrate_of_not_nests r f.name hnests] at hrun
          exact set_unfolds hdecl hsound hf (hkind ▸ hnests) hstart hrun
      | true =>
          match kind, j with
          | .embedded schema, .obj data =>
              refine Kind.hydrate_embedded_unfolds hdecl hover (fun hlater hrun => ?_) hsound hm hf
                hkind hrun
              exact Schema.hydrate_unfolds hdecl hlater schema (hover schema rfl).1
                (fun t ht => hvalues t ⟨schema, rfl, ht⟩) hrun
          | .list schema, .arr items =>
              have hs := (hover schema rfl).1
              refine Kind.hydrate_list_unfolds hdecl hs (fun hlater hrun => ?_) hsound hm hf hkind
                hrun
              exact Schema.hydrate_unfolds hdecl hlater schema hs
                (fun t ht => hvalues t ⟨schema, rfl, ht⟩) hrun
termination_by structural kind => kind

end

end DocumentModel
