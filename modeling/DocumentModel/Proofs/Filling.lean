/-
What hydration makes, as a function of the data.

Where declared defaults are plain values, the data of a new document are determined by what it was
made from: `Schema.filled` computes them from the JSON and from the documents that defaults refer
to, without any heap to put documents into.  Hydration agrees with it wherever those documents have
stayed as they were.
-/
import DocumentModel.Proofs.Grounding
import DocumentModel.Proofs.Reading

namespace DocumentModel

/-- What the first value of a field flattens to if it comes of a given default. -/
def Field.firstJson (base : Heap) (f : Field) (v : Value) : Json :=
  match f.kind, v with
  | .list _, .null => .arr []
  | _, v => base.toJson (f.coerce base v)

/-- What a new field flattens to.  Without a declared default, sequences and lists are empty. -/
def Field.startJson (base : Heap) (f : Field) : Json :=
  match f.default?, f.kind with
  | some (.value v), _ => f.firstJson base v
  | _, .array _ _ => .arr []
  | _, .list _ => .arr []
  | _, _ => .null

/-- What a new field flattens to after it has been assigned a value without documents. -/
def Field.assignedJson (base : Heap) (f : Field) (v : Value) : Json :=
  match (base.assign f .null v).1 with
  | .store w => base.toJson w
  | .keep => f.startJson base
  | .reject => .arr []

mutual

/-- The data of a document that is made of the members of an object. -/
def Schema.filled (base : Heap) (s : Schema) (data : Json.Object) : Json.Object :=
  match s with
  | ⟨_, _, _, _, fields⟩ => Field.filledAll base fields data
termination_by structural s

def Field.filledAll (base : Heap) (fields : List Field) (data : Json.Object) : Json.Object :=
  match fields with
  | [] => []
  | f :: rest => (f.name, f.filled base data) :: Field.filledAll base rest data
termination_by structural fields

/-- A field that has no member keeps its first value. -/
def Field.filled (base : Heap) (f : Field) (data : Json.Object) : Json :=
  match f with
  | ⟨name, required, default?, kind⟩ =>
      match data.get? name with
      | none => Field.startJson base ⟨name, required, default?, kind⟩
      | some j => kind.filled base ⟨name, required, default?, kind⟩ j
termination_by structural f

/-- Objects become documents; what is no object counts for nothing among the items of a list. -/
def Kind.filled (base : Heap) (f : Field) (kind : Kind) (j : Json) : Json :=
  match kind, j with
  | .embedded schema, .obj data => .obj (schema.filled base data)
  | .list schema, .arr items =>
      .arr (items.filterMap fun item =>
        match item with
        | .obj data => some (.obj (schema.filled base data))
        | _ => none)
  | _, j => f.assignedJson base (.ofJson j)
termination_by structural kind

end

theorem Field.filledAll_eq_map (base : Heap) (fields : List Field) (data : Json.Object) :
    Field.filledAll base fields data = fields.map fun f => (f.name, f.filled base data) := by
  induction fields with
  | nil => rfl
  | cons f rest ih => rw [Field.filledAll, ih, List.map_cons]

/-- The declared default of a field, if any, is a plain value, and the way down from it comes to an
end. -/
def Field.FixedDefault (base : Heap) (f : Field) : Prop :=
  ∀ d, f.default? = some d → ∃ v, d = .value v ∧ v.Grounded base

namespace Heap

/-- A value flattens to some JSON: it was there before, or its documents are documents from number
`n` on, each before those that it holds, and its lists are lists from number `m` on. -/
inductive Yields (base h : Heap) (m : Nat) : (n : Nat) → Value → Json → Prop
  | old {n : Nat} {v : Value} (hv : v.Grounded base) : Yields base h m n v (base.toJson v)
  | document {n : Nat} {r : DocRef} {d : Document} {member : Field → Json} (hr : n ≤ r.index)
      (hd : h.document? r = some d)
      (hfields : ∀ f ∈ d.schema.fields,
        Yields base h m (r.index + 1) (d.value f.name) (member f)) :
      Yields base h m n (.document r) (.obj (d.schema.fields.map fun f => (f.name, member f)))
  | list {n : Nat} {r : ListRef} {l : DocumentList} {js : List Json} (hr : m ≤ r.index)
      (hl : h.list? r = some l) (hlength : l.items.length = js.length)
      (hitems : ∀ p ∈ l.items.zip js, Yields base h m n (.document p.1) p.2) :
      Yields base h m n (.list r) (.arr js)

variable {base h later : Heap} {m n : Nat} {v : Value} {j : Json}

theorem Yields.mono (hv : base.Yields h m n v j)
    (hdocuments : ∀ r d, n ≤ r.index → h.document? r = some d → later.document? r = some d)
    (hlists : ∀ l c, m ≤ l.index → h.list? l = some c → later.list? l = some c) :
    base.Yields later m n v j := by
  induction hv with
  | old hv => exact .old hv
  | document hr hd _ ih =>
      refine .document hr (hdocuments _ _ hr hd) fun f hf => ih f hf ?_
      exact fun s d hs hd => hdocuments s d (by omega) hd
  | list hr hl hlength _ ih =>
      exact .list hr (hlists _ _ hr hl) hlength fun p hp => ih p hp hdocuments

theorem Yields.weaken {m' n' : Nat} (hm : m' ≤ m) (hn : n' ≤ n) (hv : base.Yields h m n v j) :
    base.Yields h m' n' v j := by
  induction hv generalizing n' with
  | old hv => exact .old hv
  | document hr hd _ ih =>
      exact .document (Nat.le_trans hn hr) hd fun f hf => ih f hf (Nat.le_refl _)
  | list hr hl hlength _ ih =>
      exact .list (Nat.le_trans hm hr) hl hlength fun p hp => ih p hp hn

/-- What a value yields is its JSON, as long as there is some depth left for the documents that were
there before. -/
theorem Yields.toJsonAt_eq (hbase : base.Stays h) (hv : base.Yields h m n v j) {depth : Nat}
    (hn : n ≤ h.documents.length)
    (hdepth : h.documents.length + base.documents.length ≤ depth + n) :
    h.toJsonAt depth v = j := by
  induction hv generalizing depth with
  | old hv => exact hv.toJsonAt_stays hbase (by omega)
  | @document n r d member hr hd _ ih =>
      have hlt := document?_lt hd
      obtain ⟨depth, rfl⟩ : ∃ k, depth = k + 1 := ⟨depth - 1, by omega⟩
      rw [toJsonAt, Value.toJsonWith, dataAt_succ hd]
      congr 1
      apply List.map_congr_left
      intro f hf
      rw [ih f hf (by omega) (by omega)]
  | @list n r l js hr hl hlength _ ih =>
      have hitems : h.items r = l.items := by simp [items, hl]
      rw [toJsonAt, Value.toJsonWith, hitems]
      congr 1
      apply List.ext_getElem (by simpa using hlength)
      intro i hi hi'
      have hitem : i < l.items.length := by simpa using hi
      have hmem : (l.items[i], js[i]) ∈ l.items.zip js := by
        rw [List.mem_iff_getElem]
        exact ⟨i, by simpa using ⟨hitem, hi'⟩, by simp⟩
      simpa [toJsonAt, Value.toJsonWith] using ih _ hmem hn hdepth

/-- A new document has the data that it yields. -/
theorem Yields.data_eq (hbase : base.Stays h) {r : DocRef} {data : Json.Object}
    (hr : base.Yields h m n (.document r) (.obj data)) (hn : base.documents.length ≤ n)
    (hlength : n ≤ h.documents.length) : h.data r = data := by
  have heq : h.toJsonAt h.documents.length (.document r) = .obj data :=
    hr.toJsonAt_eq hbase hlength (by omega)
  rw [toJsonAt, Value.toJsonWith] at heq
  exact Json.obj.inj heq

/-- Changes to other fields of the document do not matter. -/
theorem OnlyAt.yields {r : DocRef} {names : List String} (honly : h.OnlyAt r names later)
    (hv : base.Yields h m (r.index + 1) v j) : base.Yields later m (r.index + 1) v j := by
  apply hv.mono
  · intro s d hs hd
    exact honly.documents (fun heq => by simp [heq] at hs) hd
  · intro l c _ hl
    exact honly.lists hl

theorem Yields.stays (hv : base.Yields h m n v j) (hstays : h.Stays later) :
    base.Yields later m n v j :=
  hv.mono (fun _ _ _ hd => hstays.document hd) fun _ _ _ hl => hstays.list hl

/-! ### New documents -/

/-- A new list of documents that were there before flattens as they do. -/
theorem yields_addList (schema : Schema) {documents : List DocRef}
    (hdocuments : (Value.array (documents.map .document)).Grounded base) (n : Nat) :
    base.Yields (h.addList ⟨schema, documents⟩).2 h.lists.length n
      (.list (h.addList ⟨schema, documents⟩).1)
      (base.toJson (.array (documents.map .document))) := by
  have hjson : base.toJson (.array (documents.map .document)) =
      .arr (documents.map fun r => base.toJson (.document r)) := by
    rw [toJson, Value.toJsonWith, Value.itemsToJson_eq_map, List.map_map]
    rfl
  rw [hjson]
  refine .list (Nat.le_refl _) (list?_addList_self h _) (by simp) fun p hp => ?_
  have hzip := List.zip_map' (l := documents) (f := id) (g := fun r => base.toJson (.document r))
  rw [List.map_id] at hzip
  rw [hzip] at hp
  obtain ⟨r, hr, rfl⟩ := List.mem_map.mp hp
  exact .old (hdocuments.of_array _ (List.mem_map_of_mem hr))

/-- The first value of a list field is the list that it is given, or a new one of the documents in a
sequence. -/
theorem initialList_yields {f : Field} {schema : Schema} (hkind : f.kind = .list schema)
    (hv : v.Grounded base) {w : Value} (hrun : h.initialList f schema v = (.ok w, later))
    (n : Nat) : base.Yields later h.lists.length n w (f.firstJson base v) := by
  have hfresh : ∀ documents, (Value.array (documents.map .document)).Grounded base →
      w = .list (h.addList ⟨schema, documents⟩).1 → later = (h.addList ⟨schema, documents⟩).2 →
      base.Yields later h.lists.length n w (base.toJson (.array (documents.map .document))) := by
    rintro documents hdocuments rfl rfl
    exact yields_addList schema hdocuments n
  have hsame : v ≠ .null → f.firstJson base v = base.toJson v := by
    intro hnull
    cases v <;> simp_all [Field.firstJson, Field.coerce]
  cases v with
  | null =>
      have hnew := hfresh [] (.array (by simp))
      simp only [initialList, checkTypes, Prod.mk.injEq, Except.ok.injEq] at hrun
      have hempty : f.firstJson base .null = .arr [] := by simp [Field.firstJson, hkind]
      rw [hempty]
      exact hnew hrun.1.symm hrun.2.symm
  | list r =>
      rw [hsame (by simp)]
      simp only [initialList] at hrun
      split at hrun
      · split at hrun
        · obtain ⟨hw, _⟩ := Prod.mk.inj hrun
          obtain rfl := Except.ok.inj hw
          exact .old hv
        · cases hrun
      · cases hrun
  | array items =>
      rw [hsame (by simp)]
      simp only [initialList] at hrun
      split at hrun
      · next documents hdocuments =>
          obtain rfl := Value.documents?_eq_some_iff.mp hdocuments
          split at hrun
          · obtain ⟨hw, hlater⟩ := Prod.mk.inj hrun
            exact hfresh documents hv (Except.ok.inj hw).symm hlater.symm
          · cases hrun
          · cases hrun
      · cases hrun
  | _ => cases hrun

/-- The first value of a field flattens as its default does. -/
theorem initialValue_yields (hbase : base.Stays h) {f : Field} (hv : v.Grounded base) {w : Value}
    (hrun : h.initialValue f v = (.ok w, later)) (n : Nat) :
    base.Yields later h.lists.length n w (f.firstJson base v) := by
  cases hkind : f.kind with
  | embedded schema =>
      have hsame : f.firstJson base v = base.toJson v := by
        simp [Field.firstJson, Field.coerce, hkind]
      obtain rfl : v = w := by
        cases v with
        | null => simpa [initialValue, hkind] using (congrArg Prod.fst hrun)
        | document r =>
            by_cases hisA : h.documentIsA r schema = true
            · simpa [initialValue, hkind, hisA] using (congrArg Prod.fst hrun)
            · simp [initialValue, hkind, hisA] at hrun
        | _ => simp [initialValue, hkind] at hrun
      rw [hsame]
      exact .old hv
  | list schema =>
      rw [initialValue, hkind] at hrun
      exact initialList_yields hkind hv hrun n
  | _ =>
      have hsame : f.firstJson base v = base.toJson (f.coerce base v) := by
        simp [Field.firstJson, hkind]
      simp only [initialValue, hkind] at hrun
      obtain ⟨hresult, _⟩ := Prod.mk.inj hrun
      split at hresult
      · obtain rfl := Except.ok.inj hresult
        rw [hsame, hv.coerce_stays hbase]
        exact .old (hv.coerce f)
      · cases hresult

end Heap

open Build Heap

variable {types : List Schema} {base h later : Heap}

/-- The slot of a new field holds the first value that its default makes. -/
theorem Field.slot_yields {f : Field} {v : Value} {shared : Bool} {slot : Slot}
    (hrun : (do let v ← fun h => h.initialValue f v
                return (⟨f.name, v, shared, false⟩ : Slot) : Build Slot) h = (.ok slot, later)) :
    slot.name = f.name ∧ h.initialValue f v = (.ok slot.value, later) := by
  obtain ⟨w, last, hvalue, hrun⟩ := bind_eq_ok hrun
  obtain ⟨hslot, hlast⟩ := Prod.mk.inj hrun
  obtain rfl := Except.ok.inj hslot
  subst hlast
  exact ⟨rfl, hvalue⟩

theorem Field.initialSlot_yields (hbase : base.Stays h) {f : Field} (hfixed : f.FixedDefault base)
    {slot : Slot} (hrun : f.initialSlot h = (.ok slot, later)) (n : Nat) :
    slot.name = f.name ∧ base.Yields later h.lists.length n slot.value (f.startJson base) := by
  obtain ⟨name, required, default?, kind⟩ := f
  rw [Field.initialSlot.eq_def] at hrun
  cases default? with
  | some d =>
      obtain ⟨v, rfl, hv⟩ := hfixed d rfl
      obtain ⟨hname, hvalue⟩ := Field.slot_yields hrun
      exact ⟨hname, initialValue_yields hbase hv hvalue n⟩
  | none =>
      simp only at hrun
      obtain ⟨v, mid, himplied, hrun⟩ := bind_eq_ok hrun
      obtain ⟨hv, hmid⟩ := Prod.mk.inj himplied
      obtain rfl := Except.ok.inj hv
      subst hmid
      obtain ⟨hname, hvalue⟩ := Field.slot_yields hrun
      refine ⟨hname, ?_⟩
      cases kind with
      | list schema =>
          have hsame : (h.addList ⟨schema, []⟩).2.initialValue
              ⟨name, required, none, .list schema⟩ (.list (h.addList ⟨schema, []⟩).1) =
              (.ok (.list (h.addList ⟨schema, []⟩).1), (h.addList ⟨schema, []⟩).2) := by
            simp [initialValue, initialList, list?_addList_self, Schema.isA_refl]
          obtain ⟨hv, hlater⟩ := Prod.mk.inj (hsame.symm.trans hvalue)
          have hempty : (Value.array ([].map .document)).Grounded base := .array (by simp)
          have hnew := yields_addList (h := h) schema hempty n
          rw [hlater] at hnew
          rwa [← Except.ok.inj hv]
      | array lengths check? => exact initialValue_yields hbase (.array (by simp)) hvalue n
      | _ => exact initialValue_yields hbase .null hvalue n

theorem Field.initialSlots_yields (hdecl : Declared types) (hsound : h.Sound types)
    (hbase : base.Stays h) {fields : List Field} (hover : ∀ f ∈ fields, f.Over types)
    (hfixed : ∀ f ∈ fields, f.FixedDefault base) {slots : List Slot}
    (hrun : Field.initialSlots fields h = (.ok slots, later)) (n : Nat) :
    h.Stays later ∧ List.Forall₂ (fun f slot => slot.name = f.name ∧
      base.Yields later h.lists.length n slot.value (f.startJson base)) fields slots := by
  induction fields generalizing h slots later with
  | nil =>
      obtain ⟨hslots, rfl⟩ := Prod.mk.inj hrun
      obtain rfl := Except.ok.inj hslots
      exact ⟨.refl h, .nil⟩
  | cons f rest ih =>
      obtain ⟨hoverFirst, hoverRest⟩ := List.forall_mem_cons.mp hover
      obtain ⟨hfixedFirst, hfixedRest⟩ := List.forall_mem_cons.mp hfixed
      rw [Field.initialSlots] at hrun
      obtain ⟨slot, mid, hfirst, hrun⟩ := bind_eq_ok hrun
      obtain ⟨slots', last, hrest, hrun⟩ := bind_eq_ok hrun
      obtain ⟨hslots, rfl⟩ := Prod.mk.inj hrun
      obtain rfl := Except.ok.inj hslots
      have hchanges := (Field.initialSlot_runs hdecl hsound.ready f hoverFirst).1
      rw [hfirst] at hchanges
      have hmid := hchanges.keeps.stays
      obtain ⟨hname, hyields⟩ := Field.initialSlot_yields hbase hfixedFirst hfirst n
      obtain ⟨hlater, hslots⟩ := ih (hchanges.sound hdecl hsound) (hbase.trans hmid) hoverRest
        hfixedRest hrest
      refine ⟨hmid.trans hlater, .cons ⟨hname, hyields.stays hlater⟩ (hslots.imp ?_)⟩
      intro g slot ⟨hname, hyields⟩
      exact ⟨hname, hyields.weaken hchanges.lists_length_le (Nat.le_refl n)⟩

/-- The fields of a new document flatten as their defaults do. -/
theorem Schema.instantiate_yields (hdecl : Declared types) (hsound : h.Sound types)
    (hbase : base.Stays h) {s : Schema} (hs : s ∈ types)
    (hfixed : ∀ f ∈ s.fields, f.FixedDefault base) {r : DocRef}
    (hrun : s.instantiate h = (.ok r, later)) :
    ∃ d, later.document? r = some d ∧ ∀ f ∈ s.fields,
      base.Yields later h.lists.length (r.index + 1) (d.value f.name) (f.startJson base) := by
  obtain ⟨id, name, role, parent?, fields⟩ := s
  have hover : ∀ f ∈ fields, f.Over types := fun f hf => hdecl.field_over hs hf
  rw [Schema.instantiate] at hrun
  obtain ⟨slots, mid, hslots, hrun⟩ := bind_eq_ok hrun
  obtain ⟨hr, rfl⟩ := Prod.mk.inj hrun
  obtain rfl := Except.ok.inj hr
  obtain ⟨_, hpairs⟩ := Field.initialSlots_yields hdecl hsound hbase hover hfixed hslots
    (mid.documents.length + 1)
  refine ⟨_, document?_addDocument_self mid _, fun f hf => ?_⟩
  obtain ⟨slot, hslot, _, hyields⟩ := Document.slot_of_forall₂
    (d := ⟨⟨id, name, role, parent?, fields⟩, slots, .empty⟩) (fun _ _ h => h.1) hpairs
    (hdecl.fieldNames_nodup hs) hf
  rw [Document.value_of_slot? hslot]
  exact hyields.stays ⟨fun hd => document?_addDocument_old hd, fun hl => hl⟩

/-! ### Filling fields -/

/-- What an item of a list becomes, if anything. -/
def Schema.filledItem (base : Heap) (schema : Schema) (item : Json) : Option Json :=
  match item with
  | .obj data => some (.obj (schema.filled base data))
  | _ => none

theorem Kind.filled_of_not_nests (base : Heap) (f : Field) {kind : Kind} {j : Json}
    (hnests : kind.nests j = false) : kind.filled base f j = f.assignedJson base (.ofJson j) := by
  cases kind with
  | embedded schema =>
      cases j with
      | obj data => cases hnests
      | _ => rfl
  | list schema =>
      cases j with
      | arr items => cases hnests
      | _ => rfl
  | _ => rfl

theorem Kind.filled_embedded_obj (base : Heap) (f : Field) (schema : Schema)
    (data : Json.Object) :
    (Kind.embedded schema).filled base f (.obj data) = .obj (schema.filled base data) := by
  rw [Kind.filled]

theorem Kind.filled_list_arr (base : Heap) (f : Field) (schema : Schema) (items : List Json) :
    (Kind.list schema).filled base f (.arr items) =
      .arr (items.filterMap (schema.filledItem base)) := by
  rw [Kind.filled]
  rfl

namespace Heap

variable {m : Nat} {r : DocRef} {f : Field} {j : Json}

/-- A field of a document flattens to some JSON, by what was there before the document and what has
come after it. -/
def FieldYields (base h : Heap) (m : Nat) (r : DocRef) (f : Field) (j : Json) : Prop :=
  ∃ d, h.document? r = some d ∧ base.Yields h m (r.index + 1) (d.value f.name) j

/-- Changes to other fields of the document do not matter. -/
theorem FieldYields.mono (hyields : base.FieldYields h m r f j) {names : List String}
    (honly : h.OnlyAt r names later) (hname : f.name ∉ names) :
    base.FieldYields later m r f j := by
  obtain ⟨d, hd, hyields⟩ := hyields
  obtain ⟨d', hd', _, hvalues⟩ := honly.values hd
  refine ⟨d', hd', ?_⟩
  rw [hvalues f.name hname]
  exact honly.yields hyields

/-- Changes to a document that was not there do not matter to what was. -/
theorem OnlyAt.stays {names : List String} (honly : h.OnlyAt r names later) (hbase : base.Stays h)
    (hr : base.document? r = none) : base.Stays later where
  document {s d} hd := by
    refine honly.documents ?_ (hbase.document hd)
    rintro rfl
    rw [hr] at hd
    cases hd
  list hl := honly.lists (hbase.list hl)

/-- Assigning what is not nested makes no list, and does the same wherever `base` has stayed. -/
theorem assign_stays (hbase : base.Stays h) (hnests : f.kind.nests j = false) :
    ∃ a : Assignment, (∀ current, h.assign f current (.ofJson j) = (a, h)) ∧
      (base.assign f .null (.ofJson j)).1 = a ∧ ∀ w, a = .store w → w.Grounded base := by
  have hgrounded := Value.ofJson_grounded base j
  have hcoerce := hgrounded.coerce_stays hbase f
  obtain ⟨a, hassign, _, hshape⟩ := assign_reads hnests
  have hsame : a base = a h := by
    rcases hshape with rfl | rfl | rfl | rfl
    · rfl
    · rfl
    · rfl
    · exact congrArg Assignment.store hcoerce.symm
  refine ⟨a h, hassign h, by rw [hassign base, hsame], fun w hw => ?_⟩
  rw [← hsame] at hw
  rcases hshape with rfl | rfl | rfl | rfl
  · cases hw
  · cases hw
  · cases hw
    exact hgrounded
  · cases hw
    exact hgrounded.coerce f

/-- What is not nested is assigned to a new field. -/
theorem set_yields (hdecl : Declared types) (hsound : h.Sound types) (hbase : base.Stays h)
    (hf : h.HasField r f) (hnests : f.kind.nests j = false)
    (hstart : base.FieldYields h m r f (f.startJson base)) :
    ∃ later, h.set r f.name (.ofJson j) = (.ok (), later) ∧ h.OnlyAt r [f.name] later ∧
      base.FieldYields later m r f (f.assignedJson base (.ofJson j)) := by
  obtain ⟨a, hassign, hsame, hstored⟩ := assign_stays hbase hnests
  obtain ⟨later, hset, honly, before, d, slot, hbefore, hslotBefore, hd, hslot⟩ :=
    set_apply hdecl hsound hf hassign
  refine ⟨later, hset, honly, d, hd, ?_⟩
  rw [Document.value_of_slot? hslot, Field.assignedJson, hsame]
  cases a with
  | store w => exact .old (hstored w rfl)
  | reject => exact .old (v := .array []) (.array (by simp))
  | keep =>
      obtain ⟨before', hbefore', hyields⟩ := hstart
      obtain rfl := Option.some.inj (hbefore.symm.trans hbefore')
      rw [Document.value_of_slot? hslotBefore] at hyields
      exact honly.yields hyields

end Heap

/-- Hydration makes a new document of a type that has the data it is to have. -/
def Schema.Fills (types : List Schema) (base : Heap) (s : Schema) (data : Json.Object) (h : Heap) :
    Prop :=
  ∃ r later, s.hydrate data h = (.ok r, later) ∧
    Changes types h.documents.length h.lists.length h later ∧
    (∃ d, later.document? r = some d ∧ d.schema = s) ∧
    base.Yields later h.lists.length h.documents.length (.document r) (.obj (s.filled base data))

/-- Documents of a type can be made from now on, and what its defaults are is fixed. -/
structure Schema.Makes (types : List Schema) (base h : Heap) (s : Schema) : Prop where
  constructs : s.Constructs types h
  fixed : ∀ f ∈ s.fields, f.FixedDefault base

theorem Schema.Makes.mono {s : Schema} (hgrows : h.Grows later) (hs : s.Makes types base h) :
    s.Makes types base later :=
  ⟨hs.constructs.mono hgrows, hs.fixed⟩

/-- The items of a list are gone through in order, and each object becomes one more document. -/
theorem Schema.hydrateItems_yields (hdecl : Declared types) {schema : Schema}
    (hfills : ∀ {h : Heap} (data : Json.Object), h.Sound types → base.Stays h →
      (∀ t, schema.Nests t → t.Makes types base h) → schema.Fills types base data h)
    {own : ListRef} (hnew : base.list? own = none) {n : Nat} (items : List Json) {h : Heap}
    (hsound : h.Sound types) (hbase : base.Stays h)
    (hmakes : ∀ t, schema.Nests t → t.Makes types base h) (hn : n ≤ h.documents.length)
    {held : List DocRef} (hl : h.list? own = some ⟨schema, held⟩) :
    ∃ later new, items.forM (schema.hydrateItem own) h = (.ok (), later) ∧ later.Sound types ∧
      later.list? own = some ⟨schema, held ++ new⟩ ∧
      new.length = (items.filterMap (schema.filledItem base)).length ∧
      (∀ s d, h.document? s = some d → later.document? s = some d) ∧
      (∀ s l, s ≠ own → h.list? s = some l → later.list? s = some l) ∧
      ∀ p ∈ new.zip (items.filterMap (schema.filledItem base)),
        base.Yields later (own.index + 1) n (.document p.1) p.2 := by
  induction items generalizing h held with
  | nil =>
      exact ⟨h, [], rfl, hsound, by simpa using hl, rfl, fun _ _ hd => hd, fun _ _ _ hl => hl,
        by simp⟩
  | cons item rest ih =>
      by_cases hobj : ∃ data, item = .obj data
      · obtain ⟨data, rfl⟩ := hobj
        obtain ⟨inner, mid, hhydrate, hchanges, hinner, hyields⟩ := hfills data hsound hbase hmakes
        have hkeeps := hchanges.keeps
        obtain ⟨next, hone, hfill, hown, hdocument, hlist⟩ :=
          Schema.hydrateItem_obj hdecl hhydrate hchanges hsound hinner hl
        have hnext : base.Stays next := by
          have hmid := hbase.trans hkeeps.stays
          refine ⟨fun {s d} hold => hdocument s d (hmid.document hold),
            fun {s l} hold => hlist s l ?_ (hmid.list hold)⟩
          rintro rfl
          rw [hnew] at hold
          cases hold
        obtain ⟨later, new, hrun, hfinal, hitems, hlength, hdocuments, hlists, hyieldsRest⟩ :=
          ih (hfill.sound hdecl hsound) hnext (fun t ht => (hmakes t ht).mono hfill.grows)
            (Nat.le_trans hn hfill.documents_length_le) hown
        have hlater : ∀ l c, own.index + 1 ≤ l.index → mid.list? l = some c →
            later.list? l = some c := by
          intro s l hs hl
          have hne : s ≠ own := fun heq => by simp [heq] at hs
          exact hlists s l hne (hlist s l hne hl)
        refine ⟨later, inner :: new, ?_, hfinal, by simpa using hitems,
          by simpa [Schema.filledItem] using hlength,
          fun s d hd => hdocuments s d (hdocument s d (hkeeps.document (document?_lt hd) hd)),
          fun s l hne hl => hlists s l hne (hlist s l hne (hkeeps.list (list?_lt hl) hl)), ?_⟩
        · rw [List.forM, bind_apply, hone]
          exact hrun
        · have hitem : schema.filledItem base (.obj data) =
              some (.obj (schema.filled base data)) := rfl
          rw [List.filterMap_cons_some hitem, List.zip_cons_cons]
          refine List.forall_mem_cons.mpr ⟨?_, hyieldsRest⟩
          exact (hyields.weaken (list?_lt hl) hn).mono
            (fun s d _ hd => hdocuments s d (hdocument s d hd)) hlater
      · -- what is no object is passed over
        have hskip : schema.hydrateItem own item h = (.ok (), h) ∧
            schema.filledItem base item = none := by
          cases item with
          | obj data => exact absurd ⟨data, rfl⟩ hobj
          | _ => exact ⟨rfl, rfl⟩
        obtain ⟨later, new, hrun, hrest⟩ := ih hsound hbase hmakes hn hl
        rw [List.filterMap_cons_none hskip.2]
        refine ⟨later, new, ?_, hrest⟩
        rw [List.forM, bind_apply, hskip.1]
        exact hrun

/-- An object in an embedded field becomes a document. -/
theorem Kind.hydrate_embedded_yields (hdecl : Declared types) {schema : Schema}
    (hsound : h.Sound types) {m : Nat} (hm : m ≤ h.lists.length) {r : DocRef} {f : Field}
    (hf : h.HasField r f) (hkind : f.kind = .embedded schema) {data : Json.Object}
    (hfills : schema.Fills types base data h) :
    ∃ later, (Kind.embedded schema).hydrate r f.name (.obj data) h = (.ok (), later) ∧
      h.OnlyAt r [f.name] later ∧
      base.FieldYields later m r f (.obj (schema.filled base data)) := by
  obtain ⟨d, hd, _⟩ := id hf
  obtain ⟨inner, mid, hhydrate, hchanges, hinner, hyields⟩ := hfills
  obtain ⟨later, hrun, honly, d', hd', hvalue⟩ := Kind.hydrate_embedded_holds hdecl hhydrate
    (hchanges.sound hdecl hsound) hinner (hf.mono hchanges.grows) hkind
  refine ⟨later, hrun, (hchanges.keeps.onlyAt r []).trans honly, d', hd', ?_⟩
  rw [hvalue]
  exact honly.yields (hyields.weaken hm (document?_lt hd))

/-- A sequence in a list field becomes a list. -/
theorem Kind.hydrate_list_yields (hdecl : Declared types) {schema : Schema} (hs : schema ∈ types)
    (hfills : ∀ {h : Heap} (data : Json.Object), h.Sound types → base.Stays h →
      (∀ t, schema.Nests t → t.Makes types base h) → schema.Fills types base data h)
    (hsound : h.Sound types) (hbase : base.Stays h)
    (hmakes : ∀ t, schema.Nests t → t.Makes types base h) {m : Nat} (hm : m ≤ h.lists.length)
    {r : DocRef} {f : Field} (hf : h.HasField r f) (items : List Json) :
    ∃ later, (Kind.list schema).hydrate r f.name (.arr items) h = (.ok (), later) ∧
      h.OnlyAt r [f.name] later ∧
      base.FieldYields later m r f (.arr (items.filterMap (schema.filledItem base))) := by
  obtain ⟨d, hd, _⟩ := id hf
  have hadd : Changes types h.documents.length h.lists.length h (h.addList ⟨schema, []⟩).2 :=
    .single (.newList hs (by simp))
  have hown := list?_addList_self h ⟨schema, []⟩
  have hindex : (h.addList ⟨schema, []⟩).1.index = h.lists.length := rfl
  have hnew : base.list? (h.addList ⟨schema, []⟩).1 = none := by
    cases hl : base.list? (h.addList ⟨schema, []⟩).1 with
    | none => rfl
    | some c =>
        have hold := hbase.list hl
        rw [list?_addList_fst] at hold
        cases hold
  generalize hfresh : (h.addList ⟨schema, []⟩).1 = own at hown hindex hnew
  obtain ⟨mid, new, hfill, hsound', hitems, hlength, hdocuments, hlists, hyields⟩ :=
    Schema.hydrateItems_yields (n := r.index + 1) hdecl hfills hnew items
      (hadd.sound hdecl hsound) (hbase.trans hadd.keeps.stays)
      (fun t ht => (hmakes t ht).mono hadd.grows) (document?_lt hd) hown
  obtain ⟨later, hrun, hbefore, honly, d', hd', hvalue, _⟩ := Kind.hydrate_list_holds hdecl
    hfresh hfill hsound' (fun s d hd => hdocuments s d hd) hlists hf
  refine ⟨later, hrun, hbefore, d', hd', ?_⟩
  rw [hvalue]
  refine .list (by omega) (honly.lists hitems) (by simpa using hlength) fun p hp => ?_
  exact honly.yields ((hyields p hp).weaken (by omega) (Nat.le_refl _))

mutual

/-- Hydration succeeds, and the new document has the data that it is to have. -/
theorem Schema.hydrate_fills (hdecl : Declared types) {h : Heap} (hsound : h.Sound types)
    (hbase : base.Stays h) (data : Json.Object) : (s : Schema) → s ∈ types →
    (∀ t, s.Nests t → t.Makes types base h) → s.Fills types base data h
  | ⟨id, name, role, parent?, fields⟩, hs, hmakes => by
      have hself := hmakes _ .refl
      obtain ⟨r, hr⟩ := hself.constructs h (.refl h) hsound
      obtain ⟨hchanges, hpost⟩ := Schema.instantiate_runs hdecl hsound.ready _ hs
      obtain ⟨hnew, d, hd, hschema⟩ := hpost r hr
      have hmake : Schema.instantiate ⟨id, name, role, parent?, fields⟩ h =
          (.ok r, (Schema.instantiate ⟨id, name, role, parent?, fields⟩ h).2) := Prod.ext hr rfl
      obtain ⟨d', hd', hstart⟩ :=
        Schema.instantiate_yields hdecl hsound hbase hs hself.fixed hmake
      generalize (Schema.instantiate ⟨id, name, role, parent?, fields⟩ h).2 = mid at *
      obtain rfl := Option.some.inj (hd'.symm.trans hd)
      have hold : base.document? r = none :=
        List.getElem?_eq_none (Nat.le_trans hbase.length_le hnew)
      obtain ⟨later, hrun, honly, hyields⟩ := Field.hydrateAll_yields hdecl
        (hchanges.sound hdecl hsound) (hbase.trans hchanges.keeps.stays) hold data fields
        (hdecl.fieldNames_nodup hs) (fun f hf => hdecl.field_over hs hf)
        (fun f hf => ⟨d', hd, by rw [hschema]; exact hf⟩)
        (fun f hf t ⟨s, hkind, ht⟩ => (hmakes t (.head ⟨f, hf, hkind⟩ ht)).mono hchanges.grows)
        hchanges.lists_length_le fun f hf => ⟨d', hd, hstart f hf⟩
      have hhydrate : Schema.hydrate ⟨id, name, role, parent?, fields⟩ data h = (.ok r, later) := by
        rw [Schema.hydrate, bind_apply, hmake]
        simp only [bind_apply, hrun, pure_apply]
      have hruns := (Schema.hydrate_runs hdecl hsound.ready data _ hs).1
      rw [hhydrate] at hruns
      obtain ⟨final, hfinal, hschema', _⟩ := honly.slots hd
      refine ⟨r, later, hhydrate, hruns, ⟨final, hfinal, hschema'.trans hschema⟩, ?_⟩
      have hdata : Schema.filled base ⟨id, name, role, parent?, fields⟩ data =
          final.schema.fields.map fun f => (f.name, f.filled base data) := by
        rw [hschema', hschema, Schema.filled, Field.filledAll_eq_map]
      rw [hdata]
      refine .document hnew hfinal fun f hf => ?_
      rw [hschema', hschema] at hf
      obtain ⟨final', hfinal', hfield⟩ := hyields f hf
      obtain rfl := Option.some.inj (hfinal'.symm.trans hfinal)
      exact hfield
termination_by structural s => s

theorem Field.hydrateAll_yields (hdecl : Declared types) {h : Heap} (hsound : h.Sound types)
    (hbase : base.Stays h) {r : DocRef} (hr : base.document? r = none) (data : Json.Object)
    {m : Nat} : (fields : List Field) → (fields.map (·.name)).Nodup → (∀ f ∈ fields, f.Over types) →
    (∀ f ∈ fields, h.HasField r f) →
    (∀ f ∈ fields, ∀ t, f.kind.Needs t → t.Makes types base h) → m ≤ h.lists.length →
    (∀ f ∈ fields, base.FieldYields h m r f (f.startJson base)) →
    ∃ later, Field.hydrateAll r fields data h = (.ok (), later) ∧
      h.OnlyAt r (fields.map (·.name)) later ∧
      ∀ f ∈ fields, base.FieldYields later m r f (f.filled base data)
  | [], _, _, _, _, _, _ => ⟨h, rfl, .refl r [] h, by simp⟩
  | f :: rest, hnodup, hover, hfields, hmakes, hm, hstart => by
      obtain ⟨hname, hnodupRest⟩ := List.nodup_cons.mp hnodup
      obtain ⟨mid, hfirst, honly, hyields⟩ := Field.hydrate_yields hdecl hsound hbase data f
        (hover f List.mem_cons_self) (hfields f List.mem_cons_self) (hmakes f List.mem_cons_self)
        hm (hstart f List.mem_cons_self)
      have hchanges := (Field.hydrate_runs hdecl hsound.ready_zero (Nat.zero_le r.index) data f
        (hover f List.mem_cons_self) (hfields f List.mem_cons_self)).1
      rw [hfirst] at hchanges
      have hmem : ∀ {g}, g ∈ rest → g ∈ f :: rest := List.mem_cons_of_mem f
      obtain ⟨later, hrest, honlyRest, hyieldsRest⟩ := Field.hydrateAll_yields hdecl
        (hchanges.sound hdecl hsound) (honly.stays hbase hr) hr data rest hnodupRest
        (fun g hg => hover g (hmem hg)) (fun g hg => (hfields g (hmem hg)).mono hchanges.grows)
        (fun g hg t ht => (hmakes g (hmem hg) t ht).mono hchanges.grows)
        (Nat.le_trans hm hchanges.lists_length_le)
        fun g hg => (hstart g (hmem hg)).mono honly (Field.name_not_mem_of_mem hname hg)
      refine ⟨later, ?_, honly.trans honlyRest, List.forall_mem_cons.mpr ⟨?_, hyieldsRest⟩⟩
      · rw [Field.hydrateAll, Build.bind_apply, hfirst]
        exact hrest
      · -- the first field is none of the others
        exact hyields.mono honlyRest hname
termination_by structural fields => fields

theorem Field.hydrate_yields (hdecl : Declared types) {h : Heap} (hsound : h.Sound types)
    (hbase : base.Stays h) {r : DocRef} (data : Json.Object) {m : Nat} : (f : Field) →
    f.Over types → h.HasField r f → (∀ t, f.kind.Needs t → t.Makes types base h) →
    m ≤ h.lists.length → base.FieldYields h m r f (f.startJson base) →
    ∃ later, f.hydrate r data h = (.ok (), later) ∧ h.OnlyAt r [f.name] later ∧
      base.FieldYields later m r f (f.filled base data)
  | ⟨name, required, default?, kind⟩, hover, hf, hmakes, hm, hstart => by
      rw [Field.hydrate.eq_def, Field.filled]
      simp only
      cases data.get? name with
      | none => exact ⟨h, rfl, .refl r _ h, hstart⟩
      | some j =>
          exact Kind.hydrate_yields hdecl hsound hbase (f := ⟨name, required, default?, kind⟩) j
            kind hover.kind hf rfl hmakes hm hstart
termination_by structural f => f

theorem Kind.hydrate_yields (hdecl : Declared types) {h : Heap} (hsound : h.Sound types)
    (hbase : base.Stays h) {r : DocRef} {f : Field} (j : Json) {m : Nat} : (kind : Kind) →
    (∀ s, kind.schema? = some s → s ∈ types ∧ s.isEmbedded = true) → h.HasField r f →
    f.kind = kind → (∀ t, kind.Needs t → t.Makes types base h) → m ≤ h.lists.length →
    base.FieldYields h m r f (f.startJson base) →
    ∃ later, kind.hydrate r f.name j h = (.ok (), later) ∧ h.OnlyAt r [f.name] later ∧
      base.FieldYields later m r f (kind.filled base f j)
  | kind, hover, hf, hkind, hmakes, hm, hstart => by
      cases hnests : kind.nests j with
      | false =>
          rw [Kind.hydrate_of_not_nests r f.name hnests, Kind.filled_of_not_nests base f hnests]
          exact set_yields hdecl hsound hbase hf (hkind ▸ hnests) hstart
      | true =>
          match kind, j with
          | .embedded schema, .obj data =>
              have hfills := Schema.hydrate_fills hdecl hsound hbase data schema
                (hover schema rfl).1 fun t ht => hmakes t ⟨schema, rfl, ht⟩
              rw [Kind.filled_embedded_obj]
              exact Kind.hydrate_embedded_yields hdecl hsound hm hf hkind hfills
          | .list schema, .arr items =>
              have hs := (hover schema rfl).1
              rw [Kind.filled_list_arr]
              refine Kind.hydrate_list_yields hdecl hs (fun data hlater hbase hmakes => ?_) hsound
                hbase (fun t ht => hmakes t ⟨schema, rfl, ht⟩) hm hf items
              exact Schema.hydrate_fills hdecl hlater hbase data schema hs hmakes
termination_by structural kind => kind

end

end DocumentModel
