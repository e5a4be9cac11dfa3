/-
Construction as changes.

What makes a document, a default or a recipe's value is a run of elementary changes, whether it
succeeds or not, and what it makes is of the declared types.  A new document shares its declared
default lists and owns the others.
-/
import DocumentModel.Proofs.Assignment
import DocumentModel.Proofs.Mapping

namespace DocumentModel

namespace Build

variable {α β : Type} {types : List Schema} {n m : Nat} {h : Heap}

theorem pure_apply (a : α) (h : Heap) : (pure a : Build α) h = (.ok a, h) :=
  rfl

theorem bind_apply (x : Build α) (f : α → Build β) (h : Heap) :
    (x >>= f) h = match x h with
      | (.ok a, h) => f a h
      | (.error e, h) => (.error e, h) := by
  change ExceptT.bind x f h = _
  simp only [ExceptT.bind, ExceptT.mk, bind, StateT.bind]
  cases hx : x h with
  | mk res later => cases res <;> rfl

/-- If one operation after another succeeds, both do. -/
theorem bind_eq_ok {x : Build α} {f : α → Build β} {b : β} {later : Heap}
    (hrun : (x >>= f) h = (.ok b, later)) :
    ∃ a mid, x h = (.ok a, mid) ∧ f a mid = (.ok b, later) := by
  rw [bind_apply] at hrun
  split at hrun
  · next a mid hfirst => exact ⟨a, mid, hfirst, hrun⟩
  · cases hrun

/-- An operation is a run of changes within reach, and what it gives back is as promised. -/
def Runs (types : List Schema) (n m : Nat) (x : Build α) (h : Heap)
    (post : α → Heap → Prop) : Prop :=
  Heap.Changes types n m h (x h).2 ∧ ∀ a, (x h).1 = .ok a → post a (x h).2

theorem Runs.pure {post : α → Heap → Prop} {a : α} (hpost : post a h) :
    Runs types n m (pure a) h post := by
  refine ⟨.refl h, fun b hb => ?_⟩
  obtain rfl : a = b := by simpa [pure_apply] using hb
  exact hpost

/-- One operation after the other. -/
theorem Runs.bind {x : Build α} {f : α → Build β} {P : α → Heap → Prop}
    {post : β → Heap → Prop} (hx : Runs types n m x h P)
    (hf : ∀ a later, Heap.Changes types n m h later → P a later →
      Runs types n m (f a) later post) : Runs types n m (x >>= f) h post := by
  obtain ⟨hchanges, hmid⟩ := hx
  rw [Runs, bind_apply]
  cases hresult : x h with
  | mk result later =>
      rw [hresult] at hchanges hmid
      cases result with
      | error e => exact ⟨hchanges, fun b hb => by cases hb⟩
      | ok a =>
          obtain ⟨hchanges', hpost⟩ := hf a later hchanges (hmid a rfl)
          exact ⟨hchanges.trans hchanges', hpost⟩

theorem Runs.imp {x : Build α} {post post' : α → Heap → Prop}
    (hx : Runs types n m x h post) (himp : ∀ a later, post a later → post' a later) :
    Runs types n m x h post' :=
  ⟨hx.1, fun a ha => himp a _ (hx.2 a ha)⟩

theorem Runs.weaken {n' m' : Nat} {x : Build α} {post : α → Heap → Prop} (hn : n' ≤ n)
    (hm : m' ≤ m) (hx : Runs types n m x h post) : Runs types n' m' x h post :=
  ⟨hx.1.weaken hn hm, hx.2⟩

/-- Nothing is promised of an operation that only changes the heap. -/
theorem Runs.of_changes {x : Build α} (hx : Heap.Changes types n m h (x h).2) :
    Runs types n m x h fun _ _ => True :=
  ⟨hx, fun _ _ => trivial⟩

end Build

namespace Heap

variable {types : List Schema} {n m : Nat} {h : Heap}

/-! First values. -/

/-- The first value of a list field: none, the default list itself, or a new list. -/
theorem initialList_cases (h : Heap) (f : Field) (schema : Schema) (v : Value) :
    (∃ e, h.initialList f schema v = (.error e, h)) ∨
    (∃ r l, v = .list r ∧ h.list? r = some l ∧ l.schema.isA schema = true ∧
      h.initialList f schema v = (.ok v, h)) ∨
    (∃ items, (∀ item ∈ items, h.documentIsA item schema = true) ∧
      h.initialList f schema v =
        (.ok (.list (h.addList ⟨schema, items⟩).1), (h.addList ⟨schema, items⟩).2)) := by
  cases v with
  | null => exact Or.inr (Or.inr ⟨[], by simp, rfl⟩)
  | array items =>
      simp only [initialList]
      cases Value.documents? items with
      | none => exact Or.inl ⟨_, rfl⟩
      | some documents =>
          cases hcheck : h.checkTypes schema documents with
          | ok u =>
              have hfits := checkTypes_eq_ok_iff.mp hcheck
              exact Or.inr (Or.inr ⟨documents, hfits, by simp only [hcheck]⟩)
          | error e => cases e <;> exact Or.inl ⟨_, by simp only [hcheck]; rfl⟩
  | list r =>
      cases hl : h.list? r with
      | none => exact Or.inl ⟨_, by simp only [initialList, hl]; rfl⟩
      | some l =>
          cases hisA : l.schema.isA schema with
          | false =>
              exact Or.inl ⟨h.unsuited f schema.name (.list r), by simp [initialList, hl, hisA]⟩
          | true =>
              exact Or.inr (Or.inl ⟨r, l, rfl, hl, hisA, by simp [initialList, hl, hisA]⟩)
  | _ => exact Or.inl ⟨_, rfl⟩

/-- A default that suits its field is a value that the field may hold. -/
theorem initialList_runs {f : Field} {schema : Schema} (hkind : f.kind = .list schema)
    (hschema : schema ∈ types) (v : Value) :
    Build.Runs types n m (fun h => h.initialList f schema v) h fun w later =>
      f.kind.Admits later w ∧ w.Proper := by
  rw [Build.Runs]
  rcases initialList_cases h f schema v with
    ⟨e, heq⟩ | ⟨r, l, rfl, hl, hisA, heq⟩ | ⟨items, hitems, heq⟩
  · rw [heq]
    exact ⟨.refl h, fun w hw => by cases hw⟩
  · rw [heq, hkind]
    refine ⟨.refl h, fun w hw => ?_⟩
    obtain rfl : Value.list r = w := Except.ok.inj hw
    exact ⟨⟨r, l, rfl, hl, hisA⟩, .list r⟩
  · rw [heq, hkind]
    refine ⟨.single (.newList hschema hitems), fun w hw => ?_⟩
    obtain rfl : Value.list _ = w := Except.ok.inj hw
    exact ⟨⟨_, _, rfl, list?_addList_self h _, Schema.isA_refl schema⟩, .list _⟩

/-- The first value of any other field is the default, converted if need be. -/
theorem initialValue_plain (h : Heap) {f : Field} (hlist : f.kind.isList = false) {v : Value}
    (hv : v.Proper) :
    (∃ e, h.initialValue f v = (.error e, h)) ∨
    ∃ w, h.initialValue f v = (.ok w, h) ∧ f.kind.Admits h w ∧ w.Proper := by
  cases hkind : f.kind with
  | list schema => simp [hkind, Kind.isList] at hlist
  | embedded schema =>
      simp only [initialValue, hkind]
      cases v with
      | null => exact Or.inr ⟨_, rfl, Or.inl rfl, .null⟩
      | document r =>
          cases hisA : h.documentIsA r schema with
          | false => exact Or.inl ⟨h.unsuited f schema.name (.document r), by simp [hisA]⟩
          | true =>
              exact Or.inr ⟨.document r, by simp [hisA], Or.inr ⟨r, rfl, hisA⟩, .document r⟩
      | _ => exact Or.inl ⟨_, rfl⟩
  | array lengths check? =>
      have hcoerce : f.coerce h v = v := by simp [Field.coerce, hkind]
      simp only [initialValue, hkind, hcoerce]
      cases v with
      | null => exact Or.inr ⟨.null, by simp [Value.isNull], Or.inl rfl, .null⟩
      | array items =>
          exact Or.inr ⟨.array items, by simp [Field.holdsKind, hkind],
            Or.inr ⟨items, rfl⟩, hv⟩
      | _ => exact Or.inl ⟨_, by simp [Value.isNull, Field.holdsKind, hkind]; rfl⟩
  | _ =>
      have hadmits := f.coerce_admits h v (by rw [hkind]; rfl) (by rw [hkind]; rfl)
      rw [hkind] at hadmits
      simp only [initialValue, hkind]
      split
      · exact Or.inr ⟨_, rfl, hadmits, f.coerce_proper h hv⟩
      · exact Or.inl ⟨_, rfl⟩

theorem initialValue_runs {f : Field} (hover : f.Over types) {v : Value} (hv : v.Proper) :
    Build.Runs types n m (fun h => h.initialValue f v) h fun w later =>
      f.kind.Admits later w ∧ w.Proper := by
  cases hlist : f.kind.isList with
  | true =>
      obtain ⟨schema, hkind⟩ := Kind.exists_of_isList hlist
      have hschema := (hover.kind schema (by rw [hkind]; rfl)).1
      simpa only [Build.Runs, initialValue, hkind] using initialList_runs hkind hschema v
  | false =>
      rw [Build.Runs]
      rcases initialValue_plain h hlist hv with ⟨e, heq⟩ | ⟨w, heq, hadmits, hproper⟩
      · rw [heq]
        exact ⟨.refl h, fun w hw => by cases hw⟩
      · rw [heq]
        refine ⟨.refl h, fun w' hw => ?_⟩
        obtain rfl : w = w' := Except.ok.inj hw
        exact ⟨hadmits, hproper⟩

/-! Given values. -/

theorem Ready.setAll_changes (hdecl : Declared types) (hready : h.Ready types n m) {r : DocRef}
    (hr : n ≤ r.index) {values : List (String × Value)} (hvalues : ∀ e ∈ values, e.2.Proper) :
    Changes types n m h (h.setAll r values).2 := by
  induction values generalizing h with
  | nil => exact .refl h
  | cons first rest ih =>
      obtain ⟨name, v⟩ := first
      have hset := hready.set_changes hdecl hr name (hvalues (name, v) List.mem_cons_self)
      rw [setAll]
      cases hresult : h.set r name v with
      | mk result later =>
          rw [hresult] at hset
          cases result with
          | error e => exact hset
          | ok u =>
              refine hset.trans (ih (hset.ready hdecl hready) fun e he => ?_)
              exact hvalues e (List.mem_cons_of_mem _ he)

theorem checkChoices_eq (d : Document) (names : List String) :
    ∃ e, checkChoices d names = { d with errors := e } := by
  induction names generalizing d with
  | nil => exact ⟨d.errors, rfl⟩
  | cons name rest ih =>
      rw [checkChoices]
      split
      · split
        · obtain ⟨e, he⟩ := ih { d with errors := d.errors.add name notInChoices }
          exact ⟨e, he⟩
        · exact ih d
      · exact ih d

theorem Ready.assignGiven_changes (hdecl : Declared types) (hready : h.Ready types n m)
    {r : DocRef} (hr : n ≤ r.index) {values : List (String × Value)}
    (hvalues : ∀ e ∈ values, e.2.Proper) : Changes types n m h (h.assignGiven r values).2 := by
  have hset := hready.setAll_changes hdecl hr hvalues
  rw [assignGiven]
  cases hresult : h.setAll r values with
  | mk result later =>
      rw [hresult] at hset
      cases result with
      | error e => exact hset
      | ok u =>
          cases hd : later.document? r with
          | none => simpa only [hd] using hset
          | some d =>
              obtain ⟨e, he⟩ := checkChoices_eq d (values.map (·.1))
              simp only [hd, he]
              exact hset.trans (.single (.newErrors e hr hd))

end Heap

open Build Heap

variable {types : List Schema} {n m : Nat} {h : Heap}

/-- The slot of a field fits it, and the list that it owns, if any, is new. -/
structure Slot.New (h : Heap) (f : Field) (slot : Slot) (later : Heap) : Prop where
  fits : slot.Fits later f
  own : ∀ l, OwnsAt (f, slot) l →
    h.list? l = none ∧ (later.list? l).isSome = true ∧ later.Free l

/-- A first value makes a slot.  Only an implied list is the slot's own. -/
theorem Slot.New.of_value {f : Field} {v : Value} {later : Heap}
    (hadmits : f.kind.Admits later v) (hproper : v.Proper)
    (hown : f.default? = none → ∀ schema l, f.kind = .list schema → v = .list l →
      h.list? l = none ∧ later.list? l = some ⟨schema, []⟩ ∧ later.Free l) :
    Slot.New h f ⟨f.name, v, f.kind.isList && f.default?.isSome, false⟩ later := by
  have hnone : f.kind.isList = true → (f.kind.isList && f.default?.isSome) = false →
      f.default? = none := by
    intro hlist hshared
    simpa [hlist] using hshared
  constructor
  · refine ⟨rfl, hadmits, hproper, fun hshared => Bool.and_eq_true_iff.mp hshared,
      by simp, fun hshared schema l hkind hvalue => ?_⟩
    have hlist : f.kind.isList = true := by rw [hkind]; rfl
    exact ⟨_, (hown (hnone hlist hshared) schema l hkind hvalue).2.1, rfl⟩
  · intro l ⟨hlist, hshared, hvalue⟩
    obtain ⟨schema, hkind⟩ := Kind.exists_of_isList hlist
    obtain ⟨hold, hnew, hfree⟩ := hown (hnone hlist hshared) schema l hkind hvalue
    exact ⟨hold, by rw [hnew]; rfl, hfree⟩

/-- The implied default of a list field is a new list. -/
theorem Heap.Sound.impliedDefault (hsound : h.Sound types) (hdecl : Declared types) {f : Field}
    (hover : f.Over types) :
    Changes types n m h (h.impliedDefault f.kind).2 ∧ (h.impliedDefault f.kind).1.Proper ∧
      ∀ schema, f.kind = .list schema → ∃ l, (h.impliedDefault f.kind).1 = .list l ∧
        h.list? l = none ∧ (h.impliedDefault f.kind).2.list? l = some ⟨schema, []⟩ ∧
        (h.impliedDefault f.kind).2.Free l := by
  cases hkind : f.kind with
  | list schema =>
      have hschema := (hover.kind schema (by rw [hkind]; rfl)).1
      refine ⟨.single (.newList hschema (by simp)), .list _, fun schema' heq => ?_⟩
      obtain rfl : schema = schema' := by injection heq
      have hnone := list?_addList_fst h ⟨schema, []⟩
      exact ⟨_, rfl, hnone, list?_addList_self h _, hsound.free_of_list?_eq_none hdecl hnone⟩
  | array lengths check? => exact ⟨.refl h, .array (by simp), fun _ heq => by cases heq⟩
  | _ => exact ⟨.refl h, .null, fun _ heq => by cases heq⟩

/-- The first slot of a field, from the value of its default. -/
theorem Field.slot_runs {f : Field} (hover : f.Over types) {start : Heap} {v : Value}
    (hv : v.Proper)
    (himplied : f.default? = none → ∀ schema, f.kind = .list schema → ∃ l, v = .list l ∧
      start.list? l = none ∧ h.list? l = some ⟨schema, []⟩ ∧ h.Free l) :
    Runs types n m (do
      let v ← fun h => h.initialValue f v
      return (⟨f.name, v, f.kind.isList && f.default?.isSome, false⟩ : Slot)) h
      fun slot later => Slot.New start f slot later := by
  have hvalue : Runs types n m (fun h => h.initialValue f v) h fun w later =>
      f.kind.Admits later w ∧ w.Proper ∧
        (f.default? = none → ∀ schema l, f.kind = .list schema → w = .list l →
          start.list? l = none ∧ later.list? l = some ⟨schema, []⟩ ∧ later.Free l) := by
    obtain ⟨hchanges, hpost⟩ := initialValue_runs (n := n) (m := m) (h := h) hover hv
    refine ⟨hchanges, fun w hw => ⟨(hpost w hw).1, (hpost w hw).2,
      fun hnone schema l hkind hl => ?_⟩⟩
    obtain ⟨l', rfl, hold, hnew, hfree⟩ := himplied hnone schema hkind
    -- a list of the right type is taken as it is
    have hsame : h.initialValue f (.list l') = (.ok (.list l'), h) := by
      simp [initialValue, hkind, initialList, hnew, Schema.isA_refl]
    simp only [hsame] at hw ⊢
    obtain rfl : Value.list l' = w := Except.ok.inj hw
    obtain rfl : l' = l := by injection hl
    exact ⟨hold, hnew, hfree⟩
  refine hvalue.bind fun w later _ hw => .pure ?_
  exact .of_value hw.1 hw.2.1 hw.2.2

mutual

/-- Making a document makes a new one of its type. -/
theorem Schema.instantiate_runs (hdecl : Declared types) {n m : Nat} {h : Heap}
    (hready : h.Ready types n m) : (s : Schema) → s ∈ types →
    Runs types n m s.instantiate h fun r later =>
      n ≤ r.index ∧ ∃ d, later.document? r = some d ∧ d.schema = s
  | ⟨id, name, role, parent?, fields⟩, hs => by
      have hover : ∀ f ∈ fields, f.Over types := fun f hf => hdecl.field_over hs hf
      rw [Schema.instantiate]
      apply (Field.initialSlots_runs hdecl hready fields hover).bind
      rintro slots later hchanges ⟨hfits, hown⟩
      refine ⟨.single (hown.newDocument hdecl hs hfits hready.lists), fun r hr => ?_⟩
      obtain rfl : (later.addDocument _).1 = r := Except.ok.inj hr
      exact ⟨(hchanges.ready hdecl hready).documents, _, document?_addDocument_self later _, rfl⟩
termination_by structural s => s

theorem Field.initialSlots_runs (hdecl : Declared types) {n m : Nat} {h : Heap}
    (hready : h.Ready types n m) : (fields : List Field) → (∀ f ∈ fields, f.Over types) →
    Runs types n m (Field.initialSlots fields) h fun slots later =>
      List.Forall₂ (Slot.Fits later) fields slots ∧ h.OwnsNew later fields slots
  | [], _ => Runs.pure ⟨.nil, .nil h h⟩
  | f :: rest, hover => by
      rw [Field.initialSlots]
      apply (Field.initialSlot_runs hdecl hready f (hover f List.mem_cons_self)).bind
      rintro slot mid hfirst ⟨hfit, hown⟩
      have hmid := hfirst.ready hdecl hready
      -- the lists of the first slot are out of reach of the others
      obtain ⟨hchanges, hpost⟩ := Field.initialSlots_runs hdecl hmid.sound.ready rest
        fun g hg => hover g (List.mem_cons_of_mem f hg)
      refine Runs.bind (P := fun slots later =>
        Changes types mid.documents.length mid.lists.length mid later ∧
          List.Forall₂ (Slot.Fits later) rest slots ∧ mid.OwnsNew later rest slots)
        ⟨hchanges.weaken hmid.documents hmid.lists, fun slots hslots =>
          ⟨hchanges, hpost slots hslots⟩⟩ ?_
      rintro slots later _ ⟨hchanges, hfits, hownRest⟩
      exact .pure ⟨.cons (hfit.mono hchanges.grows) hfits,
        .cons hdecl hmid.sound hfirst.grows hchanges hown hownRest⟩
termination_by structural fields => fields

theorem Field.initialSlot_runs (hdecl : Declared types) {n m : Nat} {h : Heap}
    (hready : h.Ready types n m) : (f : Field) → f.Over types →
    Runs types n m f.initialSlot h fun slot later => slot.New h f later
  | ⟨name, required, none, kind⟩, hover => by
      rw [Field.initialSlot.eq_def]
      obtain ⟨hchanges, hproper, himplied⟩ :=
        hready.sound.impliedDefault (n := n) (m := m) hdecl hover
      refine Runs.bind (P := fun v later => v.Proper ∧ ∀ schema, kind = .list schema →
        ∃ l, v = .list l ∧ h.list? l = none ∧ later.list? l = some ⟨schema, []⟩ ∧ later.Free l)
        ⟨hchanges, fun v hv => ?_⟩ ?_
      · obtain rfl : (h.impliedDefault kind).1 = v := Except.ok.inj hv
        exact ⟨hproper, himplied⟩
      · rintro v later _ ⟨hv, himplied⟩
        exact Field.slot_runs hover hv fun _ => himplied
  | ⟨name, required, some d, kind⟩, hover => by
      rw [Field.initialSlot.eq_def]
      apply (Default.produce_runs hdecl hready d (hover.default d rfl)).bind
      rintro v later _ hv
      exact Field.slot_runs hover hv fun hnone => by cases hnone
termination_by structural f => f

theorem Default.produce_runs (hdecl : Declared types) {n m : Nat} {h : Heap}
    (hready : h.Ready types n m) : (d : Default) → d.Over types →
    Runs types n m d.produce h fun v _ => v.Proper
  | .value v, hover => by
      cases hover with
      | value hv => exact Runs.pure hv
  | .factory recipe, hover => by
      obtain ⟨hchanges, hpost⟩ := Recipe.make_runs hdecl hready recipe hover.of_factory
      rw [Default.produce, Runs]
      cases hresult : recipe.make h with
      | mk result later =>
          rw [hresult] at hchanges hpost
          cases result with
          | error e =>
              refine ⟨hchanges, fun v hv => ?_⟩
              obtain rfl : Value.null = v := Except.ok.inj hv
              exact .null
          | ok v => exact ⟨hchanges, hpost⟩
termination_by structural d => d

theorem Recipe.make_runs (hdecl : Declared types) {n m : Nat} {h : Heap}
    (hready : h.Ready types n m) : (r : Recipe) → r.Over types →
    Runs types n m r.make h fun v _ => v.Proper
  | .plain v, hover => by
      cases hover with
      | plain hv => exact Runs.pure hv
  | .counter ref, _ => by
      rw [Recipe.make]
      refine ⟨.single (.counters h _), fun v hv => ?_⟩
      obtain rfl : Value.int _ = v := Except.ok.inj hv
      exact .int _
  | .array items, hover => by
      rw [Recipe.make]
      exact (Recipe.makeAll_runs hdecl hready items hover.of_array).bind fun values _ _ hvalues =>
        .pure (.array hvalues)
  | .map entries, hover => by
      rw [Recipe.make]
      exact (Recipe.makeEntries_runs hdecl hready entries hover.of_map).bind
        fun values _ _ hvalues => .pure (Value.mapOf_proper hvalues)
  | .document schema values, hover => by
      obtain ⟨hschema, hentries⟩ := hover.of_document
      rw [Recipe.make]
      apply (Recipe.makeEntries_runs hdecl hready values hentries).bind
      intro given later hchanges hgiven
      have hlater := hchanges.ready hdecl hready
      apply (Schema.instantiate_runs hdecl hlater schema hschema).bind
      rintro r final hchanges' ⟨hr, _⟩
      have hfinal := hchanges'.ready hdecl hlater
      have hassign : Runs types n m (fun h => h.assignGiven r given) final fun _ _ => True :=
        .of_changes (hfinal.assignGiven_changes hdecl hr hgiven)
      exact hassign.bind fun _ _ _ _ => .pure (.document r)
  | .list schema items, hover => by
      obtain ⟨hschema, hitems⟩ := hover.of_list
      have hnew : Changes types n m h (h.addList ⟨schema, []⟩).2 :=
        .single (.newList hschema (by simp))
      rw [Recipe.make]
      refine Runs.bind (P := fun r _ => r = (h.addList ⟨schema, []⟩).1)
        ⟨hnew, fun r hr => (Except.ok.inj hr).symm⟩ ?_
      rintro r later hchanges rfl
      have hlater := hchanges.ready hdecl hready
      exact (Recipe.pushAll_runs hdecl hlater schema.name hready.lists items hitems).bind
        fun _ _ _ _ => .pure (.list _)
termination_by structural r => r

theorem Recipe.makeAll_runs (hdecl : Declared types) {n m : Nat} {h : Heap}
    (hready : h.Ready types n m) : (recipes : List Recipe) → (∀ r ∈ recipes, r.Over types) →
    Runs types n m (Recipe.makeAll recipes) h fun values _ => ∀ v ∈ values, v.Proper
  | [], _ => Runs.pure (by simp)
  | r :: rest, hover => by
      rw [Recipe.makeAll]
      apply (Recipe.make_runs hdecl hready r (hover r List.mem_cons_self)).bind
      intro v later hchanges hv
      refine (Recipe.makeAll_runs hdecl (hchanges.ready hdecl hready) rest fun s hs =>
        hover s (List.mem_cons_of_mem r hs)).bind fun values _ _ hvalues => .pure ?_
      exact List.forall_mem_cons.mpr ⟨hv, hvalues⟩
termination_by structural recipes => recipes

theorem Recipe.makeEntries_runs (hdecl : Declared types) {n m : Nat} {h : Heap}
    (hready : h.Ready types n m) : (entries : List (String × Recipe)) →
    (∀ e ∈ entries, e.2.Over types) →
    Runs types n m (Recipe.makeEntries entries) h fun values _ => ∀ e ∈ values, e.2.Proper
  | [], _ => Runs.pure (by simp)
  | (key, r) :: rest, hover => by
      rw [Recipe.makeEntries]
      apply (Recipe.make_runs hdecl hready r (hover (key, r) List.mem_cons_self)).bind
      intro v later hchanges hv
      refine (Recipe.makeEntries_runs hdecl (hchanges.ready hdecl hready) rest fun s hs =>
        hover s (List.mem_cons_of_mem _ hs)).bind fun values _ _ hvalues => .pure ?_
      exact List.forall_mem_cons.mpr ⟨hv, hvalues⟩
termination_by structural entries => entries

theorem Recipe.pushAll_runs (hdecl : Declared types) {n m : Nat} {h : Heap}
    (hready : h.Ready types n m) (expected : String) {list : ListRef} (hlist : m ≤ list.index) :
    (recipes : List Recipe) → (∀ r ∈ recipes, r.Over types) →
    Runs types n m (Recipe.pushAll expected list recipes) h fun _ _ => True
  | [], _ => Runs.pure trivial
  | r :: rest, hover => by
      rw [Recipe.pushAll]
      apply (Recipe.make_runs hdecl hready r (hover r List.mem_cons_self)).bind
      intro v mid hchanges _
      have hmid := hchanges.ready hdecl hready
      have hpush : ∀ x : Build Unit, Changes types n m mid (x mid).2 →
          Runs types n m (x >>= fun _ => Recipe.pushAll expected list rest) mid
            fun _ _ => True := by
        intro x hx
        apply (Runs.of_changes hx).bind
        intro _ later hchanges' _
        exact Recipe.pushAll_runs hdecl (hchanges'.ready hdecl hmid) expected hlist rest fun s hs =>
          hover s (List.mem_cons_of_mem r hs)
      cases v with
      | document item => exact hpush _ (hmid.sound.push_changes hlist item)
      | _ => exact hpush _ (.refl mid)
termination_by structural recipes => recipes

end

/-- Making a document with given values makes a new one, too. -/
theorem Schema.withValues_runs (hdecl : Declared types) (hready : h.Ready types n m) {s : Schema}
    (hs : s ∈ types) {values : List (String × Value)} (hvalues : ∀ e ∈ values, e.2.Proper) :
    Runs types n m (s.withValues values) h fun r _ => n ≤ r.index := by
  rw [Schema.withValues]
  apply (Schema.instantiate_runs hdecl hready s hs).bind
  rintro r later hchanges ⟨hr, _⟩
  have hlater := hchanges.ready hdecl hready
  have hassign : Runs types n m (fun h => h.assignGiven r values) later fun _ _ => True :=
    .of_changes (hlater.assignGiven_changes hdecl hr hvalues)
  exact hassign.bind fun _ _ _ _ => .pure hr

end DocumentModel
