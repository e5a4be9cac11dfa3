/-
Making a document again.

A declared default is a value that is there when its type is declared, or a recipe over such values.
Documents and lists keep their types, so whether a field takes its default does not depend on when a
document is made: two runs of a construction, from any two later heaps, both fail or both succeed.
-/
import DocumentModel.Proofs.Construction

namespace DocumentModel

/-- Every document and every list that a value refers to is in the heap. -/
inductive Value.Within (h : Heap) : Value → Prop
  | null : Within h .null
  | bool (b : Bool) : Within h (.bool b)
  | int (n : Int64) : Within h (.int n)
  | float (x : Float) : Within h (.float x)
  | text (s : String) : Within h (.text s)
  | instant (t : Instant) : Within h (.instant t)
  | objectId (id : ObjectId) : Within h (.objectId id)
  | array {items : List Value} (hitems : ∀ v ∈ items, Within h v) : Within h (.array items)
  | map {entries : List (String × Value)} (hentries : ∀ e ∈ entries, Within h e.2) :
      Within h (.map entries)
  | document {r : DocRef} (hr : (h.document? r).isSome = true) : Within h (.document r)
  | list {r : ListRef} (hr : (h.list? r).isSome = true) : Within h (.list r)

/-- A recipe starts from values within the heap. -/
inductive Recipe.Within (h : Heap) : Recipe → Prop
  | plain {v : Value} (hv : v.Within h) : Within h (.plain v)
  | counter (ref : CounterRef) : Within h (.counter ref)
  | array {items : List Recipe} (hitems : ∀ r ∈ items, Within h r) : Within h (.array items)
  | map {entries : List (String × Recipe)} (hentries : ∀ e ∈ entries, Within h e.2) :
      Within h (.map entries)
  | document {s : Schema} {values : List (String × Recipe)}
      (hvalues : ∀ e ∈ values, Within h e.2) : Within h (.document s values)
  | list {s : Schema} {items : List Recipe} (hitems : ∀ r ∈ items, Within h r) :
      Within h (.list s items)

namespace Recipe.Within

variable {h : Heap}

theorem of_array {items : List Recipe} :
    (Recipe.array items).Within h → ∀ r ∈ items, r.Within h
  | .array hitems => hitems

theorem of_map {entries : List (String × Recipe)} :
    (Recipe.map entries).Within h → ∀ e ∈ entries, e.2.Within h
  | .map hentries => hentries

theorem of_document {s : Schema} {values : List (String × Recipe)} :
    (Recipe.document s values).Within h → ∀ e ∈ values, e.2.Within h
  | .document hvalues => hvalues

theorem of_list {s : Schema} {items : List Recipe} :
    (Recipe.list s items).Within h → ∀ r ∈ items, r.Within h
  | .list hitems => hitems

end Recipe.Within

/-- The same of a declared default. -/
inductive Default.Within (h : Heap) : Default → Prop
  | value {v : Value} (hv : v.Within h) : Within h (.value v)
  | factory {recipe : Recipe} (hrecipe : recipe.Within h) : Within h (.factory recipe)

theorem Default.Within.of_factory {h : Heap} {recipe : Recipe} :
    (Default.factory recipe).Within h → recipe.Within h
  | .factory hrecipe => hrecipe

/-- The declared defaults of a type refer to what is in the heap. -/
def Schema.Within (h : Heap) (s : Schema) : Prop :=
  ∀ f ∈ s.fields, ∀ d, f.default? = some d → d.Within h

section

variable {h later : Heap}

theorem Value.Within.mono (hgrows : h.Grows later) {v : Value} (hv : v.Within h) :
    v.Within later := by
  induction hv with
  | array _ ih => exact .array ih
  | map _ ih => exact .map ih
  | document hr =>
      obtain ⟨d, hd⟩ := Option.isSome_iff_exists.mp hr
      obtain ⟨d', hd', _⟩ := hgrows.document hd
      exact .document (by rw [hd']; rfl)
  | list hr =>
      obtain ⟨l, hl⟩ := Option.isSome_iff_exists.mp hr
      obtain ⟨l', hl', _⟩ := hgrows.list hl
      exact .list (by rw [hl']; rfl)
  | _ => constructor

theorem Recipe.Within.mono (hgrows : h.Grows later) {r : Recipe} (hr : r.Within h) :
    r.Within later := by
  induction hr with
  | plain hv => exact .plain (hv.mono hgrows)
  | counter ref => exact .counter ref
  | array _ ih => exact .array ih
  | map _ ih => exact .map ih
  | document _ ih => exact .document ih
  | list _ ih => exact .list ih

theorem Schema.Within.mono (hgrows : h.Grows later) {s : Schema} (hs : s.Within h) :
    s.Within later := by
  intro f hf d hd
  cases hs f hf d hd with
  | value hv => exact .value (hv.mono hgrows)
  | factory hrecipe => exact .factory (hrecipe.mono hgrows)

end

/-! Values that fields treat alike. -/

/-- Two documents, each in a heap of its own, are of one type. -/
def Heap.SameType (h h' : Heap) (r r' : DocRef) : Prop :=
  ∃ d d', h.document? r = some d ∧ h'.document? r' = some d' ∧ d.schema = d'.schema

/-- Two values, each over a heap of its own, are of one sort: the same text, documents and lists of
the same types, or anything else that fields do not look into. -/
inductive Value.Alike (h h' : Heap) : Value → Value → Prop
  | null : Alike h h' .null .null
  | bool (b b' : Bool) : Alike h h' (.bool b) (.bool b')
  | int (n n' : Int64) : Alike h h' (.int n) (.int n')
  | float (x x' : Float) : Alike h h' (.float x) (.float x')
  | text (s : String) : Alike h h' (.text s) (.text s)
  | instant (t t' : Instant) : Alike h h' (.instant t) (.instant t')
  | objectId (id id' : ObjectId) : Alike h h' (.objectId id) (.objectId id')
  | array {items items' : List Value} (hdocuments : Option.Rel (List.Forall₂ (h.SameType h'))
      (documents? items) (documents? items')) : Alike h h' (.array items) (.array items')
  | map (entries entries' : List (String × Value)) : Alike h h' (.map entries) (.map entries')
  | document {r r' : DocRef} (hr : h.SameType h' r r') : Alike h h' (.document r) (.document r')
  | list {r r' : ListRef} {l l' : DocumentList} (hl : h.list? r = some l)
      (hl' : h'.list? r' = some l') (hschema : l.schema = l'.schema) :
      Alike h h' (.list r) (.list r')

variable {base h h' later later' : Heap}

namespace Heap

theorem SameType.mono (hgrows : h.Grows later) (hgrows' : h'.Grows later') {r r' : DocRef}
    (hr : h.SameType h' r r') : later.SameType later' r r' := by
  obtain ⟨d, d', hd, hd', hschema⟩ := hr
  obtain ⟨e, he, heq⟩ := hgrows.document hd
  obtain ⟨e', he', heq'⟩ := hgrows'.document hd'
  exact ⟨e, e', he, he', by rw [heq, heq', hschema]⟩

theorem SameType.documentIsA {r r' : DocRef} (hr : h.SameType h' r r') (s : Schema) :
    h.documentIsA r s = h'.documentIsA r' s := by
  obtain ⟨d, d', hd, hd', hschema⟩ := hr
  simp [Heap.documentIsA, hd, hd', hschema]

end Heap

open Heap

namespace Value

theorem Alike.mono (hgrows : h.Grows later) (hgrows' : h'.Grows later') {v v' : Value}
    (hv : v.Alike h h' v') : v.Alike later later' v' := by
  cases hv with
  | @array items items' hdocuments =>
      refine .array ?_
      generalize documents? items = found at hdocuments
      generalize documents? items' = found' at hdocuments
      cases hdocuments with
      | none => exact .none
      | some hitems => exact .some (hitems.imp fun _ _ hr => hr.mono hgrows hgrows')
  | document hr => exact .document (hr.mono hgrows hgrows')
  | list hl hl' hschema =>
      obtain ⟨c, hc, heq⟩ := hgrows.list hl
      obtain ⟨c', hc', heq'⟩ := hgrows'.list hl'
      exact .list hc hc' (by rw [heq, heq', hschema])
  | _ => constructor

/-- A sequence of alike values is alike. -/
theorem Alike.array_of_items {items items' : List Value}
    (hitems : List.Forall₂ (Alike h h') items items') :
    Alike h h' (.array items) (.array items') := by
  refine .array ?_
  induction hitems with
  | nil => exact .some .nil
  | @cons _ _ rest rest' hfirst _ ih =>
      cases hfirst with
      | document hr =>
          rw [documents?, documents?]
          generalize documents? rest = found at ih
          generalize documents? rest' = found' at ih
          cases ih with
          | none => exact .none
          | some hrest => exact .some (.cons hr hrest)
      | _ => exact .none

/-- A value that was there before either heap is like itself. -/
theorem Within.alike (hgrows : base.Grows h) (hgrows' : base.Grows h') {v : Value}
    (hv : v.Within base) : v.Alike h h' v := by
  induction hv with
  | array _ ih =>
      exact .array_of_items (List.forall₂_same.mpr ih)
  | document hr =>
      obtain ⟨d, hd⟩ := Option.isSome_iff_exists.mp hr
      exact .document (SameType.mono hgrows hgrows' ⟨d, d, hd, hd, rfl⟩)
  | list hr =>
      obtain ⟨l, hl⟩ := Option.isSome_iff_exists.mp hr
      exact Alike.mono hgrows hgrows' (.list hl hl rfl)
  | _ => constructor

end Value

namespace Heap

/-- Two heaps that have come of one. -/
structure Twins (types : List Schema) (base h h' : Heap) : Prop where
  sound : h.Sound types
  sound' : h'.Sound types
  grows : base.Grows h
  grows' : base.Grows h'

theorem Twins.step {types : List Schema} (hdecl : Declared types)
    (htwins : Twins types base h h') (hchanges : Changes types 0 0 h later)
    (hchanges' : Changes types 0 0 h' later') : Twins types base later later' where
  sound := hchanges.sound hdecl htwins.sound
  sound' := hchanges'.sound hdecl htwins.sound'
  grows := htwins.grows.trans hchanges.grows
  grows' := htwins.grows'.trans hchanges'.grows

end Heap

namespace Build

variable {α β : Type} {types : List Schema}

/-- Two operations are runs of changes, and both fail or both succeed with results as promised. -/
structure Agree (types : List Schema) (x x' : Build α) (h h' : Heap)
    (post : α → Heap → α → Heap → Prop) : Prop where
  changes : Changes types 0 0 h (x h).2
  changes' : Changes types 0 0 h' (x' h').2
  results : (∃ a a', (x h).1 = .ok a ∧ (x' h').1 = .ok a' ∧ post a (x h).2 a' (x' h').2) ∨
    ∃ e e', (x h).1 = .error e ∧ (x' h').1 = .error e'

theorem Agree.pure {post : α → Heap → α → Heap → Prop} {a a' : α} (hpost : post a h a' h') :
    Agree types (pure a) (pure a') h h' post :=
  ⟨.refl h, .refl h', Or.inl ⟨a, a', rfl, rfl, hpost⟩⟩

/-- One operation after the other, in both runs. -/
theorem Agree.bind {x x' : Build α} {f f' : α → Build β} {P : α → Heap → α → Heap → Prop}
    {post : β → Heap → β → Heap → Prop} (hx : Agree types x x' h h' P)
    (hf : ∀ a later a' later', Changes types 0 0 h later → Changes types 0 0 h' later' →
      P a later a' later' → Agree types (f a) (f' a') later later' post) :
    Agree types (x >>= f) (x' >>= f') h h' post := by
  obtain ⟨hchanges, hchanges', hresults⟩ := hx
  obtain ⟨a, a', ha, ha', hmid⟩ | ⟨e, e', he, he'⟩ := hresults
  · obtain ⟨hlater, hlater', hresults⟩ := hf a _ a' _ hchanges hchanges' hmid
    have hbind : (x >>= f) h = f a (x h).2 := by rw [bind_apply, ← Prod.eta (x h), ha]
    have hbind' : (x' >>= f') h' = f' a' (x' h').2 := by
      rw [bind_apply, ← Prod.eta (x' h'), ha']
    rw [← hbind] at hlater hresults
    rw [← hbind'] at hlater' hresults
    exact ⟨hchanges.trans hlater, hchanges'.trans hlater', hresults⟩
  · have hbind : (x >>= f) h = (.error e, (x h).2) := by rw [bind_apply, ← Prod.eta (x h), he]
    have hbind' : (x' >>= f') h' = (.error e', (x' h').2) := by
      rw [bind_apply, ← Prod.eta (x' h'), he']
    refine ⟨by rwa [hbind], by rwa [hbind'], Or.inr ⟨e, e', ?_, ?_⟩⟩
    · rw [hbind]
    · rw [hbind']

theorem Agree.imp {x x' : Build α} {post post' : α → Heap → α → Heap → Prop}
    (hx : Agree types x x' h h' post)
    (himp : ∀ a later a' later', post a later a' later' → post' a later a' later') :
    Agree types x x' h h' post' :=
  ⟨hx.changes, hx.changes', hx.results.imp_left fun ⟨a, a', ha, ha', hpost⟩ =>
    ⟨a, a', ha, ha', himp _ _ _ _ hpost⟩⟩

/-- What each run promises by itself is promised of both. -/
theorem Agree.and_runs {x x' : Build α} {post : α → Heap → α → Heap → Prop}
    {P : α → Heap → Prop} (hx : Agree types x x' h h' post) (hrun : Runs types 0 0 x h P)
    (hrun' : Runs types 0 0 x' h' P) :
    Agree types x x' h h' fun a later a' later' =>
      post a later a' later' ∧ P a later ∧ P a' later' :=
  ⟨hx.changes, hx.changes', hx.results.imp_left fun ⟨a, a', ha, ha', hpost⟩ =>
    ⟨a, a', ha, ha', hpost, hrun.2 a ha, hrun'.2 a' ha'⟩⟩

theorem Agree.isOk {x x' : Build α} {post : α → Heap → α → Heap → Prop}
    (hx : Agree types x x' h h' post) : (x h).1.isOk = (x' h').1.isOk := by
  obtain ⟨a, a', ha, ha', _⟩ | ⟨e, e', he, he'⟩ := hx.results
  · rw [ha, ha']
    rfl
  · rw [he, he']
    rfl

theorem Agree.of_isOk {x x' : Build α} {P P' : α → Heap → Prop} (hrun : Runs types 0 0 x h P)
    (hrun' : Runs types 0 0 x' h' P') (hok : (x h).1.isOk = (x' h').1.isOk) :
    Agree types x x' h h' fun _ _ _ _ => True := by
  refine ⟨hrun.1, hrun'.1, ?_⟩
  cases hresult : (x h).1 with
  | ok a =>
      cases hresult' : (x' h').1 with
      | ok a' => exact Or.inl ⟨a, a', rfl, rfl, trivial⟩
      | error e' => simp [hresult, hresult', Except.isOk, Except.toBool] at hok
  | error e =>
      cases hresult' : (x' h').1 with
      | ok a' => simp [hresult, hresult', Except.isOk, Except.toBool] at hok
      | error e' => exact Or.inr ⟨e, e', rfl, rfl⟩

end Build

open Build

variable {types : List Schema}

namespace Heap

/-! Single operations. -/

theorem checkTypes_isOk {items items' : List DocRef}
    (hitems : List.Forall₂ (h.SameType h') items items') (s : Schema) :
    (h.checkTypes s items).isOk = (h'.checkTypes s items').isOk := by
  induction hitems with
  | nil => rfl
  | cons hfirst _ ih =>
      rw [checkTypes, checkTypes, hfirst.documentIsA s]
      split
      · exact ih
      · rfl

/-- A list field takes a sequence if it takes all documents in it. -/
theorem initialList_array_isOk (h : Heap) (f : Field) (s : Schema) (items : List Value) :
    (h.initialList f s (.array items)).1.isOk =
      ((Value.documents? items).map fun found => (h.checkTypes s found).isOk).getD false := by
  rw [initialList]
  cases Value.documents? items with
  | none => rfl
  | some found =>
      cases hcheck : h.checkTypes s found with
      | ok u => simp [hcheck, Except.isOk, Except.toBool]
      | error e => cases e <;> simp [hcheck, Except.isOk, Except.toBool]

theorem initialList_isOk {v v' : Value} (hv : v.Alike h h' v') (f : Field) (s : Schema) :
    (h.initialList f s v).1.isOk = (h'.initialList f s v').1.isOk := by
  cases hv with
  | @array items items' hdocuments =>
      rw [initialList_array_isOk, initialList_array_isOk]
      generalize Value.documents? items = found at hdocuments
      generalize Value.documents? items' = found' at hdocuments
      cases hdocuments with
      | none => rfl
      | some hitems => exact checkTypes_isOk hitems s
  | @list r r' l l' hl hl' hschema =>
      simp only [initialList, hl, hl', hschema]
      split <;> rfl
  | _ => rfl

/-- Whether a converted value has the kind of its field is a matter of its sort. -/
theorem coerce_holdsKind {v v' : Value} (hv : v.Alike h h' v') (f : Field) :
    ((f.coerce h v).isNull || f.holdsKind (f.coerce h v)) =
      ((f.coerce h' v').isNull || f.holdsKind (f.coerce h' v')) := by
  cases hkind : f.kind with
  | string rules =>
      cases hv <;> simp [Field.coerce, Field.toText, Field.holdsKind, Value.isNull, hkind]
  | _ => cases hv <;> simp [Field.coerce, Field.holdsKind, Value.isNull, hkind]

theorem isOk_ite {α : Type} (b : Bool) (a : α) (e : SchemaError) :
    (if b = true then Except.ok a else Except.error e).isOk = b := by
  cases b <;> rfl

/-- Whether a field takes its default is a matter of the sort of the default. -/
theorem initialValue_isOk {v v' : Value} (hv : v.Alike h h' v') (f : Field) :
    (h.initialValue f v).1.isOk = (h'.initialValue f v').1.isOk := by
  have hsuits := coerce_holdsKind hv f
  cases hkind : f.kind with
  | embedded schema =>
      simp only [initialValue, hkind]
      cases hv with
      | document hr =>
          simp only [hr.documentIsA schema]
          split <;> rfl
      | _ => rfl
  | list schema =>
      simp only [initialValue, hkind]
      exact initialList_isOk hv f schema
  | _ =>
      simp only [initialValue, hkind, isOk_ite]
      exact hsuits

/-- Assigning a field fails only if the type has no such field. -/
theorem set_isOk (hdecl : Declared types) (hsound : h.Sound types) {r : DocRef} {d : Document}
    (hd : h.document? r = some d) (name : String) (v : Value) :
    (h.set r name v).1.isOk = (d.schema.field? name).isSome := by
  simp only [set, hd]
  cases hfield : d.schema.field? name with
  | none => rfl
  | some f =>
      obtain ⟨hf, hname⟩ := Schema.mem_of_field? hfield
      obtain ⟨slot, hslot, _⟩ := hsound.slot_of_field hdecl hd hf
      rw [hname] at hslot
      simp only [hslot]
      rfl

theorem assignGiven_isOk (h : Heap) (r : DocRef) (values : List (String × Value)) :
    (h.assignGiven r values).1.isOk = (h.setAll r values).1.isOk := by
  rw [assignGiven]
  cases hresult : h.setAll r values with
  | mk result later =>
      cases result with
      | error e => rfl
      | ok u => cases hd : later.document? r <;> simp only [hd]

/-- Assigning several fields is a matter of their names. -/
theorem setAll_isOk (hdecl : Declared types) (htwins : Twins types base h h') {r r' : DocRef}
    (hr : h.SameType h' r r') {values values' : List (String × Value)}
    (hkeys : values.map Prod.fst = values'.map Prod.fst) (hvalues : ∀ e ∈ values, e.2.Proper)
    (hvalues' : ∀ e ∈ values', e.2.Proper) :
    (h.setAll r values).1.isOk = (h'.setAll r' values').1.isOk := by
  induction values generalizing h h' values' with
  | nil =>
      obtain rfl : values' = [] := by simpa using hkeys.symm
      rfl
  | cons first rest ih =>
      obtain ⟨name, v⟩ := first
      cases values' with
      | nil => cases hkeys
      | cons first' rest' =>
          obtain ⟨name', v'⟩ := first'
          obtain ⟨rfl, hrest⟩ : name = name' ∧ rest.map Prod.fst = rest'.map Prod.fst := by
            simpa using hkeys
          obtain ⟨hv, hproper⟩ := List.forall_mem_cons.mp hvalues
          obtain ⟨hv', hproper'⟩ := List.forall_mem_cons.mp hvalues'
          have hchanges := htwins.sound.ready_zero.set_changes hdecl (Nat.zero_le r.index) name hv
          have hchanges' :=
            htwins.sound'.ready_zero.set_changes hdecl (Nat.zero_le r'.index) name hv'
          have hsame : (h.set r name v).1.isOk = (h'.set r' name v').1.isOk := by
            obtain ⟨d, d', hd, hd', hschema⟩ := hr
            rw [set_isOk hdecl htwins.sound hd, set_isOk hdecl htwins.sound' hd', hschema]
          rw [setAll, setAll]
          generalize h.set r name v = result at hchanges hsame
          generalize h'.set r' name v' = result' at hchanges' hsame
          obtain ⟨outcome, later⟩ := result
          obtain ⟨outcome', later'⟩ := result'
          cases outcome with
          | ok u =>
              cases outcome' with
              | ok u' =>
                  exact ih (htwins.step hdecl hchanges hchanges')
                    (hr.mono hchanges.grows hchanges'.grows) hrest hproper hproper'
              | error e' => cases hsame
          | error e =>
              cases outcome' with
              | ok u' => cases hsame
              | error e' => rfl

theorem push_isOk {r r' : ListRef} (hlist : Value.Alike h h' (.list r) (.list r'))
    {item item' : DocRef} (hitem : h.SameType h' item item') :
    (h.push r item).1.isOk = (h'.push r' item').1.isOk := by
  cases hlist with
  | @list _ _ l l' hl hl' hschema =>
      have hcheck := checkTypes_isOk (.cons hitem .nil) l.schema
      simp only [push, hl, hl']
      rw [← hschema]
      generalize h.checkTypes l.schema [item] = result at hcheck
      generalize h'.checkTypes l.schema [item'] = result' at hcheck
      cases result <;> cases result' <;> first | rfl | cases hcheck

/-- The implied defaults of a kind are alike. -/
theorem impliedDefault_alike (h h' : Heap) (kind : Kind) :
    (h.impliedDefault kind).1.Alike (h.impliedDefault kind).2 (h'.impliedDefault kind).2
      (h'.impliedDefault kind).1 := by
  cases kind with
  | array lengths check? => exact .array (.some .nil)
  | list schema => exact .list (list?_addList_self h _) (list?_addList_self h' _) rfl
  | _ => exact .null

end Heap

/-- Two first slots of a field, from defaults that are alike. -/
theorem Field.slot_agree {f : Field} (hover : f.Over types) {v v' : Value}
    (hv : v.Alike h h' v') (hproper : v.Proper) (hproper' : v'.Proper) (slot : Value → Slot) :
    Agree types (do let w ← fun h => h.initialValue f v
                    return slot w)
      (do let w ← fun h => h.initialValue f v'
          return slot w) h h' fun _ _ _ _ => True := by
  have hvalue : Agree types (fun h => h.initialValue f v) (fun h => h.initialValue f v') h h'
      fun _ _ _ _ => True :=
    .of_isOk (initialValue_runs hover hproper) (initialValue_runs hover hproper')
      (initialValue_isOk hv f)
  exact hvalue.bind fun _ _ _ _ _ _ _ => .pure trivial

mutual

/-- Two runs of making a document both fail or make documents of one type. -/
theorem Schema.instantiate_agree (hdecl : Declared types) (hwithin : ∀ s ∈ types, s.Within base)
    {h h' : Heap} (htwins : Twins types base h h') : (s : Schema) → s ∈ types →
    Agree types s.instantiate s.instantiate h h' fun r later r' later' =>
      later.SameType later' r r'
  | ⟨id, name, role, parent?, fields⟩, hs => by
      have hslots := (Field.initialSlots_agree hdecl hwithin htwins fields
        (fun f hf => hdecl.field_over hs hf) fun f hf => hwithin _ hs f hf).isOk
      have hok : ∀ g, (Schema.instantiate ⟨id, name, role, parent?, fields⟩ g).1.isOk =
          (Field.initialSlots fields g).1.isOk := by
        intro g
        rw [Schema.instantiate, bind_apply]
        cases hresult : Field.initialSlots fields g with
        | mk result later => cases result <;> rfl
      have hrun := Schema.instantiate_runs hdecl htwins.sound.ready_zero _ hs
      have hrun' := Schema.instantiate_runs hdecl htwins.sound'.ready_zero _ hs
      apply ((Agree.of_isOk hrun hrun' (by rw [hok, hok, hslots])).and_runs hrun hrun').imp
      rintro r later r' later' ⟨_, ⟨_, d, hd, hschema⟩, _, d', hd', hschema'⟩
      exact ⟨d, d', hd, hd', hschema.trans hschema'.symm⟩
termination_by structural s => s

theorem Field.initialSlots_agree (hdecl : Declared types) (hwithin : ∀ s ∈ types, s.Within base)
    {h h' : Heap} (htwins : Twins types base h h') : (fields : List Field) →
    (∀ f ∈ fields, f.Over types) →
    (∀ f ∈ fields, ∀ d, f.default? = some d → d.Within base) →
    Agree types (Field.initialSlots fields) (Field.initialSlots fields) h h' fun _ _ _ _ => True
  | [], _, _ => Agree.pure trivial
  | f :: rest, hover, hdefaults => by
      rw [Field.initialSlots]
      refine (Field.initialSlot_agree hdecl hwithin htwins f (hover f List.mem_cons_self)
        (hdefaults f List.mem_cons_self)).bind ?_
      intro _ _ _ _ hchanges hchanges' _
      refine (Field.initialSlots_agree hdecl hwithin (htwins.step hdecl hchanges hchanges') rest
        (fun g hg => hover g (List.mem_cons_of_mem f hg))
        fun g hg => hdefaults g (List.mem_cons_of_mem f hg)).bind ?_
      exact fun _ _ _ _ _ _ _ => .pure trivial
termination_by structural fields => fields

theorem Field.initialSlot_agree (hdecl : Declared types) (hwithin : ∀ s ∈ types, s.Within base)
    {h h' : Heap} (htwins : Twins types base h h') : (f : Field) → f.Over types →
    (∀ d, f.default? = some d → d.Within base) →
    Agree types f.initialSlot f.initialSlot h h' fun _ _ _ _ => True
  | ⟨name, required, none, kind⟩, hover, _ => by
      rw [Field.initialSlot.eq_def]
      obtain ⟨hchanges, hproper, _⟩ := htwins.sound.impliedDefault (n := 0) (m := 0) hdecl hover
      obtain ⟨hchanges', hproper', _⟩ :=
        htwins.sound'.impliedDefault (n := 0) (m := 0) hdecl hover
      refine Agree.bind
        (P := fun v later v' later' => v.Alike later later' v' ∧ v.Proper ∧ v'.Proper)
        ⟨hchanges, hchanges', Or.inl ⟨_, _, rfl, rfl, impliedDefault_alike h h' kind, hproper,
          hproper'⟩⟩ ?_
      rintro v later v' later' _ _ ⟨hv, hproper, hproper'⟩
      exact Field.slot_agree hover hv hproper hproper' _
  | ⟨name, required, some d, kind⟩, hover, hdefault => by
      rw [Field.initialSlot.eq_def]
      have hd := hover.default d rfl
      refine ((Default.produce_agree hdecl hwithin htwins d hd (hdefault d rfl)).and_runs
        (Default.produce_runs hdecl htwins.sound.ready_zero d hd)
        (Default.produce_runs hdecl htwins.sound'.ready_zero d hd)).bind ?_
      rintro v later v' later' _ _ ⟨hv, hproper, hproper'⟩
      exact Field.slot_agree hover hv hproper hproper' _
termination_by structural f => f

theorem Default.produce_agree (hdecl : Declared types) (hwithin : ∀ s ∈ types, s.Within base)
    {h h' : Heap} (htwins : Twins types base h h') : (d : Default) → d.Over types →
    d.Within base → Agree types d.produce d.produce h h' fun v later v' later' =>
      v.Alike later later' v'
  | .value v, _, hd => by
      cases hd with
      | value hv => exact Agree.pure (hv.alike htwins.grows htwins.grows')
  | .factory recipe, hover, hd => by
      have hrun := Default.produce_runs hdecl htwins.sound.ready_zero (.factory recipe) hover
      have hrun' := Default.produce_runs hdecl htwins.sound'.ready_zero (.factory recipe) hover
      obtain ⟨_, _, hresults⟩ :=
        Recipe.make_agree hdecl hwithin htwins recipe hover.of_factory hd.of_factory
      refine ⟨hrun.1, hrun'.1, Or.inl ?_⟩
      have hproduce : ∀ g, Default.produce (.factory recipe) g =
          (.ok ((recipe.make g).1.toOption.getD .null), (recipe.make g).2) := by
        intro g
        rw [Default.produce]
        cases hresult : recipe.make g with
        | mk result later => cases result <;> simp only [hresult] <;> rfl
      refine ⟨_, _, by rw [hproduce], by rw [hproduce], ?_⟩
      rw [hproduce, hproduce]
      obtain ⟨v, v', hv, hv', halike⟩ | ⟨e, e', he, he'⟩ := hresults
      · rw [hv, hv']
        exact halike
      · rw [he, he']
        exact .null
termination_by structural d => d

theorem Recipe.make_agree (hdecl : Declared types) (hwithin : ∀ s ∈ types, s.Within base)
    {h h' : Heap} (htwins : Twins types base h h') : (r : Recipe) → r.Over types →
    r.Within base → Agree types r.make r.make h h' fun v later v' later' =>
      v.Alike later later' v'
  | .plain v, _, hr => by
      cases hr with
      | plain hv => exact Agree.pure (hv.alike htwins.grows htwins.grows')
  | .counter ref, _, _ => by
      rw [Recipe.make]
      exact ⟨.single (.counters h _), .single (.counters h' _),
        Or.inl ⟨_, _, rfl, rfl, .int _ _⟩⟩
  | .array items, hover, hr => by
      rw [Recipe.make]
      exact (Recipe.makeAll_agree hdecl hwithin htwins items hover.of_array hr.of_array).bind
        fun _ _ _ _ _ _ hvalues => .pure (.array_of_items hvalues)
  | .map entries, hover, hr => by
      rw [Recipe.make]
      exact (Recipe.makeEntries_agree hdecl hwithin htwins entries hover.of_map hr.of_map).bind
        fun _ _ _ _ _ _ _ => .pure (.map _ _)
  | .document schema values, hover, hr => by
      obtain ⟨hschema, hentries⟩ := hover.of_document
      rw [Recipe.make]
      refine ((Recipe.makeEntries_agree hdecl hwithin htwins values hentries
        hr.of_document).and_runs
        (Recipe.makeEntries_runs hdecl htwins.sound.ready_zero values hentries)
        (Recipe.makeEntries_runs hdecl htwins.sound'.ready_zero values hentries)).bind ?_
      rintro given later given' later' hchanges hchanges' ⟨hkeys, hproper, hproper'⟩
      have hlater := htwins.step hdecl hchanges hchanges'
      apply (Schema.instantiate_agree hdecl hwithin hlater schema hschema).bind
      intro r final r' final' hmade hmade' hr
      have hfinal := hlater.step hdecl hmade hmade'
      have hassign : Agree types (fun h => h.assignGiven r given)
          (fun h => h.assignGiven r' given') final final' fun _ _ _ _ => True := by
        refine .of_isOk
          (.of_changes (hfinal.sound.ready_zero.assignGiven_changes hdecl (Nat.zero_le _) hproper))
          (.of_changes
            (hfinal.sound'.ready_zero.assignGiven_changes hdecl (Nat.zero_le _) hproper')) ?_
        rw [assignGiven_isOk, assignGiven_isOk]
        exact setAll_isOk hdecl hfinal hr hkeys hproper hproper'
      exact hassign.bind fun _ _ _ _ hset hset' _ =>
        .pure (.document (hr.mono hset.grows hset'.grows))
  | .list schema items, hover, hr => by
      obtain ⟨hschema, hitems⟩ := hover.of_list
      rw [Recipe.make]
      refine Agree.bind (P := fun list later list' later' =>
          Value.Alike later later' (.list list) (.list list'))
        ⟨.single (.newList hschema (by simp)), .single (.newList hschema (by simp)),
          Or.inl ⟨_, _, rfl, rfl, impliedDefault_alike h h' (.list schema)⟩⟩ ?_
      intro list later list' later' hchanges hchanges' hlist
      exact (Recipe.pushAll_agree hdecl hwithin (htwins.step hdecl hchanges hchanges') schema.name
        hlist items hitems hr.of_list).bind fun _ _ _ _ hpushed hpushed' _ =>
          .pure (hlist.mono hpushed.grows hpushed'.grows)
termination_by structural r => r

theorem Recipe.makeAll_agree (hdecl : Declared types) (hwithin : ∀ s ∈ types, s.Within base)
    {h h' : Heap} (htwins : Twins types base h h') : (recipes : List Recipe) →
    (∀ r ∈ recipes, r.Over types) → (∀ r ∈ recipes, r.Within base) →
    Agree types (Recipe.makeAll recipes) (Recipe.makeAll recipes) h h'
      fun values later values' later' => List.Forall₂ (Value.Alike later later') values values'
  | [], _, _ => Agree.pure .nil
  | r :: rest, hover, hbase => by
      rw [Recipe.makeAll]
      refine (Recipe.make_agree hdecl hwithin htwins r (hover r List.mem_cons_self)
        (hbase r List.mem_cons_self)).bind ?_
      intro v later v' later' hchanges hchanges' hv
      refine (Recipe.makeAll_agree hdecl hwithin (htwins.step hdecl hchanges hchanges') rest
        (fun s hs => hover s (List.mem_cons_of_mem r hs))
        fun s hs => hbase s (List.mem_cons_of_mem r hs)).bind ?_
      exact fun _ _ _ _ hmade hmade' hvalues =>
        .pure (.cons (hv.mono hmade.grows hmade'.grows) hvalues)
termination_by structural recipes => recipes

theorem Recipe.makeEntries_agree (hdecl : Declared types) (hwithin : ∀ s ∈ types, s.Within base)
    {h h' : Heap} (htwins : Twins types base h h') : (entries : List (String × Recipe)) →
    (∀ e ∈ entries, e.2.Over types) → (∀ e ∈ entries, e.2.Within base) →
    Agree types (Recipe.makeEntries entries) (Recipe.makeEntries entries) h h'
      fun values _ values' _ => values.map Prod.fst = values'.map Prod.fst
  | [], _, _ => Agree.pure rfl
  | (key, r) :: rest, hover, hbase => by
      rw [Recipe.makeEntries]
      refine (Recipe.make_agree hdecl hwithin htwins r (hover (key, r) List.mem_cons_self)
        (hbase (key, r) List.mem_cons_self)).bind ?_
      intro v later v' later' hchanges hchanges' _
      refine (Recipe.makeEntries_agree hdecl hwithin (htwins.step hdecl hchanges hchanges') rest
        (fun e he => hover e (List.mem_cons_of_mem _ he))
        fun e he => hbase e (List.mem_cons_of_mem _ he)).bind ?_
      exact fun _ _ _ _ _ _ hkeys => .pure (by rw [List.map_cons, List.map_cons, hkeys])
termination_by structural entries => entries

theorem Recipe.pushAll_agree (hdecl : Declared types) (hwithin : ∀ s ∈ types, s.Within base)
    {h h' : Heap} (htwins : Twins types base h h') (expected : String) {list list' : ListRef}
    (hlist : Value.Alike h h' (.list list) (.list list')) : (recipes : List Recipe) →
    (∀ r ∈ recipes, r.Over types) → (∀ r ∈ recipes, r.Within base) →
    Agree types (Recipe.pushAll expected list recipes) (Recipe.pushAll expected list' recipes)
      h h' fun _ _ _ _ => True
  | [], _, _ => Agree.pure trivial
  | r :: rest, hover, hbase => by
      rw [Recipe.pushAll, Recipe.pushAll]
      refine (Recipe.make_agree hdecl hwithin htwins r (hover r List.mem_cons_self)
        (hbase r List.mem_cons_self)).bind ?_
      intro v later v' later' hchanges hchanges' hv
      have hlater := htwins.step hdecl hchanges hchanges'
      have hlists := hlist.mono hchanges.grows hchanges'.grows
      have hpush : ∀ x x' : Build Unit, Agree types x x' later later' (fun _ _ _ _ => True) →
          Agree types (x >>= fun _ => Recipe.pushAll expected list rest)
            (x' >>= fun _ => Recipe.pushAll expected list' rest) later later'
            fun _ _ _ _ => True := by
        intro x x' hx
        apply hx.bind
        intro _ _ _ _ hpushed hpushed' _
        exact Recipe.pushAll_agree hdecl hwithin (hlater.step hdecl hpushed hpushed') expected
          (hlists.mono hpushed.grows hpushed'.grows) rest
          (fun s hs => hover s (List.mem_cons_of_mem r hs))
          fun s hs => hbase s (List.mem_cons_of_mem r hs)
      cases hv with
      | @document item item' hitem =>
          refine hpush _ _ (.of_isOk
            (.of_changes (hlater.sound.push_changes (Nat.zero_le list.index) item))
            (.of_changes (hlater.sound'.push_changes (Nat.zero_le list'.index) item'))
            (push_isOk hlists hitem))
      | _ => exact hpush _ _ ⟨.refl later, .refl later', Or.inr ⟨_, _, rfl, rfl⟩⟩
termination_by structural recipes => recipes

end

/-- Documents of a type can be made from now on. -/
def Schema.Constructs (types : List Schema) (h : Heap) (s : Schema) : Prop :=
  ∀ later, h.Grows later → later.Sound types → ∃ r, (s.instantiate later).1 = .ok r

theorem Schema.Constructs.mono {s : Schema} (hgrows : h.Grows later)
    (hs : s.Constructs types h) : s.Constructs types later :=
  fun final hlater hsound => hs final (hgrows.trans hlater) hsound

/-- If a document of a type can be made once, it can always be made. -/
theorem Schema.constructs_of_ok (hdecl : Declared types) (hwithin : ∀ s ∈ types, s.Within h)
    (hsound : h.Sound types) {s : Schema} (hs : s ∈ types) {r : DocRef}
    (hr : (s.instantiate h).1 = .ok r) : s.Constructs types h := by
  intro later hgrows hlater
  have htwins : Twins types h h later := ⟨hsound, hlater, .refl h, hgrows⟩
  obtain ⟨_, r', _, hr', _⟩ | ⟨e, _, he, _⟩ :=
    (Schema.instantiate_agree hdecl hwithin htwins s hs).results
  · exact ⟨r', hr'⟩
  · rw [hr] at he
    cases he

end DocumentModel
