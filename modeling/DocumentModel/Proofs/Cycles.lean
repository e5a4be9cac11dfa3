/-
Where flattening ends.

A document holds others in its embedded and list fields.  Fields are of types that were declared
earlier, but a type that extends the one of a field may be declared later, and refer back.  So a
document can come round to itself, and it does so only by way of such a type.  Where no document
does, the recursion that flattens a document is well-founded.
-/
import DocumentModel.Proofs.Flattening
import DocumentModel.Proofs.Reachable

namespace DocumentModel

/-- The place of a type in the order of declaration: how many were declared before it. -/
def Schema.place : (types : List Schema) → Schema → Nat
  | [], _ => 0
  | t :: earlier, s => if s.id = t.id then earlier.length else place earlier s

/-- A document of one type may hold a document of another in one of its fields: of the type that
the field is declared with, or of one that extends it. -/
def Schema.MayHold (types : List Schema) (s t : Schema) : Prop :=
  t ∈ types ∧ ∃ f ∈ s.fields, ∃ declared, f.kind.schema? = some declared ∧ t.isA declared = true

namespace Declared

variable {types : List Schema}

theorem place_lt_length {t : Schema} (ht : t ∈ types) : Schema.place types t < types.length := by
  induction types with
  | nil => cases ht
  | cons first earlier ih =>
      rw [Schema.place, List.length_cons]
      split
      · exact Nat.lt_succ_self _
      · next hne =>
          have hearlier := (List.mem_cons.mp ht).resolve_left fun heq => hne (heq ▸ rfl)
          exact Nat.lt_succ_of_lt (ih hearlier)

/-- The types of fields are declared before the types that have the fields. -/
theorem place_lt (h : Declared types) : ∀ s ∈ types, ∀ f ∈ s.fields, ∀ t,
    f.kind.schema? = some t → Schema.place types t < Schema.place types s := by
  induction h using Declared.induct with
  | nil => simp
  | @cons types new old fields h _ hnew ih =>
      have hskip : ∀ {t}, t ∈ types → Schema.place (new :: types) t = Schema.place types t :=
        fun {t} ht => by rw [Schema.place, if_neg (hnew.id t ht)]
      intro s hs f hf t ht
      rcases List.mem_cons.mp hs with rfl | hs
      · have hover : f.Over types := by
          rw [hnew.fields_eq] at hf
          rcases Schema.mem_addFields hf with hfield | hold
          · exact hnew.fields_over f hfield
          · rcases hnew.origin with ⟨_, rfl⟩ | ⟨parent, hparent, _, rfl⟩
            · cases hold
            · exact h.field_over hparent hold
        have hmem := (hover.kind t ht).1
        rw [hskip hmem, Schema.place, if_pos rfl]
        exact place_lt_length hmem
      · rw [hskip ((h.field_over hs hf).kind t ht).1, hskip hs]
        exact ih s hs f hf t ht

end Declared

namespace Heap

open Relation

variable {types : List Schema} {h : Heap}

/-- A document holds another in an embedded or list field that is declared with a given type. -/
inductive HoldsAs (h : Heap) (declared : Schema) (r s : DocRef) : Prop
  | intro {d : Document} {f : Field} (hd : h.document? r = some d) (hf : f ∈ d.schema.fields)
      (hkind : f.kind.schema? = some declared) (hheld : h.Held s (d.value f.name))

/-- A document holds another in an embedded or list field. -/
def Contains (h : Heap) (r s : DocRef) : Prop :=
  ∃ declared, h.HoldsAs declared r s

/-- A document holds another whose type properly extends the declared one, and was declared no
earlier than the type of the holder. -/
def ContainsLate (types : List Schema) (h : Heap) (r s : DocRef) : Prop :=
  ∃ declared d d', h.HoldsAs declared r s ∧ h.document? r = some d ∧ h.document? s = some d' ∧
    d'.schema.isA declared = true ∧ d'.schema ≠ declared ∧
    d.schema.place types ≤ d'.schema.place types

/-! ### Containment and types -/

/-- What a field holds is of the type that it is declared with. -/
theorem Held.documentIsA (hdecl : Declared types) (hsound : h.Sound types) {kind : Kind}
    {declared : Schema} (hkind : kind.schema? = some declared) {v : Value}
    (hv : kind.Admits h v) {s : DocRef} (hheld : h.Held s v) :
    h.documentIsA s declared = true := by
  cases kind with
  | embedded schema =>
      obtain rfl := Option.some.inj hkind
      rcases hheld with rfl | ⟨l, c, rfl, _, _⟩
      · rcases hv with hnull | ⟨s', hs', hisA⟩
        · cases hnull
        · rwa [Value.document.inj hs']
      · rcases hv with hnull | ⟨s', hs', _⟩
        · cases hnull
        · cases hs'
  | list schema =>
      obtain rfl := Option.some.inj hkind
      obtain ⟨l, c, hvalue, hc, hlist⟩ := hv
      rcases hheld with rfl | ⟨l', c', rfl, hc', hitem⟩
      · cases hvalue
      · obtain rfl := Value.list.inj hvalue
        obtain rfl := Option.some.inj (hc'.symm.trans hc)
        obtain ⟨d, hd, hisA⟩ := documentIsA_iff.mp (hsound.items hc' s hitem)
        exact documentIsA_iff.mpr ⟨d, hd, hdecl.isA_trans (hsound.listSchema hc') hlist
          d.schema (hsound.schema hd) hisA⟩
  | _ => cases hkind

theorem HoldsAs.mayHold (hdecl : Declared types) (hsound : h.Sound types) {declared : Schema}
    {r s : DocRef} (hholds : h.HoldsAs declared r s) :
    ∃ d d', h.document? r = some d ∧ h.document? s = some d' ∧
      d'.schema.isA declared = true ∧ d.schema.MayHold types d'.schema ∧
      declared.place types < d.schema.place types := by
  obtain ⟨hd, hf, hkind, hheld⟩ := hholds
  obtain ⟨slot, hslot, hfits⟩ := hsound.slot_of_field hdecl hd hf
  rw [Document.value_of_slot? hslot] at hheld
  obtain ⟨d', hd', hisA⟩ := documentIsA_iff.mp
    (Held.documentIsA hdecl hsound hkind hfits.value hheld)
  exact ⟨_, d', hd, hd', hisA, ⟨hsound.schema hd', _, hf, declared, hkind, hisA⟩,
    hdecl.place_lt _ (hsound.schema hd) _ hf declared hkind⟩

/-- A chain of documents, each held by the one before, is a chain of types. -/
theorem Contains.transGen_types (hdecl : Declared types) (hsound : h.Sound types)
    {r s : DocRef} (hchain : TransGen h.Contains r s) :
    ∃ d d', h.document? r = some d ∧ h.document? s = some d' ∧
      TransGen (Schema.MayHold types) d.schema d'.schema := by
  induction hchain with
  | single hstep =>
      obtain ⟨declared, hholds⟩ := hstep
      obtain ⟨d, d', hd, hd', _, hmay, _⟩ := hholds.mayHold hdecl hsound
      exact ⟨d, d', hd, hd', .single hmay⟩
  | tail _ hstep ih =>
      obtain ⟨d, mid, hd, hmid, htypes⟩ := ih
      obtain ⟨declared, hholds⟩ := hstep
      obtain ⟨mid', d', hmid', hd', _, hmay, _⟩ := hholds.mayHold hdecl hsound
      obtain rfl := Option.some.inj (hmid.symm.trans hmid')
      exact ⟨d, d', hd, hd', htypes.tail hmay⟩

/-- Along a chain of documents, types go back in the order of declaration as long as no document is
held late. -/
theorem Contains.late_or_place_lt (hdecl : Declared types) (hsound : h.Sound types)
    {r s : DocRef} (hchain : TransGen h.Contains r s) :
    (∃ a b, ReflTransGen h.Contains r a ∧ h.ContainsLate types a b ∧
      ReflTransGen h.Contains b s) ∨
    ∃ d d', h.document? r = some d ∧ h.document? s = some d' ∧
      d'.schema.place types < d.schema.place types := by
  have hstep : ∀ {a b}, h.Contains a b → h.ContainsLate types a b ∨
      ∃ d d', h.document? a = some d ∧ h.document? b = some d' ∧
        d'.schema.place types < d.schema.place types := by
    rintro a b ⟨declared, hholds⟩
    obtain ⟨d, d', hd, hd', hisA, _, hplace⟩ := hholds.mayHold hdecl hsound
    by_cases hlt : d'.schema.place types < d.schema.place types
    · exact Or.inr ⟨d, d', hd, hd', hlt⟩
    · refine Or.inl ⟨declared, d, d', hholds, hd, hd', hisA, ?_, Nat.le_of_not_lt hlt⟩
      rintro rfl
      exact hlt hplace
  induction hchain with
  | single hone =>
      rcases hstep hone with hlate | hlt
      · exact Or.inl ⟨_, _, .refl, hlate, .refl⟩
      · exact Or.inr hlt
  | tail hbefore hone ih =>
      rcases ih with ⟨a, b, hra, hlate, hb⟩ | ⟨d, mid, hd, hmid, hlt⟩
      · exact Or.inl ⟨a, b, hra, hlate, hb.tail hone⟩
      · rcases hstep hone with hlate | ⟨mid', d', hmid', hd', hlt'⟩
        · exact Or.inl ⟨_, _, hbefore.to_reflTransGen, hlate, .refl⟩
        · obtain rfl := Option.some.inj (hmid.symm.trans hmid')
          exact Or.inr ⟨d, d', hd, hd', hlt'.trans hlt⟩

/-- Whatever comes round to itself is of a type that may hold itself, and there is a document on the
way that is held late. -/
theorem Contains.of_cycle (hdecl : Declared types) (hsound : h.Sound types) {r : DocRef}
    (hcycle : TransGen h.Contains r r) :
    (∃ d, h.document? r = some d ∧ TransGen (Schema.MayHold types) d.schema d.schema) ∧
    ∃ a b, ReflTransGen h.Contains r a ∧ h.ContainsLate types a b ∧
      ReflTransGen h.Contains b r := by
  constructor
  · obtain ⟨d, d', hd, hd', htypes⟩ := transGen_types hdecl hsound hcycle
    obtain rfl := Option.some.inj (hd.symm.trans hd')
    exact ⟨d, hd, htypes⟩
  · refine (late_or_place_lt hdecl hsound hcycle).resolve_right ?_
    rintro ⟨d, d', hd, hd', hlt⟩
    obtain rfl := Option.some.inj (hd.symm.trans hd')
    exact Nat.lt_irrefl _ hlt

/-! ### Flattening -/

/-- Only embedded and list fields of a document, and of the documents that it contains, hold
documents and lists. -/
def OtherwisePlain (h : Heap) (r : DocRef) : Prop :=
  ∀ a, ReflTransGen h.Contains r a → ∀ d, h.document? a = some d → ∀ f ∈ d.schema.fields,
    f.kind.schema? = none → ∀ w, h.Occurs w (d.value f.name) →
      (∀ s, w ≠ .document s) ∧ ∀ l, w ≠ .list l

theorem Held.eq {s r : DocRef} (hheld : h.Held s (.document r)) : s = r := by
  rcases hheld with heq | ⟨_, _, heq, _, _⟩
  · exact (Value.document.inj heq).symm
  · cases heq

namespace OtherwisePlain

variable {r s : DocRef}

theorem of_chain (hr : h.OtherwisePlain r) (hchain : ReflTransGen h.Contains r s) :
    h.OtherwisePlain s :=
  fun a ha => hr a (hchain.trans ha)

/-- A field in which a document occurs holds a document or a list, and what it holds is contained in
its document. -/
theorem field_cases (hr : h.OtherwisePlain r) (hdecl : Declared types) (hsound : h.Sound types)
    {d : Document} (hd : h.document? r = some d) {f : Field} (hf : f ∈ d.schema.fields)
    (hs : h.Occurs (.document s) (d.value f.name)) :
    ((∃ inner, d.value f.name = .document inner) ∨ ∃ l, d.value f.name = .list l) ∧
      ∀ inner, h.Held inner (d.value f.name) → h.Contains r inner := by
  cases hkind : f.kind.schema? with
  | none => exact absurd rfl ((hr r .refl d hd f hf hkind _ hs).1 s)
  | some declared =>
      refine ⟨?_, fun inner hinner => ⟨declared, .intro hd hf hkind hinner⟩⟩
      obtain ⟨slot, hslot, hfits⟩ := hsound.slot_of_field hdecl hd hf
      have hadmits : f.kind.Admits h (d.value f.name) :=
        Document.value_of_slot? hslot ▸ hfits.value
      cases hfkind : f.kind with
      | embedded schema =>
          rw [hfkind] at hadmits
          rcases hadmits with hnull | ⟨inner, hinner, _⟩
          · rw [hnull] at hs
            cases hs
          · exact Or.inl ⟨inner, hinner⟩
      | list schema =>
          rw [hfkind] at hadmits
          obtain ⟨l, _, hl, _⟩ := hadmits
          exact Or.inr ⟨l, hl⟩
      | _ =>
          rw [hfkind] at hkind
          cases hkind

/-- What occurs in a document or a list is contained in a document that is held there. -/
theorem contained_of_occurs (hdecl : Declared types) (hsound : h.Sound types) {v : Value}
    (hoccurs : h.Occurs (.document s) v) (hv : (∃ r, v = .document r) ∨ ∃ l, v = .list l)
    (hplain : ∀ inner, h.Held inner v → h.OtherwisePlain inner) :
    ∃ inner, h.Held inner v ∧ ReflTransGen h.Contains inner s := by
  induction hoccurs with
  | self => exact ⟨s, Or.inl rfl, .refl⟩
  | item _ _ _ => rcases hv with ⟨r, hr⟩ | ⟨l, hl⟩ <;> contradiction
  | entry _ _ _ => rcases hv with ⟨r, hr⟩ | ⟨l, hl⟩ <;> contradiction
  | @listItem l c item hl hitem _ ih =>
      have hheld : h.Held item (.list l) := Or.inr ⟨l, c, rfl, hl, hitem⟩
      obtain ⟨inner, hinner, hchain⟩ := ih (Or.inl ⟨item, rfl⟩) fun inner hinner =>
        hinner.eq ▸ hplain item hheld
      exact ⟨item, hheld, hinner.eq ▸ hchain⟩
  | @field r d f hd hf hw ih =>
      have hself : h.Held r (.document r) := Or.inl rfl
      have hr := hplain r hself
      obtain ⟨hvalue, hcontains⟩ := hr.field_cases hdecl hsound hd hf hw
      obtain ⟨inner, hinner, hchain⟩ := ih hvalue fun inner hinner =>
        hr.of_chain (.single (hcontains inner hinner))
      exact ⟨r, hself, hchain.head (hcontains inner hinner)⟩

theorem contained_of_inside (hr : h.OtherwisePlain r) (hdecl : Declared types)
    (hsound : h.Sound types) (hs : h.Inside s r) : TransGen h.Contains r s := by
  obtain ⟨d, hd, f, hf, hoccurs⟩ := hs
  obtain ⟨hvalue, hcontains⟩ := hr.field_cases hdecl hsound hd hf hoccurs
  obtain ⟨inner, hinner, hchain⟩ := contained_of_occurs hdecl hsound hoccurs hvalue
    fun inner hinner => hr.of_chain (.single (hcontains inner hinner))
  exact .head' (hcontains inner hinner) hchain

/-- Where no document contains itself, none is inside itself. -/
theorem acyclic (hr : h.OtherwisePlain r) (hdecl : Declared types) (hsound : h.Sound types)
    (hcycle : ∀ a, ReflTransGen h.Contains r a → ¬ TransGen h.Contains a a) : h.Acyclic r := by
  intro s hs hself
  obtain ⟨inner, hinner, hchain⟩ := contained_of_occurs hdecl hsound hs (Or.inl ⟨r, rfl⟩)
    fun inner hinner => hinner.eq ▸ hr
  obtain rfl := hinner.eq
  exact hcycle s hchain ((hr.of_chain hchain).contained_of_inside hdecl hsound hself)

end OtherwisePlain

end Heap

open Relation Heap

/-- A document contains itself only if its type may hold itself: there is a chain of types, each with
an embedded or list field that is declared with a type that the next one is or extends.  Somewhere on
the way a document is held whose type properly extends the declared one and was declared no earlier
than the type of the holder.  Where no document contains itself, and other fields hold no documents
and lists, the recursion that flattens a document ends, and its data is the JSON of its values. -/
theorem flattening_ends {types : List Schema} {s : Session} (hs : Reachable types s) :
    (∀ r, TransGen s.heap.Contains r r →
      (∃ d, s.heap.document? r = some d ∧
        TransGen (Schema.MayHold types) d.schema d.schema) ∧
      ∃ a b, ReflTransGen s.heap.Contains r a ∧ s.heap.ContainsLate types a b ∧
        ReflTransGen s.heap.Contains b r) ∧
    ∀ r, s.heap.OtherwisePlain r →
      (∀ a, ReflTransGen s.heap.Contains r a → ¬ TransGen s.heap.Contains a a) →
      Acc s.heap.Inside r ∧ ∀ d, s.heap.document? r = some d →
        s.heap.data r = d.schema.fields.map fun f => (f.name, s.heap.toJson (d.value f.name)) := by
  refine ⟨fun r hcycle => Contains.of_cycle hs.declared hs.sound hcycle, fun r hr hcycle => ?_⟩
  have hacyclic := hr.acyclic hs.declared hs.sound hcycle
  exact ⟨hacyclic.shallow.acc, fun d hd => hacyclic.data_eq hd⟩

/-! A link is a node that has a list of nodes. -/

def nodeType : Schema :=
  .embedded 0 "Node" []

def linkType : Schema :=
  .extend 1 nodeType "Link" [⟨"next", false, none, .list nodeType⟩]

/-- Two links, the first of which is in its own list. -/
def linkRun : Session :=
  [.new linkType, .new linkType, .push ⟨0⟩ ⟨0⟩].foldl Operation.perform .empty

theorem linkTypes_declared : Declared [linkType, nodeType] := by
  refine .extend (.embedded .nil (by simp) (by simp)) (by decide) List.mem_cons_self fun f hf => ?_
  obtain rfl := List.mem_singleton.mp hf
  constructor
  · rintro t ⟨⟩
    exact ⟨List.mem_cons_self, rfl⟩
  · rintro d ⟨⟩

theorem linkRun_reachable : Reachable [linkType, nodeType] linkRun := by
  have hstart : Reachable [linkType, nodeType] .empty :=
    .of_no_default linkTypes_declared (by simp [linkType, nodeType, Schema.extend, Schema.embedded,
      Schema.addFields, Schema.addField])
  exact hstart.run (by simp [Operation.Over])

theorem linkRun_documents {r : DocRef} {d : Document}
    (hd : linkRun.heap.document? r = some d) :
    d = ⟨linkType, [⟨"next", .list ⟨r.index⟩, false, false⟩], .empty⟩ := by
  obtain ⟨_ | _ | i⟩ := r
  · exact (Option.some.inj hd).symm
  · exact (Option.some.inj hd).symm
  · cases hd

theorem linkRun_plain (r : DocRef) : linkRun.heap.OtherwisePlain r := by
  intro a _ d hd f hf hkind
  obtain rfl := linkRun_documents hd
  obtain rfl := List.mem_singleton.mp hf
  cases hkind

theorem linkRun_contains : linkRun.heap.Contains ⟨0⟩ ⟨0⟩ :=
  ⟨nodeType, .intro rfl List.mem_cons_self rfl (Or.inr ⟨⟨0⟩, _, rfl, rfl, List.mem_cons_self⟩)⟩

/-- The first link contains itself, and the recursion that flattens it does not end. -/
theorem link_contains_itself :
    Reachable [linkType, nodeType] linkRun ∧ linkRun.heap.OtherwisePlain ⟨0⟩ ∧
      TransGen linkRun.heap.Contains ⟨0⟩ ⟨0⟩ ∧ ¬ Acc linkRun.heap.Inside ⟨0⟩ := by
  refine ⟨linkRun_reachable, linkRun_plain ⟨0⟩, .single linkRun_contains, fun hacc => ?_⟩
  have hself : linkRun.heap.Inside ⟨0⟩ ⟨0⟩ := by
    obtain ⟨_, hd, hf, _, hheld⟩ := linkRun_contains
    exact ⟨_, hd, _, hf, hheld.occurs⟩
  have hnever : ∀ r, Acc linkRun.heap.Inside r → r ≠ ⟨0⟩ := by
    intro r hr
    induction hr with
    | intro r _ ih =>
        rintro rfl
        exact ih ⟨0⟩ hself rfl
  exact hnever ⟨0⟩ hacc rfl

theorem flattening_ends_link :
    TransGen (Schema.MayHold [linkType, nodeType]) linkType linkType ∧
      linkRun.heap.data ⟨1⟩ = [("next", linkRun.heap.toJson (.list ⟨1⟩))] := by
  obtain ⟨htypes, hends⟩ := flattening_ends linkRun_reachable
  obtain ⟨⟨d, hd, hmay⟩, _⟩ := htypes ⟨0⟩ (.single linkRun_contains)
  obtain rfl := linkRun_documents hd
  have hleaf : ∀ s, ¬ linkRun.heap.Contains ⟨1⟩ s := by
    rintro s ⟨_, hd, hf, _, hheld⟩
    obtain rfl := linkRun_documents hd
    obtain rfl := List.mem_singleton.mp hf
    rcases hheld with hdocument | ⟨l, c, hl, hc, hitem⟩
    · cases hdocument
    · cases hl
      cases hc
      cases hitem
  have hnone : ∀ a, ReflTransGen linkRun.heap.Contains ⟨1⟩ a →
      ¬ TransGen linkRun.heap.Contains a a := by
    intro a ha hcycle
    rcases ha.cases_head with rfl | ⟨s, hs, _⟩
    · obtain ⟨s, hs, _⟩ := TransGen.head'_iff.mp hcycle
      exact hleaf s hs
    · exact hleaf s hs
  exact ⟨hmay, (hends ⟨1⟩ (linkRun_plain ⟨1⟩) hnone).2 _ rfl⟩

end DocumentModel
