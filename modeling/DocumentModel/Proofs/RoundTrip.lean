/-
Hydration undoes flattening.

A document whose data says all there is to say about it can be made again from that data: the new
document flattens to the same.
-/
import DocumentModel.Proofs.Flattening
import DocumentModel.Proofs.Reachable
import DocumentModel.Proofs.Restoring

namespace DocumentModel

variable {types : List Schema} {s : Session}

theorem Declared.mem_of_nests (hdecl : Declared types) {t u : Schema} (ht : t ∈ types)
    (hu : t.Nests u) : u ∈ types := by
  induction hu with
  | refl => exact ht
  | tail _ hstep ih =>
      obtain ⟨f, hf, hkind⟩ := hstep
      exact ((hdecl.field_over ih hf).kind _ hkind).1

/-- In a reachable state a type whose documents can be made now can be made from now on. -/
theorem Reachable.constructs (hs : Reachable types s) {t : Schema} (ht : t ∈ types) {r : DocRef}
    (hr : (t.instantiate s.heap).1 = .ok r) : t.Constructs types s.heap :=
  t.constructs_of_ok hs.declared hs.within hs.sound ht hr

/-- Hydration from the data of a restorable document, and any other members beside it, makes a
document with the same data. -/
theorem Heap.Restorable.hydrate {types : List Schema} (hdecl : Declared types) {h : Heap}
    (hsound : h.Sound types) {r : DocRef} {d : Document} (hd : h.document? r = some d)
    (hr : h.Restorable r) (hconstructs : ∀ t, d.schema.Nests t → t.Constructs types h)
    {data : Json.Object}
    (hget : ∀ f ∈ d.schema.fields, data.get? f.name = Json.Object.get? (h.data r) f.name) :
    ∃ made later, d.schema.hydrate data h = (.ok made, later) ∧
      (Json.obj (later.data made)).same (.obj (h.data r)) = true ∧
      (later.data made).map Prod.fst = d.schema.fieldNames := by
  have hdescribes := (hr.readable.describes hdecl hsound hr.holds hd).of_get?_eq hget
  obtain ⟨made, later, hrun, _, _, hfilled, d', hd', hschema⟩ :=
    Schema.hydrate_restores hdecl hsound d.schema (hsound.schema hd) (Or.inl hconstructs)
      hdescribes
  have hnames : (h.data r).map Prod.fst = d'.schema.fieldNames := by
    rw [hschema, Heap.map_fst_data hd]
  refine ⟨made, later, hrun, hfilled.same_data hd' hnames fun f hf => ?_, ?_⟩
  · rw [hschema] at hf
    exact (hget f hf).symm
  · rw [Heap.map_fst_data hd', hschema]

/-- Hydrating the data of a restorable document makes a document with the same data, member by
member in the order of the fields. -/
theorem hydrate_data {types : List Schema} {s : Session} (hs : Reachable types s) {r : DocRef}
    {d : Document} (hd : s.heap.document? r = some d) (hr : s.heap.Restorable r)
    (hmakes : ∀ t, d.schema.Nests t → ∃ made, (t.instantiate s.heap).1 = .ok made) :
    ∃ made later, d.schema.hydrate (s.heap.data r) s.heap = (.ok made, later) ∧
      (Json.obj (later.data made)).same (.obj (s.heap.data r)) = true ∧
      (later.data made).map Prod.fst = d.schema.fieldNames := by
  refine hr.hydrate hs.declared hs.sound hd (fun t ht => ?_) fun _ _ => rfl
  obtain ⟨made, hmade⟩ := hmakes t ht
  exact hs.constructs (hs.declared.mem_of_nests (hs.sound.schema hd) ht) hmade

/-! A person with a home, a date of birth that was declared but taken away, and a time of finer
grain than data has. -/

def addressFields : List Field :=
  [⟨"city", false, none, .string ⟨.free, none, none⟩⟩]

def addressType : Schema :=
  .embedded 0 "Address" addressFields

def personFields : List Field :=
  [⟨"name", true, none, .string ⟨.free, none, none⟩⟩,
    ⟨"born", false, some (.value (.instant ⟨0, 0⟩)), .dateTime⟩,
    ⟨"seen", false, none, .dateTime⟩, ⟨"home", false, none, .embedded addressType⟩]

def personType : Schema :=
  .document 1 "Person" personFields

def personRun : Session :=
  [.new addressType, .set ⟨0⟩ "city" (.text "Oslo"), .new personType,
    .set ⟨1⟩ "name" (.text " Ann "), .set ⟨1⟩ "born" .null,
    .set ⟨1⟩ "seen" (.instant ⟨5, 1234567⟩), .set ⟨1⟩ "home" (.document ⟨0⟩)].foldl
    Operation.perform .empty

theorem personTypes_declared : Declared [personType, addressType] := by
  refine .document (.embedded .nil (by simp) ?_) (by decide) ?_
  · intro f hf
    obtain rfl := List.mem_singleton.mp hf
    exact .plain rfl rfl
  · intro f hf
    simp only [personFields, List.mem_cons, List.not_mem_nil, or_false] at hf
    rcases hf with rfl | rfl | rfl | rfl
    · exact .plain rfl rfl
    · constructor
      · intro s hs
        cases hs
      · intro d hd
        obtain rfl := Option.some.inj hd
        exact .value (.instant _)
    · exact .plain rfl rfl
    · constructor
      · intro s hs
        obtain rfl := Option.some.inj hs
        exact ⟨List.mem_singleton_self _, rfl⟩
      · intro d hd
        cases hd

theorem personRun_reachable : Reachable [personType, addressType] personRun := by
  have hstart : Reachable [personType, addressType] .empty := by
    refine .of_declared personTypes_declared fun t ht f hf d hd => ?_
    simp only [List.mem_cons, List.not_mem_nil, or_false] at ht
    rcases ht with rfl | rfl
    · have hfields : f ∈ personFields := hf
      simp only [personFields, List.mem_cons, List.not_mem_nil, or_false] at hfields
      rcases hfields with rfl | rfl | rfl | rfl
      · cases hd
      · obtain rfl := Option.some.inj hd
        exact .value (.instant _)
      · cases hd
      · cases hd
    · obtain rfl := List.mem_singleton.mp hf
      cases hd
  apply hstart.run
  intro op hop
  simp only [List.mem_cons, List.not_mem_nil, or_false] at hop
  rcases hop with rfl | rfl | rfl | rfl | rfl | rfl | rfl
  · exact List.mem_cons_of_mem _ List.mem_cons_self
  · exact Value.Proper.text _
  · exact List.mem_cons_self
  · exact Value.Proper.text _
  · exact Value.Proper.null
  · exact Value.Proper.instant _
  · exact Value.Proper.document _

open Heap

/-- What is found in the address. -/
theorem occurs_address {w : Value} (hw : personRun.heap.Occurs w (.document ⟨0⟩)) :
    w = .document ⟨0⟩ ∨ w = .text "Oslo" := by
  cases hw with
  | self => exact Or.inl rfl
  | field hd hf hw =>
      obtain rfl := Option.some.inj hd
      obtain rfl := List.mem_singleton.mp hf
      cases hw
      exact Or.inr rfl

/-- What is found in the fields of the person. -/
theorem occurs_person {d : Document} (hd : personRun.heap.document? ⟨1⟩ = some d) {f : Field}
    (hf : f ∈ d.schema.fields) {w : Value} (hw : personRun.heap.Occurs w (d.value f.name)) :
    w = .text "Ann" ∨ w = .null ∨ w = .instant ⟨5, 1234567⟩ ∨
      f.kind = .embedded addressType ∧ (w = .document ⟨0⟩ ∨ w = .text "Oslo") := by
  obtain rfl := Option.some.inj hd
  have hfields : f ∈ personFields := hf
  simp only [personFields, List.mem_cons, List.not_mem_nil, or_false] at hfields
  rcases hfields with rfl | rfl | rfl | rfl
  · cases hw
    exact Or.inl rfl
  · cases hw
    exact Or.inr (Or.inl rfl)
  · cases hw
    exact Or.inr (Or.inr (Or.inl rfl))
  · exact Or.inr (Or.inr (Or.inr ⟨rfl, occurs_address hw⟩))

theorem nested_person {s : DocRef} (hs : personRun.heap.Nested ⟨1⟩ s) : s = ⟨1⟩ ∨ s = ⟨0⟩ := by
  induction hs with
  | self => exact Or.inl rfl
  | @held s inner d f schema _ hd hf hkind hinner ih =>
      rcases ih with rfl | rfl
      · have hoccurs := occurs_person hd hf hinner.occurs
        simp only [reduceCtorEq, Value.document.injEq, or_false, false_or] at hoccurs
        exact Or.inr hoccurs.2
      · obtain rfl := Option.some.inj hd
        obtain rfl := List.mem_singleton.mp hf
        cases hkind

theorem person_restorable : personRun.heap.Restorable ⟨1⟩ where
  types {s d f schema inner d'} hs hd hf hkind hinner hd' := by
    rcases nested_person hs with rfl | rfl
    · have hoccurs := occurs_person hd hf hinner.occurs
      simp only [reduceCtorEq, Value.document.injEq, or_false, false_or] at hoccurs
      obtain ⟨haddress, rfl⟩ := hoccurs
      rw [haddress] at hkind
      obtain rfl := Option.some.inj hkind
      obtain rfl := Option.some.inj hd'
      rfl
    · obtain rfl := Option.some.inj hd
      obtain rfl := List.mem_singleton.mp hf
      cases hkind
  plain {s d f w} hs hd hf hkind hw hwrapped := by
    rcases nested_person hs with rfl | rfl
    · rcases occurs_person hd hf hw with rfl | rfl | rfl | ⟨haddress, _⟩
      · exact hwrapped
      · exact hwrapped
      · exact hwrapped
      · rw [haddress] at hkind
        cases hkind
    · obtain rfl := Option.some.inj hd
      obtain rfl := List.mem_singleton.mp hf
      cases hw
      exact hwrapped
  dates {t} ht := by
    cases ht with
    | field hd hf ht =>
        have hoccurs := occurs_person hd hf ht
        simp only [reduceCtorEq, or_false, false_or, and_false] at hoccurs
        rw [Value.instant.inj hoccurs]
        decide
  acyclic := by
    intro s hs hinside
    obtain ⟨d, hd, f, hf, hoccurs⟩ := hinside
    have hself : s = ⟨1⟩ ∨ s = ⟨0⟩ := by
      cases hs with
      | self => exact Or.inl rfl
      | field hd hf hs =>
          have hoccurs := occurs_person hd hf hs
          simp only [reduceCtorEq, Value.document.injEq, or_false, false_or] at hoccurs
          exact Or.inr hoccurs.2
    rcases hself with rfl | rfl
    · have hperson := occurs_person hd hf hoccurs
      simp at hperson
    · obtain rfl := Option.some.inj hd
      obtain rfl := List.mem_singleton.mp hf
      cases hoccurs

theorem person_nests {t : Schema} (ht : personType.Nests t) : t = personType ∨ t = addressType := by
  induction ht with
  | refl => exact Or.inl rfl
  | tail _ hstep ih =>
      obtain ⟨f, hf, hkind⟩ := hstep
      rcases ih with rfl | rfl
      · have hfields : f ∈ personFields := hf
        simp only [personFields, List.mem_cons, List.not_mem_nil, or_false] at hfields
        rcases hfields with rfl | rfl | rfl | rfl
        · cases hkind
        · cases hkind
        · cases hkind
        · exact Or.inr (Option.some.inj hkind).symm
      · obtain rfl := List.mem_singleton.mp hf
        cases hkind

theorem person_makes {t : Schema} (ht : personType.Nests t) :
    ∃ made, (t.instantiate personRun.heap).1 = .ok made := by
  rcases person_nests ht with rfl | rfl
  · exact ⟨⟨2⟩, rfl⟩
  · exact ⟨⟨2⟩, rfl⟩

/-- The person comes back with a home, without a date of birth. -/
theorem hydrate_data_person :
    ∃ made later,
      personType.hydrate (personRun.heap.data ⟨1⟩) personRun.heap = (.ok made, later) ∧
      (Json.obj (later.data made)).same (.obj (personRun.heap.data ⟨1⟩)) = true ∧
      (later.data made).map Prod.fst = ["name", "born", "seen", "home"] := by
  have hd : ∃ d, personRun.heap.document? ⟨1⟩ = some d ∧ d.schema = personType := ⟨_, rfl, rfl⟩
  obtain ⟨d, hd, hschema⟩ := hd
  have hmakes : ∀ t, d.schema.Nests t → ∃ made, (t.instantiate personRun.heap).1 = .ok made := by
    intro t ht
    rw [hschema] at ht
    exact person_makes ht
  obtain ⟨made, later, hrun, hsame, hnames⟩ :=
    hydrate_data personRun_reachable hd person_restorable hmakes
  rw [hschema] at hrun hnames
  exact ⟨made, later, hrun, hsame, hnames⟩

end DocumentModel
