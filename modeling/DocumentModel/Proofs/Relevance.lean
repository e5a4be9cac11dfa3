/-
What hydration reads of its data.

Hydration asks for the members that belong to fields, and for the same in the objects under embedded
and list fields.  Other members, the order of members and the items of a list that are no objects
make no difference: the run is the same, in any heap.
-/
import DocumentModel.Proofs.Hydration
import DocumentModel.Proofs.JsonEquality
import Mathlib.Data.List.Sort

namespace DocumentModel

namespace Json

/-- The objects among the items of a sequence, in order. -/
def objects (items : List Json) : List Object :=
  items.filterMap fun item =>
    match item with
    | .obj data => some data
    | _ => none

theorem objects_cons_obj (data : Object) (rest : List Json) :
    objects (.obj data :: rest) = data :: objects rest :=
  rfl

theorem Reordered.of_singleton {key : String} {j : Json} {bs : Object}
    (hbs : (bs.map Prod.fst).Nodup) (hsame : (Json.obj [(key, j)]).Reordered (.obj bs)) :
    ∃ j', bs = [(key, j')] ∧ j.Reordered j' := by
  cases hsame with
  | obj hkeys hmembers =>
      have hone : (List.map Prod.fst [(key, j)]).Nodup := List.nodup_singleton key
      obtain ⟨hlength, hsubset⟩ := (Object.keys_iff hone hbs).mp hkeys
      obtain ⟨m, rfl⟩ := List.length_eq_one_iff.mp hlength.symm
      obtain rfl : key = m.1 := by simpa using hsubset
      exact ⟨m.2, rfl, hmembers _ List.mem_cons_self m List.mem_cons_self rfl⟩

end Json

/-! ### The order of members -/

namespace Value

open Json

variable {j j' : Json} {as bs : Json.Object}

theorem dateMillis?_reordered (hj' : j'.WellFormed) (hsame : j.Reordered j') {millis : Int}
    (hmillis : dateMillis? j = some millis) : dateMillis? j' = some millis := by
  rcases dateMillis?_eq_some hmillis with ⟨n, rfl⟩ | ⟨s, rfl⟩ | ⟨s, rfl⟩ | ⟨s, rfl⟩
  · cases hsame
    exact hmillis
  · cases hsame
    exact hmillis
  · cases hsame with
    | arr hlength hitems =>
        obtain ⟨item, rfl⟩ := List.length_eq_one_iff.mp hlength.symm
        cases hitems 0 _ _ rfl rfl
        exact hmillis
  · cases j' with
    | obj bs =>
        obtain ⟨inner, rfl, hinner⟩ := hsame.of_singleton hj'.keys_nodup
        cases hinner
        exact hmillis
    | _ => cases hsame

theorem ofWrapper?_reordered (hbs : (Json.obj bs).WellFormed)
    (hsame : (Json.obj as).Reordered (.obj bs)) {v : Value} (hv : ofWrapper? as = some v) :
    ofWrapper? bs = some v := by
  rw [ofWrapper?.eq_def] at hv
  split at hv
  · obtain ⟨j', rfl, hj'⟩ := hsame.of_singleton hbs.keys_nodup
    cases hj'
    exact hv
  · obtain ⟨j', rfl, hj'⟩ := hsame.of_singleton hbs.keys_nodup
    obtain ⟨millis, hmillis, rfl⟩ := Option.map_eq_some_iff.mp hv
    rw [ofWrapper?, dateMillis?_reordered (hbs.of_obj _ List.mem_cons_self) hj' hmillis]
    rfl
  · cases hv

/-- A mapping has an entry for each member, and nothing else. -/
theorem mem_mapOf_ofMembers {entries : List (String × Value)}
    (hkeys : (as.map Prod.fst).Nodup) (hordered : entries.Pairwise fun a b => a.1 < b.1)
    (hlength : entries.length = as.length)
    (hentries : ∀ e ∈ entries, ∃ m ∈ as, e = (m.1, ofJson m.2)) (e : String × Value) :
    e ∈ entries ↔ ∃ m ∈ as, e = (m.1, ofJson m.2) := by
  refine ⟨hentries e, ?_⟩
  rintro ⟨m, hm, rfl⟩
  have hdistinct : (entries.map Prod.fst).Nodup :=
    List.pairwise_map.mpr (hordered.imp fun hlt => ne_of_lt hlt)
  have hsubset : entries.map Prod.fst ⊆ as.map Prod.fst := by
    intro key hkey
    obtain ⟨e, he, rfl⟩ := List.mem_map.mp hkey
    obtain ⟨m, hm, rfl⟩ := hentries e he
    exact List.mem_map_of_mem hm
  -- there are as many entries as members, so no key is left out
  have hperm := (List.subperm_of_subset hdistinct hsubset).perm_of_length_le (by simp [hlength])
  obtain ⟨e, he, hkey⟩ := List.mem_map.mp (hperm.mem_iff.mpr (List.mem_map_of_mem hm))
  obtain ⟨m', hm', rfl⟩ := hentries e he
  rwa [Object.eq_of_key hkeys hm hm' hkey.symm]

theorem mapOf_reordered (has : (as.map Prod.fst).Nodup) (hbs : (bs.map Prod.fst).Nodup)
    (hkeys : ∀ key, key ∈ as.map Prod.fst ↔ key ∈ bs.map Prod.fst)
    (hmembers : ∀ m ∈ as, ∀ m' ∈ bs, m.1 = m'.1 → ofJson m.2 = ofJson m'.2) :
    mapOf (ofMembers as) = mapOf (ofMembers bs) := by
  obtain ⟨entries, hmap, hordered, hlength, hentries⟩ := exists_mapOf_ofMembers has
  obtain ⟨entries', hmap', hordered', hlength', hentries'⟩ := exists_mapOf_ofMembers hbs
  rw [hmap, hmap']
  congr 1
  have hirrefl : Std.Irrefl fun a b : String × Value => a.1 < b.1 := ⟨fun _ => lt_irrefl _⟩
  have hantisymm : Std.Antisymm fun a b : String × Value => a.1 < b.1 :=
    ⟨fun _ _ hab hba => absurd hab (lt_asymm hba)⟩
  refine hordered.eq_of_mem_iff hordered' fun e => ?_
  rw [mem_mapOf_ofMembers has hordered hlength hentries,
    mem_mapOf_ofMembers hbs hordered' hlength' hentries']
  constructor
  · rintro ⟨m, hm, rfl⟩
    obtain ⟨m', hm', hkey⟩ := List.mem_map.mp ((hkeys m.1).mp (List.mem_map_of_mem hm))
    exact ⟨m', hm', by rw [hmembers m hm m' hm' hkey.symm, hkey]⟩
  · rintro ⟨m', hm', rfl⟩
    obtain ⟨m, hm, hkey⟩ := List.mem_map.mp ((hkeys m'.1).mpr (List.mem_map_of_mem hm'))
    exact ⟨m, hm, by rw [hmembers m hm m' hm' hkey, hkey]⟩

/-- JSON stands for the same value, whatever the order of its members. -/
theorem ofJson_reordered (hsame : j.Reordered j') (hj : j.WellFormed) (hj' : j'.WellFormed) :
    ofJson j = ofJson j' := by
  induction hsame with
  | null => rfl
  | bool b => rfl
  | int n => rfl
  | float hxy => rw [hxy]
  | str s => rfl
  | @arr as bs hlength _ ih =>
      rw [ofJson, ofJson, ofItems_eq_map, ofItems_eq_map]
      congr 1
      refine List.ext_getElem (by simpa using hlength) fun i hi hi' => ?_
      rw [List.length_map] at hi hi'
      rw [List.getElem_map, List.getElem_map]
      exact ih i _ _ (List.getElem?_eq_getElem hi) (List.getElem?_eq_getElem hi')
        (hj.of_arr _ (List.getElem_mem hi)) (hj'.of_arr _ (List.getElem_mem hi'))
  | @obj as bs hkeys hmembers ih =>
      have hsame : (Json.obj as).Reordered (.obj bs) := .obj hkeys hmembers
      have hwrapper : ofWrapper? as = ofWrapper? bs := Option.ext fun v =>
        ⟨ofWrapper?_reordered hj' hsame, ofWrapper?_reordered hj hsame.symm⟩
      rw [ofJson, ofJson, hwrapper, mapOf_reordered hj.keys_nodup hj'.keys_nodup hkeys]
      exact fun m hm m' hm' hkey => ih m hm m' hm' hkey (hj.of_obj m hm) (hj'.of_obj m' hm')

end Value

/-! ### What hydration looks at -/

mutual

/-- Two objects have the same members under the names of a type's fields. -/
inductive Schema.ReadsAlike : Schema → Json.Object → Json.Object → Prop
  | intro {s : Schema} {x y : Json.Object}
      (hkeys : ∀ f ∈ s.fields, x.get? f.name = none ↔ y.get? f.name = none)
      (hmembers : ∀ f ∈ s.fields, ∀ j j', x.get? f.name = some j → y.get? f.name = some j' →
        f.kind.ReadsAlike j j') : Schema.ReadsAlike s x y

/-- Two members come to the same for a field of a kind: they are the same but for the order of
members, or objects or lists of objects are in their place that are read alike. -/
inductive Kind.ReadsAlike : Kind → Json → Json → Prop
  | value {kind : Kind} {j j' : Json} (hj : j.WellFormed) (hj' : j'.WellFormed)
      (hnests : kind.nests j = false) (hsame : j.Reordered j') : Kind.ReadsAlike kind j j'
  | embedded {schema : Schema} {x y : Json.Object} (hxy : Schema.ReadsAlike schema x y) :
      Kind.ReadsAlike (.embedded schema) (.obj x) (.obj y)
  | list {schema : Schema} {items items' : List Json}
      (hlength : (Json.objects items).length = (Json.objects items').length)
      (hitems : ∀ p ∈ (Json.objects items).zip (Json.objects items'),
        Schema.ReadsAlike schema p.1 p.2) :
      Kind.ReadsAlike (.list schema) (.arr items) (.arr items')

end

theorem Kind.nests_reordered (kind : Kind) {j j' : Json} (hsame : j.Reordered j') :
    kind.nests j = kind.nests j' := by
  cases hsame <;> cases kind <;> rfl

namespace Kind.ReadsAlike

theorem of_not_nests {kind : Kind} {j j' : Json} (hkind : kind.ReadsAlike j j')
    (hnests : kind.nests j = false) :
    kind.nests j' = false ∧ Value.ofJson j = Value.ofJson j' := by
  cases hkind with
  | value hj hj' _ hsame =>
      exact ⟨kind.nests_reordered hsame ▸ hnests, Value.ofJson_reordered hsame hj hj'⟩
  | embedded hxy => cases hnests
  | list hlength hitems => cases hnests

theorem of_embedded {schema : Schema} {x : Json.Object} {j' : Json}
    (hkind : (Kind.embedded schema).ReadsAlike (.obj x) j') :
    ∃ y, j' = .obj y ∧ schema.ReadsAlike x y := by
  cases hkind with
  | value _ _ hnests _ => cases hnests
  | embedded hxy => exact ⟨_, rfl, hxy⟩

theorem of_list {schema : Schema} {items : List Json} {j' : Json}
    (hkind : (Kind.list schema).ReadsAlike (.arr items) j') :
    ∃ items', j' = .arr items' ∧ (Json.objects items).length = (Json.objects items').length ∧
      ∀ p ∈ (Json.objects items).zip (Json.objects items'), schema.ReadsAlike p.1 p.2 := by
  cases hkind with
  | value _ _ hnests _ => cases hnests
  | list hlength hitems => exact ⟨_, rfl, hlength, hitems⟩

end Kind.ReadsAlike

open Build

/-- Only the objects among the items of a list are gone through. -/
theorem Schema.forM_hydrateItem (schema : Schema) (own : ListRef) (items : List Json) :
    items.forM (schema.hydrateItem own) =
      (Json.objects items).forM fun data => schema.hydrateItem own (.obj data) := by
  induction items with
  | nil => rfl
  | cons item rest ih =>
      cases item with
      | obj data =>
          rw [Json.objects_cons_obj, List.forM, List.forM, ih]
      | _ =>
          funext h
          rw [List.forM, ih, bind_apply]
          rfl

theorem Schema.forM_hydrateItem_congr {schema : Schema} (own : ListRef) {xs ys : List Json.Object}
    (hlength : xs.length = ys.length)
    (hitems : ∀ p ∈ xs.zip ys, schema.hydrate p.1 = schema.hydrate p.2) :
    (xs.forM fun data => schema.hydrateItem own (.obj data)) =
      ys.forM fun data => schema.hydrateItem own (.obj data) := by
  induction xs generalizing ys with
  | nil => rw [List.eq_nil_of_length_eq_zero hlength.symm]
  | cons x xs ih =>
      obtain ⟨y, ys, rfl⟩ := List.exists_cons_of_length_eq_add_one hlength.symm
      obtain ⟨hfirst, hrest⟩ := List.forall_mem_cons.mp hitems
      rw [List.forM, List.forM, ih (Nat.succ.inj hlength) hrest, hydrateItem, hydrateItem, hfirst]

mutual

/-- Objects that are read alike are hydrated alike, in any heap. -/
theorem Schema.hydrate_congr {x y : Json.Object} : (s : Schema) → s.ReadsAlike x y →
    s.hydrate x = s.hydrate y
  | ⟨id, name, role, parent?, fields⟩, .intro hkeys hmembers => by
      have hfields : ∀ r, Field.hydrateAll r fields x = Field.hydrateAll r fields y := fun r =>
        Field.hydrateAll_congr r fields hkeys hmembers
      rw [Schema.hydrate, Schema.hydrate]
      simp only [hfields]
termination_by structural s => s

theorem Field.hydrateAll_congr (r : DocRef) {x y : Json.Object} : (fields : List Field) →
    (∀ f ∈ fields, x.get? f.name = none ↔ y.get? f.name = none) →
    (∀ f ∈ fields, ∀ j j', x.get? f.name = some j → y.get? f.name = some j' →
      f.kind.ReadsAlike j j') → Field.hydrateAll r fields x = Field.hydrateAll r fields y
  | [], _, _ => rfl
  | f :: rest, hkeys, hmembers => by
      rw [Field.hydrateAll, Field.hydrateAll,
        Field.hydrate_congr r f (hkeys f List.mem_cons_self) (hmembers f List.mem_cons_self),
        Field.hydrateAll_congr r rest (fun g hg => hkeys g (List.mem_cons_of_mem f hg))
          fun g hg => hmembers g (List.mem_cons_of_mem f hg)]
termination_by structural fields => fields

theorem Field.hydrate_congr (r : DocRef) {x y : Json.Object} : (f : Field) →
    (x.get? f.name = none ↔ y.get? f.name = none) →
    (∀ j j', x.get? f.name = some j → y.get? f.name = some j' → f.kind.ReadsAlike j j') →
    f.hydrate r x = f.hydrate r y
  | ⟨name, required, default?, kind⟩, hkeys, hmembers => by
      rw [Field.hydrate.eq_def, Field.hydrate.eq_def]
      simp only at hkeys hmembers ⊢
      cases hx : x.get? name with
      | none => rw [hkeys.mp hx]
      | some j =>
          cases hy : y.get? name with
          | none =>
              rw [hkeys.mpr hy] at hx
              cases hx
          | some j' => exact Kind.hydrate_congr r name kind (hmembers j j' hx hy)
termination_by structural f => f

theorem Kind.hydrate_congr (r : DocRef) (name : String) {j j' : Json} : (kind : Kind) →
    kind.ReadsAlike j j' → kind.hydrate r name j = kind.hydrate r name j'
  | kind, hkind => by
      cases hnests : kind.nests j with
      | false =>
          obtain ⟨hnests', hvalue⟩ := hkind.of_not_nests hnests
          rw [Kind.hydrate_of_not_nests r name hnests, Kind.hydrate_of_not_nests r name hnests',
            hvalue]
      | true =>
          match kind, j with
          | .embedded schema, .obj x =>
              obtain ⟨y, rfl, hxy⟩ := hkind.of_embedded
              rw [Kind.hydrate_embedded_obj, Kind.hydrate_embedded_obj,
                Schema.hydrate_congr schema hxy]
          | .list schema, .arr items =>
              obtain ⟨items', rfl, hlength, hitems⟩ := hkind.of_list
              have hforM : ∀ own, items.forM (schema.hydrateItem own) =
                  items'.forM (schema.hydrateItem own) := fun own => by
                rw [schema.forM_hydrateItem, schema.forM_hydrateItem]
                exact Schema.forM_hydrateItem_congr own hlength fun p hp =>
                  Schema.hydrate_congr schema (hitems p hp)
              rw [Kind.hydrate_list_arr, Kind.hydrate_list_arr]
              simp only [hforM]
termination_by structural kind => kind

end

end DocumentModel
