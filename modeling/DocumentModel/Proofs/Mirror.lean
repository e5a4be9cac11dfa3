/-
Values that mirror JSON.

A value mirrors the JSON that it was read from.  Every document in it comes before those that it
holds, so what a value mirrors depends on nothing before its first document, and a document flattens
to the data that it mirrors.
-/
import DocumentModel.Proofs.Containment
import DocumentModel.Proofs.Settled

namespace DocumentModel.Heap

/-- A value is what some JSON stands for.  Its documents are documents from number `n` on, each
before those that it holds, and its lists are lists from number `m` on. -/
inductive Mirrors (h : Heap) (m : Nat) : (n : Nat) → Value → Json → Prop
  | plain {n : Nat} {j : Json} (hsettled : j.Settled) : Mirrors h m n (Value.ofJson j) j
  | document {n : Nat} {r : DocRef} {d : Document} {data : Json.Object} (hr : n ≤ r.index)
      (hd : h.document? r = some d) (hkeys : data.map Prod.fst = d.schema.fieldNames)
      (hfields : ∀ f ∈ d.schema.fields, ∀ j, data.get? f.name = some j →
        Mirrors h m (r.index + 1) (d.value f.name) j) : Mirrors h m n (.document r) (.obj data)
  | list {n : Nat} {r : ListRef} {l : DocumentList} {js : List Json} (hr : m ≤ r.index)
      (hl : h.list? r = some l) (hlength : l.items.length = js.length)
      (hitems : ∀ p ∈ l.items.zip js, Mirrors h m n (.document p.1) p.2) :
      Mirrors h m n (.list r) (.arr js)

/-- The fields of a document mirror the members of an object.  Members without a field may stand
beside them. -/
def Filled (h : Heap) (m : Nat) (r : DocRef) (data : Json.Object) : Prop :=
  ∃ d, h.document? r = some d ∧ ∀ f ∈ d.schema.fields, ∃ j, data.get? f.name = some j ∧
    h.Mirrors m (r.index + 1) (d.value f.name) j

variable {h later : Heap} {m n : Nat} {v : Value} {j : Json}

/-- Only what comes after its first document and its first list matters to a value, and of a document
only its type and its values. -/
theorem Mirrors.of_values (hv : h.Mirrors m n v j)
    (hdocuments : ∀ r d, n ≤ r.index → h.document? r = some d → ∃ d', later.document? r = some d' ∧
      d'.schema = d.schema ∧ ∀ f ∈ d.schema.fields, d'.value f.name = d.value f.name)
    (hlists : ∀ r l, m ≤ r.index → h.list? r = some l → later.list? r = some l) :
    later.Mirrors m n v j := by
  induction hv with
  | plain hsettled => exact .plain hsettled
  | document hr hd hkeys _ ih =>
      obtain ⟨d', hd', hschema, hvalues⟩ := hdocuments _ _ hr hd
      refine .document hr hd' (hschema ▸ hkeys) fun f hf j hj => ?_
      rw [hschema] at hf
      rw [hvalues f hf]
      exact ih f hf j hj fun s d hs hd => hdocuments s d (by omega) hd
  | list hr hl hlength _ ih =>
      exact .list hr (hlists _ _ hr hl) hlength fun p hp => ih p hp hdocuments

theorem Mirrors.mono (hv : h.Mirrors m n v j)
    (hdocuments : ∀ r d, n ≤ r.index → h.document? r = some d → later.document? r = some d)
    (hlists : ∀ r l, m ≤ r.index → h.list? r = some l → later.list? r = some l) :
    later.Mirrors m n v j :=
  hv.of_values (fun r d hr hd => ⟨d, hdocuments r d hr hd, rfl, fun _ _ => rfl⟩) hlists

theorem Mirrors.weaken {m' n' : Nat} (hm : m' ≤ m) (hn : n' ≤ n) (hv : h.Mirrors m n v j) :
    h.Mirrors m' n' v j := by
  induction hv generalizing n' with
  | plain hsettled => exact .plain hsettled
  | document hr hd hkeys _ ih =>
      exact .document (Nat.le_trans hn hr) hd hkeys fun f hf j hj => ih f hf j hj (Nat.le_refl _)
  | list hr hl hlength _ ih =>
      exact .list (Nat.le_trans hm hr) hl hlength fun p hp => ih p hp hn

/-- An object is the same as the data of a document if its members are those that the fields of the
document mirror. -/
theorem same_dataAt {r : DocRef} {d : Document} {data : Json.Object}
    (hd : h.document? r = some d) (hkeys : data.map Prod.fst = d.schema.fieldNames) {depth : Nat}
    (hfields : ∀ f ∈ d.schema.fields, ∀ j, data.get? f.name = some j →
      (h.toJsonAt depth (d.value f.name)).same j = true) :
    (Json.obj (h.dataAt (depth + 1) r)).same (.obj data) = true := by
  have hlength : data.length = d.schema.fields.length := by
    simpa [Schema.fieldNames] using congrArg List.length hkeys
  rw [dataAt_succ hd, Json.same, List.length_map, hlength, beq_self_eq_true, Bool.true_and,
    Json.sameMembers_iff]
  intro member hmember
  obtain ⟨f, hf, rfl⟩ := List.mem_map.mp hmember
  have hkey : f.name ∈ data.map Prod.fst := by
    rw [hkeys]
    exact List.mem_map_of_mem hf
  obtain ⟨j, hj⟩ : ∃ j, data.lookup f.name = some j := by
    obtain ⟨entry, hentry, hname⟩ := List.mem_map.mp hkey
    cases hlookup : data.lookup f.name with
    | some j => exact ⟨j, rfl⟩
    | none =>
        have hne := List.lookup_eq_none_iff.mp hlookup entry hentry
        simp [hname] at hne
  exact ⟨j, hj, hfields f hf j hj⟩

/-- A value flattens to the JSON that it mirrors.  No document before number `n` is held in it, so
that many levels fewer will do. -/
theorem Mirrors.same (hv : h.Mirrors m n v j) {depth : Nat}
    (hdepth : h.documents.length ≤ depth + n) : (h.toJsonAt depth v).same j = true := by
  induction hv generalizing depth with
  | plain hsettled => exact hsettled.same _ _
  | @document n r d data hr hd hkeys _ ih =>
      have hlt := document?_lt hd
      obtain ⟨depth, rfl⟩ : ∃ k, depth = k + 1 := ⟨depth - 1, by omega⟩
      exact same_dataAt hd hkeys fun f hf j hj => ih f hf j hj (by omega)
  | @list n r l js hr hl hlength _ ih =>
      have hitems : h.items r = l.items := by simp [items, hl]
      rw [toJsonAt, Value.toJsonWith, hitems, Json.same, Json.sameItems_iff]
      refine ⟨by simpa using hlength, fun p hp => ?_⟩
      rw [List.zip_map_left] at hp
      obtain ⟨⟨item, j⟩, hmem, rfl⟩ := List.mem_map.mp hp
      exact ih (item, j) hmem hdepth

/-- A filled document flattens to what fills it. -/
theorem Filled.same_data {r : DocRef} {data data' : Json.Object} (hr : h.Filled m r data)
    {d : Document} (hd : h.document? r = some d)
    (hkeys : data'.map Prod.fst = d.schema.fieldNames)
    (hget : ∀ f ∈ d.schema.fields, data'.get? f.name = data.get? f.name) :
    (Json.obj (h.data r)).same (.obj data') = true := by
  obtain ⟨d', hd', hfields⟩ := hr
  obtain rfl : d' = d := Option.some.inj (hd'.symm.trans hd)
  obtain ⟨depth, hlength, hdata⟩ := exists_data_eq hd
  rw [hdata]
  apply same_dataAt hd hkeys
  intro f hf j hj
  obtain ⟨j', hj', hmirrors⟩ := hfields f hf
  obtain rfl : j' = j := by
    rw [hget f hf, hj'] at hj
    exact Option.some.inj hj
  exact hmirrors.same (by omega)

end DocumentModel.Heap
