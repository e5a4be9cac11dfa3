/-
Lookups agree.

One identifier can be looked up as such, as text, or as the member `_id` of a filter, and a filter
can ask for whatever the data under identifiers has.  All of this comes to the same documents: where
defaults are plain values, a document that is made of data is determined by the data.
-/
import DocumentModel.Proofs.CollectionRuns
import DocumentModel.Proofs.Filling

namespace DocumentModel

namespace ObjectId

theorem toHex_injective {id other : ObjectId} (heq : id.toHex = other.toHex) : id = other := by
  apply Option.some.inj
  rw [← parse?_toHex id, ← parse?_toHex other, heq]

/-- The digits of either case. -/
def hexDigits : List Char :=
  "0123456789abcdefABCDEF".toList

/-- Twenty-four digits of either case. -/
def Spelled (text : String) : Prop :=
  text.toList.length = 24 ∧ ∀ c ∈ text.toList, c ∈ hexDigits

theorem mem_range_of_le {lo hi c : Char} (hlo : lo ≤ c) (hhi : c ≤ hi) :
    c ∈ (List.range' lo.toNat (hi.toNat + 1 - lo.toNat)).map Char.ofNat := by
  have hlo : lo.toNat ≤ c.toNat := hlo
  have hhi : c.toNat ≤ hi.toNat := hhi
  apply List.mem_map.mpr
  exact ⟨c.toNat, List.mem_range'_1.mpr (by omega), Char.ofNat_toNat c⟩

theorem digit?_of_mem {c : Char} (hc : c ∈ hexDigits) :
    ∃ d, digit? c = some d ∧ Text.hexDigit d.val = c.toLower := by
  have hread : hexDigits.all (fun c =>
      (digit? c).any fun d => Text.hexDigit d.val == c.toLower) = true := by
    decide +kernel
  obtain ⟨d, hd, hlower⟩ := (Option.any_eq_true _ _).mp (List.all_eq_true.mp hread c hc)
  exact ⟨d, hd, beq_iff_eq.mp hlower⟩

theorem digit?_of_not_mem {c : Char} (hc : c ∉ hexDigits) : digit? c = none := by
  have houtside : ∀ lo hi : Char,
      (List.range' lo.toNat (hi.toNat + 1 - lo.toNat)).map Char.ofNat ⊆ hexDigits →
      ¬ (lo ≤ c ∧ c ≤ hi) :=
    fun lo hi hsub hbetween => hc (hsub (mem_range_of_le hbetween.1 hbetween.2))
  rw [digit?, Text.hexValue?, if_neg (houtside '0' '9' (by decide)),
    if_neg (houtside 'a' 'f' (by decide)), if_neg (houtside 'A' 'F' (by decide))]
  rfl

theorem mapM_digit?_of_mem {cs : List Char} (hcs : ∀ c ∈ cs, c ∈ hexDigits) :
    ∃ ds, cs.mapM digit? = some ds ∧ ds.length = cs.length ∧
      ds.map (fun d => Text.hexDigit d.val) = cs.map Char.toLower := by
  induction cs with
  | nil => exact ⟨[], rfl, rfl, rfl⟩
  | cons c rest ih =>
      obtain ⟨hc, hrest⟩ := List.forall_mem_cons.mp hcs
      obtain ⟨d, hd, hlower⟩ := digit?_of_mem hc
      obtain ⟨ds, hds, hlength, hlowers⟩ := ih hrest
      exact ⟨d :: ds, by simp [List.mapM_cons, hd, hds], by simp [hlength],
        by simp [hlower, hlowers]⟩

theorem mem_of_mapM_digit? {cs : List Char} {ds : List (Fin 16)} (hds : cs.mapM digit? = some ds) :
    ds.length = cs.length ∧ ∀ c ∈ cs, c ∈ hexDigits := by
  induction cs generalizing ds with
  | nil =>
      obtain rfl := Option.some.inj hds
      exact ⟨rfl, by simp⟩
  | cons c rest ih =>
      rw [List.mapM_cons] at hds
      obtain ⟨d, hd, hds⟩ := Option.bind_eq_some_iff.mp hds
      obtain ⟨ds', hrest, hds⟩ := Option.bind_eq_some_iff.mp hds
      obtain rfl := Option.some.inj hds
      obtain ⟨hlength, hmem⟩ := ih hrest
      have hc : c ∈ hexDigits := by
        by_contra hnot
        rw [digit?_of_not_mem hnot] at hd
        cases hd
      exact ⟨congrArg Nat.succ hlength, List.forall_mem_cons.mpr ⟨hc, hmem⟩⟩

/-- Digits of either case are an identifier, the one that has them in lower case. -/
theorem parse?_of_spelled {text : String} (htext : Spelled text) :
    ∃ id, parse? text = some id ∧ id.toHex = String.ofList (text.toList.map Char.toLower) := by
  obtain ⟨hlength, hdigits⟩ := htext
  obtain ⟨ds, hds, hsame, hlowers⟩ := mapM_digit?_of_mem hdigits
  refine ⟨⟨⟨ds.toArray, by simp [hsame, hlength]⟩⟩, ?_, congrArg String.ofList hlowers⟩
  simp [parse?, hds, hsame, hlength]

theorem parse?_of_not_spelled {text : String} (htext : ¬ Spelled text) : parse? text = none := by
  rw [Option.eq_none_iff_forall_not_mem]
  intro id hid
  obtain ⟨ds, hds, hid⟩ := Option.bind_eq_some_iff.mp hid
  obtain ⟨hlength, hdigits⟩ := mem_of_mapM_digit? hds
  split at hid
  · next hcount => exact htext ⟨hlength ▸ hcount, hdigits⟩
  · cases hid

end ObjectId

namespace Collection

/-- The filter that asks for an identifier, as JSON. -/
def byId (id : ObjectId) : Json.Object :=
  [("_id", .obj [("$oid", .str id.toHex)])]

theorem matchesFilter_byId (id other : ObjectId) (data : Json.Object) :
    matchesFilter (byId id) other data = decide (other = id) := by
  have hsame : (Json.obj [("$oid", .str id.toHex)]).same other.toJson =
      decide (id.toHex = other.toHex) := by
    simp [ObjectId.toJson, Json.same, Json.sameMembers, beq_eq_decide]
  rw [matchesFilter, byId, List.all_cons, List.all_nil, Bool.and_true]
  simp only [idKey, if_pos]
  rw [hsame, decide_eq_decide]
  exact ⟨fun heq => (ObjectId.toHex_injective heq).symm,
    fun heq => congrArg ObjectId.toHex heq.symm⟩

/-- Where no two entries share an identifier, one entry at most has a given one. -/
theorem filter_fst_eq {entries : List (ObjectId × Json.Object)}
    (hids : (entries.map Prod.fst).Nodup) (id : ObjectId) :
    entries.filter (fun e => decide (e.1 = id)) =
      ((entries.lookup id).map fun data => (id, data)).toList := by
  induction entries with
  | nil => rfl
  | cons first rest ih =>
      obtain ⟨i, data⟩ := first
      obtain ⟨hnew, hrest⟩ := List.nodup_cons.mp hids
      by_cases hi : i = id
      · subst hi
        have hnone : rest.filter (fun e => decide (e.1 = i)) = [] := by
          rw [List.filter_eq_nil_iff]
          intro e he hsame
          have hmem : e.1 ∈ rest.map Prod.fst := List.mem_map_of_mem he
          exact hnew (of_decide_eq_true hsame ▸ hmem)
        rw [List.filter_cons_of_pos (by simp), hnone, List.lookup_cons_self]
        rfl
      · have hother : (id == i) = false := by simpa using Ne.symm hi
        rw [List.filter_cons_of_neg (by simpa using hi), List.lookup_cons, hother, ih hrest]

namespace Refines

variable {history : List Call} {c : Collection}

/-- Asking for an identifier in a filter finds what looking it up finds. -/
theorem find_byId (hc : Refines history c) (id : ObjectId) :
    c.find (byId id) = ((c.find? id).map fun data => (id, data)).toList := by
  have hfilter : c.find (byId id) = c.entries.filter fun e => decide (e.1 = id) := by
    rw [find]
    congr 1
    funext e
    exact matchesFilter_byId id e.1 e.2
  rw [hfilter, filter_fst_eq hc.ids_nodup, find?]

end Refines

end Collection

namespace Persisted

/-- Two documents, each in a heap of its own, have the same identifier and the same data. -/
def Agrees (h h' : Heap) (p p' : Persisted) : Prop :=
  p.id? = p'.id? ∧ h.data p.document = h'.data p'.document

end Persisted

namespace Store

open Heap

variable {types : List Schema} {store : Store}

/-- A document is what an entry of the collection describes. -/
def Describes (store : Store) (base later : Heap) (e : ObjectId × Json.Object) (p : Persisted) :
    Prop :=
  p.id? = some e.1 ∧ later.data p.document = store.schema.filled base e.2

theorem Describes.agrees {base h h' : Heap} {e : ObjectId × Json.Object} {p p' : Persisted}
    (hp : store.Describes base h e p) (hp' : store.Describes base h' e p') : p.Agrees h h' p' :=
  ⟨hp.1.trans hp'.1.symm, hp.2.trans hp'.2.symm⟩

/-- Documents that are made one after the other are all what their entries describe. -/
theorem hydrateAll_describes (hdecl : Declared types) (hschema : store.schema ∈ types)
    {base h : Heap} (hsound : h.Sound types) (hbase : base.Stays h)
    (hmakes : ∀ t, store.schema.Nests t → t.Makes types base h)
    (entries : List (ObjectId × Json.Object)) :
    ∃ ps later, store.hydrateAll h entries = (.ok ps, later) ∧ h.Stays later ∧
      List.Forall₂ (store.Describes base later) entries ps := by
  induction entries generalizing h with
  | nil => exact ⟨[], h, rfl, .refl h, .nil⟩
  | cons first rest ih =>
      obtain ⟨id, data⟩ := first
      obtain ⟨r, mid, hrun, hchanges, _, hyields⟩ :=
        Schema.hydrate_fills hdecl hsound hbase data store.schema hschema hmakes
      have hmid := hchanges.keeps.stays
      obtain ⟨ps, later, hrest, hlater, hall⟩ := ih (hchanges.sound hdecl hsound)
        (hbase.trans hmid) fun t ht => (hmakes t ht).mono hchanges.grows
      have hdata : later.data r = store.schema.filled base data :=
        (hyields.stays hlater).data_eq (hbase.trans (hmid.trans hlater)) hbase.length_le
          (hmid.trans hlater).length_le
      refine ⟨⟨r, some id⟩ :: ps, later, ?_, hmid.trans hlater, .cons ⟨rfl, hdata⟩ hall⟩
      simp only [hydrateAll, hydrate, hrun, hrest]

variable {s : Session}

theorem find_describes (hdecl : Declared types) (hschema : store.schema ∈ types)
    (hsound : s.heap.Sound types)
    (hmakes : ∀ t, store.schema.Nests t → t.Makes types s.heap s.heap) (filter : Json.Object)
    (took : String) : ∃ ps later, store.find filter took s = (.ok ps, later) ∧
      List.Forall₂ (store.Describes s.heap later.heap) (store.collection.find filter) ps := by
  obtain ⟨ps, heap, hrun, _, hall⟩ := hydrateAll_describes hdecl hschema hsound (.refl s.heap)
    hmakes (store.collection.find filter)
  rw [find, hrun]
  exact ⟨ps, _, rfl, by rwa [heap_log]⟩

theorem findOne_describes (hdecl : Declared types) (hschema : store.schema ∈ types)
    (hsound : s.heap.Sound types)
    (hmakes : ∀ t, store.schema.Nests t → t.Makes types s.heap s.heap) {id : ObjectId}
    {data : Json.Object} (hfound : store.collection.find? id = some data) (took : String) :
    ∃ p later, store.findOne id took s = (.ok (some p), later) ∧
      store.Describes s.heap later.heap (id, data) p := by
  obtain ⟨r, heap, hrun, hchanges, _, hyields⟩ :=
    Schema.hydrate_fills hdecl hsound (.refl s.heap) data store.schema hschema hmakes
  have hstays := hchanges.keeps.stays
  have hdata := hyields.data_eq hstays (Nat.le_refl _) hstays.length_le
  obtain ⟨later, hone, rfl⟩ := findOne_of_hydrate hfound hrun took
  exact ⟨⟨r, some id⟩, later, hone, rfl, hdata⟩

theorem findById_of_spelled {text : String} (htext : ObjectId.Spelled text) :
    ∃ id : ObjectId, id.toHex = String.ofList (text.toList.map Char.toLower) ∧
      ∀ took, store.findById text took s = store.findOne id took s := by
  obtain ⟨id, hparse, hlower⟩ := ObjectId.parse?_of_spelled htext
  refine ⟨id, hlower, fun took => ?_⟩
  rw [findById, hparse]

theorem findById_of_not_spelled {text : String} (htext : ¬ ObjectId.Spelled text) (took : String) :
    store.findById text took s = (.error (.invalidId text), s) := by
  rw [findById, ObjectId.parse?_of_not_spelled htext]

open Collection

/-- Lookups of a reachable collection agree, where the types at hand can be made and declared
defaults are plain values, in which no document comes round to itself.  A filter for an identifier
finds the document that looking it up finds, if there is one, and nothing otherwise.  Text is looked
up as the identifier that it spells, and refused if it spells none.  A filter finds, in the order of
insertion and each once, the documents that are found under the live identifiers whose data
match. -/
theorem lookups_agree (hs : Reachable types s) (hschema : store.schema ∈ types)
    {calls : List Call} (hrun : Run calls store.collection)
    (hmakes : ∀ t, store.schema.Nests t → ∃ made, (t.instantiate s.heap).1 = .ok made)
    (hplain : ∀ t, store.schema.Nests t → ∀ f ∈ t.fields, f.FixedDefault s.heap) :
    (∀ id took took', ∃ one last ps later, store.findOne id took s = (.ok one, last) ∧
      one.isSome = live calls id ∧ (∀ p, one = some p → p.id? = some id) ∧
      store.find [("_id", .obj [("$oid", .str id.toHex)])] took' s = (.ok ps, later) ∧
      List.Forall₂ (Persisted.Agrees later.heap last.heap) ps one.toList) ∧
    (∀ text, (ObjectId.Spelled text → ∃ id : ObjectId,
        id.toHex = String.ofList (text.toList.map Char.toLower) ∧
        ∀ took, store.findById text took s = store.findOne id took s) ∧
      (¬ ObjectId.Spelled text → ∀ took,
        store.findById text took s = (.error (.invalidId text), s))) ∧
    ∀ filter took took', ∃ ps later, store.find filter took s = (.ok ps, later) ∧
      (hits calls store.collection filter).Nodup ∧
      List.Forall₂ (fun id p => p.id? = some id ∧ ∃ one last,
        store.findOne id took' s = (.ok (some one), last) ∧
        p.Agrees later.heap last.heap one) (hits calls store.collection filter) ps := by
  have hdecl := hs.declared
  have hmakes : ∀ t, store.schema.Nests t → t.Makes types s.heap s.heap := by
    intro t ht
    obtain ⟨made, hmade⟩ := hmakes t ht
    exact ⟨hs.constructs (hdecl.mem_of_nests hschema ht) hmade, hplain t ht⟩
  have hc := hrun.refines
  have hfind : ∀ filter took, ∃ ps later, store.find filter took s = (.ok ps, later) ∧
      List.Forall₂ (store.Describes s.heap later.heap) (store.collection.find filter) ps :=
    find_describes hdecl hschema hs.sound hmakes
  have hone := fun {id data} (hfound : store.collection.find? id = some data) took =>
    findOne_describes hdecl hschema hs.sound hmakes hfound took
  refine ⟨fun id took took' => ?_, fun text => ⟨findById_of_spelled, findById_of_not_spelled⟩,
    fun filter took took' => ?_⟩
  · obtain ⟨ps, later, hps, hall⟩ := hfind (byId id) took'
    rw [hc.find_byId] at hall
    rw [← hc.isSome_find? id]
    cases hfound : store.collection.find? id with
    | none =>
        rw [hfound] at hall
        cases hall
        exact ⟨none, _, [], later, Prod.ext (findOne_of_none hfound took s) rfl, rfl, by simp, hps,
          .nil⟩
    | some data =>
        obtain ⟨one, last, hlast, hdescribes⟩ := hone hfound took
        rw [hfound] at hall
        cases hall with
        | cons hp hrest =>
            cases hrest
            refine ⟨some one, last, _, later, hlast, rfl, fun p hsome => ?_, hps,
              .cons (hp.agrees hdescribes) .nil⟩
            exact Option.some.inj hsome ▸ hdescribes.1
  · obtain ⟨ps, later, hps, hall⟩ := hfind filter took
    refine ⟨ps, later, hps, hc.nodup.filter _, ?_⟩
    rw [← hc.find_ids, List.forall₂_map_left_iff]
    have hentries : ∀ e ∈ store.collection.find filter, store.collection.find? e.1 = some e.2 :=
      fun e he => (find?_eq_some_iff hc.ids_nodup).mpr (List.mem_of_mem_filter he)
    refine ((List.forall₂_and_left _ _).mpr ⟨hentries, hall⟩).imp fun e p ⟨hfound, hp⟩ => ?_
    obtain ⟨one, last, hlast, hdescribes⟩ := hone hfound took'
    exact ⟨hp.1, one, last, hlast, hp.agrees hdescribes⟩

/-! Two guests of the type of persons. -/

def guests : Store :=
  ⟨personType, "guests",
    ⟨[(.ofNat 1, [("name", .str "Ann")]), (.ofNat 2, [("name", .str "Bob")])]⟩,
    ⟨"created_at", "seen", true⟩⟩

def guestCalls : List Call :=
  [.insert (.ofNat 2) [("name", .str "Bob")], .insert (.ofNat 1) [("name", .str "Ann")]]

theorem guests_run : Run guestCalls guests.collection := by
  have hfirst : ObjectId.ofNat 1 ∉ inserted [] := by simp [inserted]
  have hsecond : ObjectId.ofNat 2 ∉ [ObjectId.ofNat 1] := by decide +kernel
  have hone := Run.start.call (.insert (.ofNat 1) [("name", .str "Ann")]) hfirst
    (by simp [Call.Distinct])
  exact hone.call (.insert (.ofNat 2) [("name", .str "Bob")]) hsecond (by simp [Call.Distinct])

theorem person_fixed {t : Schema} (ht : personType.Nests t) :
    ∀ f ∈ t.fields, f.FixedDefault personRun.heap := by
  intro f hf d hd
  rcases person_nests ht with rfl | rfl
  · have hfields : f ∈ personFields := hf
    simp only [personFields, List.mem_cons, List.not_mem_nil, or_false] at hfields
    rcases hfields with rfl | rfl | rfl | rfl
    · cases hd
    · obtain rfl := Option.some.inj hd
      exact ⟨_, rfl, .instant _⟩
    · cases hd
    · cases hd
  · obtain rfl := List.mem_singleton.mp hf
    cases hd

/-- The second guest is found under the identifier and by the name, nobody under another identifier,
and no identifier is a name. -/
theorem lookups_agree_guests :
    (∃ p later, guests.find [("_id", .obj [("$oid", .str "000000000000000000000002")])] "0"
      personRun = (.ok [p], later) ∧ p.id? = some (.ofNat 2)) ∧
    (∃ later, guests.find [("_id", .obj [("$oid", .str "000000000000000000000003")])] "0"
      personRun = (.ok [], later)) ∧
    guests.findById "Bob" "0" personRun = (.error (.invalidId "Bob"), personRun) ∧
    ∃ p later, guests.find [("name", .str "Bob")] "0" personRun = (.ok [p], later) ∧
      p.id? = some (.ofNat 2) := by
  have hguests : guests.schema ∈ [personType, addressType] := List.mem_cons_self
  obtain ⟨hbyId, htext, hfilter⟩ := lookups_agree personRun_reachable hguests guests_run
    (fun _ ht => person_makes ht) fun _ ht => person_fixed ht
  refine ⟨?_, ?_, (htext "Bob").2 (fun hbob => absurd hbob.1 (by decide)) "0", ?_⟩
  · obtain ⟨one, last, ps, later, _, hlive, hid, hps, hagree⟩ := hbyId (.ofNat 2) "0" "0"
    cases one with
    | none => exact absurd hlive (by decide +kernel)
    | some one =>
        obtain ⟨p, _, hp, hnil, rfl⟩ := List.forall₂_cons_right_iff.mp hagree
        obtain rfl := List.forall₂_nil_right_iff.mp hnil
        exact ⟨p, later, hps, hp.1.trans (hid one rfl)⟩
  · obtain ⟨one, last, ps, later, _, hlive, _, hps, hagree⟩ := hbyId (.ofNat 3) "0" "0"
    cases one with
    | none =>
        obtain rfl := List.forall₂_nil_right_iff.mp hagree
        exact ⟨later, hps⟩
    | some one =>
        have hdead : live guestCalls (.ofNat 3) = false := by decide +kernel
        cases hlive.trans hdead
  · obtain ⟨ps, later, hps, _, hall⟩ := hfilter [("name", .str "Bob")] "0" "0"
    have hhits : hits guestCalls guests.collection [("name", .str "Bob")] = [.ofNat 2] := by
      decide +kernel
    rw [hhits] at hall
    obtain ⟨p, _, hp, hnil, rfl⟩ := List.forall₂_cons_left_iff.mp hall
    obtain rfl := List.forall₂_nil_left_iff.mp hnil
    exact ⟨p, later, hps, hp.1⟩

end Store

end DocumentModel
