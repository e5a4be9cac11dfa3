/-
What is left of a value that is written as JSON and read again.

JSON has no number that is not finite, and a date-time in it is a number of milliseconds.  All else
comes back: a wrapper that was written is recognised, and no mapping is taken for one.
-/
import DocumentModel.Flattening
import DocumentModel.Proofs.Settled

namespace DocumentModel

namespace Instant

/-- An instant without what is finer than a millisecond, a leap second carried into the second
after it. -/
def cut (t : Instant) : Instant :=
  ⟨t.seconds + (t.nanos / 1000000000 : Nat), t.nanos % 1000000000 / 1000000 * 1000000⟩

theorem ofMillis_floorMillis {t : Instant} (hrange : inRange t.floorMillis = true) :
    ofMillis t.floorMillis = t.cut := by
  have hseconds : t.floorMillis / 1000 = t.seconds + (t.nanos / 1000000000 : Nat) := by
    simp only [floorMillis]
    omega
  have hmillis : (t.floorMillis % 1000).toNat = t.nanos % 1000000000 / 1000000 := by
    simp only [floorMillis]
    omega
  rw [ofMillis, if_pos hrange, hseconds, hmillis, cut]

end Instant

namespace Value

/-- A value that JSON can carry: nothing in it is a reference to a document or a list, no mapping
in it could be taken for an identifier or a date-time, and each of its date-times still is one when
a leap second is carried into the second after it. -/
inductive Carried : Value → Prop
  | null : Carried .null
  | bool (b : Bool) : Carried (.bool b)
  | int (n : Int64) : Carried (.int n)
  | float (x : Float) : Carried (.float x)
  | text (s : String) : Carried (.text s)
  | instant {t : Instant} (hrange : Instant.inRange t.floorMillis = true) : Carried (.instant t)
  | objectId (id : ObjectId) : Carried (.objectId id)
  | array {items : List Value} (hitems : ∀ v ∈ items, Carried v) : Carried (.array items)
  | map {entries : List (String × Value)}
      (hplain : ∀ key v, entries = [(key, v)] → key ≠ "$oid" ∧ key ≠ "$date")
      (hentries : ∀ e ∈ entries, Carried e.2) : Carried (.map entries)

mutual

/-- A value without what JSON cannot carry: numbers that are not finite, and the part of a date-time
below the millisecond. -/
def asWritten : Value → Value
  | .float x => if x.isFinite then .float x else .null
  | .instant t => .instant t.cut
  | .array items => .array (itemsAsWritten items)
  | .map entries => .map (entriesAsWritten entries)
  | v => v

def itemsAsWritten : List Value → List Value
  | [] => []
  | item :: rest => asWritten item :: itemsAsWritten rest

def entriesAsWritten : List (String × Value) → List (String × Value)
  | [] => []
  | (key, value) :: rest => (key, asWritten value) :: entriesAsWritten rest

end

theorem itemsAsWritten_eq_map (items : List Value) :
    itemsAsWritten items = items.map asWritten := by
  induction items with
  | nil => rfl
  | cons first rest ih => rw [itemsAsWritten, ih, List.map_cons]

theorem entriesAsWritten_eq_map (entries : List (String × Value)) :
    entriesAsWritten entries = entries.map fun e => (e.1, asWritten e.2) := by
  induction entries with
  | nil => rfl
  | cons first rest ih =>
      obtain ⟨key, v⟩ := first
      rw [entriesAsWritten, ih, List.map_cons]

/-! ### Integers, and mappings that are in order already -/

theorem ofJson_toInt (n : Int64) : ofJson (.int n.toInt) = .int n := by
  have hfits : fitsInt64 n.toInt = true := by
    rw [fitsInt64, Bool.and_eq_true, decide_eq_true_iff, decide_eq_true_iff]
    exact ⟨n.minValue_le_toInt, n.toInt_le⟩
  rw [ofJson, if_pos hfits, Int64.ofInt_toInt]

theorem insertEntry_append {key : String} {entries : List (String × Value)}
    (hlast : ∀ e ∈ entries, e.1 < key) (v : Value) :
    insertEntry key v entries = entries ++ [(key, v)] := by
  induction entries with
  | nil => rfl
  | cons first rest ih =>
      obtain ⟨k, v'⟩ := first
      obtain ⟨hfirst, hrest⟩ := List.forall_mem_cons.mp hlast
      rw [insertEntry, if_neg (ne_of_gt hfirst), if_neg (not_lt_of_gt hfirst), ih hrest,
        List.cons_append]

theorem foldl_insertEntry_append {acc entries : List (String × Value)}
    (hkeys : (acc ++ entries).Pairwise fun a b => a.1 < b.1) :
    entries.foldl (fun acc e => insertEntry e.1 e.2 acc) acc = acc ++ entries := by
  induction entries generalizing acc with
  | nil => rw [List.append_nil, List.foldl_nil]
  | cons first rest ih =>
      have hlast : ∀ e ∈ acc, e.1 < first.1 := fun e he =>
        (List.pairwise_append.mp hkeys).2.2 e he first List.mem_cons_self
      rw [List.append_cons] at hkeys ⊢
      rw [List.foldl_cons, insertEntry_append hlast, ih hkeys]

theorem mapOf_of_pairwise {entries : List (String × Value)}
    (hkeys : entries.Pairwise fun a b => a.1 < b.1) : mapOf entries = .map entries := by
  rw [mapOf, @foldl_insertEntry_append [] entries hkeys, List.nil_append]

theorem looksWrapped_map {entries : List (String × Value)}
    (hplain : ∀ key v, entries = [(key, v)] → key ≠ "$oid" ∧ key ≠ "$date") (f : Value → Json) :
    Json.Object.looksWrapped (entries.map fun e => (e.1, f e.2)) = false := by
  match entries with
  | [] => rfl
  | [(key, v)] =>
      obtain ⟨hoid, hdate⟩ := hplain key v rfl
      simp [Json.Object.looksWrapped, hoid, hdate]
  | _ :: _ :: _ => rfl

/-- A value that JSON can carry, written and read, comes back as it was, but for numbers that are
not finite and for what is finer than a millisecond. -/
theorem Carried.ofJson_toJsonWith {v : Value} (hv : v.Carried) (hproper : v.Proper)
    (document : DocRef → Json) (list : ListRef → Json) :
    ofJson (v.toJsonWith document list) = v.asWritten := by
  induction hv with
  | null => rfl
  | bool b => rfl
  | int n => exact ofJson_toInt n
  | float x =>
      rw [toJsonWith, asWritten]
      split <;> rfl
  | text s => rfl
  | @instant t hrange =>
      have hread := dateMillis?_dateMember (Instant.fitsInt64_of_inRange hrange)
      simp only [toJsonWith, Instant.toJson, ofJson, ofWrapper?, hread, Option.map_some,
        Option.getD_some, Instant.ofMillis_floorMillis hrange, asWritten]
  | objectId id =>
      simp only [toJsonWith, ObjectId.toJson, ofJson, ofWrapper?, ObjectId.parse?_toHex,
        Option.map_some, Option.getD_some, asWritten]
  | @array items _ ih =>
      cases hproper with
      | array hitems =>
          rw [toJsonWith, ofJson, asWritten, ofItems_eq_map, itemsToJson_eq_map,
            itemsAsWritten_eq_map, List.map_map]
          exact congrArg Value.array
            (List.map_congr_left fun item hitem => ih item hitem (hitems item hitem))
  | @map entries hplain _ ih =>
      cases hproper with
      | map hkeys hentries =>
          have hread : (entries.map fun e => (e.1, toJsonWith document list e.2)).map
              (fun m => (m.1, ofJson m.2)) = entries.map fun e => (e.1, asWritten e.2) := by
            rw [List.map_map]
            exact List.map_congr_left fun e he =>
              congrArg (Prod.mk e.1) (ih e he (hentries e he))
          have hordered : (entries.map fun e => (e.1, asWritten e.2)).Pairwise
              fun a b => a.1 < b.1 := List.pairwise_map.mpr hkeys
          rw [toJsonWith, ofJson, asWritten, entriesToJson_eq_map, entriesAsWritten_eq_map,
            Json.ofWrapper?_eq_none (looksWrapped_map hplain _), Option.getD_none, ofMembers_eq_map,
            hread, mapOf_of_pairwise hordered]

/-- Reading undoes writing, but for numbers that are not finite, which become null, and for what
in a date-time is finer than a millisecond. -/
theorem ofJson_toJson (h : Heap) {v : Value} (hproper : v.Proper) (hv : v.Carried) :
    ofJson (h.toJson v) = v.asWritten :=
  hv.ofJson_toJsonWith hproper _ _

/-! A record of observations: an instant before 1970, one after 9999, one within a leap second, a
number that is not one, and a mapping that has the name of a wrapper next to another. -/

def observations : Value :=
  .map [
    ("$oid", .text "not an identifier"),
    ("readings", .array [.float 1.5, .float (0 / 0), .int (-7)]),
    ("station", .objectId (ObjectId.ofNat 255)),
    ("times", .array [.instant ⟨-1, 500000001⟩, .instant ⟨253402300800, 1999999⟩,
      .instant ⟨1483228799, 1000000007⟩])]

theorem observations_proper : observations.Proper := by
  refine .map (by decide) ?_
  simp only [List.forall_mem_cons, List.not_mem_nil, false_imp_iff, implies_true, and_true]
  refine ⟨.text _, .array ?_, .objectId _, .array ?_⟩
  · simp only [List.forall_mem_cons, List.not_mem_nil, false_imp_iff, implies_true, and_true]
    exact ⟨.float _, .float _, .int _⟩
  · simp only [List.forall_mem_cons, List.not_mem_nil, false_imp_iff, implies_true, and_true]
    exact ⟨.instant _, .instant _, .instant _⟩

theorem observations_carried : observations.Carried := by
  refine .map (fun key v heq => by cases heq) ?_
  simp only [List.forall_mem_cons, List.not_mem_nil, false_imp_iff, implies_true, and_true]
  refine ⟨.text _, .array ?_, .objectId _, .array ?_⟩
  · simp only [List.forall_mem_cons, List.not_mem_nil, false_imp_iff, implies_true, and_true]
    exact ⟨.float _, .float _, .int _⟩
  · simp only [List.forall_mem_cons, List.not_mem_nil, false_imp_iff, implies_true, and_true]
    exact ⟨.instant (by decide), .instant (by decide), .instant (by decide)⟩

theorem ofJson_toJson_observations :
    observations.Proper ∧ observations.Carried ∧
      ofJson (Heap.empty.toJson observations) = .map [
        ("$oid", .text "not an identifier"),
        ("readings", .array [.float 1.5, .null, .int (-7)]),
        ("station", .objectId (ObjectId.ofNat 255)),
        ("times", .array [.instant ⟨-1, 500000000⟩, .instant ⟨253402300800, 1000000⟩,
          .instant ⟨1483228800, 0⟩])] := by
  refine ⟨observations_proper, observations_carried, ?_⟩
  rw [ofJson_toJson .empty observations_proper observations_carried]
  have hfinite : (1.5 : Float).isFinite = true := by decide +kernel
  have hnot : (0 / 0 : Float).isFinite = false := by decide +kernel
  simp [observations, asWritten, itemsAsWritten, entriesAsWritten, Instant.cut, hfinite, hnot]

end Value

end DocumentModel
