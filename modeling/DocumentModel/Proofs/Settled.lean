/-
JSON that values are read from and written back to.

`Json.Settled` is the JSON that comes of writing a value: what is not finite is gone, identifiers
and date-times are wrapped, and no other object could be taken for a wrapper.  Read as a value and
written again it is the same, up to the order of members.
-/
import DocumentModel.Proofs.DateText
import DocumentModel.Proofs.Mapping

namespace DocumentModel

theorem float_beq_self {x : Float} (hfinite : x.isFinite = true) : (x == x) = true := by
  obtain ⟨m⟩ := x
  simp only [BEq.beq, Float.beq, Float.Model.beq, Float.isFinite, Float.Model.isFinite]
    at hfinite ⊢
  generalize m.unpack = u at hfinite ⊢
  change (u.compare u == some .eq) = true
  have hself : u.compare u = some .eq := by
    cases u with
    | finite sign mantissa exponent hpos =>
        cases sign with
        | positive =>
            change some ((compare exponent exponent).then (compare mantissa mantissa)) = some .eq
            simp
        | negative =>
            change some ((compare exponent exponent).then (compare mantissa mantissa)).swap =
              some .eq
            simp
    | zero sign => rfl
    | _ => cases hfinite
  rw [hself]
  rfl

namespace Instant

theorem floorMillis_ofMillis {millis : Int} (hrange : inRange millis = true) :
    (ofMillis millis).floorMillis = millis := by
  rw [ofMillis, if_pos hrange]
  simp only [floorMillis]
  omega

theorem fitsInt64_of_inRange {millis : Int} (hrange : inRange millis = true) :
    Value.fitsInt64 millis = true := by
  rw [inRange, Bool.and_eq_true, decide_eq_true_iff, decide_eq_true_iff] at hrange
  rw [Value.fitsInt64, Bool.and_eq_true, decide_eq_true_iff, decide_eq_true_iff]
  have hmin : Int64.minValue.toInt = -9223372036854775808 := by decide
  have hmax : Int64.maxValue.toInt = 9223372036854775807 := by decide
  simp only [earliest, latest] at hrange
  omega

end Instant

namespace Json

/-- An object with a single member of one of the names that identifiers and date-times have. -/
def Object.looksWrapped : Object → Bool
  | [(key, _)] => key = "$oid" || key = "$date"
  | _ => false

/-- JSON that stands for a value and is written for that value again. -/
inductive Settled : Json → Prop
  | null : Settled .null
  | bool (b : Bool) : Settled (.bool b)
  | int {n : Int} (hfits : Value.fitsInt64 n = true) : Settled (.int n)
  | float {x : Float} (hfinite : x.isFinite = true) : Settled (.float x)
  | str (s : String) : Settled (.str s)
  | objectId (id : ObjectId) : Settled id.toJson
  | instant {t : Instant} (hrange : Instant.inRange t.floorMillis = true) : Settled t.toJson
  | arr {items : List Json} (hitems : ∀ j ∈ items, Settled j) : Settled (.arr items)
  | obj {members : Object} (hkeys : (members.map Prod.fst).Nodup)
      (hplain : members.looksWrapped = false) (hmembers : ∀ m ∈ members, Settled m.2) :
      Settled (.obj members)

theorem ofWrapper?_eq_none {data : Object} (hplain : data.looksWrapped = false) :
    Value.ofWrapper? data = none := by
  rw [Value.ofWrapper?.eq_def]
  split
  · simp [Object.looksWrapped] at hplain
  · simp [Object.looksWrapped] at hplain
  · rfl

/-- Equality of members, member by member. -/
theorem sameMembers_iff {as bs : Object} :
    sameMembers as bs = true ↔
      ∀ m ∈ as, ∃ b, bs.lookup m.1 = some b ∧ same m.2 b = true := by
  induction as with
  | nil => simp [sameMembers]
  | cons first rest ih =>
      obtain ⟨key, a⟩ := first
      rw [sameMembers, Bool.and_eq_true, ih, List.forall_mem_cons]
      cases bs.lookup key <;> simp

/-- Equality of items, one by one. -/
theorem sameItems_iff {as bs : List Json} :
    sameItems as bs = true ↔
      as.length = bs.length ∧ ∀ p ∈ as.zip bs, same p.1 p.2 = true := by
  induction as generalizing bs with
  | nil => cases bs <;> simp [sameItems]
  | cons a as ih =>
      cases bs with
      | nil => simp [sameItems]
      | cons b bs =>
          rw [sameItems, Bool.and_eq_true, ih, List.zip_cons_cons, List.forall_mem_cons,
            List.length_cons, List.length_cons, Nat.add_right_cancel_iff]
          tauto

theorem lookup_of_mem {α β : Type} [BEq α] [LawfulBEq α] {members : List (α × β)}
    (hkeys : (members.map Prod.fst).Nodup) {m : α × β} (hm : m ∈ members) :
    members.lookup m.1 = some m.2 := by
  induction members with
  | nil => cases hm
  | cons first rest ih =>
      obtain ⟨key, a⟩ := first
      obtain ⟨hnew, hrest⟩ := List.nodup_cons.mp hkeys
      rcases List.mem_cons.mp hm with rfl | hm
      · simp
      · have hkey : m.1 ∈ rest.map Prod.fst := List.mem_map_of_mem hm
        have hne : (m.1 == key) = false := beq_false_of_ne fun heq => hnew (heq ▸ hkey)
        rw [List.lookup_cons, hne, ih hrest hm]

theorem same_dateMember (millis : Int) :
    same (Instant.dateMember millis) (Instant.dateMember millis) = true := by
  rw [Instant.dateMember]
  cases Time.millisText? millis with
  | some text => simp [same]
  | none => simp [same, sameMembers]

end Json

namespace Value

theorem ofMembers_eq_map (members : Json.Object) :
    ofMembers members = members.map fun m => (m.1, ofJson m.2) := by
  induction members with
  | nil => rfl
  | cons first rest ih =>
      obtain ⟨key, j⟩ := first
      rw [ofMembers, ih, List.map_cons]

theorem ofItems_eq_map (items : List Json) : ofItems items = items.map ofJson := by
  induction items with
  | nil => rfl
  | cons first rest ih => rw [ofItems, ih, List.map_cons]

variable (document : DocRef → Json) (list : ListRef → Json)

theorem itemsToJson_eq_map (items : List Value) :
    itemsToJson document list items = items.map (toJsonWith document list) := by
  induction items with
  | nil => rfl
  | cons first rest ih => rw [itemsToJson, ih, List.map_cons]

theorem entriesToJson_eq_map (entries : List (String × Value)) :
    entriesToJson document list entries =
      entries.map fun e => (e.1, toJsonWith document list e.2) := by
  induction entries with
  | nil => rfl
  | cons first rest ih =>
      obtain ⟨key, v⟩ := first
      rw [entriesToJson, ih, List.map_cons]

theorem mem_foldl_insertEntry {acc entries : List (String × Value)} {e : String × Value}
    (he : e ∈ entries.foldl (fun acc e => insertEntry e.1 e.2 acc) acc) :
    e ∈ acc ∨ e ∈ entries := by
  induction entries generalizing acc with
  | nil => exact Or.inl he
  | cons first rest ih =>
      rcases ih he with hacc | hrest
      · rcases mem_insertEntry hacc with rfl | hold
        · exact Or.inr List.mem_cons_self
        · exact Or.inl hold
      · exact Or.inr (List.mem_cons_of_mem first hrest)

theorem length_insertEntry {key : String} {entries : List (String × Value)}
    (hnew : ∀ e ∈ entries, e.1 ≠ key) (v : Value) :
    (insertEntry key v entries).length = entries.length + 1 := by
  induction entries with
  | nil => rfl
  | cons first rest ih =>
      obtain ⟨hfirst, hrest⟩ := List.forall_mem_cons.mp hnew
      rw [insertEntry]
      split
      · next heq => exact absurd heq.symm hfirst
      · split
        · rfl
        · rw [List.length_cons, ih hrest, List.length_cons]

/-- Entries with different keys all get into the mapping. -/
theorem length_foldl_insertEntry {acc entries : List (String × Value)}
    (hkeys : (entries.map Prod.fst).Nodup) (hnew : ∀ e ∈ acc, ∀ e' ∈ entries, e.1 ≠ e'.1) :
    (entries.foldl (fun acc e => insertEntry e.1 e.2 acc) acc).length =
      acc.length + entries.length := by
  induction entries generalizing acc with
  | nil => rfl
  | cons first rest ih =>
      obtain ⟨hfirst, hrest⟩ := List.nodup_cons.mp hkeys
      have hfresh : ∀ e ∈ acc, e.1 ≠ first.1 := fun e he => hnew e he first List.mem_cons_self
      rw [List.foldl_cons, ih hrest, length_insertEntry hfresh, List.length_cons]
      · omega
      · intro e he e' he'
        rcases mem_insertEntry he with rfl | hold
        · exact fun heq => hfirst (heq ▸ List.mem_map_of_mem he')
        · exact hnew e hold e' (List.mem_cons_of_mem first he')

end Value

open Value

/-- Settled JSON survives being read as a value. -/
theorem Json.Settled.same {j : Json} (hj : j.Settled) (document : DocRef → Json)
    (list : ListRef → Json) : ((ofJson j).toJsonWith document list).same j = true := by
  induction hj with
  | null => rfl
  | bool b => simp [ofJson, toJsonWith, Json.same]
  | @int n hfits =>
      have hbounds := hfits
      rw [fitsInt64, Bool.and_eq_true, decide_eq_true_iff, decide_eq_true_iff] at hbounds
      have hround : (Int64.ofInt n).toInt = n :=
        Int64.toInt_ofInt_of_le hbounds.1 (Int.lt_add_one_of_le hbounds.2)
      simp [ofJson, hfits, toJsonWith, Json.same, hround]
  | float hfinite => simp [ofJson, toJsonWith, Json.same, hfinite, float_beq_self hfinite]
  | str s => simp [ofJson, toJsonWith, Json.same]
  | objectId id =>
      simp [ObjectId.toJson, ofJson, ofWrapper?, ObjectId.parse?_toHex, toJsonWith, Json.same,
        Json.sameMembers]
  | @instant t hrange =>
      have hread := dateMillis?_dateMember (Instant.fitsInt64_of_inRange hrange)
      simp [Instant.toJson, ofJson, ofWrapper?, hread, toJsonWith, Json.same, Json.sameMembers,
        Instant.floorMillis_ofMillis hrange, same_dateMember]
  | @arr items _ ih =>
      rw [ofJson, toJsonWith, Json.same, itemsToJson_eq_map, ofItems_eq_map, List.map_map,
        sameItems_iff]
      have hzip := List.zip_map' (l := items) (f := toJsonWith document list ∘ ofJson) (g := id)
      rw [List.map_id] at hzip
      rw [hzip]
      exact ⟨List.length_map _, List.forall_mem_map.mpr ih⟩
  | @obj members hkeys hplain _ ih =>
      rw [ofJson, ofWrapper?_eq_none hplain, Option.getD_none, mapOf, toJsonWith, Json.same,
        entriesToJson_eq_map, ofMembers_eq_map, Bool.and_eq_true]
      have hkeys' : ((members.map fun m => (m.1, ofJson m.2)).map Prod.fst).Nodup := by
        rwa [List.map_map]
      refine ⟨?_, sameMembers_iff.mpr fun e he => ?_⟩
      · rw [List.length_map, length_foldl_insertEntry hkeys' (by simp)]
        simp
      · obtain ⟨entry, hentry, rfl⟩ := List.mem_map.mp he
        rcases mem_foldl_insertEntry hentry with hnil | hmem
        · cases hnil
        · obtain ⟨m, hm, rfl⟩ := List.mem_map.mp hmem
          exact ⟨m.2, lookup_of_mem hkeys hm, ih m hm⟩

end DocumentModel
