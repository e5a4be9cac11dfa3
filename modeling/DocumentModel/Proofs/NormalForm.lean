/-
The normal form of JSON.

To read JSON as a value and to write that value again is to normalise it: keys are put in order,
identifiers into lower case, date-times into one notation.  What is normal stays as it is.  An
object that is not taken for an identifier or a date-time is not taken for one after its inside has
been normalised, either: normalising makes no text and no integer that was not there before.

All of it is about JSON whose objects name each key once (`WellFormed`), as they do in JSON that is
read from text (`read?_wellFormed`).
-/
import DocumentModel.Json.Reader
import DocumentModel.Proofs.ExtendedJson

namespace DocumentModel

namespace Json

/-- The objects in some JSON name each of their keys once. -/
inductive WellFormed : Json → Prop
  | null : WellFormed .null
  | bool (b : Bool) : WellFormed (.bool b)
  | int (n : Int) : WellFormed (.int n)
  | float (x : Float) : WellFormed (.float x)
  | str (s : String) : WellFormed (.str s)
  | arr {items : List Json} (hitems : ∀ j ∈ items, WellFormed j) : WellFormed (.arr items)
  | obj {members : Object} (hkeys : (members.map Prod.fst).Nodup)
      (hmembers : ∀ m ∈ members, WellFormed m.2) : WellFormed (.obj members)

theorem WellFormed.of_arr {items : List Json} :
    WellFormed (.arr items) → ∀ item ∈ items, item.WellFormed
  | .arr hitems => hitems

theorem WellFormed.of_obj {members : Object} :
    WellFormed (.obj members) → ∀ m ∈ members, m.2.WellFormed
  | .obj _ hmembers => hmembers

/-! ### JSON that is read from text -/

/-- What is in an object after a member has been set is that member or was in it before. -/
theorem Object.mem_put {data : Object} {key : String} {value : Json} {m : String × Json}
    (hm : m ∈ data.put key value) : m = (key, value) ∨ m ∈ data := by
  induction data with
  | nil => exact Or.inl (List.mem_singleton.mp hm)
  | cons first rest ih =>
      obtain ⟨k, v⟩ := first
      rw [put] at hm
      split at hm
      · next hk =>
          subst hk
          exact (List.mem_cons.mp hm).imp_right (List.mem_cons_of_mem _)
      · rcases List.mem_cons.mp hm with rfl | hrest
        · exact Or.inr List.mem_cons_self
        · exact (ih hrest).imp_right (List.mem_cons_of_mem _)

theorem Object.mem_merge {data changes : Object} {m : String × Json}
    (hm : m ∈ data.merge changes) : m ∈ data ∨ m ∈ changes := by
  induction changes generalizing data with
  | nil => exact Or.inl hm
  | cons first rest ih =>
      rcases ih hm with hput | hrest
      · rcases mem_put hput with rfl | hdata
        · exact Or.inr List.mem_cons_self
        · exact Or.inl hdata
      · exact Or.inr (List.mem_cons_of_mem first hrest)

/-- An object built member by member names each key once. -/
theorem WellFormed.ofMembers {members : List (String × Json)}
    (hmembers : ∀ m ∈ members, m.2.WellFormed) : WellFormed (.obj (Object.ofMembers members)) := by
  have hnil : (([] : Object).map Prod.fst).Nodup := .nil
  refine .obj (Object.nodup_merge hnil members) fun m hm => ?_
  rcases Object.mem_merge hm with hnil | hmem
  · cases hnil
  · exact hmembers m hmem

theorem Numeral.value_wellFormed (n : Numeral) : n.value.WellFormed := by
  rw [value]
  simp only
  split
  · exact .float _
  · split
    · split
      · exact .int _
      · exact .float _
    · split
      · exact .int _
      · exact .float _

mutual

/-- A value that is read names each key of an object once. -/
theorem value?_wellFormed : (fuel : Nat) → {input : List Char} → {j : Json} → {rest : List Char} →
    value? fuel input = some (j, rest) → j.WellFormed
  | 0, _, _, _, hread => by simp [value?] at hread
  | fuel + 1, input, j, rest, hread => by
      rw [value?.eq_def] at hread
      simp only at hread
      split at hread
      · cases hread
      · -- a text
        obtain ⟨_, _, heq⟩ := Option.bind_eq_some_iff.mp hread
        cases heq
        exact .str _
      · -- an array, which may be empty
        split at hread
        · cases hread
          exact .arr (by simp)
        · obtain ⟨⟨items, after⟩, hitems, heq⟩ := Option.bind_eq_some_iff.mp hread
          cases heq
          exact .arr (items?_wellFormed fuel hitems)
      · -- an object, which may be empty
        split at hread
        · cases hread
          exact .obj .nil (by simp)
        · obtain ⟨⟨members, after⟩, hmembers, heq⟩ := Option.bind_eq_some_iff.mp hread
          cases heq
          exact .ofMembers (members?_wellFormed fuel hmembers)
      · obtain ⟨_, _, heq⟩ := Option.map_eq_some_iff.mp hread
        cases heq
        exact .null
      · obtain ⟨_, _, heq⟩ := Option.map_eq_some_iff.mp hread
        cases heq
        exact .bool _
      · obtain ⟨_, _, heq⟩ := Option.map_eq_some_iff.mp hread
        cases heq
        exact .bool _
      · -- a number
        obtain ⟨⟨n, after⟩, _, heq⟩ := Option.bind_eq_some_iff.mp hread
        cases heq
        exact n.value_wellFormed
termination_by structural fuel => fuel

theorem items?_wellFormed : (fuel : Nat) → {input : List Char} → {items : List Json} →
    {rest : List Char} → items? fuel input = some (items, rest) → ∀ j ∈ items, j.WellFormed
  | 0, _, _, _, hread => by simp [items?] at hread
  | fuel + 1, input, items, rest, hread => by
      rw [items?] at hread
      obtain ⟨⟨item, after⟩, hitem, hread⟩ := Option.bind_eq_some_iff.mp hread
      have hfirst := value?_wellFormed fuel hitem
      simp only at hread
      split at hread
      · cases hread
        exact List.forall_mem_singleton.mpr hfirst
      · obtain ⟨⟨more, after⟩, hmore, heq⟩ := Option.bind_eq_some_iff.mp hread
        cases heq
        exact List.forall_mem_cons.mpr ⟨hfirst, items?_wellFormed fuel hmore⟩
      · cases hread
termination_by structural fuel => fuel

theorem members?_wellFormed : (fuel : Nat) → {input : List Char} →
    {members : List (String × Json)} → {rest : List Char} →
    members? fuel input = some (members, rest) → ∀ m ∈ members, m.2.WellFormed
  | 0, _, _, _, hread => by simp [members?] at hread
  | fuel + 1, input, members, rest, hread => by
      rw [members?.eq_def] at hread
      simp only at hread
      split at hread
      · obtain ⟨⟨key, after⟩, _, hread⟩ := Option.bind_eq_some_iff.mp hread
        simp only at hread
        split at hread
        · obtain ⟨⟨item, after⟩, hitem, hread⟩ := Option.bind_eq_some_iff.mp hread
          have hfirst := value?_wellFormed fuel hitem
          simp only at hread
          split at hread
          · cases hread
            exact List.forall_mem_singleton.mpr hfirst
          · obtain ⟨⟨more, after⟩, hmore, heq⟩ := Option.bind_eq_some_iff.mp hread
            cases heq
            exact List.forall_mem_cons.mpr ⟨hfirst, members?_wellFormed fuel hmore⟩
          · cases hread
        · cases hread
      · cases hread
termination_by structural fuel => fuel

end

/-- JSON that is read from text names each key of an object once. -/
theorem read?_wellFormed {text : String} {j : Json} (hread : read? text = some j) :
    j.WellFormed := by
  obtain ⟨⟨value, rest⟩, hvalue, hend⟩ := Option.bind_eq_some_iff.mp hread
  simp only at hend
  split at hend
  · cases hend
    exact value?_wellFormed _ hvalue
  · cases hend

/-! ### What JSON is normalised to -/

/-- The JSON that is written for the value that some JSON stands for. -/
def normal (h : Heap) (j : Json) : Json :=
  h.toJson (Value.ofJson j)

/-- What JSON comes to when it is normalised, given what that is for the parts of it.  There is a
case for each form that the outcome can take. -/
inductive Normalises (part : Json → Json) : Json → Json → Prop
  | null : Normalises part .null .null
  | bool (b : Bool) : Normalises part (.bool b) (.bool b)
  | str (s : String) : Normalises part (.str s) (.str s)
  | int {n : Int} (hfits : Value.fitsInt64 n = true) : Normalises part (.int n) (.int n)
  | float {j : Json} {x : Float} (hfinite : x.isFinite = true) : Normalises part j (.float x)
  /-- A number that is not finite. -/
  | lost {j : Json} : Normalises part j .null
  | arr (items : List Json) : Normalises part (.arr items) (.arr (items.map part))
  | objectId {j : Json} (id : ObjectId) : Normalises part j id.toJson
  | date {j : Json} {millis : Int} (hrange : Instant.inRange millis = true) :
      Normalises part j (.obj [("$date", Instant.dateMember millis)])
  /-- An object that is no wrapper. -/
  | obj {members written : Object} (hplain : Value.ofWrapper? members = none)
      (hordered : written.Pairwise fun a b => a.1 < b.1)
      (hlength : written.length = members.length)
      (hwritten : ∀ w ∈ written, ∃ m ∈ members, w = (m.1, part m.2)) :
      Normalises part (.obj members) (.obj written)

end Json

theorem Instant.inRange_floorMillis_ofMillis (millis : Int) :
    inRange (ofMillis millis).floorMillis = true := by
  by_cases hrange : inRange millis = true
  · rw [floorMillis_ofMillis hrange]
    exact hrange
  · rw [ofMillis, if_neg hrange]
    split <;> decide

namespace Value

open Json

variable {document document' : DocRef → Json} {list list' : ListRef → Json}

theorem normalises_float (j : Json) (x : Float) (part : Json → Json) :
    Normalises part j ((Value.float x).toJsonWith document list) := by
  rw [toJsonWith]
  split
  · next hfinite => exact .float hfinite
  · exact .lost

theorem toJsonWith_ofJson_int {n : Int} (hfits : fitsInt64 n = true) :
    (ofJson (.int n)).toJsonWith document list = .int n := by
  have hbounds := hfits
  rw [fitsInt64, Bool.and_eq_true, decide_eq_true_iff, decide_eq_true_iff] at hbounds
  rw [ofJson, if_pos hfits, toJsonWith,
    Int64.toInt_ofInt_of_le hbounds.1 (Int.lt_add_one_of_le hbounds.2)]

/-- Members with different keys are read as a mapping that has one entry for each. -/
theorem exists_mapOf_ofMembers {members : Json.Object} (hkeys : (members.map Prod.fst).Nodup) :
    ∃ entries, mapOf (ofMembers members) = .map entries ∧
      (entries.Pairwise fun a b => a.1 < b.1) ∧ entries.length = members.length ∧
      ∀ e ∈ entries, ∃ m ∈ members, e = (m.1, ofJson m.2) := by
  have hread : ((ofMembers members).map Prod.fst).Nodup := by
    rw [ofMembers_eq_map, List.map_map]
    exact hkeys
  have hordered := @foldl_insertEntry_proper [] (ofMembers members) ⟨.nil, by simp⟩
    (ofMembers_proper members)
  refine ⟨_, rfl, hordered.1, ?_, fun e he => ?_⟩
  · rw [length_foldl_insertEntry hread (by simp), ofMembers_eq_map]
    simp
  · rcases mem_foldl_insertEntry he with hnil | hmem
    · cases hnil
    · rw [ofMembers_eq_map] at hmem
      obtain ⟨m, hm, rfl⟩ := List.mem_map.mp hmem
      exact ⟨m, hm, rfl⟩

/-- What is written for the value that some JSON stands for. -/
theorem normalises {j : Json} (hj : j.WellFormed) :
    Normalises (fun j => (ofJson j).toJsonWith document list) j
      ((ofJson j).toJsonWith document list) := by
  cases hj with
  | null => exact .null
  | bool b => exact .bool b
  | str s => exact .str s
  | float x => exact normalises_float _ x _
  | int n =>
      by_cases hfits : fitsInt64 n = true
      · rw [toJsonWith_ofJson_int hfits]
        exact .int hfits
      · rw [ofJson, if_neg hfits]
        exact normalises_float _ _ _
  | @arr items _ =>
      rw [ofJson, toJsonWith, ofItems_eq_map, itemsToJson_eq_map, List.map_map]
      exact .arr items
  | @obj members hkeys _ =>
      rw [ofJson]
      cases hwrapper : ofWrapper? members with
      | some v =>
          rcases ofWrapper?_cases hwrapper with ⟨id, rfl⟩ | ⟨ms, rfl⟩
          · exact .objectId id
          · exact .date (Instant.inRange_floorMillis_ofMillis ms)
      | none =>
          obtain ⟨entries, hmap, hordered, hlength, hentries⟩ := exists_mapOf_ofMembers hkeys
          rw [Option.getD_none, hmap, toJsonWith, entriesToJson_eq_map]
          refine .obj hwrapper (List.pairwise_map.mpr hordered) (by rwa [List.length_map]) ?_
          intro w hw
          obtain ⟨e, he, rfl⟩ := List.mem_map.mp hw
          obtain ⟨m, hm, rfl⟩ := hentries e he
          exact ⟨m, hm, rfl⟩

/-! ### Normalising makes no wrapper -/

theorem dateMillis?_eq_some {j : Json} {millis : Int} (hj : dateMillis? j = some millis) :
    (∃ n, j = .int n) ∨ (∃ s, j = .str s) ∨ (∃ s, j = .arr [.str s]) ∨
      ∃ s, j = .obj [("$numberLong", .str s)] := by
  rw [dateMillis?.eq_def] at hj
  split at hj
  · exact Or.inl ⟨_, rfl⟩
  · exact Or.inr (Or.inl ⟨_, rfl⟩)
  · exact Or.inr (Or.inr (Or.inr ⟨_, rfl⟩))
  · exact Or.inr (Or.inr (Or.inl ⟨_, rfl⟩))
  · cases hj

end Value

namespace Json.Normalises

open Value

variable {part : Json → Json} {j w : Json}

/-- An object that is normalised to one with a single member has a single member of the same
name. -/
theorem exists_of_singleton {key : String} (hj : Normalises part j (.obj [(key, w)]))
    (hoid : key ≠ "$oid") (hdate : key ≠ "$date") :
    ∃ inner, j = .obj [(key, inner)] ∧ w = part inner := by
  generalize hwritten : Json.obj [(key, w)] = whole at hj
  cases hj with
  | objectId id => simp [ObjectId.toJson, hoid] at hwritten
  | date hrange => simp [hdate] at hwritten
  | @obj members written _ _ hlength hmem =>
      obtain rfl := Json.obj.inj hwritten
      obtain ⟨m, rfl⟩ := List.length_eq_one_iff.mp hlength.symm
      obtain ⟨m', hm', heq⟩ := hmem (key, w) List.mem_cons_self
      obtain rfl := List.mem_singleton.mp hm'
      obtain ⟨rfl, rfl⟩ := Prod.mk.inj heq
      exact ⟨m'.2, rfl, rfl⟩
  | _ => cases hwritten

end Json.Normalises

namespace Value

open Json

variable {document document' : DocRef → Json} {list list' : ListRef → Json} {j : Json}

/-- Only a text is normalised to that text. -/
theorem toJsonWith_ofJson_eq_str (hj : j.WellFormed) {s : String}
    (hs : (ofJson j).toJsonWith document list = .str s) : j = .str s := by
  have hnormal := @normalises document list j hj
  rw [hs] at hnormal
  cases hnormal
  rfl

/-- What is the member of a date after it has been normalised was that before. -/
theorem toJsonWith_ofJson_of_dateMillis? (hj : j.WellFormed) {millis : Int}
    (hmillis : dateMillis? ((ofJson j).toJsonWith document list) = some millis) :
    (ofJson j).toJsonWith document list = j := by
  have hnormal := @normalises document list j hj
  rcases dateMillis?_eq_some hmillis with ⟨n, hn⟩ | ⟨s, hs⟩ | ⟨s, hs⟩ | ⟨s, hs⟩
  · rw [hn] at hnormal ⊢
    cases hnormal
    rfl
  · rw [hs, toJsonWith_ofJson_eq_str hj hs]
  · rw [hs] at hnormal ⊢
    generalize hwhole : Json.arr [.str s] = whole at hnormal ⊢
    cases hnormal with
    | arr items =>
        obtain ⟨item, rfl, hitem⟩ := List.map_eq_singleton_iff.mp (Json.arr.inj hwhole).symm
        have hsame := toJsonWith_ofJson_eq_str (hj.of_arr item List.mem_cons_self) hitem
        rw [List.map_singleton, hitem, hsame]
    | _ => cases hwhole
  · rw [hs] at hnormal ⊢
    obtain ⟨inner, rfl, hinner⟩ := hnormal.exists_of_singleton (by decide) (by decide)
    have hsame := toJsonWith_ofJson_eq_str (hj.of_obj _ List.mem_cons_self) hinner.symm
    rw [← hsame]

/-- An object that is no wrapper is none after its single member has been normalised. -/
theorem ofWrapper?_toJsonWith {key : String} (hj : j.WellFormed)
    (hplain : ofWrapper? [(key, j)] = none) :
    ofWrapper? [(key, (ofJson j).toJsonWith document list)] = none := by
  by_contra hsome
  obtain ⟨v, hv⟩ := Option.ne_none_iff_exists'.mp hsome
  have hwrapper := hv
  rw [ofWrapper?.eq_def] at hv
  split at hv
  · next s heq =>
      obtain ⟨rfl, hs⟩ := Prod.mk.inj (List.singleton_inj.mp heq)
      rw [toJsonWith_ofJson_eq_str hj hs, ← hs] at hplain
      rw [hplain] at hwrapper
      cases hwrapper
  · next member heq =>
      obtain ⟨rfl, rfl⟩ := Prod.mk.inj (List.singleton_inj.mp heq)
      obtain ⟨millis, hmillis, rfl⟩ := Option.map_eq_some_iff.mp hv
      rw [toJsonWith_ofJson_of_dateMillis? hj hmillis, hplain] at hwrapper
      cases hwrapper
  · cases hv

/-- What JSON comes to when it is normalised is read as it is and written as it is, if that is so
for its parts. -/
theorem toJsonWith_ofJson_of_normalises {w : Json} (hj : j.WellFormed)
    (hw : Normalises (fun j => (ofJson j).toJsonWith document list) j w)
    (hitems : ∀ items, j = .arr items → ∀ item ∈ items,
      (ofJson ((ofJson item).toJsonWith document list)).toJsonWith document' list' =
        (ofJson item).toJsonWith document list)
    (hmembers : ∀ members, j = .obj members → ∀ m ∈ members,
      (ofJson ((ofJson m.2).toJsonWith document list)).toJsonWith document' list' =
        (ofJson m.2).toJsonWith document list) :
    (ofJson w).toJsonWith document' list' = w := by
  cases hw with
  | int hfits => exact toJsonWith_ofJson_int hfits
  | float hfinite => simp [ofJson, toJsonWith, hfinite]
  | arr items =>
      simp only [ofJson, toJsonWith, ofItems_eq_map, itemsToJson_eq_map, List.map_map]
      exact congrArg Json.arr (List.map_congr_left (hitems items rfl))
  | objectId id =>
      simp only [ObjectId.toJson, ofJson, ofWrapper?, ObjectId.parse?_toHex, Option.map_some,
        Option.getD_some, toJsonWith]
  | @date _ millis hrange =>
      have hread := dateMillis?_dateMember (Instant.fitsInt64_of_inRange hrange)
      simp only [ofJson, ofWrapper?, hread, Option.map_some, Option.getD_some, toJsonWith,
        Instant.toJson, Instant.floorMillis_ofMillis hrange]
  | @obj members written hplain hordered hlength hwritten =>
      have hnone : ofWrapper? written = none := by
        rcases written with _ | ⟨w, _ | ⟨w', rest⟩⟩
        · rfl
        · obtain ⟨m, rfl⟩ := List.length_eq_one_iff.mp hlength.symm
          obtain ⟨m', hm', rfl⟩ := hwritten w List.mem_cons_self
          obtain rfl := List.mem_singleton.mp hm'
          exact ofWrapper?_toJsonWith (hj.of_obj m' List.mem_cons_self) hplain
        · exact ofWrapper?_eq_none rfl
      -- keys that are in order stay where they are
      have hmap : mapOf (ofMembers written) = .map (written.map fun w => (w.1, ofJson w.2)) := by
        rw [ofMembers_eq_map]
        exact mapOf_of_pairwise (List.pairwise_map.mpr hordered)
      rw [ofJson, hnone, Option.getD_none, hmap, toJsonWith, entriesToJson_eq_map, List.map_map]
      refine congrArg Json.obj ((List.map_congr_left fun w hw => ?_).trans (List.map_id written))
      obtain ⟨m, hm, rfl⟩ := hwritten w hw
      exact congrArg (Prod.mk m.1) (hmembers members rfl m hm)
  | _ => rfl

/-- What has been normalised is read as it is and written as it is. -/
theorem toJsonWith_ofJson_toJsonWith (hj : j.WellFormed) :
    (ofJson ((ofJson j).toJsonWith document list)).toJsonWith document' list' =
      (ofJson j).toJsonWith document list := by
  induction hj with
  | @arr items hitems ih =>
      refine toJsonWith_ofJson_of_normalises (.arr hitems) (normalises (.arr hitems)) ?_ ?_
      · rintro _ ⟨⟩
        exact ih
      · rintro _ ⟨⟩
  | @obj members hkeys hmembers ih =>
      refine toJsonWith_ofJson_of_normalises (.obj hkeys hmembers)
        (normalises (.obj hkeys hmembers)) ?_ ?_
      · rintro _ ⟨⟩
      · rintro _ ⟨⟩
        exact ih
  | null => rfl
  | bool b => rfl
  | str s => rfl
  | int n =>
      exact toJsonWith_ofJson_of_normalises (.int n) (normalises (.int n)) (by rintro _ ⟨⟩)
        (by rintro _ ⟨⟩)
  | float x =>
      exact toJsonWith_ofJson_of_normalises (.float x) (normalises (.float x)) (by rintro _ ⟨⟩)
        (by rintro _ ⟨⟩)

end Value

namespace Json

/-- Normalising twice is normalising once: what comes of it, the order of keys included, is not
changed by doing it again. -/
theorem normal_normal (h h' : Heap) {j : Json} (hj : j.WellFormed) :
    normal h' (normal h j) = normal h j :=
  Value.toJsonWith_ofJson_toJsonWith hj

/-! A delivery: keys out of order, an identifier in capitals, a time with an offset, a wrapper in the
place of a date-time, and an integer beyond 64 bits. -/

def delivery : Json :=
  .obj [
    ("sent", .obj [("$date", .str "2024-03-01T14:30:00.120456+02:00")]),
    ("due", .obj [("$date", .obj [("$oid", .str "507F1F77BCF86CD799439011")])]),
    ("$oid", .str "507F1F77BCF86CD799439011"),
    ("count", .int (2 ^ 63))]

def deliveryNormal : Json :=
  .obj [
    ("$oid", .str "507F1F77BCF86CD799439011"),
    ("count", .float (Float.ofInt (2 ^ 63))),
    ("due", .obj [("$date", .obj [("$oid", .str "507f1f77bcf86cd799439011")])]),
    ("sent", .obj [("$date", .str "2024-03-01T12:30:00.12Z")])]

theorem delivery_wellFormed : delivery.WellFormed := by
  have hid : ∀ s, WellFormed (.obj [("$oid", .str s)]) := fun s =>
    .obj (List.pairwise_singleton _ _) (List.forall_mem_singleton.mpr (.str s))
  have hdate : ∀ j : Json, j.WellFormed → WellFormed (.obj [("$date", j)]) := fun j hj =>
    .obj (List.pairwise_singleton _ _) (List.forall_mem_singleton.mpr hj)
  refine .obj (by decide) fun m hm => ?_
  simp only [List.mem_cons, List.not_mem_nil, or_false] at hm
  rcases hm with rfl | rfl | rfl | rfl
  · exact hdate _ (.str _)
  · exact hdate _ (hid _)
  · exact .str _
  · exact .int _

theorem normal_delivery : normal .empty delivery = deliveryNormal :=
  rfl

theorem normal_normal_delivery :
    delivery.WellFormed ∧ normal .empty delivery = deliveryNormal ∧
      normal .empty deliveryNormal = deliveryNormal :=
  ⟨delivery_wellFormed, normal_delivery,
    (congrArg (normal .empty) normal_delivery).symm.trans
      ((normal_normal .empty .empty delivery_wellFormed).trans normal_delivery)⟩

end Json

end DocumentModel
