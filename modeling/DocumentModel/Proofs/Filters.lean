/-
The algebra of filters.

A filter asks for each of its members on its own, so filters that name different keys can be asked
one after the other, in either order.  What an entry is asked for is compared with what it has by an
equality that knows no order of members and does not mix integers with floating-point numbers; on
JSON that can be held it is reflexive, so that an entry is found by whatever it has.
-/
import DocumentModel.Proofs.JsonEquality
import DocumentModel.Proofs.Lookups

namespace DocumentModel

namespace Json.Object

theorem put_eq_append {data : Object} {key : String} (hnew : key ∉ data.map Prod.fst)
    (value : Json) : data.put key value = data ++ [(key, value)] := by
  induction data with
  | nil => rfl
  | cons first rest ih =>
      rw [List.map_cons, List.mem_cons, not_or] at hnew
      rw [put, if_neg (Ne.symm hnew.1), ih hnew.2, List.cons_append]

/-- Objects with no common key are merged by putting one behind the other. -/
theorem merge_eq_append {data changes : Object} (hkeys : (changes.map Prod.fst).Nodup)
    (hdisjoint : ∀ key ∈ data.map Prod.fst, key ∉ changes.map Prod.fst) :
    data.merge changes = data ++ changes := by
  induction changes generalizing data with
  | nil => rw [List.append_nil]; rfl
  | cons first rest ih =>
      obtain ⟨hfirst, hrest⟩ := List.nodup_cons.mp hkeys
      have hnew : first.1 ∉ data.map Prod.fst := fun hold =>
        hdisjoint first.1 hold List.mem_cons_self
      calc data.merge (first :: rest) = (data ++ [first]).merge rest := by
            rw [← put_eq_append hnew]
            rfl
        _ = data ++ [first] ++ rest := by
            refine ih hrest fun key hkey => ?_
            rw [List.map_append, List.mem_append, List.map_singleton, List.mem_singleton] at hkey
            rcases hkey with hold | rfl
            · exact fun hmem => hdisjoint key hold (List.mem_cons_of_mem _ hmem)
            · exact hfirst
        _ = data ++ first :: rest := List.append_cons data first rest |>.symm

end Json.Object

namespace Collection

/-- The data of a call is JSON that can be held. -/
def Call.Genuine : Call → Prop
  | .insert _ data => ∀ m ∈ data, m.2.Genuine
  | .update _ changes => ∀ m ∈ changes, m.2.Genuine
  | _ => True

/-- What is held after a call was held before it or came with it. -/
theorem perform_genuine {c : Collection} (hids : (c.entries.map Prod.fst).Nodup) {call : Call}
    (hcall : call.Genuine) (hc : ∀ e ∈ c.entries, ∀ m ∈ e.2, m.2.Genuine) :
    ∀ e ∈ (c.perform call).2.entries, ∀ m ∈ e.2, m.2.Genuine := by
  cases call with
  | insert id data =>
      intro e he
      rcases List.mem_append.mp he with hold | hnew
      · exact hc e hold
      · rw [List.mem_singleton.mp hnew]
        exact hcall
  | update id changes =>
      intro e he m hm
      simp only [perform, update, updateEntries_eq_map hids] at he
      obtain ⟨old, hold, rfl⟩ := List.mem_map.mp he
      simp only at hm
      split at hm
      · exact (Json.Object.mem_merge hm).elim (hc old hold m) (hcall m)
      · exact hc old hold m hm
  | remove id => exact fun e he => hc e (List.mem_of_mem_filter he)
  | find filter => exact hc
  | findOne id => exact hc

/-- Whatever a collection holds came with some call. -/
theorem Run.genuine {history : List Call} {c : Collection} (hrun : Run history c)
    (hcalls : ∀ call ∈ history, call.Genuine) : ∀ e ∈ c.entries, ∀ m ∈ e.2, m.2.Genuine := by
  induction hrun with
  | start =>
      intro e he
      exact absurd he List.not_mem_nil
  | call call hrun _ _ ih =>
      obtain ⟨hcall, hearlier⟩ := List.forall_mem_cons.mp hcalls
      exact perform_genuine hrun.refines.ids_nodup hcall (ih hearlier)

/-! ### What a filter asks for -/

/-- An entry has a member that it is asked for: its identifier, if that is what is asked for, and
otherwise its own member of that name, where none counts as null. -/
def Meets (id : ObjectId) (data : Json.Object) (m : String × Json) : Prop :=
  if m.1 = idKey then m.2.Alike id.toJson else ((data.get? m.1).getD .null).Alike m.2

/-- A filter is asked member by member. -/
theorem matchesFilter_eq_true {filter data : Json.Object} {id : ObjectId} :
    matchesFilter filter id data = true ↔ ∀ m ∈ filter,
      (if m.1 = idKey then m.2.same id.toJson
        else ((data.get? m.1).getD .null).same m.2) = true :=
  List.all_eq_true

theorem toJson_wellFormed (id : ObjectId) : id.toJson.WellFormed := by
  refine .obj (List.nodup_singleton _) fun m hm => ?_
  rw [List.mem_singleton.mp hm]
  exact .str id.toHex

theorem member_wellFormed {data : Json.Object} (hdata : ∀ m ∈ data, m.2.WellFormed)
    (key : String) : ((data.get? key).getD .null).WellFormed := by
  cases hfound : data.get? key with
  | none => exact .null
  | some j => exact hdata (key, j) (Json.mem_of_lookup hfound)

theorem matchesFilter_iff {filter data : Json.Object} (hfilter : ∀ m ∈ filter, m.2.WellFormed)
    (hdata : ∀ m ∈ data, m.2.WellFormed) (id : ObjectId) :
    matchesFilter filter id data = true ↔ ∀ m ∈ filter, Meets id data m := by
  rw [matchesFilter_eq_true]
  refine forall₂_congr fun m hm => ?_
  rw [Meets]
  split
  · exact Json.same_iff_alike (hfilter m hm) (toJson_wellFormed id)
  · exact Json.same_iff_alike (member_wellFormed hdata m.1) (hfilter m hm)

/-- What is asked for can be spelled in another order. -/
theorem Meets.reordered {id : ObjectId} {data : Json.Object} {key : String} {j j' : Json}
    (hmeets : Meets id data (key, j)) (hj : j.Reordered j') : Meets id data (key, j') := by
  by_cases hid : key = idKey
  · rw [Meets, if_pos hid] at hmeets ⊢
    exact hmeets.reordered_left hj
  · rw [Meets, if_neg hid] at hmeets ⊢
    exact hmeets.reordered_right hj

/-- A filter asks for what any filter asks for that is the same but for the order of members. -/
theorem meets_of_reordered {filter filter' : Json.Object}
    (hsame : (Json.obj filter).Reordered (.obj filter')) {id : ObjectId} {data : Json.Object}
    (hmeets : ∀ m ∈ filter, Meets id data m) : ∀ m ∈ filter', Meets id data m := by
  intro m' hm'
  cases hsame with
  | obj hkeys hmembers =>
      obtain ⟨m, hm, hkey⟩ := List.mem_map.mp ((hkeys m'.1).mpr (List.mem_map_of_mem hm'))
      have hm₁ := (hmeets m hm).reordered (hmembers m hm m' hm' hkey)
      rwa [hkey] at hm₁

/-- What can be said of an entry by naming some of what it has. -/
inductive OwnMember (id : ObjectId) (data : Json.Object) : String × Json → Prop
  | own {key : String} {j : Json} (hkey : key ≠ idKey) (hfound : data.get? key = some j) :
      OwnMember id data (key, j)
  | absent {key : String} (hkey : key ≠ idKey) (hnone : data.get? key = none) :
      OwnMember id data (key, .null)
  | id : OwnMember id data (idKey, id.toJson)

theorem matchesFilter_own {id : ObjectId} {data filter : Json.Object}
    (hdata : ∀ m ∈ data, m.2.Genuine) (hown : ∀ m ∈ filter, OwnMember id data m) :
    matchesFilter filter id data = true := by
  rw [matchesFilter_eq_true]
  intro m hm
  cases hown m hm with
  | own hkey hfound =>
      rw [if_neg hkey, hfound]
      exact (hdata _ (Json.mem_of_lookup hfound)).same_self
  | absent hkey hnone =>
      rw [if_neg hkey, hnone]
      rfl
  | id =>
      rw [if_pos rfl]
      simp [ObjectId.toJson, Json.same, Json.sameMembers]

/-! ### Filters one after the other -/

theorem matchesFilter_append (f g : Json.Object) (id : ObjectId) (data : Json.Object) :
    matchesFilter (f ++ g) id data = (matchesFilter f id data && matchesFilter g id data) :=
  List.all_append

theorem find_append (c : Collection) (f g : Json.Object) :
    c.find (f ++ g) = (c.find f).filter fun e => matchesFilter g e.1 e.2 := by
  rw [find, find, List.filter_filter]
  refine List.filter_congr fun e _ => ?_
  rw [matchesFilter_append, Bool.and_comm]

theorem find_perm (c : Collection) {f g : Json.Object} (hperm : f.Perm g) :
    c.find f = c.find g :=
  List.filter_congr fun _ _ => hperm.all_eq

theorem find_reordered {c : Collection} (hc : ∀ e ∈ c.entries, ∀ m ∈ e.2, m.2.WellFormed)
    {filter filter' : Json.Object} (hfilter : ∀ m ∈ filter, m.2.WellFormed)
    (hfilter' : ∀ m ∈ filter', m.2.WellFormed)
    (hsame : (Json.obj filter).Reordered (.obj filter')) : c.find filter = c.find filter' := by
  refine List.filter_congr fun e he => ?_
  rw [Bool.eq_iff_iff, matchesFilter_iff hfilter (hc e he), matchesFilter_iff hfilter' (hc e he)]
  exact ⟨meets_of_reordered hsame, meets_of_reordered hsame.symm⟩

/-- Filters are an algebra over the entries of a reachable collection.  Two filters that have no key
in common, merged and in any order, find what the one finds of what the other finds, in the order of
insertion.  An entry is found by every filter that names some of what it has, some keys that it does
not have, as null, and possibly its identifier.  A filter finds the entries that have each of its
members, where JSON is compared up to the order of members at every depth, and no integer is like a
floating-point number. -/
theorem find_algebra {history : List Call} {c : Collection} (hrun : Run history c)
    (hcalls : ∀ call ∈ history, call.Genuine) :
    (∀ f g merged : Json.Object, (g.map Prod.fst).Nodup →
      (∀ key ∈ f.map Prod.fst, key ∉ g.map Prod.fst) → merged.Perm (f.merge g) →
      c.find merged = (c.find f).filter (fun e => matchesFilter g e.1 e.2) ∧
      c.find merged = (c.find g).filter (fun e => matchesFilter f e.1 e.2) ∧
      (c.find merged).map Prod.fst = hits history c merged) ∧
    (∀ e ∈ c.entries, ∀ filter : Json.Object, (∀ m ∈ filter, OwnMember e.1 e.2 m) →
      e ∈ c.find filter) ∧
    (∀ filter : Json.Object, (∀ m ∈ filter, m.2.WellFormed) →
      (∀ e, e ∈ c.find filter ↔ e ∈ c.entries ∧ ∀ m ∈ filter, Meets e.1 e.2 m) ∧
      ∀ other : Json.Object, (∀ m ∈ other, m.2.WellFormed) →
        (Json.obj filter).Reordered (.obj other) → c.find other = c.find filter) ∧
    ∀ n x, ¬ (Json.int n).Alike (.float x) ∧ ¬ (Json.float x).Alike (.int n) := by
  have hgenuine := hrun.genuine hcalls
  have hdata : ∀ e ∈ c.entries, ∀ m ∈ e.2, m.2.WellFormed :=
    fun e he m hm => (hgenuine e he m hm).wellFormed
  refine ⟨fun f g merged hkeys hdisjoint hperm => ?_, fun e he filter hown => ?_,
    fun filter hfilter => ⟨fun e => ?_, fun other hother hsame => ?_⟩, fun n x => ?_⟩
  · rw [Json.Object.merge_eq_append hkeys hdisjoint] at hperm
    refine ⟨?_, ?_, hrun.refines.find_ids merged⟩
    · rw [find_perm c hperm, find_append]
    · rw [find_perm c (hperm.trans List.perm_append_comm), find_append]
  · exact List.mem_filter.mpr ⟨he, matchesFilter_own (hgenuine e he) hown⟩
  · rw [find, List.mem_filter]
    exact and_congr_right fun he => matchesFilter_iff hfilter (hdata e he) e.1
  · exact find_reordered hdata hother hfilter hsame.symm
  · constructor <;> intro halike <;> cases halike

/-! One visit, with an address and a number of stars. -/

def visitHome : Json.Object :=
  [("city", .str "Oslo"), ("zip", .int 150)]

def visit : Json.Object :=
  [("name", .str "Ann"), ("stars", .int 4), ("home", .obj visitHome)]

def visitCalls : List Call :=
  [.insert (.ofNat 1) visit]

def visits : Collection :=
  ⟨[(.ofNat 1, visit)]⟩

theorem visits_run : Run visitCalls visits :=
  .call (.insert (.ofNat 1) visit) .start (by simp [Call.Fresh, inserted])
    (by simp [Call.Distinct, visit])

theorem visitHome_genuine : (Json.obj visitHome).Genuine :=
  .obj (by decide) (by simp [visitHome, Json.Genuine.str, Json.Genuine.int])

theorem visitCalls_genuine : ∀ call ∈ visitCalls, call.Genuine := by
  intro call hcall
  rw [List.mem_singleton.mp hcall]
  simp [Call.Genuine, visit, Json.Genuine.str, Json.Genuine.int, visitHome_genuine]

theorem homeFilter_reordered :
    (Json.obj [("home", .obj visitHome)]).Reordered
      (.obj [("home", .obj [("zip", .int 150), ("city", .str "Oslo")])]) := by
  refine .obj (fun _ => Iff.rfl) fun m hm m' hm' _ => ?_
  rw [List.mem_singleton.mp hm, List.mem_singleton.mp hm']
  exact visitHome_genuine.reordered_of_perm (.swap _ _ _)

/-- The visit is found by what it has and by a note that it does not have, and by its address in
another order; it is not found by a number of stars that is no integer. -/
theorem find_algebra_visits :
    (ObjectId.ofNat 1, visit) ∈ visits.find
      [("note", .null), ("stars", .int 4), ("_id", (ObjectId.ofNat 1).toJson)] ∧
    (ObjectId.ofNat 1, visit) ∈
      visits.find [("home", .obj [("zip", .int 150), ("city", .str "Oslo")])] ∧
    (ObjectId.ofNat 1, visit) ∉ visits.find [("stars", .float 4)] ∧
    visits.find [("stars", .int 4), ("name", .str "Ann")] =
      (visits.find [("name", .str "Ann")]).filter
        (fun e => matchesFilter [("stars", .int 4)] e.1 e.2) := by
  obtain ⟨hmerge, hown, hfinds, hnumbers⟩ := find_algebra visits_run visitCalls_genuine
  refine ⟨?_, ?_, ?_, ?_⟩
  · refine hown _ List.mem_cons_self _ fun m hm => ?_
    simp only [List.mem_cons, List.not_mem_nil, or_false] at hm
    rcases hm with rfl | rfl | rfl
    · exact .absent (by decide) rfl
    · exact .own (by decide) rfl
    · exact .id
  · have hfound : (ObjectId.ofNat 1, visit) ∈ visits.find [("home", .obj visitHome)] :=
      hown _ List.mem_cons_self _ fun m hm => List.mem_singleton.mp hm ▸ .own (by decide) rfl
    have hhome := visitHome_genuine.wellFormed
    have hother : Json.WellFormed (.obj [("zip", .int 150), ("city", .str "Oslo")]) :=
      .obj (by decide) (by simp [Json.WellFormed.str, Json.WellFormed.int])
    rwa [(hfinds _ (by simpa using hhome)).2 _ (by simpa using hother) homeFilter_reordered]
  · rw [(hfinds _ (by simp [Json.WellFormed.float])).1]
    rintro ⟨_, hmeets⟩
    exact (hnumbers 4 4).1 (hmeets _ List.mem_cons_self)
  · exact (hmerge [("name", .str "Ann")] [("stars", .int 4)] _ (by simp) (by simp)
      (List.Perm.swap _ _ _)).1

end Collection

end DocumentModel
