/-
What a collection holds after a run of calls.

The specification reads a history of calls and knows nothing of entries: which identifiers were
inserted, which of them are live, and what was last given for each key.  The collection searches a
list; its update changes the first entry of an identifier and its removal drops them all.  That the
two agree rests on identifiers being new when they are generated, so that no two entries share one.
-/
import DocumentModel.Proofs.ReadBack

namespace DocumentModel

namespace Json.Object

/-- What a merge does not set stays. -/
theorem get?_merge {changes : Object} (hkeys : (changes.map Prod.fst).Nodup) (data : Object)
    (key : String) : (data.merge changes).get? key = (changes.get? key).or (data.get? key) := by
  by_cases hkey : key ∈ changes.map Prod.fst
  · obtain ⟨m, hm, rfl⟩ := List.mem_map.mp hkey
    rw [get?_merge_of_mem hkeys hm, get?, lookup_of_mem hkeys hm, Option.some_or]
  · have hnone : changes.get? key = none := List.lookup_eq_none_iff.mpr fun m hm =>
      bne_iff_ne.mpr fun heq => hkey (heq ▸ List.mem_map_of_mem hm)
    rw [get?_merge_of_not_mem hkey, hnone, Option.none_or]

end Json.Object

namespace Collection

/-- What can be asked of a collection.  An insertion comes with the identifier that is generated for
it. -/
inductive Call where
  | insert (id : ObjectId) (data : Json.Object)
  | update (id : ObjectId) (changes : Json.Object)
  | remove (id : ObjectId)
  | find (filter : Json.Object)
  | findOne (id : ObjectId)

inductive Answer where
  | inserted (id : ObjectId)
  | done (found : Bool)
  | entries (found : List (ObjectId × Json.Object))
  | data (found : Option Json.Object)

/-- The answer to a call, and the collection after it. -/
def perform (c : Collection) : Call → Answer × Collection
  | .insert id data => (.inserted id, c.insert id data)
  | .update id changes => (.done (c.update id changes).1, (c.update id changes).2)
  | .remove id => (.done (c.remove id).1, (c.remove id).2)
  | .find filter => (.entries (c.find filter), c)
  | .findOne id => (.data (c.find? id), c)

/-! ### The specification: a history of calls, the latest first -/

/-- The identifiers that were inserted, oldest first. -/
def inserted : List Call → List ObjectId
  | [] => []
  | .insert id _ :: earlier => inserted earlier ++ [id]
  | _ :: earlier => inserted earlier

/-- Was something inserted under an identifier and not removed since? -/
def live : List Call → ObjectId → Bool
  | [], _ => false
  | .insert i _ :: earlier, id => id = i || live earlier id
  | .remove i :: earlier, id => id ≠ i && live earlier id
  | _ :: earlier, id => live earlier id

/-- The value of a key in the latest insertion or update under an identifier that mentions the key.
An update of what is not there does not count. -/
def given : List Call → ObjectId → String → Option Json
  | [], _, _ => none
  | .insert i data :: earlier, id, key =>
      if id = i then (data.get? key).or (given earlier id key) else given earlier id key
  | .update i changes :: earlier, id, key =>
      if id = i && live earlier id then (changes.get? key).or (given earlier id key)
      else given earlier id key
  | _ :: earlier, id, key => given earlier id key

/-- The live identifiers whose data match a filter, in the order of insertion. -/
def hits (history : List Call) (c : Collection) (filter : Json.Object) : List ObjectId :=
  (inserted history).filter fun id =>
    live history id && (c.find? id).any fun data => matchesFilter filter id data

/-- The data of a call names each key once. -/
def Call.Distinct : Call → Prop
  | .insert _ data => (data.map Prod.fst).Nodup
  | .update _ changes => (changes.map Prod.fst).Nodup
  | _ => True

/-- The identifier of a call that inserts has not been inserted before. -/
def Call.Fresh (history : List Call) : Call → Prop
  | .insert id _ => id ∉ inserted history
  | _ => True

/-- A history of calls, and the collection that it leaves of the empty one. -/
inductive Run : List Call → Collection → Prop
  | start : Run [] empty
  | call {history : List Call} {c : Collection} (call : Call) (hrun : Run history c)
      (hfresh : call.Fresh history) (hdistinct : call.Distinct) :
      Run (call :: history) (c.perform call).2

theorem mem_inserted_of_live {history : List Call} {id : ObjectId}
    (hlive : live history id = true) : id ∈ inserted history := by
  induction history with
  | nil => cases hlive
  | cons call earlier ih =>
      cases call with
      | insert i data =>
          rw [live, Bool.or_eq_true, decide_eq_true_iff] at hlive
          rw [inserted, List.mem_append, List.mem_singleton]
          exact hlive.symm.imp_left ih
      | remove i =>
          rw [live, Bool.and_eq_true] at hlive
          exact ih hlive.2
      | _ => exact ih hlive

/-- Nothing is given under an identifier before it is inserted. -/
theorem given_eq_none {history : List Call} {id : ObjectId} (hid : id ∉ inserted history)
    (key : String) : given history id key = none := by
  induction history with
  | nil => rfl
  | cons call earlier ih =>
      cases call with
      | insert i data =>
          rw [inserted, List.mem_append, List.mem_singleton, not_or] at hid
          rw [given, if_neg hid.2, ih hid.1]
      | update i changes =>
          have hdead : live earlier id = false :=
            Bool.eq_false_iff.mpr fun hlive => hid (mem_inserted_of_live hlive)
          rw [given, hdead, Bool.and_false, if_neg Bool.false_ne_true, ih hid]
      | _ => exact ih hid

/-! ### What a single call does to the entries -/

theorem find?_eq_some_iff {c : Collection} (hids : (c.entries.map Prod.fst).Nodup) {id : ObjectId}
    {data : Json.Object} : c.find? id = some data ↔ (id, data) ∈ c.entries := by
  constructor
  · intro hfound
    obtain ⟨before, after, hentries, _⟩ := List.lookup_eq_some_iff.mp hfound
    rw [hentries]
    exact List.mem_append_right _ List.mem_cons_self
  · exact fun hentry => Json.lookup_of_mem hids hentry

/-- When no two entries share an identifier, the first entry of one is every entry of it. -/
theorem updateEntries_eq_map {entries : List (ObjectId × Json.Object)}
    (hids : (entries.map Prod.fst).Nodup) (id : ObjectId) (changes : Json.Object) :
    updateEntries id changes entries =
      entries.map fun e => (e.1, if e.1 = id then e.2.merge changes else e.2) := by
  induction entries with
  | nil => rfl
  | cons first rest ih =>
      obtain ⟨i, data⟩ := first
      obtain ⟨hnew, hrest⟩ := List.nodup_cons.mp hids
      rw [updateEntries, List.map_cons]
      by_cases hi : i = id
      · have hothers : ∀ e ∈ rest, e.1 ≠ id := fun e he heq =>
          hnew (List.mem_map.mpr ⟨e, he, heq.trans hi.symm⟩)
        rw [if_pos hi, if_pos hi]
        refine congrArg _ (.symm ((List.map_congr_left fun e he => ?_).trans (List.map_id rest)))
        rw [if_neg (hothers e he), id_eq]
      · rw [if_neg hi, if_neg hi, ih hrest]

theorem updateEntries_of_not_mem {entries : List (ObjectId × Json.Object)} {id : ObjectId}
    (hid : id ∉ entries.map Prod.fst) (changes : Json.Object) :
    updateEntries id changes entries = entries := by
  induction entries with
  | nil => rfl
  | cons first rest ih =>
      obtain ⟨i, data⟩ := first
      rw [List.map_cons, List.mem_cons, not_or] at hid
      rw [updateEntries, if_neg (Ne.symm hid.1), ih hid.2]

/-! ### What a run comes to -/

/-- A collection is what a history says. -/
structure Refines (history : List Call) (c : Collection) : Prop where
  /-- The entries are the live identifiers, in the order of their insertion. -/
  ids : c.entries.map Prod.fst = (inserted history).filter (live history)
  /-- No identifier was inserted twice. -/
  nodup : (inserted history).Nodup
  keys : ∀ e ∈ c.entries, (e.2.map Prod.fst).Nodup
  /-- The data of an entry is what was last given for each key. -/
  values : ∀ e ∈ c.entries, ∀ key, e.2.get? key = given history e.1 key

namespace Refines

variable {history : List Call} {c : Collection}

theorem ids_nodup (hc : Refines history c) : (c.entries.map Prod.fst).Nodup := by
  rw [hc.ids]
  exact hc.nodup.filter _

theorem mem_ids_iff (hc : Refines history c) (id : ObjectId) :
    id ∈ c.entries.map Prod.fst ↔ live history id = true := by
  rw [hc.ids, List.mem_filter]
  exact ⟨And.right, fun hlive => ⟨mem_inserted_of_live hlive, hlive⟩⟩

theorem isSome_find? (hc : Refines history c) (id : ObjectId) :
    (c.find? id).isSome = live history id := by
  rw [Bool.eq_iff_iff, isSome_find?_iff, hc.mem_ids_iff]

/-- A filter finds the hits, each once, in the order of their insertion. -/
theorem find_ids (hc : Refines history c) (filter : Json.Object) :
    (c.find filter).map Prod.fst = hits history c filter := by
  have hentry : ∀ e ∈ c.entries, matchesFilter filter e.1 e.2 =
      (c.find? e.1).any fun data => matchesFilter filter e.1 data := by
    intro e he
    rw [(find?_eq_some_iff hc.ids_nodup).mpr he, Option.any_some]
  calc (c.find filter).map Prod.fst
      = (c.entries.filter ((fun id => (c.find? id).any fun data => matchesFilter filter id data) ∘
          Prod.fst)).map Prod.fst := by
        rw [find, List.filter_congr hentry]
        rfl
    _ = ((inserted history).filter (live history)).filter fun id =>
          (c.find? id).any fun data => matchesFilter filter id data := by
        rw [← List.filter_map, hc.ids]
    _ = hits history c filter := by
        rw [List.filter_filter, hits]
        congr 1
        funext id
        exact Bool.and_comm _ _

theorem insert (hc : Refines history c) {id : ObjectId} {data : Json.Object}
    (hfresh : id ∉ inserted history) (hkeys : (data.map Prod.fst).Nodup) :
    Refines (.insert id data :: history) (c.insert id data) where
  ids := by
    have hold : ∀ i ∈ inserted history,
        live (.insert id data :: history) i = live history i := by
      intro i hi
      have hne : i ≠ id := fun heq => hfresh (heq ▸ hi)
      simp [live, hne]
    rw [Collection.insert, List.map_append, inserted, List.filter_append, List.filter_congr hold,
      hc.ids]
    simp [live]
  nodup := List.nodup_append.mpr ⟨hc.nodup, List.nodup_singleton id, fun i hi j hj heq =>
    hfresh (List.mem_singleton.mp hj ▸ heq ▸ hi)⟩
  keys := by
    intro e he
    rcases List.mem_append.mp he with hold | hnew
    · exact hc.keys e hold
    · rw [List.mem_singleton.mp hnew]
      exact hkeys
  values := by
    intro e he key
    rcases List.mem_append.mp he with hold | hnew
    · have hlive := (hc.mem_ids_iff e.1).mp (List.mem_map_of_mem hold)
      have hne : e.1 ≠ id := fun heq => hfresh (heq ▸ mem_inserted_of_live hlive)
      rw [given, if_neg hne]
      exact hc.values e hold key
    · rw [List.mem_singleton.mp hnew, given, if_pos rfl, given_eq_none hfresh, Option.or_none]

theorem update (hc : Refines history c) (id : ObjectId) {changes : Json.Object}
    (hkeys : (changes.map Prod.fst).Nodup) :
    Refines (.update id changes :: history) (c.update id changes).2 where
  ids := (map_fst_updateEntries id changes c.entries).trans hc.ids
  nodup := hc.nodup
  keys := by
    intro e he
    rw [Collection.update, updateEntries_eq_map hc.ids_nodup] at he
    obtain ⟨old, hold, rfl⟩ := List.mem_map.mp he
    split
    · exact Json.Object.nodup_merge (hc.keys old hold) changes
    · exact hc.keys old hold
  values := by
    intro e he key
    rw [Collection.update, updateEntries_eq_map hc.ids_nodup] at he
    obtain ⟨old, hold, rfl⟩ := List.mem_map.mp he
    have hlive := (hc.mem_ids_iff old.1).mp (List.mem_map_of_mem hold)
    rw [given, hlive, Bool.and_true]
    by_cases hid : old.1 = id
    · rw [if_pos hid, if_pos (decide_eq_true hid), Json.Object.get?_merge hkeys,
        hc.values old hold]
    · rw [if_neg hid, if_neg (by simpa using hid), hc.values old hold]

theorem remove (hc : Refines history c) (id : ObjectId) :
    Refines (.remove id :: history) (c.remove id).2 where
  ids := calc
    (c.entries.filter fun e => e.1 ≠ id).map Prod.fst
      = (c.entries.map Prod.fst).filter fun i => i ≠ id := by
        rw [List.filter_map]
        rfl
    _ = (inserted history).filter fun i => i ≠ id && live history i := by
        rw [hc.ids, List.filter_filter]
  nodup := hc.nodup
  keys e he := hc.keys e (List.mem_filter.mp he).1
  values e he := hc.values e (List.mem_filter.mp he).1

end Refines

/-- Each call of a run leaves the collection as the history says. -/
theorem Run.refines {history : List Call} {c : Collection} (hrun : Run history c) :
    Refines history c := by
  induction hrun with
  | start => exact ⟨rfl, .nil, by simp [empty], by simp [empty]⟩
  | call call _ hfresh hdistinct ih =>
      cases call with
      | insert id data => exact ih.insert hfresh hdistinct
      | update id changes => exact ih.update id hdistinct
      | remove id => exact ih.remove id
      | find filter => exact ⟨ih.ids, ih.nodup, ih.keys, ih.values⟩
      | findOne id => exact ⟨ih.ids, ih.nodup, ih.keys, ih.values⟩

/-- A run of a collection is a run of a map that remembers the order of insertion.  The entries are
the live identifiers, each once, in the order of insertion, and the data under one has what was last
given for each key and nothing else.  Looking an identifier up finds that data if the identifier is
live, and a filter finds all live identifiers whose data match, in order.  Updates and removals say
whether the identifier was live, and touch no other entry; when it was not, they change nothing. -/
theorem run_refines {history : List Call} {c : Collection} (hrun : Run history c) :
    c.entries.map Prod.fst = (inserted history).filter (live history) ∧
      (c.entries.map Prod.fst).Nodup ∧
      c.size = (inserted history).countP (live history) ∧
      (∀ e ∈ c.entries, (e.2.map Prod.fst).Nodup ∧
        ∀ key, e.2.get? key = given history e.1 key) ∧
      (∀ id, ∃ found, c.perform (.findOne id) = (.data found, c) ∧
        found.isSome = live history id ∧ ∀ data, found = some data ↔ (id, data) ∈ c.entries) ∧
      (∀ filter, ∃ found, c.perform (.find filter) = (.entries found, c) ∧
        found.map Prod.fst = hits history c filter ∧ ∀ e ∈ found, c.find? e.1 = some e.2) ∧
      (∀ id changes, ∃ later,
        c.perform (.update id changes) = (.done (live history id), later) ∧
        later.entries.map Prod.fst = c.entries.map Prod.fst ∧
        later.entries.filter (fun e => e.1 ≠ id) = c.entries.filter (fun e => e.1 ≠ id) ∧
        (live history id = false → later = c)) ∧
      (∀ id, ∃ later, c.perform (.remove id) = (.done (live history id), later) ∧
        later.entries = c.entries.filter (fun e => e.1 ≠ id) ∧
        (live history id = false → later = c)) := by
  have hc := hrun.refines
  have hdead : ∀ {id}, live history id = false → id ∉ c.entries.map Prod.fst :=
    fun hlive hid => Bool.false_ne_true (hlive.symm.trans ((hc.mem_ids_iff _).mp hid))
  refine ⟨hc.ids, hc.ids_nodup, ?_, fun e he => ⟨hc.keys e he, hc.values e he⟩, fun id => ?_,
    fun filter => ?_, fun id changes => ?_, fun id => ?_⟩
  · rw [size, ← List.length_map Prod.fst, hc.ids, List.countP_eq_length_filter]
  · exact ⟨c.find? id, rfl, hc.isSome_find? id, fun data => find?_eq_some_iff hc.ids_nodup⟩
  · exact ⟨c.find filter, rfl, hc.find_ids filter, fun e he =>
      (find?_eq_some_iff hc.ids_nodup).mpr (List.mem_of_mem_filter he)⟩
  · refine ⟨(c.update id changes).2, ?_, map_fst_updateEntries id changes c.entries,
      filter_updateEntries id changes c.entries, fun hlive => ?_⟩
    · rw [← hc.isSome_find? id]
      rfl
    · rw [update, updateEntries_of_not_mem (hdead hlive)]
  · refine ⟨(c.remove id).2, ?_, rfl, fun hlive => ?_⟩
    · rw [← hc.isSome_find? id]
      rfl
    · rw [remove, List.filter_eq_self.mpr fun e he => ?_]
      exact decide_eq_true fun heq => hdead hlive (heq ▸ List.mem_map_of_mem he)

/-! Two visitors sign in, the first changes an answer and leaves, and an update comes too late. -/

def guestBook : List Call :=
  [.update (.ofNat 1) [("name", .str "Eve")],
    .remove (.ofNat 1),
    .find [("name", .str "Ann")],
    .update (.ofNat 1) [("stars", .int 5), ("note", .null)],
    .insert (.ofNat 2) [("name", .str "Bob")],
    .findOne (.ofNat 2),
    .insert (.ofNat 1) [("name", .str "Ann"), ("stars", .int 4)]]

theorem guestBook_run : ∃ c, Run guestBook c := by
  have hfirst : ObjectId.ofNat 1 ∉ inserted [] := by simp [inserted]
  have hsecond : ObjectId.ofNat 2 ∉ [ObjectId.ofNat 1] := by decide +kernel
  refine ⟨_, .call _ (.call _ (.call _ (.call _ (.call _ (.call _ (.call _ .start hfirst ?_)
    trivial trivial) hsecond ?_) trivial ?_) trivial trivial) trivial trivial) trivial ?_⟩
  all_goals simp [Call.Distinct]

theorem run_refines_guestBook :
    ∃ c, Run guestBook c ∧ c.entries.map Prod.fst = [.ofNat 2] ∧ c.size = 1 ∧
      (∀ e ∈ c.entries, e.2.get? "name" = some (.str "Bob") ∧ e.2.get? "stars" = none) ∧
      c.perform (.remove (.ofNat 1)) = (.done false, c) := by
  obtain ⟨c, hrun⟩ := guestBook_run
  have hne : ObjectId.ofNat 2 ≠ ObjectId.ofNat 1 := by decide +kernel
  have hlive : (inserted guestBook).filter (live guestBook) = [.ofNat 2] := by decide +kernel
  have hgone : live guestBook (.ofNat 1) = false := by decide +kernel
  obtain ⟨hids, _, hsize, hdata, _, _, _, hremove⟩ := run_refines hrun
  rw [hlive] at hids
  refine ⟨c, hrun, hids, ?_, fun e he => ?_, ?_⟩
  · rw [hsize, List.countP_eq_length_filter, hlive]
    rfl
  · have hid : e.1 = .ofNat 2 := List.mem_singleton.mp (hids ▸ List.mem_map_of_mem he)
    have hvalues := (hdata e he).2
    constructor
    · rw [hvalues, hid]
      simp [guestBook, given, hne, Json.Object.get?]
    · rw [hvalues, hid]
      simp [guestBook, given, hne, Json.Object.get?]
  · obtain ⟨later, hanswer, _, hsame⟩ := hremove (.ofNat 1)
    rw [hanswer, hgone, hsame hgone]

end Collection

end DocumentModel
