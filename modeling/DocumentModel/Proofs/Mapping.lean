/-
Mappings keep their keys in order.

Whatever order its entries come in, a mapping that the program makes has each key once, in
increasing order, and the last entry of a key counts.
-/
import DocumentModel.Proofs.Declared
import DocumentModel.Value.Extended
import Mathlib.Data.String.Basic

namespace DocumentModel.Value

theorem mem_insertEntry {key : String} {value : Value} {entries : List (String × Value)}
    {e : String × Value} (he : e ∈ insertEntry key value entries) :
    e = (key, value) ∨ e ∈ entries := by
  induction entries with
  | nil => simpa [insertEntry] using he
  | cons first rest ih =>
      obtain ⟨k, v⟩ := first
      rw [insertEntry] at he
      split at he
      · exact (List.mem_cons.mp he).imp_right (List.mem_cons_of_mem _)
      · split at he
        · exact List.mem_cons.mp he
        · rcases List.mem_cons.mp he with rfl | he
          · exact Or.inr List.mem_cons_self
          · exact (ih he).imp_right (List.mem_cons_of_mem _)

theorem insertEntry_pairwise {entries : List (String × Value)}
    (hkeys : entries.Pairwise fun a b => a.1 < b.1) (key : String) (value : Value) :
    (insertEntry key value entries).Pairwise fun a b => a.1 < b.1 := by
  induction entries with
  | nil => simp [insertEntry]
  | cons first rest ih =>
      obtain ⟨k, v⟩ := first
      obtain ⟨hfirst, hrest⟩ := List.pairwise_cons.mp hkeys
      rw [insertEntry]
      split
      · next heq => exact List.pairwise_cons.mpr ⟨fun e he => heq ▸ hfirst e he, hrest⟩
      · next hne =>
          split
          · next hlt =>
              refine List.pairwise_cons.mpr ⟨fun e he => ?_, hkeys⟩
              rcases List.mem_cons.mp he with rfl | he
              · exact hlt
              · exact lt_trans hlt (hfirst e he)
          · next hge =>
              refine List.pairwise_cons.mpr ⟨fun e he => ?_, ih hrest⟩
              rcases mem_insertEntry he with rfl | he
              · exact lt_of_le_of_ne (not_lt.mp hge) (Ne.symm hne)
              · exact hfirst e he

theorem lookup_insertEntry_self (key : String) (value : Value)
    (entries : List (String × Value)) :
    (insertEntry key value entries).lookup key = some value := by
  induction entries with
  | nil => simp [insertEntry]
  | cons first rest ih =>
      obtain ⟨k, v⟩ := first
      rw [insertEntry]
      split
      · simp
      · next hne =>
          have hkey : (key == k) = false := by simpa using hne
          split
          · simp
          · rw [List.lookup_cons, hkey, ih]

theorem lookup_insertEntry_of_ne {key other : String} (hne : other ≠ key) (value : Value)
    (entries : List (String × Value)) :
    (insertEntry key value entries).lookup other = entries.lookup other := by
  have hkey : (other == key) = false := by simpa using hne
  induction entries with
  | nil => simp [insertEntry, List.lookup_cons, hkey]
  | cons first rest ih =>
      obtain ⟨k, v⟩ := first
      rw [insertEntry]
      split
      · next heq =>
          subst heq
          rw [List.lookup_cons, List.lookup_cons, hkey]
      · split
        · rw [List.lookup_cons, hkey]
        · rw [List.lookup_cons, List.lookup_cons, ih]

/-- What entries leave in a mapping that is in order. -/
theorem foldl_insertEntry_proper {acc entries : List (String × Value)}
    (hacc : acc.Pairwise (fun a b => a.1 < b.1) ∧ ∀ e ∈ acc, e.2.Proper)
    (hentries : ∀ e ∈ entries, e.2.Proper) :
    let all := entries.foldl (fun acc e => insertEntry e.1 e.2 acc) acc
    all.Pairwise (fun a b => a.1 < b.1) ∧ ∀ e ∈ all, e.2.Proper := by
  induction entries generalizing acc with
  | nil => exact hacc
  | cons first rest ih =>
      refine ih ⟨insertEntry_pairwise hacc.1 _ _, fun e he => ?_⟩
        fun e he => hentries e (List.mem_cons_of_mem first he)
      rcases mem_insertEntry he with rfl | he
      · exact hentries first List.mem_cons_self
      · exact hacc.2 e he

theorem mapOf_proper {entries : List (String × Value)} (hentries : ∀ e ∈ entries, e.2.Proper) :
    (mapOf entries).Proper := by
  obtain ⟨hkeys, hvalues⟩ := @foldl_insertEntry_proper [] entries ⟨.nil, by simp⟩ hentries
  exact .map hkeys hvalues

/-- An object stands for an identifier, for a date-time or for neither. -/
theorem ofWrapper?_cases {data : Json.Object} {v : Value} (hv : ofWrapper? data = some v) :
    (∃ id, v = .objectId id) ∨ ∃ ms, v = .instant (Instant.ofMillis ms) := by
  rw [ofWrapper?.eq_def] at hv
  split at hv
  · obtain ⟨id, _, rfl⟩ := Option.map_eq_some_iff.mp hv
    exact Or.inl ⟨id, rfl⟩
  · obtain ⟨ms, _, rfl⟩ := Option.map_eq_some_iff.mp hv
    exact Or.inr ⟨ms, rfl⟩
  · cases hv

theorem ofWrapper?_proper {data : Json.Object} {v : Value} (hv : ofWrapper? data = some v) :
    v.Proper := by
  rcases ofWrapper?_cases hv with ⟨id, rfl⟩ | ⟨ms, rfl⟩
  · exact .objectId id
  · exact .instant _

mutual

/-- What is read from JSON is in order. -/
theorem ofJson_proper : (j : Json) → (ofJson j).Proper
  | .null => .null
  | .bool b => .bool b
  | .int n => by
      rw [ofJson]
      split
      · exact .int _
      · exact .float _
  | .float x => .float x
  | .str s => .text s
  | .arr items => by
      rw [ofJson]
      exact .array (ofItems_proper items)
  | .obj members => by
      rw [ofJson]
      cases hwrapper : ofWrapper? members with
      | none => exact mapOf_proper (ofMembers_proper members)
      | some v => exact ofWrapper?_proper hwrapper

theorem ofItems_proper : (items : List Json) → ∀ v ∈ ofItems items, v.Proper
  | [], v, hv => by cases hv
  | item :: rest, v, hv => by
      rcases List.mem_cons.mp hv with rfl | hv
      · exact ofJson_proper item
      · exact ofItems_proper rest v hv

theorem ofMembers_proper : (members : List (String × Json)) → ∀ e ∈ ofMembers members, e.2.Proper
  | [], e, he => by cases he
  | (key, value) :: rest, e, he => by
      rcases List.mem_cons.mp he with rfl | he
      · exact ofJson_proper value
      · exact ofMembers_proper rest e he

end

end DocumentModel.Value
