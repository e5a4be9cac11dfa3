/-
Who may change a list.

A list field that no longer shares its declared default owns its list.  No list has two owners, so
an assignment to one field never shows in the list of another, and shared defaults are never
touched.
-/
import DocumentModel.Proofs.Reachable

namespace DocumentModel

namespace Heap

variable {types : List Schema} {h : Heap}

/-- A list field of a document still holds its declared default. -/
def Shares (h : Heap) (r : DocRef) (name : String) : Prop :=
  ∃ d slot, h.document? r = some d ∧ d.slot? name = some slot ∧ slot.shared = true

theorem list?_putDocument (h : Heap) (r : DocRef) (d : Document) (l : ListRef) :
    (h.putDocument r d).list? l = h.list? l :=
  rfl

theorem list?_replaceItems_of_ne (h : Heap) {r l : ListRef} (hne : r ≠ l) (items : List DocRef) :
    (h.replaceItems r items).2.list? l = h.list? l := by
  rw [replaceItems]
  split
  · rfl
  · split
    · exact list?_putList_of_ne h _ hne
    · rfl

/-- An assignment to a list field changes no list but the one that is refilled. -/
theorem list?_assignList (h : Heap) (schema : Schema) {current v : Value} {l : ListRef}
    {found : DocumentList} (hl : h.list? l = some found) (hcurrent : current ≠ .list l) :
    (h.assignList schema current v).2.list? l = some found := by
  rcases assignList_cases h schema current v with heq | ⟨own, items, rfl, heq⟩ | ⟨items, _, heq⟩
  · rw [heq, hl]
  · have hne : own ≠ l := fun h => hcurrent (by rw [h])
    rw [heq, list?_replaceItems_of_ne h hne, hl]
  · rw [heq]
    exact list?_addList_old hl

theorem list?_assign (h : Heap) (f : Field) {current v : Value} {l : ListRef}
    {found : DocumentList} (hl : h.list? l = some found)
    (hcurrent : f.kind.isList = true → current ≠ .list l) :
    (h.assign f current v).2.list? l = some found := by
  cases hkind : f.kind with
  | list schema =>
      have hne := hcurrent (by rw [hkind]; rfl)
      simpa [assign, hkind] using list?_assignList h schema hl hne
  | array lengths check? => cases v <;> simpa [assign, hkind] using hl
  | embedded schema => cases v <;> simpa [assign, hkind] using hl
  | _ => simpa [assign, hkind] using hl

/-- An assignment changes no list but the one that the field owns. -/
theorem list?_set {r : DocRef} {name : String} {v : Value} {l : ListRef} {found : DocumentList}
    (hl : h.list? l = some found) (hother : ¬ h.Owns r name l) :
    (h.set r name v).2.list? l = some found := by
  rw [set]
  split
  · exact hl
  · next d hd =>
      split
      · next f slot hfield hslot =>
          obtain ⟨hf, hname⟩ := Schema.mem_of_field? hfield
          obtain ⟨hmem, hsname⟩ := Document.mem_of_slot? hslot
          rw [list?_putDocument]
          refine list?_assign h f hl fun hlist hcurrent => hother ?_
          cases hshared : slot.shared with
          | true => simp [hshared] at hcurrent
          | false =>
              have hvalue : slot.value = .list l := by simpa [hshared] using hcurrent
              exact ⟨d, hd, f, hf, hname, hlist, slot, hmem, hsname, hshared, hvalue⟩
      · exact hl

/-- Whoever shares a default owns nothing. -/
theorem Sound.not_owns_of_shares (hdecl : Declared types) (hsound : h.Sound types) {r : DocRef}
    {name : String} (hshares : h.Shares r name) (l : ListRef) : ¬ h.Owns r name l := by
  rintro ⟨d, hd, f, _, _, _, slot, hmem, hname, hshared, _⟩
  obtain ⟨d', shared, hd', hslot, htrue⟩ := hshares
  obtain rfl : d = d' := Option.some.inj (hd.symm.trans hd')
  have hfound := Document.slot?_of_mem (hsound.slotNames_nodup hdecl hd) hmem
  rw [hname, hslot] at hfound
  obtain rfl : shared = slot := Option.some.inj hfound
  rw [hshared] at htrue
  cases htrue

end Heap

/-- In every reachable state no list is owned by two fields.  An assignment leaves alone every list
that another field owns.  An assignment to a field that shares its declared default, hydration and
construction from given values leave alone every list there is. -/
theorem list_ownership {types : List Schema} {s : Session} (hs : Reachable types s) :
    s.heap.OwnersUnique ∧
    (∀ r r' name name' v l, (r', name') ≠ (r, name) → s.heap.Owns r' name' l →
      (s.heap.set r name v).2.list? l = s.heap.list? l) ∧
    (∀ r name v l found, s.heap.Shares r name → s.heap.list? l = some found →
      (s.heap.set r name v).2.list? l = some found) ∧
    (∀ schema ∈ types, ∀ data l found, s.heap.list? l = some found →
      (schema.hydrate data s.heap).2.list? l = some found) ∧
    ∀ schema ∈ types, ∀ values, (∀ e ∈ values, Value.Proper e.2) → ∀ l found,
      s.heap.list? l = some found → (schema.withValues values s.heap).2.list? l = some found := by
  have hdecl := hs.declared
  have hsound := hs.sound
  have hunique := hs.ownersUnique
  refine ⟨hunique, ?_, ?_, ?_, ?_⟩
  · intro r r' name name' v l hne howns
    have hother : ¬ s.heap.Owns r name l := fun h => by
      obtain ⟨hr, hname⟩ := hunique r' r name' name l howns h
      exact hne (by rw [hr, hname])
    cases hl : s.heap.list? l with
    | none => exact absurd howns (hsound.free_of_list?_eq_none hdecl hl r' name')
    | some found => exact Heap.list?_set hl hother
  · intro r name v l found hshares hl
    exact Heap.list?_set hl (hsound.not_owns_of_shares hdecl hshares l)
  · intro schema hschema data l found hl
    have hkeeps := (Schema.hydrate_runs hdecl hsound.ready data schema hschema).1.keeps
    exact hkeeps.list (Heap.list?_lt hl) hl
  · intro schema hschema values hvalues l found hl
    have hkeeps := (Schema.withValues_runs hdecl hsound.ready hschema hvalues).1.keeps
    exact hkeeps.list (Heap.list?_lt hl) hl

/-! Two shelves that share a declared list of books, until one is given books of its own and is
then copied. -/

def bookType : Schema :=
  .embedded 0 "Book" []

def shelfType : Schema :=
  .document 1 "Shelf" [⟨"books", false, some (.value (.list ⟨0⟩)), .list bookType⟩]

theorem shelfTypes_declared : Declared [shelfType, bookType] := by
  refine .document (.embedded .nil (by simp) (by simp)) (by decide) ?_
  intro f hf
  obtain rfl := List.mem_singleton.mp hf
  constructor
  · intro s hs
    obtain rfl : bookType = s := Option.some.inj hs
    exact ⟨List.mem_singleton_self _, rfl⟩
  · intro d hd
    obtain rfl : Default.value (.list ⟨0⟩) = d := Option.some.inj hd
    exact .value (.list ⟨0⟩)

/-- A list with a book in it, before the shelf is declared. -/
def shelfStart : Session :=
  [.newList bookType, .new bookType, .push ⟨0⟩ ⟨0⟩].foldl Operation.perform .empty

def shelfRun : Session :=
  [.new shelfType, .new shelfType, .set ⟨1⟩ "books" (.array [.document ⟨0⟩]), .clone ⟨1⟩].foldl
    Operation.perform shelfStart

theorem shelfTypes_reachable : Reachable [shelfType, bookType] shelfStart := by
  have hbook : Reachable [bookType] .empty := by
    refine .declare .empty (.embedded .nil (by simp) (by simp)) fun f hf => ?_
    cases hf
  refine .declare (hbook.run fun op hop => ?_) shelfTypes_declared ?_
  · simp only [List.mem_cons, List.not_mem_nil, or_false] at hop
    rcases hop with rfl | rfl | rfl <;> simp [Operation.Over]
  · intro f hf d hd
    obtain rfl := List.mem_singleton.mp hf
    obtain rfl : Default.value (.list ⟨0⟩) = d := Option.some.inj hd
    exact .value (.list rfl)

/-- The shelf with books of its own loses them, its copy and the declared list do not.  The other
shelf is then assigned the very list that it shares. -/
theorem list_ownership_shelves :
    shelfRun.heap.Owns ⟨3⟩ "books" ⟨2⟩ ∧ shelfRun.heap.Shares ⟨2⟩ "books" ∧
      (shelfRun.heap.set ⟨1⟩ "books" (.array [])).2.list? ⟨2⟩ = some ⟨bookType, [⟨0⟩]⟩ ∧
      (shelfRun.heap.set ⟨2⟩ "books" (.list ⟨0⟩)).2.list? ⟨0⟩ = some ⟨bookType, [⟨0⟩]⟩ := by
  have hreachable : Reachable [shelfType, bookType] shelfRun := by
    apply shelfTypes_reachable.run
    intro op hop
    simp only [List.mem_cons, List.not_mem_nil, or_false] at hop
    rcases hop with rfl | rfl | rfl | rfl <;>
      simp [Operation.Over, Value.Proper.array, Value.Proper.document]
  have howns : shelfRun.heap.Owns ⟨3⟩ "books" ⟨2⟩ :=
    ⟨_, rfl, _, List.mem_singleton_self _, rfl, rfl, _, List.mem_singleton_self _, rfl, rfl, rfl⟩
  have hshares : shelfRun.heap.Shares ⟨2⟩ "books" := ⟨_, _, rfl, rfl, rfl⟩
  obtain ⟨_, hother, hshared, _, _⟩ := list_ownership hreachable
  exact ⟨howns, hshares, hother ⟨1⟩ ⟨3⟩ "books" "books" _ ⟨2⟩ (by decide) howns,
    hshared ⟨2⟩ "books" _ ⟨0⟩ _ hshares rfl⟩

end DocumentModel
