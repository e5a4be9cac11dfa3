/-
What can happen to a heap.

Everything that is done to documents and lists comes down to the elementary changes of
`Heap.Change`.  `Change types n m` is a change that leaves the documents before number `n` and the
lists before number `m` as they are; what is made anew comes after all that is there.

A document owns the list in a list field unless the list is a default that it still shares.  No
change makes a list the property of two fields, and none lets a field take over a list that another
one owns.
-/
import DocumentModel.Proofs.Conformity
import Mathlib.Data.List.Pairwise
import Mathlib.Logic.Relation

namespace DocumentModel

/-- A list field of the document holds a list of its own. -/
def Document.Owns (d : Document) (name : String) (l : ListRef) : Prop :=
  ∃ f ∈ d.schema.fields, f.name = name ∧ f.kind.isList = true ∧
    ∃ slot ∈ d.slots, slot.name = name ∧ slot.shared = false ∧ slot.value = .list l

/-- The same of a field and its slot. -/
def OwnsAt (p : Field × Slot) (l : ListRef) : Prop :=
  p.1.kind.isList = true ∧ p.2.shared = false ∧ p.2.value = .list l

theorem Document.Owns.pair {h : Heap} {d : Document} {name : String} {l : ListRef}
    (ho : d.Owns name l) (hfits : d.Fits h) (hnodup : d.schema.fieldNames.Nodup) :
    ∃ p ∈ d.schema.fields.zip d.slots, p.2.name = name ∧ OwnsAt p l := by
  obtain ⟨f, hf, hname, hlist, slot, hslot, hsname, hshared, hvalue⟩ := ho
  obtain ⟨g, hg⟩ : ∃ g, (g, slot) ∈ d.schema.fields.zip d.slots := by
    obtain ⟨i, hi, hget⟩ := List.mem_iff_getElem.mp hslot
    have hlen := List.Forall₂.length_eq hfits
    refine ⟨d.schema.fields[i], List.mem_iff_getElem.mpr ⟨i, ?_, ?_⟩⟩
    · simp [hlen, hi]
    · simp [hget]
  have hgname : g.name = slot.name := (List.forall₂_zip hfits hg).name.symm
  obtain rfl : g = f := List.inj_on_of_nodup_map hnodup (List.of_mem_zip hg).1 hf
    (by rw [hgname, hsname, hname])
  exact ⟨(g, slot), hg, hsname, hlist, hshared, hvalue⟩

namespace Heap

/-- A list field of a document in the heap holds a list of its own. -/
def Owns (h : Heap) (r : DocRef) (name : String) (l : ListRef) : Prop :=
  ∃ d, h.document? r = some d ∧ d.Owns name l

/-- No field owns a list. -/
def Free (h : Heap) (l : ListRef) : Prop :=
  ∀ r name, ¬ h.Owns r name l

/-- No list is owned by two fields. -/
def OwnersUnique (h : Heap) : Prop :=
  ∀ r r' name name' l, h.Owns r name l → h.Owns r' name' l → r = r' ∧ name = name'

/-- What documents from number `n` on own are lists from number `m` on. -/
def OwnsFrom (n m : Nat) (h : Heap) : Prop :=
  ∀ r name l, n ≤ r.index → h.Owns r name l → m ≤ l.index

/-- One elementary change, out of reach of the documents before number `n` and of the lists before
number `m`. -/
inductive Change (types : List Schema) (n m : Nat) : Heap → Heap → Prop
  | counters (h : Heap) (counters : List Int64) :
      Change types n m h { h with counters := counters }
  | newList {h : Heap} {l : DocumentList} (hschema : l.schema ∈ types)
      (hitems : ∀ item ∈ l.items, h.documentIsA item l.schema = true) :
      Change types n m h (h.addList l).2
  | fill {h : Heap} {r : ListRef} {l : DocumentList} {items : List DocRef} (hr : m ≤ r.index)
      (hl : h.list? r = some l) (hitems : ∀ item ∈ items, h.documentIsA item l.schema = true) :
      Change types n m h (h.putList r { l with items := items })
  | newDocument {h : Heap} {d : Document} (hschema : d.schema ∈ types) (hfits : d.Fits h)
      (hfree : ∀ name l, d.Owns name l → m ≤ l.index ∧ h.Free l)
      (hunique : ∀ name name' l, d.Owns name l → d.Owns name' l → name = name') :
      Change types n m h (h.addDocument d).2
  | newSlot {h : Heap} {r : DocRef} {d : Document} {f : Field} {slot : Slot} (hr : n ≤ r.index)
      (hd : h.document? r = some d) (hf : f ∈ d.schema.fields) (hslot : slot.Fits h f)
      (hfree : f.kind.isList = true → slot.shared = false → ∀ l, slot.value = .list l →
        m ≤ l.index ∧ h.Free l) :
      Change types n m h (h.putDocument r (d.putSlot slot))
  | newErrors {h : Heap} {r : DocRef} {d : Document} (e : Errors) (hr : n ≤ r.index)
      (hd : h.document? r = some d) :
      Change types n m h (h.putDocument r { d with errors := e })

/-- A run of elementary changes. -/
def Changes (types : List Schema) (n m : Nat) : Heap → Heap → Prop :=
  Relation.ReflTransGen (Change types n m)

/-- The documents before number `n` and the lists before number `m` are as they were. -/
structure Keeps (n m : Nat) (h later : Heap) : Prop where
  grows : h.Grows later
  document : ∀ {r d}, r.index < n → h.document? r = some d → later.document? r = some d
  list : ∀ {r l}, r.index < m → h.list? r = some l → later.list? r = some l

/-! Looking up after a single operation. -/

theorem document?_addDocument {h : Heap} {d : Document} {r : DocRef} {found : Document}
    (hr : (h.addDocument d).2.document? r = some found) :
    (r = (h.addDocument d).1 ∧ found = d) ∨ h.document? r = some found := by
  have hget : (h.documents ++ [d])[r.index]? = some found := hr
  rcases Nat.lt_trichotomy r.index h.documents.length with hlt | heq | hgt
  · rw [List.getElem?_append_left hlt] at hget
    exact Or.inr hget
  · rw [heq, List.getElem?_concat_length] at hget
    exact Or.inl ⟨by rw [addDocument, ← heq], (Option.some.inj hget).symm⟩
  · rw [List.getElem?_eq_none (by simp; omega)] at hget
    cases hget

theorem document?_addDocument_old {h : Heap} {d old : Document} {r : DocRef}
    (hr : h.document? r = some old) : (h.addDocument d).2.document? r = some old := by
  rw [document?_addDocument_of_isSome h d (by rw [hr]; rfl), hr]

theorem list?_addList {h : Heap} {l found : DocumentList} {r : ListRef}
    (hr : (h.addList l).2.list? r = some found) :
    (r = (h.addList l).1 ∧ found = l) ∨ h.list? r = some found := by
  have hget : (h.lists ++ [l])[r.index]? = some found := hr
  rcases Nat.lt_trichotomy r.index h.lists.length with hlt | heq | hgt
  · rw [List.getElem?_append_left hlt] at hget
    exact Or.inr hget
  · rw [heq, List.getElem?_concat_length] at hget
    exact Or.inl ⟨by rw [addList, ← heq], (Option.some.inj hget).symm⟩
  · rw [List.getElem?_eq_none (by simp; omega)] at hget
    cases hget

theorem list?_addList_old {h : Heap} {l old : DocumentList} {r : ListRef}
    (hr : h.list? r = some old) : (h.addList l).2.list? r = some old := by
  rw [list?_addList_of_isSome h l (by rw [hr]; rfl), hr]

/-- After a document is replaced, the others are still what they were. -/
theorem document?_putDocument {h : Heap} {r s : DocRef} {d old found : Document}
    (hr : h.document? r = some old) (hs : (h.putDocument r d).document? s = some found) :
    (s = r ∧ found = d) ∨ (s ≠ r ∧ h.document? s = some found) := by
  by_cases heq : s = r
  · subst heq
    rw [document?_putDocument_self h d (by rw [hr]; rfl)] at hs
    exact Or.inl ⟨rfl, (Option.some.inj hs).symm⟩
  · rw [document?_putDocument_of_ne h d (Ne.symm heq)] at hs
    exact Or.inr ⟨heq, hs⟩

theorem list?_putList {h : Heap} {r s : ListRef} {l old found : DocumentList}
    (hr : h.list? r = some old) (hs : (h.putList r l).list? s = some found) :
    (s = r ∧ found = l) ∨ (s ≠ r ∧ h.list? s = some found) := by
  by_cases heq : s = r
  · subst heq
    rw [list?_putList_self h l (by rw [hr]; rfl)] at hs
    exact Or.inl ⟨rfl, (Option.some.inj hs).symm⟩
  · rw [list?_putList_of_ne h l (Ne.symm heq)] at hs
    exact Or.inr ⟨heq, hs⟩

/-! Types stay. -/

theorem grows_addDocument (h : Heap) (d : Document) : h.Grows (h.addDocument d).2 where
  document hr := ⟨_, document?_addDocument_old hr, rfl⟩
  list hl := ⟨_, hl, rfl⟩

theorem grows_addList (h : Heap) (l : DocumentList) : h.Grows (h.addList l).2 where
  document hr := ⟨_, hr, rfl⟩
  list hl := ⟨_, list?_addList_old hl, rfl⟩

theorem grows_putDocument {h : Heap} {r : DocRef} {d old : Document}
    (hr : h.document? r = some old) (hschema : d.schema = old.schema) :
    h.Grows (h.putDocument r d) where
  document {s found} hs := by
    by_cases heq : s = r
    · subst heq
      obtain rfl : old = found := Option.some.inj (hr.symm.trans hs)
      exact ⟨d, document?_putDocument_self h d (by rw [hs]; rfl), hschema⟩
    · exact ⟨found, by rw [document?_putDocument_of_ne h d (Ne.symm heq), hs], rfl⟩
  list hl := ⟨_, hl, rfl⟩

theorem grows_putList {h : Heap} {r : ListRef} {l old : DocumentList}
    (hr : h.list? r = some old) (hschema : l.schema = old.schema) :
    h.Grows (h.putList r l) where
  document hs := ⟨_, hs, rfl⟩
  list {s found} hs := by
    by_cases heq : s = r
    · subst heq
      obtain rfl : old = found := Option.some.inj (hr.symm.trans hs)
      exact ⟨l, list?_putList_self h l (by rw [hs]; rfl), hschema⟩
    · exact ⟨found, by rw [list?_putList_of_ne h l (Ne.symm heq), hs], rfl⟩

/-- A heap stays sound if every document and every list in it was there before or conforms. -/
theorem Sound.of_grows {types : List Schema} {h later : Heap} (hsound : h.Sound types)
    (hgrows : h.Grows later)
    (hdocuments : ∀ r d, later.document? r = some d →
      h.document? r = some d ∨ (d.schema ∈ types ∧ d.Fits h))
    (hlists : ∀ r l, later.list? r = some l →
      h.list? r = some l ∨
        (l.schema ∈ types ∧ ∀ item ∈ l.items, h.documentIsA item l.schema = true)) :
    later.Sound types where
  schema {r d} hd := (hdocuments r d hd).elim hsound.schema And.left
  fits {r d} hd := ((hdocuments r d hd).elim hsound.fits And.right).mono hgrows
  listSchema {r l} hl := (hlists r l hl).elim hsound.listSchema And.left
  items {r l} hl item hitem :=
    hgrows.documentIsA ((hlists r l hl).elim (fun hold => hsound.items hold item hitem)
      fun hnew => hnew.2 item hitem)

theorem Keeps.refl (n m : Nat) (h : Heap) : h.Keeps n m h :=
  ⟨.refl h, fun _ hd => hd, fun _ hl => hl⟩

theorem Keeps.trans {n m : Nat} {a b c : Heap} (hab : a.Keeps n m b) (hbc : b.Keeps n m c) :
    a.Keeps n m c :=
  ⟨hab.grows.trans hbc.grows, fun hr hd => hbc.document hr (hab.document hr hd),
    fun hr hl => hbc.list hr (hab.list hr hl)⟩

/-- Before a run of confined changes: the heap is sound, all of it comes before the bounds or within
reach, and what is within reach owns nothing out of reach. -/
structure Ready (types : List Schema) (n m : Nat) (h : Heap) : Prop where
  sound : h.Sound types
  own : h.OwnsFrom n m
  documents : n ≤ h.documents.length
  lists : m ≤ h.lists.length

/-- What comes after all that is there owns nothing yet. -/
theorem Sound.ready {types : List Schema} {h : Heap} (hsound : h.Sound types) :
    h.Ready types h.documents.length h.lists.length where
  sound := hsound
  own := by
    rintro r name l hr ⟨d, hd, _⟩
    exact absurd (document?_lt hd) (Nat.not_lt_of_le hr)
  documents := Nat.le_refl _
  lists := Nat.le_refl _

/-- Without bounds, all is within reach. -/
theorem Sound.ready_zero {types : List Schema} {h : Heap} (hsound : h.Sound types) :
    h.Ready types 0 0 :=
  ⟨hsound, fun _ _ _ _ _ => Nat.zero_le _, Nat.zero_le _, Nat.zero_le _⟩

namespace Change

variable {types : List Schema} {n m : Nat} {h later : Heap}

theorem grows (hc : Change types n m h later) : h.Grows later := by
  cases hc with
  | counters counters => exact ⟨fun hd => ⟨_, hd, rfl⟩, fun hl => ⟨_, hl, rfl⟩⟩
  | newList _ _ => exact grows_addList h _
  | fill _ hl _ => exact grows_putList hl rfl
  | newDocument _ _ _ _ => exact grows_addDocument h _
  | newSlot _ hd _ _ _ => exact grows_putDocument hd rfl
  | newErrors _ _ hd => exact grows_putDocument hd rfl

theorem documents_length_le (hc : Change types n m h later) :
    h.documents.length ≤ later.documents.length := by
  cases hc <;> simp [addList, putList, addDocument, putDocument]

theorem lists_length_le (hc : Change types n m h later) :
    h.lists.length ≤ later.lists.length := by
  cases hc <;> simp [addList, putList, addDocument, putDocument]

/-- A confined change leaves alone what comes before its bounds. -/
theorem keeps (hc : Change types n m h later) : h.Keeps n m later where
  grows := hc.grows
  document {r d} hr hd := by
    cases hc with
    | counters counters => exact hd
    | newList _ _ => exact hd
    | fill _ _ _ => exact hd
    | newDocument _ _ _ _ => exact document?_addDocument_old hd
    | @newSlot s _ _ _ hs _ _ _ _ =>
        have hne : s ≠ r := fun heq => Nat.not_le_of_lt hr (heq ▸ hs)
        rw [document?_putDocument_of_ne _ _ hne, hd]
    | @newErrors s _ _ hs _ =>
        have hne : s ≠ r := fun heq => Nat.not_le_of_lt hr (heq ▸ hs)
        rw [document?_putDocument_of_ne _ _ hne, hd]
  list {r l} hr hl := by
    cases hc with
    | counters counters => exact hl
    | newList _ _ => exact list?_addList_old hl
    | @fill s _ _ hs _ _ =>
        have hne : s ≠ r := fun heq => Nat.not_le_of_lt hr (heq ▸ hs)
        rw [list?_putList_of_ne _ _ hne, hl]
    | newDocument _ _ _ _ => exact hl
    | newSlot _ _ _ _ _ => exact hl
    | newErrors _ _ _ => exact hl

theorem weaken {n' m' : Nat} (hn : n' ≤ n) (hm : m' ≤ m) (hc : Change types n m h later) :
    Change types n' m' h later := by
  cases hc with
  | counters counters => exact .counters h counters
  | newList hschema hitems => exact .newList hschema hitems
  | fill hr hl hitems => exact .fill (Nat.le_trans hm hr) hl hitems
  | newDocument hschema hfits hfree hunique =>
      refine .newDocument hschema hfits (fun name l ho => ?_) hunique
      exact ⟨Nat.le_trans hm (hfree name l ho).1, (hfree name l ho).2⟩
  | newSlot hr hd hf hslot hfree =>
      refine .newSlot (Nat.le_trans hn hr) hd hf hslot (fun hlist hshared l hl => ?_)
      exact ⟨Nat.le_trans hm (hfree hlist hshared l hl).1, (hfree hlist hshared l hl).2⟩
  | newErrors e hr hd => exact .newErrors e (Nat.le_trans hn hr) hd

theorem sound (hdecl : Declared types) (hsound : h.Sound types)
    (hc : Change types n m h later) : later.Sound types := by
  apply hsound.of_grows hc.grows
  · intro r found hfound
    cases hc with
    | counters counters => exact Or.inl hfound
    | newList _ _ => exact Or.inl hfound
    | fill _ _ _ => exact Or.inl hfound
    | newDocument hschema hfits _ _ =>
        rcases document?_addDocument hfound with ⟨_, rfl⟩ | hold
        · exact Or.inr ⟨hschema, hfits⟩
        · exact Or.inl hold
    | newSlot _ hd hf hslot _ =>
        rcases document?_putDocument hd hfound with ⟨_, rfl⟩ | ⟨_, hold⟩
        · have hschema := hsound.schema hd
          have hnodup := hdecl.fieldNames_nodup hschema
          exact Or.inr ⟨hschema, (hsound.fits hd).putSlot hnodup hf hslot⟩
        · exact Or.inl hold
    | newErrors _ _ hd =>
        rcases document?_putDocument hd hfound with ⟨_, rfl⟩ | ⟨_, hold⟩
        · have hschema := hsound.schema hd
          have hfits := hsound.fits hd
          exact Or.inr ⟨hschema, hfits⟩
        · exact Or.inl hold
  · intro r found hfound
    cases hc with
    | counters counters => exact Or.inl hfound
    | newList hschema hitems =>
        rcases list?_addList hfound with ⟨_, rfl⟩ | hold
        · exact Or.inr ⟨hschema, hitems⟩
        · exact Or.inl hold
    | fill _ hl hitems =>
        rcases list?_putList hl hfound with ⟨_, rfl⟩ | ⟨_, hold⟩
        · have hschema := hsound.listSchema hl
          exact Or.inr ⟨hschema, hitems⟩
        · exact Or.inl hold
    | newDocument _ _ _ _ => exact Or.inl hfound
    | newSlot _ _ _ _ _ => exact Or.inl hfound
    | newErrors _ _ _ => exact Or.inl hfound

/-- Whoever owns a list after a change owned it before, or is the only owner of a list that nobody
owned. -/
theorem owns (hdecl : Declared types) (hsound : h.Sound types)
    (hc : Change types n m h later) {r : DocRef} {name : String} {l : ListRef}
    (ho : later.Owns r name l) :
    h.Owns r name l ∨
      (m ≤ l.index ∧ h.Free l ∧ ∀ r' name', later.Owns r' name' l → r' = r ∧ name' = name) := by
  cases hc with
  | counters counters => exact Or.inl ho
  | newList _ _ => exact Or.inl ho
  | fill _ _ _ => exact Or.inl ho
  | newErrors _ _ hd =>
      obtain ⟨found, hfound, hown⟩ := ho
      rcases document?_putDocument hd hfound with ⟨rfl, rfl⟩ | ⟨_, hold⟩
      · exact Or.inl ⟨_, hd, hown⟩
      · exact Or.inl ⟨_, hold, hown⟩
  | newDocument _ _ hfree hunique =>
      obtain ⟨found, hfound, hown⟩ := ho
      rcases document?_addDocument hfound with ⟨rfl, rfl⟩ | hold
      · refine Or.inr ⟨(hfree name l hown).1, (hfree name l hown).2, ?_⟩
        rintro r' name' ⟨other, hother, hown'⟩
        rcases document?_addDocument hother with ⟨rfl, rfl⟩ | hold'
        · exact ⟨rfl, hunique name' name l hown' hown⟩
        · exact absurd ⟨other, hold', hown'⟩ ((hfree name l hown).2 r' name')
      · exact Or.inl ⟨found, hold, hown⟩
  | @newSlot s d f slot _ hd hf hslot hfree =>
      have hnodup := hdecl.fieldNames_nodup (hsound.schema hd)
      -- an owner in the changed document is the new slot, or a slot that was there
      have hcases : ∀ name', (d.putSlot slot).Owns name' l → d.Owns name' l ∨
          (name' = slot.name ∧ f.kind.isList = true ∧ slot.shared = false ∧
            slot.value = .list l) := by
        rintro name' ⟨g, hg, hgname, hglist, found, hfound, hfname, hshared, hvalue⟩
        obtain ⟨old, hold, heq⟩ := List.mem_map.mp hfound
        split at heq
        · subst heq
          have hname : g.name = f.name := by rw [hgname, ← hfname, hslot.name]
          obtain rfl : g = f := List.inj_on_of_nodup_map hnodup hg hf hname
          exact Or.inr ⟨hfname.symm, hglist, hshared, hvalue⟩
        · subst heq
          exact Or.inl ⟨g, hg, hgname, hglist, old, hold, hfname, hshared, hvalue⟩
      obtain ⟨found, hfound, hown⟩ := ho
      rcases document?_putDocument hd hfound with ⟨rfl, rfl⟩ | ⟨_, hold⟩
      · rcases hcases name hown with hown | ⟨hname, hlist, hshared, hvalue⟩
        · exact Or.inl ⟨d, hd, hown⟩
        · obtain ⟨hm, hfree⟩ := hfree hlist hshared l hvalue
          refine Or.inr ⟨hm, hfree, ?_⟩
          rintro r' name' ⟨other, hother, hown'⟩
          rcases document?_putDocument hd hother with ⟨rfl, rfl⟩ | ⟨_, hold'⟩
          · rcases hcases name' hown' with hown' | ⟨hname', _⟩
            · exact absurd ⟨d, hd, hown'⟩ (hfree r' name')
            · exact ⟨rfl, hname'.trans hname.symm⟩
          · exact absurd ⟨other, hold', hown'⟩ (hfree r' name')
      · exact Or.inl ⟨found, hold, hown⟩

theorem ownersUnique (hdecl : Declared types) (hsound : h.Sound types) (hold : h.OwnersUnique)
    (hc : Change types n m h later) : later.OwnersUnique := by
  intro r r' name name' l ho ho'
  rcases hc.owns hdecl hsound ho with hbefore | ⟨_, _, honly⟩
  · rcases hc.owns hdecl hsound ho' with hbefore' | ⟨_, _, honly'⟩
    · exact hold r r' name name' l hbefore hbefore'
    · exact honly' r name ho
  · obtain ⟨hr, hname⟩ := honly r' name' ho'
    exact ⟨hr.symm, hname.symm⟩

theorem ownsFrom (hdecl : Declared types) (hsound : h.Sound types) (hold : h.OwnsFrom n m)
    (hc : Change types n m h later) : later.OwnsFrom n m := by
  intro r name l hr ho
  rcases hc.owns hdecl hsound ho with hbefore | ⟨hm, _, _⟩
  · exact hold r name l hr hbefore
  · exact hm

theorem ready (hdecl : Declared types) (hready : h.Ready types n m)
    (hc : Change types n m h later) : later.Ready types n m where
  sound := hc.sound hdecl hready.sound
  own := hc.ownsFrom hdecl hready.sound hready.own
  documents := Nat.le_trans hready.documents hc.documents_length_le
  lists := Nat.le_trans hready.lists hc.lists_length_le

/-- A list that comes before the bound stays free. -/
theorem free (hdecl : Declared types) (hsound : h.Sound types)
    (hc : Change types n m h later) {l : ListRef} (hl : l.index < m) (hfree : h.Free l) :
    later.Free l := by
  intro r name ho
  rcases hc.owns hdecl hsound ho with hbefore | ⟨hm, _, _⟩
  · exact hfree r name hbefore
  · exact Nat.not_le_of_lt hl hm

/-- A new document may own new lists, each in one field. -/
theorem newDocument_of_pairs (hdecl : Declared types) {d : Document} (hschema : d.schema ∈ types)
    (hfits : d.Fits h)
    (hfree : ∀ p ∈ d.schema.fields.zip d.slots, ∀ l, OwnsAt p l → m ≤ l.index ∧ h.Free l)
    (hpairs : (d.schema.fields.zip d.slots).Pairwise fun p q =>
      ∀ l, OwnsAt p l → ¬ OwnsAt q l) :
    Change types n m h (h.addDocument d).2 := by
  have hnodup := hdecl.fieldNames_nodup hschema
  refine .newDocument hschema hfits ?_ ?_
  · intro name l ho
    obtain ⟨p, hp, _, hown⟩ := ho.pair hfits hnodup
    exact hfree p hp l hown
  · intro name name' l ho ho'
    obtain ⟨p, hp, hname, hown⟩ := ho.pair hfits hnodup
    obtain ⟨q, hq, hname', hown'⟩ := ho'.pair hfits hnodup
    by_cases heq : p = q
    · rw [← hname, ← hname', heq]
    · have hsymm : Std.Symm fun p q : Field × Slot => ∀ l, OwnsAt p l → ¬ OwnsAt q l :=
        ⟨fun _ _ hpq l hq hp => hpq l hp hq⟩
      exact absurd hown' (hpairs.forall hp hq heq l hown)

end Change

/-- A list that is not in the heap is free, as the lists in the slots are. -/
theorem Sound.free_of_list?_eq_none {types : List Schema} {h : Heap} (hsound : h.Sound types)
    (hdecl : Declared types) {l : ListRef} (hl : h.list? l = none) : h.Free l := by
  rintro r name ⟨d, hd, f, hf, hname, hlist, slot, hslot, hsname, _, hvalue⟩
  obtain ⟨g, hg, hfits⟩ := (hsound.fits hd).field_of_slot hslot
  have hnames : g.name = f.name := by rw [← hfits.name, hsname, hname]
  obtain rfl : g = f := hdecl.field_eq_of_name_eq (hsound.schema hd) hg hf hnames
  have hadmits := hfits.value
  rw [hvalue] at hadmits
  cases hkind : g.kind with
  | list schema =>
      rw [hkind] at hadmits
      obtain ⟨r', l', hr', hl', _⟩ := hadmits
      obtain rfl : l = r' := by injection hr'
      rw [hl] at hl'
      cases hl'
  | _ => simp [hkind, Kind.isList] at hlist

namespace Changes

variable {types : List Schema} {n m : Nat} {a b c h later : Heap}

theorem refl (h : Heap) : Changes types n m h h :=
  Relation.ReflTransGen.refl

theorem trans (hab : Changes types n m a b) (hbc : Changes types n m b c) :
    Changes types n m a c :=
  Relation.ReflTransGen.trans hab hbc

theorem single (hc : Change types n m a b) : Changes types n m a b :=
  Relation.ReflTransGen.single hc

theorem weaken {n' m' : Nat} (hn : n' ≤ n) (hm : m' ≤ m) (hc : Changes types n m a b) :
    Changes types n' m' a b := by
  induction hc with
  | refl => exact .refl a
  | tail _ hstep ih => exact ih.trans (.single (hstep.weaken hn hm))

theorem keeps (hc : Changes types n m h later) : h.Keeps n m later := by
  induction hc with
  | refl => exact .refl n m h
  | tail _ hstep ih => exact ih.trans hstep.keeps

theorem grows (hc : Changes types n m h later) : h.Grows later :=
  hc.keeps.grows

theorem documents_length_le (hc : Changes types n m h later) :
    h.documents.length ≤ later.documents.length := by
  induction hc with
  | refl => exact Nat.le_refl _
  | tail _ hstep ih => exact Nat.le_trans ih hstep.documents_length_le

theorem lists_length_le (hc : Changes types n m h later) :
    h.lists.length ≤ later.lists.length := by
  induction hc with
  | refl => exact Nat.le_refl _
  | tail _ hstep ih => exact Nat.le_trans ih hstep.lists_length_le

theorem sound (hdecl : Declared types) (hsound : h.Sound types)
    (hc : Changes types n m h later) : later.Sound types := by
  induction hc with
  | refl => exact hsound
  | tail _ hstep ih => exact hstep.sound hdecl ih

theorem ready (hdecl : Declared types) (hready : h.Ready types n m)
    (hc : Changes types n m h later) : later.Ready types n m := by
  induction hc with
  | refl => exact hready
  | tail _ hstep ih => exact hstep.ready hdecl ih

theorem ownersUnique (hdecl : Declared types) (hsound : h.Sound types) (hold : h.OwnersUnique)
    (hc : Changes types n m h later) : later.OwnersUnique := by
  induction hc with
  | refl => exact hold
  | tail hrun hstep ih => exact hstep.ownersUnique hdecl (Changes.sound hdecl hsound hrun) ih

theorem free (hdecl : Declared types) (hsound : h.Sound types)
    (hc : Changes types n m h later) {l : ListRef} (hl : l.index < m) (hfree : h.Free l) :
    later.Free l := by
  induction hc with
  | refl => exact hfree
  | tail hrun hstep ih => exact hstep.free hdecl (Changes.sound hdecl hsound hrun) hl ih

end Changes

end Heap

end DocumentModel
