/-
Hydration is isolated.

What hydration puts in the place of objects and sequences is new, at every depth, and nothing that
was there before leads to it.  The other way round, what was there before can be reached from the
new document by way of declared defaults only, in fields that had nothing to be filled from.
-/
import DocumentModel.Proofs.ListOwnership
import DocumentModel.Proofs.Unfolding

namespace DocumentModel

/-- A document or a list. -/
def Value.IsReference : Value → Prop
  | .document _ => True
  | .list _ => True
  | _ => False

namespace Heap

/-- The documents and lists that documents hold are all in the heap. -/
def Closed (h : Heap) : Prop :=
  ∀ r d, h.document? r = some d → ∀ f ∈ d.schema.fields, (d.value f.name).Within h

/-- A document or a list that was not there, and that nothing leads to that was there. -/
def NewSince (h later : Heap) (w : Value) : Prop :=
  ¬ w.Within h ∧ ∀ v, v.Within h → ¬ later.Occurs w v

/-- A document or a list is reached from a document through a field that still has its declared
default: there is no member for the field in the data of the document, or one that was kept out. -/
structure ByDefault (h later : Heap) (w : Value) (data : Json.Object) (r : DocRef) (f : Field) :
    Prop where
  kept : ∀ j, data.get? f.name = some j → f.kind.KeepsOut j
  default : ∃ u, f.default? = some (.value u) ∧ h.Occurs w u
  held : ∃ d, later.document? r = some d ∧ later.Occurs w (d.value f.name)

/-- An object in some JSON and a document in a value are in the same place, and the document is to
be of type `t`. -/
inductive Counterpart (h : Heap) (t : Schema) (data : Json.Object) (r : DocRef) :
    Schema → Json → Value → Prop
  | self : Counterpart h t data r t (.obj data) (.document r)
  | field {s u : Schema} {x : Json.Object} {q : DocRef} {d : Document} {f : Field} {j : Json}
      (hd : h.document? q = some d) (hf : f ∈ s.fields) (hkind : f.kind.schema? = some u)
      (hj : x.get? f.name = some j) (hnests : f.kind.nests j = true)
      (hpart : Counterpart h t data r u j (d.value f.name)) :
      Counterpart h t data r s (.obj x) (.document q)
  | item {s : Schema} {items : List Json} {own : ListRef} {l : DocumentList}
      {p : Json.Object × DocRef} (hl : h.list? own = some l)
      (hp : p ∈ (Json.objects items).zip l.items)
      (hpart : Counterpart h t data r s (.obj p.1) (.document p.2)) :
      Counterpart h t data r s (.arr items) (.list own)

end Heap

theorem Json.length_objects (items : List Json) :
    (Json.objects items).length = items.countP Json.isObj := by
  rw [Json.objects, List.length_filterMap_eq_countP]
  refine congrFun (congrArg _ (funext fun item => ?_)) items
  cases item <;> rfl

theorem Kind.exists_schema_of_nests {kind : Kind} {j : Json} (hnests : kind.nests j = true) :
    ∃ t, kind.schema? = some t := by
  cases kind with
  | embedded schema => exact ⟨schema, rfl⟩
  | list schema => exact ⟨schema, rfl⟩
  | _ => cases hnests

namespace Heap

variable {types : List Schema} {h later : Heap} {v w : Value}

/-! ### What leads where -/

theorem Occurs.within (hsound : h.Sound types) (hclosed : h.Closed) (hw : h.Occurs w v)
    (hv : v.Within h) : w.Within h := by
  induction hw with
  | self => exact hv
  | item hitem _ ih =>
      cases hv with
      | array hitems => exact ih (hitems _ hitem)
  | entry he _ ih =>
      cases hv with
      | map hentries => exact ih (hentries _ he)
  | listItem hl hitem _ ih =>
      obtain ⟨d, hd, _⟩ := documentIsA_iff.mp (hsound.items hl _ hitem)
      exact ih (.document (by rw [hd]; rfl))
  | field hd hf _ ih => exact ih (hclosed _ _ hd _ hf)

/-- From what was there, all is reached that was reached before, and nothing else. -/
theorem Occurs.of_stays (hsound : h.Sound types) (hclosed : h.Closed) (hstays : h.Stays later)
    (hw : later.Occurs w v) (hv : v.Within h) : h.Occurs w v := by
  induction hw with
  | self => exact .self
  | item hitem _ ih =>
      cases hv with
      | array hitems => exact .item hitem (ih (hitems _ hitem))
  | entry he _ ih =>
      cases hv with
      | map hentries => exact .entry he (ih (hentries _ he))
  | listItem hl hitem _ ih =>
      cases hv with
      | list hr =>
          obtain ⟨l, hold⟩ := Option.isSome_iff_exists.mp hr
          obtain rfl := Option.some.inj ((hstays.list hold).symm.trans hl)
          have hin := (Occurs.listItem hold hitem .self).within hsound hclosed (.list hr)
          exact .listItem hold hitem (ih hin)
  | field hd hf _ ih =>
      cases hv with
      | document hr =>
          obtain ⟨d, hold⟩ := Option.isSome_iff_exists.mp hr
          obtain rfl := Option.some.inj ((hstays.document hold).symm.trans hd)
          exact .field hold hf (ih (hclosed _ _ hold _ hf))

theorem newSince_of_not_within (hsound : h.Sound types) (hclosed : h.Closed)
    (hstays : h.Stays later) (hw : ¬ w.Within h) : h.NewSince later w :=
  ⟨hw, fun _ hv hoccurs =>
    hw ((hoccurs.of_stays hsound hclosed hstays hv).within hsound hclosed hv)⟩

theorem not_within_document {r : DocRef} (hr : h.documents.length ≤ r.index) :
    ¬ (Value.document r).Within h := by
  intro hin
  cases hin with
  | document hsome =>
      obtain ⟨d, hd⟩ := Option.isSome_iff_exists.mp hsome
      exact Nat.not_lt_of_le hr (document?_lt hd)

theorem not_within_list {l : ListRef} (hl : h.lists.length ≤ l.index) :
    ¬ (Value.list l).Within h := by
  intro hin
  cases hin with
  | list hsome =>
      obtain ⟨c, hc⟩ := Option.isSome_iff_exists.mp hsome
      exact Nat.not_lt_of_le hl (list?_lt hc)

/-- A value without references leads to no document and to no list. -/
theorem not_isReference_of_flat (hv : v.Flat) (hw : h.Occurs w v) : ¬ w.IsReference := by
  induction hw with
  | self =>
      intro href
      cases w with
      | document r => exact Value.Flat.not_document hv
      | list l => exact Value.Flat.not_list hv
      | _ => cases href
  | item hitem _ ih => exact ih (hv.of_array _ hitem)
  | entry he _ ih =>
      cases hv with
      | map hentries => exact ih (hentries _ he)
  | listItem _ _ _ _ => exact absurd hv Value.Flat.not_list
  | field _ _ _ _ => exact absurd hv Value.Flat.not_document

/-! ### What is in the place of JSON -/

variable {m n : Nat} {s t : Schema} {j : Json} {data : Json.Object} {r : DocRef}

theorem Counterpart.unfolds (hpart : later.Counterpart t data r s j v)
    (hv : later.Unfolds m n s j v) : later.Unfolds m n t (.obj data) (.document r) := by
  induction hpart generalizing n with
  | self => exact hv
  | field hd hf hkind hj hnests _ ih =>
      cases hv with
      | document hq hd' _ _ hnested =>
          obtain rfl := Option.some.inj (hd.symm.trans hd')
          exact (ih (hnested _ hf _ _ hkind hj hnests)).weaken (Nat.le_refl m)
            (Nat.le_succ_of_le hq)
  | item hl hp _ ih =>
      cases hv with
      | list _ hl' _ _ hitems =>
          obtain rfl := Option.some.inj (hl.symm.trans hl')
          exact ih (hitems _ hp)

/-- What has become of a member is new, and is no declared default. -/
structure Installed (h later : Heap) (f : Field) (j : Json) (slot : Slot) : Prop where
  unshared : slot.shared = false
  new : h.NewSince later slot.value
  reads : f.kind.Reads later j slot.value slot.rejected

theorem Unfolds.not_within (hm : h.lists.length ≤ m) (hn : h.documents.length ≤ n)
    (hv : later.Unfolds m n s j v) : ¬ v.Within h := by
  cases hv with
  | document hr _ _ _ _ => exact not_within_document (Nat.le_trans hn hr)
  | list hown _ _ _ _ => exact not_within_list (Nat.le_trans hm hown)

/-- What is nested becomes what the field reads it as. -/
theorem Unfolds.reads {kind : Kind} (hkind : kind.schema? = some t) (hnests : kind.nests j = true)
    (hv : later.Unfolds m n t j v) (refused : Bool) : kind.Reads later j v refused := by
  cases kind with
  | embedded schema =>
      cases hv with
      | document _ _ _ _ _ => exact ⟨_, rfl⟩
      | list _ _ _ _ _ => cases hnests
  | list schema =>
      cases hv with
      | document _ _ _ _ _ => cases hnests
      | list _ hl _ hlength _ => exact ⟨_, _, rfl, hl, by rw [← hlength, Json.length_objects]⟩
  | _ => cases hkind

/-- A document that has been made of an object is new, and so is all that it holds in the place of
objects and sequences. -/
theorem Unfolds.installed (hdecl : Declared types) (hsound : h.Sound types) (hclosed : h.Closed)
    (hstays : h.Stays later) (hlater : later.Sound types) (hm : h.lists.length ≤ m)
    (hn : h.documents.length ≤ n) (hr : later.Unfolds m n s (.obj data) (.document r)) :
    ∃ d, later.document? r = some d ∧ d.schema = s ∧ h.NewSince later (.document r) ∧
      ∀ f ∈ s.fields, ∀ j, data.get? f.name = some j → f.kind.nests j = true →
        ∃ slot, d.slot? f.name = some slot ∧ h.Installed later f j slot := by
  have hnew := newSince_of_not_within hsound hclosed hstays (hr.not_within hm hn)
  cases hr with
  | @document _ _ _ _ d hindex hd hschema hslots hnested =>
      refine ⟨d, hd, hschema, hnew, fun f hf j hj hnests => ?_⟩
      obtain ⟨slot, hslot, _⟩ := hlater.slot_of_field hdecl hd (hschema ▸ hf)
      obtain ⟨u, hkind⟩ := Kind.exists_schema_of_nests hnests
      have hvalue := hnested f hf u j hkind hj hnests
      have hsource := hslots f hf slot hslot
      rw [Document.value_of_slot? hslot] at hvalue
      refine ⟨slot, hslot, ?_, newSince_of_not_within hsound hclosed hstays
        (hvalue.not_within hm (by omega)), hvalue.reads hkind hnests slot.rejected⟩
      rw [hj] at hsource
      cases hsource with
      | nested _ hshared => exact hshared
      | read hplain _ =>
          rw [hnests] at hplain
          cases hplain
      | initial hkept _ =>
          have hplain := (hkept j rfl).not_nests
          rw [hnests] at hplain
          cases hplain

/-- What a field started with leads to what was there by way of the declared default only. -/
theorem occurs_initial (hsound : h.Sound types) (hclosed : h.Closed) (hstays : h.Stays later)
    (hm : h.lists.length ≤ m) {f : Field}
    (hdefault : ∀ d, f.default? = some d → d.Within h) (hv : f.Initial later m v)
    (href : w.IsReference) (hw : w.Within h) (hoccurs : later.Occurs w v) :
    ∃ u, f.default? = some (.value u) ∧ h.Occurs w u := by
  have hold : ∀ {u}, f.default? = some (.value u) → u.Within h := by
    intro u hu
    cases hdefault _ hu with
    | value hu => exact hu
  cases hv with
  | flat hflat => exact absurd href (not_isReference_of_flat hflat hoccurs)
  | declared hdeclared =>
      exact ⟨v, hdeclared, hoccurs.of_stays hsound hclosed hstays (hold hdeclared)⟩
  | list hown hl hitems =>
      cases hoccurs with
      | self => exact absurd hw (not_within_list (Nat.le_trans hm hown))
      | listItem hl' hitem hoccurs =>
          obtain rfl := Option.some.inj (hl.symm.trans hl')
          obtain ⟨values, hdeclared, hmem⟩ := hitems _ hitem
          have hin := (Occurs.item hmem .self).within hsound hclosed (hold hdeclared)
          exact ⟨_, hdeclared, .item hmem (hoccurs.of_stays hsound hclosed hstays hin)⟩

/-- What was there is reached through fields that still have their declared default. -/
theorem Unfolds.byDefault (hdecl : Declared types) (hsound : h.Sound types) (hclosed : h.Closed)
    (hstays : h.Stays later) (hlater : later.Sound types) (hm : h.lists.length ≤ m)
    (hn : h.documents.length ≤ n) (hwithin : ∀ t, s.Nests t → t.Within h)
    (href : w.IsReference) (hw : w.Within h) (hv : later.Unfolds m n s j v)
    (hoccurs : later.Occurs w v) :
    ∃ t data r f, later.Counterpart t data r s j v ∧ f ∈ t.fields ∧
      h.ByDefault later w data r f := by
  induction hv with
  | @document n s data r d hr hd hschema hslots hnested ih =>
      cases hoccurs with
      | self => exact absurd hw (not_within_document (Nat.le_trans hn hr))
      | @field _ _ f hd' hf hoccurs =>
          obtain rfl := Option.some.inj (hd.symm.trans hd')
          obtain ⟨slot, hslot, _⟩ := hlater.slot_of_field hdecl hd hf
          rw [hschema] at hf
          have hsource := hslots f hf slot hslot
          have hvalue := Document.value_of_slot? hslot
          generalize hj : data.get? f.name = j? at hsource
          cases hsource with
          | @nested j _ hnests _ =>
              obtain ⟨u, hkind⟩ := Kind.exists_schema_of_nests hnests
              obtain ⟨t, x, q, g, hpart, hg, hdefault⟩ := ih f hf u j hkind hj hnests (by omega)
                (fun t ht => hwithin t (.head ⟨f, hf, hkind⟩ ht)) hoccurs
              exact ⟨t, x, q, g, .field hd hf hkind hj hnests hpart, hg, hdefault⟩
          | read _ hflat => exact absurd href (not_isReference_of_flat hflat (hvalue ▸ hoccurs))
          | initial hkept hinitial =>
              have hdefault := occurs_initial hsound hclosed hstays hm
                (hwithin s .refl f hf) hinitial href hw (hvalue ▸ hoccurs)
              exact ⟨s, data, r, f, .self, hf, hj ▸ hkept, hdefault, d, hd, hoccurs⟩
  | @list n s items own l hown hl hschema hlength hitems ih =>
      cases hoccurs with
      | self => exact absurd hw (not_within_list (Nat.le_trans hm hown))
      | @listItem _ _ item hl' hitem hoccurs =>
          obtain rfl := Option.some.inj (hl.symm.trans hl')
          have hdocuments : ((Json.objects items).zip l.items).map Prod.snd = l.items :=
            List.map_snd_zip hlength.ge
          obtain ⟨p, hp, rfl⟩ := List.mem_map.mp (hdocuments.symm ▸ hitem)
          obtain ⟨t, x, q, g, hpart, hg, hdefault⟩ := ih p hp hn hwithin hoccurs
          exact ⟨t, x, q, g, .item hl hp hpart, hg, hdefault⟩

end Heap

open Build Heap

/-- Hydration is isolated.  It leaves all that was there as it was.  What it puts in the place of
objects and sequences, at every depth, is new and no declared default, and nothing that was there
leads to it.  What was there is reached from the new document through declared defaults only, of
fields that have no member or whose member was kept out.  And hydrating data that is read alike does
the very same, so that the documents have the same data. -/
theorem hydrate_isolated {types : List Schema} (hdecl : Declared types) {h later : Heap}
    (hsound : h.Sound types) (hclosed : h.Closed) {s : Schema} (hs : s ∈ types)
    (hvalues : ∀ t, s.Nests t → t.ValueDefaults) (hwithin : ∀ t, s.Nests t → t.Within h)
    {x : Json.Object} {r : DocRef} (hrun : s.hydrate x h = (.ok r, later)) :
    h.Stays later ∧
    (∀ t data q, later.Counterpart t data q s (.obj x) (.document r) →
      ∃ d, later.document? q = some d ∧ d.schema = t ∧ h.NewSince later (.document q) ∧
        ∀ f ∈ t.fields, ∀ j, data.get? f.name = some j → f.kind.nests j = true →
          ∃ slot, d.slot? f.name = some slot ∧ h.Installed later f j slot) ∧
    (∀ w : Value, w.IsReference → w.Within h → later.Occurs w (.document r) →
      ∃ t data q f, later.Counterpart t data q s (.obj x) (.document r) ∧ f ∈ t.fields ∧
        h.ByDefault later w data q f) ∧
    ∀ y, s.ReadsAlike x y → s.hydrate y = s.hydrate x ∧
      ∀ q last, s.hydrate y h = (.ok q, last) → last.data q = later.data r := by
  have hunfolds := Schema.hydrate_unfolds hdecl hsound s hs hvalues hrun
  have hchanges := (Schema.hydrate_runs hdecl hsound.ready x s hs).1
  rw [hrun] at hchanges
  have hstays := hchanges.keeps.stays
  have hlater := hchanges.sound hdecl hsound
  refine ⟨hstays, fun t data q hpart => ?_, fun w href hw hoccurs => ?_, fun y hy => ?_⟩
  · exact (hpart.unfolds hunfolds).installed hdecl hsound hclosed hstays hlater (Nat.le_refl _)
      (Nat.le_refl _)
  · exact hunfolds.byDefault hdecl hsound hclosed hstays hlater (Nat.le_refl _) (Nat.le_refl _)
      hwithin href hw hoccurs
  · have hsame := (Schema.hydrate_congr s hy).symm
    refine ⟨hsame, fun q last hrun' => ?_⟩
    rw [hsame, hrun] at hrun'
    obtain ⟨hq, rfl⟩ := Prod.mk.inj hrun'
    rw [Except.ok.inj hq]

/-! A library that shares a declared list of books and features one of them by default. -/

def featuredField : Field :=
  ⟨"featured", false, some (.value (.document ⟨0⟩)), .embedded bookType⟩

def booksField : Field :=
  ⟨"books", false, some (.value (.list ⟨0⟩)), .list bookType⟩

def libraryFields : List Field :=
  [featuredField, booksField]

def libraryType : Schema :=
  .document 2 "Library" libraryFields

def libraryData : Json.Object :=
  [("featured", .str "none"), ("books", .arr [.obj [], .int 7])]

def libraryMoreData : Json.Object :=
  [("town", .null), ("books", .arr [.obj [("title", .str "Emma")]]), ("featured", .str "none")]

theorem libraryTypes_declared : Declared [libraryType, shelfType, bookType] := by
  refine .document shelfTypes_declared (by decide) fun f hf => ?_
  have hbook : ∀ s, some bookType = some s → s ∈ [shelfType, bookType] ∧ s.isEmbedded = true := by
    intro s hs
    obtain rfl := Option.some.inj hs
    exact ⟨by simp, rfl⟩
  simp only [libraryFields, List.mem_cons, List.not_mem_nil, or_false] at hf
  rcases hf with rfl | rfl
  · refine ⟨hbook, fun d hd => ?_⟩
    obtain rfl := Option.some.inj hd
    exact .value (.document _)
  · refine ⟨hbook, fun d hd => ?_⟩
    obtain rfl := Option.some.inj hd
    exact .value (.list _)

theorem library_nests {t : Schema} (ht : libraryType.Nests t) : t = libraryType ∨ t = bookType := by
  induction ht with
  | refl => exact Or.inl rfl
  | tail _ hstep ih =>
      obtain ⟨f, hf, hkind⟩ := hstep
      rcases ih with rfl | rfl
      · have hfields : f ∈ libraryFields := hf
        simp only [libraryFields, List.mem_cons, List.not_mem_nil, or_false] at hfields
        rcases hfields with rfl | rfl <;> exact Or.inr (Option.some.inj hkind).symm
      · cases hf

theorem library_defaults {t : Schema} (ht : libraryType.Nests t) :
    t.ValueDefaults ∧ t.Within shelfStart.heap := by
  rcases library_nests ht with rfl | rfl
  · have hboth : ∀ f ∈ libraryFields, ∀ d, f.default? = some d →
        ∃ v, d = .value v ∧ v.Within shelfStart.heap := by
      intro f hf d hd
      simp only [libraryFields, List.mem_cons, List.not_mem_nil, or_false] at hf
      rcases hf with rfl | rfl <;> obtain rfl := Option.some.inj hd
      · exact ⟨_, rfl, .document rfl⟩
      · exact ⟨_, rfl, .list rfl⟩
    refine ⟨fun f hf d hd => ?_, fun f hf d hd => ?_⟩ <;> obtain ⟨v, rfl, hv⟩ := hboth f hf d hd
    · exact ⟨v, rfl⟩
    · exact .value hv
  · constructor <;> intro f hf <;> cases hf

theorem shelfStart_closed : shelfStart.heap.Closed := by
  intro r d hd f hf
  obtain rfl : d = ⟨bookType, [], .empty⟩ := List.mem_singleton.mp (List.mem_of_getElem? hd)
  cases hf

theorem libraryData_readsAlike : libraryType.ReadsAlike libraryData libraryMoreData := by
  have hbook : bookType.ReadsAlike [] [("title", .str "Emma")] :=
    .intro (fun f hf => by cases hf) fun f hf => by cases hf
  refine .intro (fun f hf => ?_) fun f hf j j' hj hj' => ?_
  · have hfields : f ∈ libraryFields := hf
    simp only [libraryFields, List.mem_cons, List.not_mem_nil, or_false] at hfields
    rcases hfields with rfl | rfl <;> decide
  · have hfields : f ∈ libraryFields := hf
    simp only [libraryFields, List.mem_cons, List.not_mem_nil, or_false] at hfields
    rcases hfields with rfl | rfl
    · obtain rfl := Option.some.inj hj
      obtain rfl := Option.some.inj hj'
      exact .value (.str _) (.str _) rfl (.str _)
    · obtain rfl := Option.some.inj hj
      obtain rfl := Option.some.inj hj'
      refine .list rfl fun p hp => ?_
      obtain rfl := List.mem_singleton.mp hp
      exact hbook

/-- The books come to a list of their own.  What is featured is kept out, and the library features
the book that was there. -/
theorem hydrate_isolated_library : ∃ r later d slot,
    libraryType.hydrate libraryData shelfStart.heap = (.ok r, later) ∧
    later.list? ⟨0⟩ = some ⟨bookType, [⟨0⟩]⟩ ∧
    later.document? r = some d ∧ d.slot? "books" = some slot ∧
    shelfStart.heap.Installed later booksField (.arr [.obj [], .int 7]) slot ∧
    (∃ t data q f, later.Counterpart t data q libraryType (.obj libraryData) (.document r) ∧
      f ∈ t.fields ∧ shelfStart.heap.ByDefault later (.document ⟨0⟩) data q f) ∧
    libraryType.hydrate libraryMoreData shelfStart.heap = (.ok r, later) := by
  have hsound : shelfStart.heap.Sound [libraryType, shelfType, bookType] :=
    shelfTypes_reachable.sound.mono (List.subset_cons_self _ _)
  have hrun : libraryType.hydrate libraryData shelfStart.heap =
      (.ok ⟨1⟩, (libraryType.hydrate libraryData shelfStart.heap).2) := rfl
  obtain ⟨hstays, hinstalled, hdefault, halike⟩ := hydrate_isolated libraryTypes_declared hsound
    shelfStart_closed List.mem_cons_self (fun t ht => (library_defaults ht).1)
    (fun t ht => (library_defaults ht).2) hrun
  obtain ⟨d, hd, _, _, hfields⟩ := hinstalled _ _ _ .self
  have hbooks : booksField ∈ libraryType.fields := List.mem_cons_of_mem _ List.mem_cons_self
  have hfeatured : featuredField ∈ libraryType.fields := List.mem_cons_self
  obtain ⟨slot, hslot, hnew⟩ := hfields booksField hbooks _ rfl rfl
  refine ⟨_, _, d, slot, hrun, hstays.list rfl, hd, hslot, hnew,
    hdefault (.document ⟨0⟩) trivial (.document rfl) ?_, ?_⟩
  · exact .field rfl hfeatured .self
  · rw [(halike _ libraryData_readsAlike).1]
    exact hrun

end DocumentModel
