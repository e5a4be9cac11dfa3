/-
Values that come to an end.

Following a value down into the documents and lists that it refers to comes to an end if none of
them is missing and none comes round to itself.  What such a value flattens to does not depend on
how deep flattening may go, nor on anything that is added to the heap later.
-/
import DocumentModel.Proofs.Assignment
import DocumentModel.Proofs.Containment
import DocumentModel.Proofs.Settled

namespace DocumentModel

/-- All that is in a value is in the heap, and the way down comes to an end. -/
inductive Value.Grounded (h : Heap) : Value → Prop
  | null : Grounded h .null
  | bool (b : Bool) : Grounded h (.bool b)
  | int (n : Int64) : Grounded h (.int n)
  | float (x : Float) : Grounded h (.float x)
  | text (s : String) : Grounded h (.text s)
  | instant (t : Instant) : Grounded h (.instant t)
  | objectId (id : ObjectId) : Grounded h (.objectId id)
  | array {items : List Value} (hitems : ∀ v ∈ items, Grounded h v) : Grounded h (.array items)
  | map {entries : List (String × Value)} (hentries : ∀ e ∈ entries, Grounded h e.2) :
      Grounded h (.map entries)
  | document {r : DocRef} {d : Document} (hd : h.document? r = some d)
      (hfields : ∀ f ∈ d.schema.fields, Grounded h (d.value f.name)) : Grounded h (.document r)
  | list {r : ListRef} {l : DocumentList} (hl : h.list? r = some l)
      (hitems : ∀ item ∈ l.items, Grounded h (.document item)) : Grounded h (.list r)

namespace Value

/-! ### What is read from JSON -/

theorem mapOf_grounded {h : Heap} {entries : List (String × Value)}
    (hentries : ∀ e ∈ entries, e.2.Grounded h) : (mapOf entries).Grounded h := by
  apply Grounded.map
  intro e he
  rcases mem_foldl_insertEntry he with hnil | hmem
  · cases hnil
  · exact hentries e hmem

theorem ofWrapper?_grounded (h : Heap) {data : Json.Object} {v : Value}
    (hv : ofWrapper? data = some v) : v.Grounded h := by
  rcases ofWrapper?_cases hv with ⟨id, rfl⟩ | ⟨ms, rfl⟩
  · exact .objectId id
  · exact .instant _

mutual

/-- JSON refers to no documents. -/
theorem ofJson_grounded (h : Heap) : (j : Json) → (ofJson j).Grounded h
  | .null => .null
  | .bool b => .bool b
  | .int n => by
      rw [ofJson]
      split
      · exact .int _
      · exact .float _
  | .float x => .float x
  | .str s => .text s
  | .arr items => by
      rw [ofJson]
      exact .array (ofItems_grounded h items)
  | .obj members => by
      rw [ofJson]
      cases hwrapper : ofWrapper? members with
      | none => exact mapOf_grounded (ofMembers_grounded h members)
      | some v => exact ofWrapper?_grounded h hwrapper

theorem ofItems_grounded (h : Heap) : (items : List Json) → ∀ v ∈ ofItems items, v.Grounded h
  | [], v, hv => by cases hv
  | item :: rest, v, hv => by
      rcases List.mem_cons.mp hv with rfl | hv
      · exact ofJson_grounded h item
      · exact ofItems_grounded h rest v hv

theorem ofMembers_grounded (h : Heap) : (members : List (String × Json)) →
    ∀ e ∈ ofMembers members, e.2.Grounded h
  | [], e, he => by cases he
  | (key, value) :: rest, e, he => by
      rcases List.mem_cons.mp he with rfl | he
      · exact ofJson_grounded h value
      · exact ofMembers_grounded h rest e he

end

end Value

namespace Heap

/-- All documents and lists of a heap are as they were. -/
structure Stays (base h : Heap) : Prop where
  document : ∀ {r d}, base.document? r = some d → h.document? r = some d
  list : ∀ {l c}, base.list? l = some c → h.list? l = some c

variable {base h later : Heap} {v w : Value}

theorem Stays.refl (h : Heap) : h.Stays h :=
  ⟨fun hd => hd, fun hl => hl⟩

theorem Stays.trans (hh : base.Stays h) (hlater : h.Stays later) : base.Stays later :=
  ⟨fun hd => hlater.document (hh.document hd), fun hl => hlater.list (hh.list hl)⟩

/-- Making new documents and lists changes no old ones. -/
theorem Keeps.stays (hkeeps : h.Keeps h.documents.length h.lists.length later) : h.Stays later :=
  ⟨fun hd => hkeeps.document (document?_lt hd) hd, fun hl => hkeeps.list (list?_lt hl) hl⟩

theorem Stays.length_le (hstays : base.Stays h) : base.documents.length ≤ h.documents.length := by
  cases hlast : base.documents.length with
  | zero => exact Nat.zero_le _
  | succ last =>
      obtain ⟨d, hd⟩ : ∃ d, base.document? ⟨last⟩ = some d :=
        ⟨_, List.getElem?_eq_getElem (hlast ▸ Nat.lt_succ_self last)⟩
      exact document?_lt (hstays.document hd)

end Heap

namespace Value.Grounded

open Heap

variable {base h : Heap} {v w : Value}

theorem of_array {items : List Value} : (Value.array items).Grounded h → ∀ v ∈ items, v.Grounded h
  | .array hitems => hitems

theorem of_map {entries : List (String × Value)} :
    (Value.map entries).Grounded h → ∀ e ∈ entries, e.2.Grounded h
  | .map hentries => hentries

theorem of_document {r : DocRef} : (Value.document r).Grounded h →
    ∃ d, h.document? r = some d ∧ ∀ f ∈ d.schema.fields, (d.value f.name).Grounded h
  | .document hd hfields => ⟨_, hd, hfields⟩

theorem of_list {r : ListRef} : (Value.list r).Grounded h →
    ∃ l, h.list? r = some l ∧ ∀ item ∈ l.items, (Value.document item).Grounded h
  | .list hl hitems => ⟨_, hl, hitems⟩

theorem of_occurs (hv : v.Grounded h) (hw : h.Occurs w v) : w.Grounded h := by
  induction hw with
  | self => exact hv
  | item hmem _ ih => exact ih (hv.of_array _ hmem)
  | entry hmem _ ih => exact ih (hv.of_map _ hmem)
  | listItem hl hitem _ ih =>
      obtain ⟨l, hl', hitems⟩ := hv.of_list
      obtain rfl := Option.some.inj (hl.symm.trans hl')
      exact ih (hitems _ hitem)
  | field hd hf _ ih =>
      obtain ⟨d, hd', hfields⟩ := hv.of_document
      obtain rfl := Option.some.inj (hd.symm.trans hd')
      exact ih (hfields _ hf)

theorem mono (hstays : base.Stays h) (hv : v.Grounded base) : v.Grounded h := by
  induction hv with
  | array _ ih => exact .array ih
  | map _ ih => exact .map ih
  | document hd _ ih => exact .document (hstays.document hd) ih
  | list hl _ ih => exact .list (hstays.list hl) ih
  | _ => constructor

/-- Where the way down comes to an end, no document comes round to itself. -/
theorem not_inside (hv : v.Grounded h) : ∀ s, h.Occurs (.document s) v → ¬ h.Inside s s := by
  induction hv with
  | @array items _ ih =>
      intro s hs
      cases hs with
      | item hmem hs => exact ih _ hmem s hs
  | @map entries _ ih =>
      intro s hs
      cases hs with
      | entry hmem hs => exact ih _ hmem s hs
  | @document r d hd _ ih =>
      intro s hs hinside
      cases hs with
      | self =>
          obtain ⟨d', hd', f, hf, hoccurs⟩ := id hinside
          obtain rfl := Option.some.inj (hd.symm.trans hd')
          exact ih f hf _ hoccurs hinside
      | field hd' hf hs =>
          obtain rfl := Option.some.inj (hd.symm.trans hd')
          exact ih _ hf s hs hinside
  | @list r l hl _ ih =>
      intro s hs
      cases hs with
      | listItem hl' hitem hs =>
          obtain rfl := Option.some.inj (hl.symm.trans hl')
          exact ih _ hitem s hs
  | _ =>
      intro s hs
      cases hs

theorem acyclic {r : DocRef} (hr : (Value.document r).Grounded h) : h.Acyclic r :=
  hr.not_inside

/-! ### Flattening -/

/-- Flattening deeper than there are documents changes nothing. -/
theorem toJsonAt_eq (hv : v.Grounded h) {depth : Nat} (hdepth : h.documents.length ≤ depth) :
    h.toJsonAt depth v = h.toJson v := by
  apply toJsonWith_congr
  intro s hs
  rw [data, (hv.of_occurs hs).acyclic.shallow.dataAt_eq hdepth]

theorem toJsonAt_congr (hstays : base.Stays h) (hv : v.Grounded base) {depth : Nat}
    (hdata : ∀ s, (Value.document s).Grounded base → h.dataAt depth s = base.dataAt depth s) :
    h.toJsonAt depth v = base.toJsonAt depth v := by
  apply toJsonWith_congr_of (h := base) v
  · intro s hs
    rw [hdata s (hv.of_occurs hs)]
  · intro l hl
    obtain ⟨c, hc, hitems⟩ := (hv.of_occurs hl).of_list
    have hsame : h.items l = base.items l := by simp [items, hc, hstays.list hc]
    rw [hsame]
    congr 1
    apply List.map_congr_left
    intro item hitem
    have hmem : item ∈ c.items := by simpa [items, hc] using hitem
    rw [hdata item (hitems item hmem)]

theorem dataAt_stays (hstays : base.Stays h) (depth : Nat) {s : DocRef}
    (hs : (Value.document s).Grounded base) : h.dataAt depth s = base.dataAt depth s := by
  induction depth generalizing s with
  | zero => rfl
  | succ depth ih =>
      obtain ⟨d, hd, hfields⟩ := hs.of_document
      rw [dataAt_succ hd, dataAt_succ (hstays.document hd)]
      apply List.map_congr_left
      intro f hf
      rw [(hfields f hf).toJsonAt_congr hstays fun t ht => ih ht]

/-- What is added to the heap does not show. -/
theorem toJsonAt_stays (hstays : base.Stays h) (hv : v.Grounded base) {depth : Nat}
    (hdepth : base.documents.length ≤ depth) : h.toJsonAt depth v = base.toJson v := by
  rw [hv.toJsonAt_congr hstays fun s hs => dataAt_stays hstays depth hs, hv.toJsonAt_eq hdepth]

theorem toJson_stays (hstays : base.Stays h) (hv : v.Grounded base) :
    h.toJson v = base.toJson v :=
  hv.toJsonAt_stays hstays hstays.length_le

/-! ### Conversion -/

theorem written_stays (hstays : base.Stays h) (hv : v.Grounded base) :
    Field.written h v = Field.written base v := by
  cases v with
  | array items => exact congrArg Json.render (hv.toJson_stays hstays)
  | map entries => exact congrArg Json.render (hv.toJson_stays hstays)
  | document r => exact congrArg Json.render (hv.toJson_stays hstays)
  | list l => exact congrArg Json.render (hv.toJson_stays hstays)
  | _ => rfl

theorem coerce_stays (hstays : base.Stays h) (hv : v.Grounded base) (f : Field) :
    f.coerce h v = f.coerce base v := by
  have htext : Field.toText h v = Field.toText base v := by
    by_cases hnull : v = .null
    · rw [hnull]
      rfl
    · rw [Field.toText_eq_text_trim hnull, Field.toText_eq_text_trim hnull, hv.written_stays hstays]
  cases hkind : f.kind <;> cases v <;> simp [Field.coerce, hkind, htext]

theorem coerce (hv : v.Grounded h) (f : Field) : (f.coerce h v).Grounded h := by
  rcases f.coerce_cases h v with heq | ⟨x, heq⟩ | ⟨id, heq⟩ | ⟨s, heq⟩ <;> rw [heq]
  · exact hv
  · exact .float x
  · exact .objectId id
  · exact .text s

end Value.Grounded

end DocumentModel
