/-
What a program can find in a document.
-/
import DocumentModel.Proofs.Reachable

namespace DocumentModel

/-- What is stored for a field of a kind: what could be converted has been, plain sequences are
sequences, and embedded documents and the items of lists are of the declared type. -/
def Kind.Stores (h : Heap) : Kind → Value → Prop
  | .string _, v => v = .null ∨ ∃ s, v = .text s ∧ Text.Bare s
  | .float _, v => ∀ n, v ≠ .int n
  | .objectId, v => ∀ s, v = .text s → ObjectId.parse? s = none
  | .array _ _, v => v = .null ∨ ∃ items, v = .array items
  | .embedded schema, v => v = .null ∨ ∃ r, v = .document r ∧ h.documentIsA r schema = true
  | .list schema, v => ∃ r l, v = .list r ∧ h.list? r = some l ∧
      ∀ item ∈ l.items, h.documentIsA item schema = true
  | .boolean, _ => True
  | .dateTime, _ => True
  | .integer _, _ => True

/-- The items of a list are of its own type, hence of the type that the field asks for. -/
theorem Heap.Sound.stores {types : List Schema} (hdecl : Declared types) {h : Heap}
    (hsound : h.Sound types) {kind : Kind} {v : Value} (hv : kind.Admits h v) :
    kind.Stores h v := by
  cases kind with
  | list schema =>
      obtain ⟨r, l, rfl, hl, hisA⟩ := hv
      refine ⟨r, l, rfl, hl, fun item hitem => ?_⟩
      obtain ⟨d, hd, hitemIsA⟩ := Heap.documentIsA_iff.mp (hsound.items hl item hitem)
      have hitemSchema := hsound.schema hd
      exact Heap.documentIsA_iff.mpr ⟨d, hd,
        hdecl.isA_trans (hsound.listSchema hl) hisA d.schema hitemSchema hitemIsA⟩
  | _ => exact hv

/-- In every document of a reachable state the stored names are those of the declared fields, each
stored value is one that its field stores, and only a plain sequence that is now empty can have been
refused. -/
theorem stored_values {types : List Schema} {s : Session} (hs : Reachable types s) {r : DocRef}
    {d : Document} (hd : s.heap.document? r = some d) :
    d.slots.map (·.name) = d.schema.fieldNames ∧
      ∀ f ∈ d.schema.fields, ∃ slot, d.slot? f.name = some slot ∧
        f.kind.Stores s.heap slot.value ∧
        (slot.rejected = true → f.kind.isArray = true ∧ slot.value = .array []) := by
  have hdecl := hs.declared
  have hsound := hs.sound
  refine ⟨(hsound.fits hd).names, fun f hf => ?_⟩
  obtain ⟨slot, hslot, hfit⟩ := hsound.slot_of_field hdecl hd hf
  exact ⟨slot, hslot, hsound.stores hdecl hfit.value, hfit.rejected⟩

/-! A list of labels that is given through a type that extends the declared one, and values of
the wrong kind. -/

def labelType : Schema :=
  .embedded 0 "Label" []

def colourLabelType : Schema :=
  .extend 1 labelType "ColourLabel" []

def noteFields : List Field :=
  [⟨"title", false, none, .string ⟨.free, none, none⟩⟩,
    ⟨"tags", false, none, .array .free none⟩,
    ⟨"labels", false, some (.factory (.list colourLabelType [.document colourLabelType []])),
      .list labelType⟩]

def noteType : Schema :=
  .document 2 "Note" noteFields

theorem noteTypes_declared : Declared [noteType, colourLabelType, labelType] := by
  refine .document (.extend (.embedded .nil (by simp) (by simp)) (by decide)
    (List.mem_singleton_self _) (by simp)) (by decide) ?_
  intro f hf
  simp only [noteFields, List.mem_cons, List.not_mem_nil, or_false] at hf
  rcases hf with rfl | rfl | rfl
  · exact .plain rfl rfl
  · exact .plain rfl rfl
  · constructor
    · intro s hs
      obtain rfl : labelType = s := Option.some.inj hs
      exact ⟨by simp [labelType], rfl⟩
    · intro d hd
      obtain rfl : Default.factory _ = d := Option.some.inj hd
      have hlabel : Recipe.Over [colourLabelType, labelType] (.document colourLabelType []) :=
        .document List.mem_cons_self (by simp)
      exact .factory (.list List.mem_cons_self (by simpa using hlabel))

theorem noteTypes_reachable : Reachable [noteType, colourLabelType, labelType] .empty := by
  refine .of_declared noteTypes_declared fun t ht f hf d hd => ?_
  simp only [List.mem_cons, List.not_mem_nil, or_false] at ht
  rcases ht with rfl | rfl | rfl
  · have hfields : f ∈ noteFields := hf
    simp only [noteFields, List.mem_cons, List.not_mem_nil, or_false] at hfields
    rcases hfields with rfl | rfl | rfl
    · cases hd
    · cases hd
    · obtain rfl := Option.some.inj hd
      have hlabel : Recipe.Within Heap.empty (.document colourLabelType []) := .document (by simp)
      exact .factory (.list (by simpa using hlabel))
  · cases hf
  · cases hf

def noteRun : Session :=
  [.new noteType, .set ⟨1⟩ "title" (.text " plan "), .set ⟨1⟩ "tags" (.int 3), .new labelType,
    .push ⟨0⟩ ⟨2⟩, .clone ⟨1⟩, .validate ⟨3⟩].foldl Operation.perform .empty

/-- What is left of a refused value, and a list that keeps to its own type. -/
theorem stored_values_note :
    ∃ d slot, noteRun.heap.document? ⟨3⟩ = some d ∧ d.slot? "tags" = some slot ∧
      slot.rejected = true ∧ slot.value = .array [] ∧
      d.slots.map (·.name) = ["title", "tags", "labels"] := by
  have hreachable : Reachable [noteType, colourLabelType, labelType] noteRun := by
    apply noteTypes_reachable.run
    intro op hop
    simp only [List.mem_cons, List.not_mem_nil, or_false] at hop
    rcases hop with rfl | rfl | rfl | rfl | rfl | rfl | rfl <;>
      simp [Operation.Over, Value.Proper.text, Value.Proper.int]
  obtain ⟨hnames, hvalues⟩ := stored_values hreachable (r := ⟨3⟩) rfl
  obtain ⟨slot, hslot, _, hrejected⟩ :=
    hvalues ⟨"tags", false, none, .array .free none⟩ (List.mem_cons_of_mem _ List.mem_cons_self)
  have hrefused : slot.rejected = true := by
    obtain rfl := Option.some.inj hslot
    rfl
  exact ⟨_, slot, rfl, hslot, hrefused, (hrejected hrefused).2, hnames⟩

end DocumentModel
