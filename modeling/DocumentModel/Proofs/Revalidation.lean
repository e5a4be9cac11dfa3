/-
Validating again.

Validation replaces the errors of the documents that it visits: the document that was asked about,
and those that item checks go on to validate.  `Session.visited` is the list of them.  Everything
else stays: other documents wholly, and of these all but their errors.

Item checks that look at no errors from before are told the same whatever these were.  So the errors
of a visited document come out the same whatever it held, and validating again changes nothing at
all.
-/
import DocumentModel.Proofs.Reachable
import DocumentModel.Proofs.Visits
import DocumentModel.Validation.Checks

namespace DocumentModel

open Heap

variable {inner : DocRef → Session → Session × Errors}
  {validates : DocRef → Session → List DocRef} {d d' : Document} {q : DocRef}

/-- Validating an embedded document in two heaps that differ in errors only leaves a document the
same in both if it was so before or is visited. -/
def Levels (inner : DocRef → Session → Session × Errors)
    (validates : DocRef → Session → List DocRef) (q : DocRef) : Prop :=
  ∀ r (s s' : Session), s.heap.Alike False s'.heap →
    s.heap.document? q = s'.heap.document? q ∨ q ∈ validates r s →
    (inner r s).1.heap.document? q = (inner r s').1.heap.document? q

namespace Pass

variable {p p' : Pass}

/-- The session of a pass has a document as another one has it. -/
def SameAt (q : DocRef) (p p' : Pass) : Prop :=
  p.session.heap.document? q = p'.session.heap.document? q

theorem visitsEach_levels {α : Type} {run run' : α → Pass → Pass}
    {visits : α → Pass → List DocRef} {as : List α}
    (halike : ∀ a ∈ as, ∀ {p p' : Pass}, p.Alike False p' → (run a p).Alike False (run' a p'))
    (hstep : ∀ a ∈ as, ∀ {p p' : Pass}, p.Alike False p' → p.SameAt q p' ∨ q ∈ visits a p →
      (run a p).SameAt q (run' a p')) (hp : p.Alike False p')
    (hq : p.SameAt q p' ∨ q ∈ visitsEach run visits as p) :
    (as.foldl (fun p a => run a p) p).SameAt q (as.foldl (fun p a => run' a p) p') := by
  induction as generalizing p p' with
  | nil => exact hq.resolve_right (List.not_mem_nil)
  | cons a rest ih =>
      have hfirst := List.mem_cons_self (a := a) (l := rest)
      rw [visitsEach, List.mem_append, ← or_assoc] at hq
      exact ih (fun b hb => halike b (List.mem_cons_of_mem a hb))
        (fun b hb => hstep b (List.mem_cons_of_mem a hb)) (halike a hfirst hp)
        (hq.imp_left (hstep a hfirst hp))

end Pass

mutual

theorem Field.validate_levels (hsees : SeesValues False inner)
    (hinner : Levels inner validates q) (hd : d.Alike False d') (v : Value) :
    (f : Field) → f.Forgetful → {p p' : Pass} → p.Alike False p' →
    p.SameAt q p' ∨ q ∈ f.visits inner ⟨fun _ => [], validates⟩ d v p →
    (f.validate inner d v p).SameAt q (f.validate inner d' v p')
  | ⟨name, required, default?, kind⟩, hforgets, p, p', hp, hq => by
      rw [Field.visits] at hq
      rw [Field.validate, Field.validate,
        ← Field.messages_congr (lists_of_cleared_eq hp.heap.cleared)]
      exact Kind.checkItems_levels hsees hinner hd name v kind hforgets (hp.addAll name _) hq
termination_by structural f => f

theorem Kind.checkItems_levels (hsees : SeesValues False inner)
    (hinner : Levels inner validates q) (hd : d.Alike False d') (name : String)
    (v : Value) : (kind : Kind) → kind.Forgetful → {p p' : Pass} → p.Alike False p' →
    p.SameAt q p' ∨ q ∈ kind.visits inner ⟨fun _ => [], validates⟩ d name v p →
    (kind.checkItems inner d name v p).SameAt q (kind.checkItems inner d' name v p')
  | .array lengths (some check), hforgets, p, p', hp, hq => by
      rw [Kind.visits.eq_def] at hq
      rw [Kind.checkItems.eq_def, Kind.checkItems.eq_def inner d']
      cases v with
      | array items =>
          exact Pass.visitsEach_levels
            (fun item _ _ _ => Check.run_congr hsees hd (check name item)
              (Or.inr (hforgets name item)))
            (fun item _ _ _ => Check.run_levels hsees hinner hd (check name item)
              (hforgets name item)) hp hq
      | _ => exact hq.resolve_right (List.not_mem_nil)
  | .array lengths none, _, p, p', _, hq => hq.resolve_right (List.not_mem_nil)
  | .boolean, _, p, p', _, hq => hq.resolve_right (List.not_mem_nil)
  | .dateTime, _, p, p', _, hq => hq.resolve_right (List.not_mem_nil)
  | .float range, _, p, p', _, hq => hq.resolve_right (List.not_mem_nil)
  | .integer range, _, p, p', _, hq => hq.resolve_right (List.not_mem_nil)
  | .objectId, _, p, p', _, hq => hq.resolve_right (List.not_mem_nil)
  | .string rules, _, p, p', _, hq => hq.resolve_right (List.not_mem_nil)
  | .embedded schema, _, p, p', _, hq => hq.resolve_right (List.not_mem_nil)
  | .list schema, _, p, p', _, hq => hq.resolve_right (List.not_mem_nil)
termination_by structural kind => kind

theorem Check.run_levels (hsees : SeesValues False inner)
    (hinner : Levels inner validates q) (hd : d.Alike False d') :
    (check : Check) → check.Forgetful → {p p' : Pass} → p.Alike False p' →
    p.SameAt q p' ∨ q ∈ check.visits inner ⟨fun _ => [], validates⟩ d p →
    (check.run inner d p).SameAt q (check.run inner d' p')
  | .done, _, p, p', _, hq => hq.resolve_right (List.not_mem_nil)
  | .report field message next, hforgets, p, p', hp, hq => by
      rw [Check.visits] at hq
      rw [Check.run, Check.run]
      exact Check.run_levels hsees hinner hd next hforgets (hp.report field message) hq
  | .errorsSoFar next, hforgets, p, p', hp, hq => by
      rw [Check.visits] at hq
      rw [Check.run, Check.run, ← hp.errors]
      exact Check.run_levels hsees hinner hd (next p.errors) (hforgets _) hp hq
  | .fieldValue name next, hforgets, p, p', hp, hq => by
      rw [Check.visits] at hq
      rw [Check.run, Check.run, ← hd.value?]
      exact Check.run_levels hsees hinner hd (next (d.value? name)) (hforgets _) hp hq
  | .contents looks next, hforgets, p, p', hp, hq => by
      simp only [Check.visits, List.mem_append, List.mem_flatMap, List.not_mem_nil, and_false,
        exists_false, false_or] at hq
      rw [Check.run, Check.run, ← hp.contentsOf]
      exact Check.run_levels hsees hinner hd (next (p.session.heap.contentsOf looks)) (hforgets _)
        hp hq
  | .typeName v next, hforgets, p, p', hp, hq => by
      simp only [Check.visits, List.mem_append, List.mem_flatMap, List.not_mem_nil, and_false,
        exists_false, false_or] at hq
      rw [Check.run, Check.run, ← hp.typeName]
      exact Check.run_levels hsees hinner hd (next (p.session.heap.typeName v)) (hforgets _) hp hq
  | .delegate f v next, hforgets, p, p', hp, hq => by
      rw [Check.visits, List.mem_append, ← or_assoc] at hq
      rw [Check.run, Check.run]
      exact Check.run_levels hsees hinner hd next hforgets.2
        (Field.validate_congr hsees hd v f (Or.inr hforgets.1) hp)
        (hq.imp_left (Field.validate_levels hsees hinner hd v f hforgets.1 hp))
  | .validate item next, hforgets, p, p', hp, hq => by
      rw [Check.visits] at hq
      simp only [List.mem_append, ← or_assoc] at hq
      rw [Check.run, Check.run]
      simp only [← hsees.errors hp.heap]
      exact Check.run_levels hsees hinner hd (next (inner item p.session).2) (hforgets _)
        ⟨hp.errors, hsees.heap hp.heap⟩
        (hq.imp_left (hinner item p.session p'.session hp.heap))
termination_by structural check => check

end

namespace Document

theorem judge_levels (hsees : SeesValues False inner) (hinner : Levels inner validates q)
    (hd : d.Alike False d') {f : Field} (hforgets : f.Forgetful) {p p' : Pass}
    (hp : p.Alike False p')
    (hq : p.SameAt q p' ∨ q ∈ d.visits inner ⟨fun _ => [], validates⟩ f p) :
    (d.judge inner p f).SameAt q (d'.judge inner p' f) := by
  rw [visits] at hq
  rw [judge, judge, ← hd.value, ← hd.slot?]
  exact Field.validate_levels hsees hinner hd _ f hforgets (hp.addAll f.name _) hq

end Document

namespace Session

/-- What validation visits comes out the same, whatever errors were there before. -/
theorem validateAt_levels (depth : Nat) (q : DocRef) :
    Levels (validateAt depth) (visitedAt depth) q := by
  induction depth with
  | zero => exact fun r s s' _ hq => hq.resolve_right (List.not_mem_nil)
  | succ depth ih =>
      intro r s s' hheap hq
      rw [visitedAt] at hq
      cases hd : s.heap.document? r with
      | none =>
          rw [hd] at hq
          rw [validateAt, validateAt, hd, hheap.document?_eq_none hd]
          exact hq.resolve_right (List.not_mem_nil)
      | some d =>
          obtain ⟨d', hd', halike⟩ := hheap.document? hd
          by_cases hr : q = r
          · subst hr
            rw [(document?_validateAt depth hd).2, (document?_validateAt depth hd').2,
              (validateAt_seesValues False (depth + 1)).errors hheap, halike.schema, halike.slots]
          · rw [hd] at hq
            simp only [List.mem_append, List.mem_singleton, hr, or_false] at hq
            rw [heap_validateAt depth hd, heap_validateAt depth hd',
              document?_putErrors_of_ne _ _ (Ne.symm hr),
              document?_putErrors_of_ne _ _ (Ne.symm hr), ← halike.schema]
            have hsees := validateAt_seesValues False depth
            have hforgets : ∀ f ∈ d.schema.fields, f.Forgetful :=
              fun f hf => (hheap.fields hd f hf).resolve_left id
            have hstart : Pass.Alike False ⟨s, .empty⟩ ⟨s', .empty⟩ := ⟨rfl, hheap⟩
            exact Pass.visitsEach_levels
              (fun f hf _ _ => Document.judge_congr hsees halike (Or.inr (hforgets f hf)))
              (fun f hf _ _ => Document.judge_levels hsees ih halike (hforgets f hf))
              hstart hq

theorem mem_visited {s : Session} {r : DocRef} (hr : (s.heap.document? r).isSome = true) :
    r ∈ s.visited r := by
  obtain ⟨d, hd⟩ := Option.isSome_iff_exists.mp hr
  have hlt := document?_lt hd
  obtain ⟨depth, hdepth⟩ : ∃ depth, s.heap.documents.length = depth + 1 :=
    ⟨s.heap.documents.length - 1, by omega⟩
  rw [visited, hdepth, visitedAt, hd]
  exact List.mem_append_right _ List.mem_cons_self

end Session

theorem Heap.documents_length_of_cleared_eq {h h' : Heap} (hsame : h.cleared = h'.cleared) :
    h.documents.length = h'.documents.length := by
  have hmap : h.documents.map Document.cleared = h'.documents.map Document.cleared :=
    congrArg Heap.documents hsame
  simpa using congrArg List.length hmap

/-- Two heaps that differ in errors only are the same if they have the same documents. -/
theorem Heap.eq_of_cleared_eq {h h' : Heap} (hsame : h.cleared = h'.cleared)
    (hdocuments : ∀ q, h.document? q = h'.document? q) : h = h' := by
  have hlists := lists_of_cleared_eq hsame
  have hcounters : h.cleared.counters = h'.cleared.counters := congrArg Heap.counters hsame
  obtain ⟨documents, lists, counters⟩ := h
  obtain ⟨documents', lists', counters'⟩ := h'
  rw [Heap.mk.injEq]
  exact ⟨List.ext_getElem? fun i => hdocuments ⟨i⟩, hlists, hcounters⟩

namespace Session

variable {s s' : Session} {r : DocRef}

/-- Validation comes to something in both of two heaps that are alike, or in neither. -/
theorem clashes_congr {old : Prop} (hheap : s.heap.Alike old s'.heap) (r : DocRef) :
    s.clashes r = s'.clashes r := by
  rw [clashes, clashes, documents_length_of_cleared_eq hheap.cleared, clashesAt_congr _ hheap]

theorem document?_validate_congr (hheap : s.heap.Alike False s'.heap)
    (hq : s.heap.document? q = s'.heap.document? q ∨ q ∈ s.visited r) :
    (s.validate r).2.heap.document? q = (s'.validate r).2.heap.document? q := by
  rw [validate, validate, ← documents_length_of_cleared_eq hheap.cleared]
  exact validateAt_levels _ q r s s' hheap hq

/-- Where validation finds the same whatever errors were there before, it leaves the same in each
document that it visits. -/
theorem validate_of_cleared_eq (hforgets : s.heap.Forgetful)
    (hsame : s'.heap.cleared = s.heap.cleared) (r : DocRef) :
    (s'.validate r).1 = (s.validate r).1 ∧ ∀ q, q = r ∨ q ∈ s.visited r →
      (s'.validate r).2.heap.document? q = (s.validate r).2.heap.document? q := by
  have hheap := Alike.of_cleared_eq hsame.symm hforgets
  refine ⟨(validate_congr hheap r).1.symm, fun q hq =>
    (document?_validate_congr hheap ?_).symm⟩
  rcases hq with rfl | hvisited
  · cases hd : s.heap.document? q with
    | none => exact Or.inl (document?_eq_none_of_cleared_eq hsame.symm hd).symm
    | some d => exact Or.inr (mem_visited (Option.isSome_of_mem hd))
  · exact Or.inr hvisited

/-- Validation that comes back to nothing has a result.  It writes nothing but the errors of the
documents that it visits.  If no item check looks at errors from before, then whatever these were,
validation has the same result, and leaves the same in each document that it visits; so to validate
again right after changes nothing at all. -/
theorem validate_again (s : Session) (r : DocRef) (hends : s.clashes r = []) :
    ∃ found later, s.validate? r = some (found, later) ∧
      later.heap.cleared = s.heap.cleared ∧
      (∀ q, q ∉ s.visited r → later.heap.document? q = s.heap.document? q) ∧
      (s.heap.Forgetful →
        (∀ s' : Session, s'.heap.cleared = s.heap.cleared →
          ∃ later', s'.validate? r = some (found, later') ∧ ∀ q, q = r ∨ q ∈ s.visited r →
            later'.heap.document? q = later.heap.document? q) ∧
        ∃ again, later.validate? r = some (found, again) ∧ again.heap = later.heap) := by
  have hmarked := s.validate_marked r
  have hspares : ∀ q, q ∉ s.visited r →
      (s.validate r).2.heap.document? q = s.heap.document? q :=
    fun q hq => validateAt_spares _ q r s hq
  refine ⟨_, _, validate?_eq_some_iff.mpr ⟨hends, rfl⟩, hmarked.cleared_eq, hspares, ?_⟩
  intro hforgets
  have hvalidate : ∀ s' : Session, s'.heap.cleared = s.heap.cleared →
      s'.validate? r = some ((s.validate r).1, (s'.validate r).2) := by
    intro s' hsame
    have hends' : s'.clashes r = [] :=
      (clashes_congr (.of_cleared_eq hsame.symm hforgets) r).symm.trans hends
    rw [validate?_eq_some_iff, ← (validate_of_cleared_eq hforgets hsame r).1]
    exact ⟨hends', rfl⟩
  refine ⟨fun s' hsame => ?_, _, hvalidate _ hmarked.cleared_eq, ?_⟩
  · exact ⟨_, hvalidate s' hsame, (validate_of_cleared_eq hforgets hsame r).2⟩
  · refine eq_of_cleared_eq ((s.validate r).2.validate_marked r).cleared_eq fun q => ?_
    refine (document?_validate_congr (.of_cleared_eq hmarked.cleared_eq.symm hforgets) ?_).symm
    by_cases hvisited : q ∈ s.visited r
    · exact Or.inr hvisited
    · exact Or.inl (hspares q hvisited).symm

end Session

namespace Check

theorem reportAll_forgetful (field : String) (messages : List String) :
    (reportAll field messages).Forgetful := by
  induction messages with
  | nil => exact trivial
  | cons message rest ih => exact ih

theorem nested_forgetful (message : String → String) (field : String) (item : Value) :
    (nested message field item).Forgetful := by
  cases item with
  | document r => exact fun e => reportAll_forgetful field _
  | _ => exact trivial

end Check

/-! A shipment of two parcels that are one and the same, sent by a means that was no choice when it
was made; and a parcel that is not in it. -/

def parcelType : Schema :=
  .embedded 0 "Parcel" [⟨"weight", true, none, .integer ⟨some 1, none⟩⟩]

def shipmentFields : List Field :=
  [⟨"means", true, none, .string ⟨.free, none, some ["air", "sea"]⟩⟩,
    ⟨"parcels", true, none, .array .free (some (.nested fun message => "parcel: " ++ message))⟩,
    ⟨"notes", false, none, .array .free (some (.reportCount fun n => toString n ++ " before"))⟩]

def shipmentType : Schema :=
  .document 1 "Shipment" shipmentFields

def shipmentRun : Session :=
  [.new parcelType, .new parcelType,
    .withValues shipmentType [("means", .text "road"), ("notes", .array [.text "fragile"]),
      ("parcels", .array [.document ⟨0⟩, .document ⟨0⟩])]].foldl Operation.perform .empty

/-- The shipment with no error of its making left. -/
def shipmentCleared : Session :=
  { shipmentRun with heap := shipmentRun.heap.cleared }

theorem shipmentRun_forgetful : shipmentRun.heap.Forgetful := by
  have htypes : shipmentRun.heap.documents.map (·.schema) =
      [parcelType, parcelType, shipmentType] := rfl
  intro r d hd
  have htype : d.schema ∈ [parcelType, parcelType, shipmentType] :=
    htypes ▸ List.mem_map_of_mem (List.mem_of_getElem? hd)
  have hparcel : ∀ f ∈ parcelType.fields, f.Forgetful :=
    List.forall_mem_singleton.mpr trivial
  have hshipment : ∀ f ∈ shipmentType.fields, f.Forgetful :=
    List.forall_mem_cons.mpr ⟨trivial, List.forall_mem_cons.mpr
      ⟨Check.nested_forgetful _, List.forall_mem_singleton.mpr fun _ _ _ => trivial⟩⟩
  simp only [List.mem_cons, List.not_mem_nil, or_false] at htype
  rcases htype with htype | htype | htype
  · exact htype ▸ hparcel
  · exact htype ▸ hparcel
  · exact htype ▸ hshipment

theorem validate_again_shipment :
    shipmentRun.clashes ⟨2⟩ = [] ∧ shipmentRun.heap.Forgetful ∧
      ∃ later again cleared, shipmentRun.validate? ⟨2⟩ = some (false, later) ∧
        later.heap.document? ⟨1⟩ = shipmentRun.heap.document? ⟨1⟩ ∧
        later.validate? ⟨2⟩ = some (false, again) ∧ again.heap = later.heap ∧
        shipmentCleared.validate? ⟨2⟩ = some (false, cleared) := by
  have hends : shipmentRun.clashes ⟨2⟩ = [] := rfl
  have hvisited : shipmentRun.visited ⟨2⟩ = [⟨0⟩, ⟨0⟩, ⟨2⟩] := rfl
  have hcleared : shipmentCleared.heap.cleared = shipmentRun.heap.cleared := rfl
  have hinvalid : (shipmentRun.validate? ⟨2⟩).map Prod.fst = some false := rfl
  obtain ⟨found, later, hlater, _, hspares, hsame⟩ := Session.validate_again shipmentRun ⟨2⟩ hends
  obtain ⟨hother, again, hagain, hheap⟩ := hsame shipmentRun_forgetful
  obtain ⟨cleared, hresult, _⟩ := hother shipmentCleared hcleared
  obtain rfl : found = false := by simpa [hlater] using hinvalid
  exact ⟨hends, shipmentRun_forgetful, later, again, cleared, hlater,
    hspares ⟨1⟩ (by rw [hvisited]; decide), hagain, hheap, hresult⟩

/-! A tally whose check complains if nothing was wrong before; and a chest that is in itself, whose
check validates what is in it. -/

def tallyType : Schema :=
  .document 0 "Tally" [⟨"marks", false, none, .array .free (some fun field _ =>
    .ownErrors fun e => if e.isEmpty then .report field "is new" .done else .done)⟩]

def tallyRun : Session :=
  [.withValues tallyType [("marks", .array [.text "one"])]].foldl Operation.perform .empty

def chestType : Schema :=
  .embedded 0 "Chest" [⟨"things", false, none, .array .free (some (.nested id))⟩]

def chestRun : Session :=
  [.new chestType, .set ⟨0⟩ "things" (.array [.document ⟨0⟩])].foldl Operation.perform .empty

/-- A check that looks at errors from before may find something else the second time, and one that
comes back to the document has no result. -/
theorem validate_again_tally :
    (∃ later again, tallyRun.validate? ⟨0⟩ = some (false, later) ∧
      later.validate? ⟨0⟩ = some (true, again)) ∧ chestRun.validate? ⟨0⟩ = none :=
  ⟨⟨_, _, rfl, rfl⟩, rfl⟩

end DocumentModel
