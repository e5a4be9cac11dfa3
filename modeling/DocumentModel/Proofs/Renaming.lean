/-
Lists under other references.

Which reference a list has does not show: two heaps that are the same but for the references of some
lists have the same data.  They are judged alike, too, as long as item checks treat the lists alike
under both references.  A check can do otherwise only if it knows one of the lists already.
-/
import DocumentModel.Proofs.Containment
import DocumentModel.Proofs.Validity
import DocumentModel.Validation.Checks
import DocumentModel.Validation.Visits
import Mathlib.Logic.Function.Basic

namespace DocumentModel

variable {π : ListRef → ListRef}

namespace Value

mutual

/-- The value with other references for its lists. -/
def rename (π : ListRef → ListRef) : Value → Value
  | .array items => .array (renameItems π items)
  | .map entries => .map (renameEntries π entries)
  | .list l => .list (π l)
  | .document r => .document r
  | .null => .null
  | .bool b => .bool b
  | .int n => .int n
  | .float x => .float x
  | .text s => .text s
  | .instant t => .instant t
  | .objectId id => .objectId id

def renameItems (π : ListRef → ListRef) : List Value → List Value
  | [] => []
  | v :: rest => rename π v :: renameItems π rest

def renameEntries (π : ListRef → ListRef) : List (String × Value) → List (String × Value)
  | [] => []
  | (key, v) :: rest => (key, rename π v) :: renameEntries π rest

end

theorem renameItems_eq_map (items : List Value) : renameItems π items = items.map (rename π) := by
  induction items with
  | nil => rfl
  | cons v rest ih => rw [renameItems, ih, List.map_cons]

theorem renameEntries_eq_map (entries : List (String × Value)) :
    renameEntries π entries = entries.map fun e => (e.1, e.2.rename π) := by
  induction entries with
  | nil => rfl
  | cons e rest ih =>
      obtain ⟨key, v⟩ := e
      rw [renameEntries, ih, List.map_cons]

section

variable (document : DocRef → Json) (list : ListRef → Json)

mutual

theorem toJsonWith_rename : (v : Value) →
    (v.rename π).toJsonWith document list = v.toJsonWith document fun l => list (π l)
  | .array items => by rw [rename, toJsonWith, toJsonWith, itemsToJson_rename items]
  | .map entries => by rw [rename, toJsonWith, toJsonWith, entriesToJson_rename entries]
  | .list _ => rfl
  | .document _ => rfl
  | .null => rfl
  | .bool _ => rfl
  | .int _ => rfl
  | .float _ => rfl
  | .text _ => rfl
  | .instant _ => rfl
  | .objectId _ => rfl

theorem itemsToJson_rename : (items : List Value) →
    itemsToJson document list (renameItems π items) =
      itemsToJson document (fun l => list (π l)) items
  | [] => rfl
  | v :: rest => by
      rw [renameItems, itemsToJson, itemsToJson, toJsonWith_rename v, itemsToJson_rename rest]

theorem entriesToJson_rename : (entries : List (String × Value)) →
    entriesToJson document list (renameEntries π entries) =
      entriesToJson document (fun l => list (π l)) entries
  | [] => rfl
  | (key, v) :: rest => by
      rw [renameEntries, entriesToJson, entriesToJson, toJsonWith_rename v,
        entriesToJson_rename rest]

end

end

section

variable (items : ListRef → List DocRef)

mutual

theorem handles_rename : (v : Value) →
    (v.rename π).handles items = v.handles fun l => items (π l)
  | .array values => by rw [rename, handles, handles, itemHandles_rename values]
  | .map entries => by rw [rename, handles, handles, entryHandles_rename entries]
  | .list _ => rfl
  | .document _ => rfl
  | .null => rfl
  | .bool _ => rfl
  | .int _ => rfl
  | .float _ => rfl
  | .text _ => rfl
  | .instant _ => rfl
  | .objectId _ => rfl

theorem itemHandles_rename : (values : List Value) →
    itemHandles items (renameItems π values) = itemHandles (fun l => items (π l)) values
  | [] => rfl
  | v :: rest => by
      rw [renameItems, itemHandles, itemHandles, handles_rename v, itemHandles_rename rest]

theorem entryHandles_rename : (entries : List (String × Value)) →
    entryHandles items (renameEntries π entries) = entryHandles (fun l => items (π l)) entries
  | [] => rfl
  | (key, v) :: rest => by
      rw [renameEntries, entryHandles, entryHandles, handles_rename v, entryHandles_rename rest]

end

end

end Value

def Slot.rename (π : ListRef → ListRef) (slot : Slot) : Slot :=
  { slot with value := slot.value.rename π }

def Document.rename (π : ListRef → ListRef) (d : Document) : Document :=
  { d with slots := d.slots.map (Slot.rename π) }

/-- What documents and lists hold, seen under other references.  `π` is its own inverse. -/
def Contents.rename (π : ListRef → ListRef) (c : Contents) : Contents where
  values r := (c.values r).map fun e => (e.1, e.2.rename π)
  items l := c.items (π l)

theorem Contents.rename_only (c : Contents) (seen : List DocRef) :
    (c.rename π).only seen = (c.only seen).rename π := by
  rw [only, only, rename, rename]
  congr 1
  funext r
  exact (apply_ite (List.map fun e => (e.1, Value.rename π e.2)) (r ∈ seen) (c.values r) []).symm

/-- Two item checks do the same if they are told the same, the one under the references of the
other. -/
inductive Check.Mirrors (π : ListRef → ListRef) : Check → Check → Prop
  | done : Mirrors π .done .done
  | report {field message : String} {next next' : Check} (hnext : Mirrors π next next') :
      Mirrors π (.report field message next) (.report field message next')
  | errorsSoFar {next next' : Errors → Check} (hnext : ∀ e, Mirrors π (next e) (next' e)) :
      Mirrors π (.errorsSoFar next) (.errorsSoFar next')
  | fieldValue {name : String} {next next' : Option Value → Check}
      (hnext : ∀ v?, Mirrors π (next v?) (next' (v?.map (Value.rename π)))) :
      Mirrors π (.fieldValue name next) (.fieldValue name next')
  | ownErrors {next next' : Errors → Check} (hnext : ∀ e, Mirrors π (next e) (next' e)) :
      Mirrors π (.ownErrors next) (.ownErrors next')
  | errorsOf {r : DocRef} {next next' : Errors → Check}
      (hnext : ∀ e, Mirrors π (next e) (next' e)) :
      Mirrors π (.errorsOf r next) (.errorsOf r next')
  | contents {looks looks' : Contents → List DocRef} {next next' : Contents → Check}
      (hlooks : ∀ c, looks' (c.rename π) = looks c)
      (hnext : ∀ c, Mirrors π (next c) (next' (c.rename π))) :
      Mirrors π (.contents looks next) (.contents looks' next')
  | typeName {v : Value} {next next' : String → Check}
      (hnext : ∀ name, Mirrors π (next name) (next' name)) :
      Mirrors π (.typeName v next) (.typeName (v.rename π) next')
  | delegate {f : Field} {v : Value} {next next' : Check}
      (hcheck : ∀ lengths check, f.kind = .array lengths (some check) → ∀ name item,
        Mirrors π (check name item) (check name (item.rename π)))
      (hnext : Mirrors π next next') :
      Mirrors π (.delegate f v next) (.delegate f (v.rename π) next')
  | validate {item : DocRef} {next next' : Errors → Check}
      (hnext : ∀ e, Mirrors π (next e) (next' e)) :
      Mirrors π (.validate item next) (.validate item next')

/-- The item check of a field, if it has one, treats lists alike under other references. -/
def Field.Impartial (π : ListRef → ListRef) (f : Field) : Prop :=
  ∀ lengths check, f.kind = .array lengths (some check) → ∀ name item,
    (check name item).Mirrors π (check name (item.rename π))

/-- The same of all fields of a type. -/
def Schema.Impartial (π : ListRef → ListRef) (s : Schema) : Prop :=
  ∀ f ∈ s.fields, f.Impartial π

/-! ### The ready-made checks -/

namespace Check

theorem reportAll_mirrors (field : String) (messages : List String) :
    (reportAll field messages).Mirrors π (reportAll field messages) := by
  induction messages with
  | nil => exact .done
  | cons message rest ih => exact .report ih

theorem nested_mirrors (message : String → String) (field : String) (item : Value) :
    (nested message field item).Mirrors π (nested message field (item.rename π)) := by
  cases item with
  | document r => exact .validate fun e => reportAll_mirrors field _
  | _ => exact .done

end Check

namespace Heap

/-- One heap is another under other references for its lists, and no item check tells which is
which. -/
structure Renamed (π : ListRef → ListRef) (h h' : Heap) : Prop where
  length : h'.documents.length = h.documents.length
  documents : ∀ r, h'.document? r = (h.document? r).map (Document.rename π)
  lists : ∀ l, h'.list? (π l) = h.list? l
  impartial : ∀ {r d}, h.document? r = some d → d.schema.Impartial π

end Heap

theorem Document.slot?_rename (d : Document) (name : String) :
    (d.rename π).slot? name = (d.slot? name).map (Slot.rename π) := by
  obtain ⟨schema, slots, errors⟩ := d
  simp only [rename, slot?]
  induction slots with
  | nil => rfl
  | cons slot rest ih =>
      by_cases hname : slot.name = name
      · simp [hname, Slot.rename]
      · have hname' : (slot.rename π).name ≠ name := hname
        rw [List.map_cons, List.find?_cons_of_neg (by simpa using hname'),
          List.find?_cons_of_neg (by simpa using hname), ih]

theorem Document.rejected_rename (d : Document) (name : String) :
    ((d.rename π).slot? name).map (·.rejected) = (d.slot? name).map (·.rejected) := by
  rw [slot?_rename, Option.map_map]
  rfl

theorem Document.value?_rename (d : Document) (name : String) :
    (d.rename π).value? name = (d.value? name).map (Value.rename π) := by
  rw [value?, value?, slot?_rename, Option.map_map, Option.map_map]
  rfl

theorem Document.value_rename (d : Document) (name : String) :
    (d.rename π).value name = (d.value name).rename π := by
  rw [value, value, value?_rename]
  cases d.value? name <;> rfl

namespace Heap.Renamed

variable {h h' : Heap}

theorem items_eq (hrenamed : h.Renamed π h') (l : ListRef) : h'.items (π l) = h.items l := by
  rw [items, items, hrenamed.lists]

/-! ### Data -/

theorem dataAt_eq (hrenamed : h.Renamed π h') (depth : Nat) (r : DocRef) :
    h'.dataAt depth r = h.dataAt depth r := by
  induction depth generalizing r with
  | zero => rfl
  | succ depth ih =>
      have hd' := hrenamed.documents r
      cases hd : h.document? r with
      | none =>
          rw [hd, Option.map_none] at hd'
          rw [dataAt, dataAt, hd, hd']
      | some d =>
          rw [hd, Option.map_some] at hd'
          rw [dataAt_succ hd, dataAt_succ hd']
          apply List.map_congr_left
          intro f _
          rw [Document.value_rename, toJsonAt, toJsonAt, Value.toJsonWith_rename]
          simp only [hrenamed.items_eq, ih]

theorem data_eq (hrenamed : h.Renamed π h') (r : DocRef) : h'.data r = h.data r := by
  rw [data, data, hrenamed.length]
  exact hrenamed.dataAt_eq _ r

theorem endsAt_eq (hrenamed : h.Renamed π h') (held : List DocRef) (depth : Nat) (r : DocRef) :
    h'.endsAt held depth r = h.endsAt held depth r := by
  induction depth generalizing r with
  | zero =>
      rw [endsAt, endsAt, hrenamed.documents, Option.isNone_map]
  | succ depth ih =>
      have hd' := hrenamed.documents r
      rw [endsAt, endsAt]
      cases hd : h.document? r with
      | none =>
          rw [hd, Option.map_none] at hd'
          rw [hd']
      | some d =>
          rw [hd, Option.map_some] at hd'
          have hitems : (fun l => h'.items (π l)) = h.items := funext hrenamed.items_eq
          have hends : h'.endsAt held depth = h.endsAt held depth := funext ih
          simp only [hd', Document.value_rename, Value.handles_rename, hitems, hends]
          rfl

theorem data?_eq (hrenamed : h.Renamed π h') (r : DocRef) : h'.data? r = h.data? r := by
  have hwrite : h'.canWrite [] (.document r) = h.canWrite [] (.document r) := by
    rw [canWrite, canWrite, Value.handles, Value.handles, hrenamed.length,
      funext (hrenamed.endsAt_eq [] h.documents.length)]
  rw [data?, data?, hwrite, hrenamed.data_eq]

/-! ### What validation looks at -/

variable (hrenamed : h.Renamed π h') (hπ : Function.Involutive π)

include hrenamed

theorem typeName_eq (v : Value) : h'.typeName (v.rename π) = h.typeName v := by
  cases v with
  | document r =>
      rw [Value.rename, typeName, typeName, documentType, documentType, hrenamed.documents,
        Option.map_map]
      rfl
  | list l =>
      rw [Value.rename, typeName, typeName, hrenamed.lists]
  | _ => rfl

theorem errorsOf_eq (r : DocRef) : h'.errorsOf r = h.errorsOf r := by
  rw [errorsOf, errorsOf, hrenamed.documents, Option.map_map]
  rfl

theorem messages_eq (f : Field) (v : Value) : f.messages h' (v.rename π) = f.messages h v := by
  have habsent : f.isAbsent h' (v.rename π) = f.isAbsent h v := by
    cases hkind : f.kind <;> cases v <;>
      simp [Field.isAbsent, hkind, Value.rename, hrenamed.items_eq, Value.renameItems_eq_map]
  have hkind : ∀ required absent,
      f.kind.messages required absent (v.rename π) = f.kind.messages required absent v := by
    intro required absent
    cases f.kind <;> cases v <;>
      simp [Kind.messages, Value.rename, Value.isNull, Value.asText?, Value.asBool?,
        Value.asInstant?, Value.asFloat?, Value.asInt?, Value.asObjectId?,
        Value.renameItems_eq_map]
  rw [Field.messages, Field.messages, habsent, hkind]

include hπ

theorem contents_eq : h'.contents = h.contents.rename π := by
  have hitems : ∀ l, h'.items l = h.items (π l) := fun l => by
    conv_lhs => rw [← hπ l]
    exact hrenamed.items_eq (π l)
  rw [contents, contents, Contents.rename]
  congr 1
  · funext r
    simp only [hrenamed.documents]
    cases h.document? r with
    | none => rfl
    | some d => simp [Document.rename, Slot.rename]
  · funext l
    exact hitems l

theorem contentsOf_eq {looks looks' : Contents → List DocRef}
    (hlooks : ∀ c, looks' (c.rename π) = looks c) :
    h'.contentsOf looks' = (h.contentsOf looks).rename π := by
  rw [contentsOf, contentsOf, hrenamed.contents_eq hπ, hlooks, Contents.rename_only]

omit hπ in
theorem putErrors {r : DocRef} {d : Document} (hd : h.document? r = some d) (e : Errors) :
    (h.putDocument r { d with errors := e }).Renamed π
      (h'.putDocument r { d.rename π with errors := e }) where
  length := by simpa [putDocument] using hrenamed.length
  documents q := by
    have hd' : h'.document? r = some (d.rename π) := by
      rw [hrenamed.documents, hd]
      rfl
    by_cases hq : r = q
    · subst hq
      rw [document?_putDocument_self h _ (Option.isSome_of_mem hd),
        document?_putDocument_self h' _ (Option.isSome_of_mem hd')]
      rfl
    · rw [document?_putDocument_of_ne h _ hq, document?_putDocument_of_ne h' _ hq,
        hrenamed.documents]
  lists := hrenamed.lists
  impartial {q found} hfound := by
    have himpartial := hrenamed.impartial hd
    rcases Heap.document?_putDocument hd hfound with ⟨_, rfl⟩ | ⟨_, hold⟩
    · exact himpartial
    · exact hrenamed.impartial hold

end Heap.Renamed

/-! ### Validation -/

/-- Two passes have found the same errors, in heaps that differ in references only. -/
structure Pass.Renamed (π : ListRef → ListRef) (p p' : Pass) : Prop where
  errors : p'.errors = p.errors
  heap : p.session.heap.Renamed π p'.session.heap

/-- Validating an embedded document comes to the same under other references. -/
structure SeesContents (π : ListRef → ListRef)
    (inner : DocRef → Session → Session × Errors) : Prop where
  errors : ∀ {r} {s s' : Session}, s.heap.Renamed π s'.heap → (inner r s').2 = (inner r s).2
  heap : ∀ {r} {s s' : Session}, s.heap.Renamed π s'.heap →
    (inner r s).1.heap.Renamed π (inner r s').1.heap

variable {inner : DocRef → Session → Session × Errors} {d : Document} {p p' : Pass}

theorem Pass.Renamed.addAll (hp : p.Renamed π p') (field : String) (messages : List String) :
    (p.addAll field messages).Renamed π (p'.addAll field messages) :=
  ⟨by rw [Pass.addAll, Pass.addAll, hp.errors], hp.heap⟩

theorem Pass.Renamed.foldl {α : Type} {step step' : Pass → α → Pass}
    (hstep : ∀ a {p p' : Pass}, p.Renamed π p' → (step p a).Renamed π (step' p' a))
    (as : List α) (hp : p.Renamed π p') : (as.foldl step p).Renamed π (as.foldl step' p') := by
  induction as generalizing p p' with
  | nil => exact hp
  | cons a rest ih => exact ih (hstep a hp)

/-- Judging a value comes to the same if the item checks do. -/
theorem Field.validate_renamed {f : Field} {v : Value}
    (hchecks : ∀ lengths check, f.kind = .array lengths (some check) → ∀ name item
      {p p' : Pass}, p.Renamed π p' → ((check name item).run inner d p).Renamed π
        ((check name (item.rename π)).run inner (d.rename π) p'))
    (hp : p.Renamed π p') :
    (f.validate inner d v p).Renamed π (f.validate inner (d.rename π) (v.rename π) p') := by
  have hmessages := hp.heap.messages_eq f v
  obtain ⟨name, required, default?, kind⟩ := f
  rw [validate, validate, hmessages]
  have hadded := hp.addAll name (messages p.session.heap ⟨name, required, default?, kind⟩ v)
  generalize p.addAll name _ = q at hadded
  generalize p'.addAll name _ = q' at hadded
  rw [Kind.checkItems.eq_def, Kind.checkItems.eq_def]
  cases kind with
  | array lengths check? =>
      cases check? with
      | none => exact hadded
      | some check =>
          cases v with
          | array items =>
              simp only [Value.rename, Value.renameItems_eq_map, List.foldl_map]
              exact Pass.Renamed.foldl (fun item {_ _} hp => hchecks lengths check rfl name item hp)
                items hadded
          | _ => exact hadded
  | _ => exact hadded

/-- Item checks that mirror each other find the same. -/
theorem Check.run_renamed (hπ : Function.Involutive π) (hsees : SeesContents π inner)
    {check check' : Check} (hmirrors : check.Mirrors π check') (d : Document) :
    ∀ {p p' : Pass}, p.Renamed π p' →
      (check.run inner d p).Renamed π (check'.run inner (d.rename π) p') := by
  induction hmirrors with
  | done => exact fun hp => hp
  | @report field message next next' _ ih =>
      intro p p' hp
      rw [run, run]
      exact ih ⟨congrArg (Errors.add · field message) hp.errors, hp.heap⟩
  | @errorsSoFar next next' _ ih =>
      intro p p' hp
      rw [run, run, hp.errors]
      exact ih p.errors hp
  | @fieldValue name next next' _ ih =>
      intro p p' hp
      rw [run, run, Document.value?_rename]
      exact ih (d.value? name) hp
  | @ownErrors next next' _ ih =>
      intro p p' hp
      rw [run, run]
      exact ih d.errors hp
  | @errorsOf r next next' _ ih =>
      intro p p' hp
      rw [run, run, hp.heap.errorsOf_eq]
      exact ih (p.session.heap.errorsOf r) hp
  | @contents looks looks' next next' hlooks _ ih =>
      intro p p' hp
      rw [run, run, hp.heap.contentsOf_eq hπ hlooks]
      exact ih (p.session.heap.contentsOf looks) hp
  | @typeName v next next' _ ih =>
      intro p p' hp
      rw [run, run, hp.heap.typeName_eq]
      exact ih (p.session.heap.typeName v) hp
  | @delegate f v next next' _ _ hcheck ih =>
      intro p p' hp
      rw [run, run]
      exact ih (Field.validate_renamed hcheck hp)
  | @validate item next next' _ ih =>
      intro p p' hp
      rw [run, run]
      simp only [hsees.errors hp.heap]
      exact ih (inner item p.session).2 ⟨hp.errors, hsees.heap hp.heap⟩

/-- To validate an embedded document counts as the same under other references. -/
def Visitor.SeesContents (π : ListRef → ListRef) (visitor : Visitor) : Prop :=
  ∀ {r} {s s' : Session}, s.heap.Renamed π s'.heap →
    visitor.validates r s' = visitor.validates r s

section

variable {visitor : Visitor}

namespace Pass

theorem visitsEach_map {α β : Type} (run : β → Pass → Pass) (visits : β → Pass → List DocRef)
    (g : α → β) (as : List α) (p : Pass) : visitsEach run visits (as.map g) p =
      visitsEach (fun a => run (g a)) (fun a => visits (g a)) as p := by
  induction as generalizing p with
  | nil => rfl
  | cons a rest ih => rw [List.map_cons, visitsEach, visitsEach, ih]

theorem visitsEach_renamed {α : Type} {run run' : α → Pass → Pass}
    {visits visits' : α → Pass → List DocRef} {as : List α}
    (hrun : ∀ a ∈ as, ∀ {p p' : Pass}, p.Renamed π p' → (run a p).Renamed π (run' a p'))
    (hvisits : ∀ a ∈ as, ∀ {p p' : Pass}, p.Renamed π p' → visits' a p' = visits a p)
    (hp : p.Renamed π p') : visitsEach run' visits' as p' = visitsEach run visits as p := by
  induction as generalizing p p' with
  | nil => rfl
  | cons a rest ih =>
      have hfirst := List.mem_cons_self (a := a) (l := rest)
      rw [visitsEach, visitsEach, hvisits a hfirst hp, ih
        (fun b hb => hrun b (List.mem_cons_of_mem a hb))
        (fun b hb => hvisits b (List.mem_cons_of_mem a hb)) (hrun a hfirst hp)]

end Pass

theorem Field.visits_renamed {f : Field} {v : Value}
    (hchecks : ∀ lengths check, f.kind = .array lengths (some check) → ∀ name item
      {p p' : Pass}, p.Renamed π p' → ((check name item).run inner d p).Renamed π
        ((check name (item.rename π)).run inner (d.rename π) p'))
    (hvisits : ∀ lengths check, f.kind = .array lengths (some check) → ∀ name item
      {p p' : Pass}, p.Renamed π p' →
        (check name (item.rename π)).visits inner visitor (d.rename π) p' =
          (check name item).visits inner visitor d p)
    (hp : p.Renamed π p') : f.visits inner visitor (d.rename π) (v.rename π) p' =
      f.visits inner visitor d v p := by
  have hmessages := hp.heap.messages_eq f v
  obtain ⟨name, required, default?, kind⟩ := f
  rw [visits, visits, hmessages]
  have hadded := hp.addAll name (messages p.session.heap ⟨name, required, default?, kind⟩ v)
  generalize p.addAll name _ = q at hadded
  generalize p'.addAll name _ = q' at hadded
  rw [Kind.visits.eq_def, Kind.visits.eq_def]
  cases kind with
  | array lengths check? =>
      cases check? with
      | none => rfl
      | some check =>
          cases v with
          | array items =>
              simp only [Value.rename, Value.renameItems_eq_map, Pass.visitsEach_map]
              exact Pass.visitsEach_renamed
                (fun item _ _ _ hp => hchecks lengths check rfl name item hp)
                (fun item _ _ _ hp => hvisits lengths check rfl name item hp) hadded
          | _ => rfl
  | _ => rfl

/-- Item checks that mirror each other visit the same documents. -/
theorem Check.visits_renamed (hπ : Function.Involutive π) (hsees : SeesContents π inner)
    (hcounts : visitor.SeesContents π) {check check' : Check} (hmirrors : check.Mirrors π check')
    (d : Document) : ∀ {p p' : Pass}, p.Renamed π p' →
      check'.visits inner visitor (d.rename π) p' = check.visits inner visitor d p := by
  induction hmirrors with
  | done => exact fun _ => rfl
  | @report field message next next' _ ih =>
      intro p p' hp
      rw [visits, visits]
      exact ih ⟨congrArg (Errors.add · field message) hp.errors, hp.heap⟩
  | @errorsSoFar next next' _ ih =>
      intro p p' hp
      rw [visits, visits, hp.errors]
      exact ih p.errors hp
  | @fieldValue name next next' _ ih =>
      intro p p' hp
      rw [visits, visits, Document.value?_rename]
      exact ih (d.value? name) hp
  | @ownErrors next next' _ ih =>
      intro p p' hp
      rw [visits, visits]
      exact ih d.errors hp
  | @errorsOf r next next' _ ih =>
      intro p p' hp
      rw [visits, visits, hp.heap.errorsOf_eq, ih (p.session.heap.errorsOf r) hp]
  | @contents looks looks' next next' hlooks _ ih =>
      intro p p' hp
      rw [visits, visits, hp.heap.contentsOf_eq hπ hlooks, hp.heap.contents_eq hπ, hlooks,
        ih (p.session.heap.contentsOf looks) hp]
  | @typeName v next next' _ ih =>
      intro p p' hp
      have hsame : (v.rename π).asDocument? = v.asDocument? := by cases v <;> rfl
      rw [visits, visits, hp.heap.typeName_eq, hsame, ih (p.session.heap.typeName v) hp]
  | @delegate f v next next' hcheck _ ihcheck ih =>
      intro p p' hp
      have hruns := fun lengths check hkind name item {p p' : Pass} (hp : p.Renamed π p') =>
        Check.run_renamed hπ hsees (hcheck lengths check hkind name item) d hp
      rw [visits, visits, Field.visits_renamed hruns ihcheck hp,
        ih (Field.validate_renamed hruns hp)]
  | @validate item next next' _ ih =>
      intro p p' hp
      rw [visits, visits, hcounts hp.heap]
      simp only [hsees.errors hp.heap]
      exact congrArg _ (ih (inner item p.session).2 ⟨hp.errors, hsees.heap hp.heap⟩)

end

namespace Document

theorem judge_renamed (hπ : Function.Involutive π) (hsees : SeesContents π inner) {f : Field}
    (hf : f.Impartial π) (d : Document) (hp : p.Renamed π p') :
    (d.judge inner p f).Renamed π ((d.rename π).judge inner p' f) := by
  rw [judge, judge, rejected_rename, value_rename]
  exact Field.validate_renamed
    (fun lengths check hkind name item _ _ hp =>
      Check.run_renamed hπ hsees (hf lengths check hkind name item) d hp)
    (hp.addAll f.name _)

theorem visits_renamed {visitor : Visitor} (hπ : Function.Involutive π)
    (hsees : SeesContents π inner) (hcounts : visitor.SeesContents π) {f : Field}
    (hf : f.Impartial π) (d : Document) (hp : p.Renamed π p') :
    (d.rename π).visits inner visitor f p' = d.visits inner visitor f p := by
  rw [visits, visits, rejected_rename, value_rename]
  exact Field.visits_renamed
    (fun lengths check hkind name item _ _ hp =>
      Check.run_renamed hπ hsees (hf lengths check hkind name item) d hp)
    (fun lengths check hkind name item _ _ hp =>
      Check.visits_renamed hπ hsees hcounts (hf lengths check hkind name item) d hp)
    (hp.addAll f.name _)

theorem visitsEach_renamed {visitor : Visitor} (hπ : Function.Involutive π)
    (hsees : SeesContents π inner) (hcounts : visitor.SeesContents π) (d : Document)
    {fields : List Field} (hfields : ∀ f ∈ fields, f.Impartial π) (hp : p.Renamed π p') :
    Pass.visitsEach (fun f p => (d.rename π).judge inner p f) ((d.rename π).visits inner visitor)
        fields p' =
      Pass.visitsEach (fun f p => d.judge inner p f) (d.visits inner visitor) fields p :=
  Pass.visitsEach_renamed (fun f hf _ _ => judge_renamed hπ hsees (hfields f hf) d)
    (fun f hf _ _ => visits_renamed hπ hsees hcounts (hfields f hf) d) hp

theorem foldl_judge_renamed (hπ : Function.Involutive π) (hsees : SeesContents π inner)
    (d : Document) (fields : List Field) (hfields : ∀ f ∈ fields, f.Impartial π)
    (hp : p.Renamed π p') :
    (fields.foldl (d.judge inner) p).Renamed π (fields.foldl ((d.rename π).judge inner) p') := by
  induction fields generalizing p p' with
  | nil => exact hp
  | cons f rest ih =>
      obtain ⟨hf, hrest⟩ := List.forall_mem_cons.mp hfields
      exact ih hrest (judge_renamed hπ hsees hf d hp)

end Document

namespace Session

theorem putErrors_renamed {s s' : Session} (hheap : s.heap.Renamed π s'.heap) (r : DocRef)
    (e : Errors) : (s.putErrors r e).heap.Renamed π (s'.putErrors r e).heap := by
  have hd' := hheap.documents r
  rw [putErrors, putErrors]
  cases hd : s.heap.document? r with
  | none =>
      rw [hd, Option.map_none] at hd'
      rw [hd']
      exact hheap
  | some d =>
      rw [hd, Option.map_some] at hd'
      rw [hd']
      exact hheap.putErrors hd e

theorem validateAt_seesContents (hπ : Function.Involutive π) (depth : Nat) :
    SeesContents π (validateAt depth) := by
  induction depth with
  | zero => exact ⟨fun _ => rfl, fun hheap => hheap⟩
  | succ depth ih =>
      have hstep : ∀ {r} {s s' : Session}, s.heap.Renamed π s'.heap →
          (validateAt (depth + 1) r s').2 = (validateAt (depth + 1) r s).2 ∧
            (validateAt (depth + 1) r s).1.heap.Renamed π
              (validateAt (depth + 1) r s').1.heap := by
        intro r s s' hheap
        have hd' := hheap.documents r
        rw [validateAt, validateAt]
        cases hd : s.heap.document? r with
        | none =>
            rw [hd, Option.map_none] at hd'
            rw [hd']
            exact ⟨rfl, hheap⟩
        | some d =>
            rw [hd, Option.map_some] at hd'
            rw [hd']
            have hstart : Pass.Renamed π ⟨s, .empty⟩ ⟨s', .empty⟩ := ⟨rfl, hheap⟩
            have hpass := d.foldl_judge_renamed hπ ih d.schema.fields (hheap.impartial hd) hstart
            simp only [show (d.rename π).schema = d.schema from rfl]
            generalize d.schema.fields.foldl (d.judge (validateAt depth)) ⟨s, .empty⟩ = p at hpass
            generalize d.schema.fields.foldl ((d.rename π).judge (validateAt depth))
              ⟨s', .empty⟩ = p' at hpass
            have hput := putErrors_renamed hpass.heap r p.errors
            refine ⟨hpass.errors, ?_⟩
            simp only [hpass.errors]
            split <;> exact hput
      exact ⟨fun hheap => (hstep hheap).1, fun hheap => (hstep hheap).2⟩

/-- Validation comes back to the same documents under other references. -/
theorem clashesAt_renamed (hπ : Function.Involutive π) (depth : Nat) {held : List DocRef}
    {r : DocRef} {s s' : Session} (hheap : s.heap.Renamed π s'.heap) :
    clashesAt depth held r s' = clashesAt depth held r s := by
  induction depth generalizing held r s s' with
  | zero => rfl
  | succ depth ih =>
      have hd' := hheap.documents r
      rw [clashesAt, clashesAt]
      cases hd : s.heap.document? r with
      | none =>
          rw [hd, Option.map_none] at hd'
          rw [hd']
      | some d =>
          rw [hd, Option.map_some] at hd'
          rw [hd']
          have hstart : Pass.Renamed π ⟨s, .empty⟩ ⟨s', .empty⟩ := ⟨rfl, hheap⟩
          simp only [show (d.rename π).schema = d.schema from rfl]
          rw [Document.visitsEach_renamed hπ (validateAt_seesContents hπ depth) ih d
            (hheap.impartial hd) hstart]

theorem clashes_renamed (hπ : Function.Involutive π) {s s' : Session}
    (hheap : s.heap.Renamed π s'.heap) (r : DocRef) : s'.clashes r = s.clashes r := by
  rw [clashes, clashes, hheap.length, clashesAt_renamed hπ _ hheap]

/-- Validation finds the same errors under other references. -/
theorem validate_renamed (hπ : Function.Involutive π) {s s' : Session}
    (hheap : s.heap.Renamed π s'.heap) (r : DocRef) :
    (s'.validate r).1 = (s.validate r).1 ∧
      (s.validate r).2.heap.Renamed π (s'.validate r).2.heap := by
  rw [validate, validate, hheap.length]
  have hsees := validateAt_seesContents hπ s.heap.documents.length
  exact ⟨congrArg Errors.isEmpty (hsees.errors hheap), hsees.heap hheap⟩

end Session

end DocumentModel
