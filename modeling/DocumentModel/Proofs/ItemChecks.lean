/-
The calls of item checks.

A validation takes the fields in turn.  In its turn a field first has the faults of its own value
recorded; then the check of a plain sequence is called for each item.  The calls follow on each
other: each begins with the errors that the one before it ended with, and adds to their end.  So
what a call sees can be told from the turns and the calls before it, and it is still there, in its
place, when the validation is over, whatever the check and the fields and documents it calls upon
do.
-/
import DocumentModel.Proofs.Revalidation

namespace DocumentModel

open Heap

/-- A call of an item check: the item, and the validation when it begins and when it ends. -/
structure ItemCall where
  item : Value
  before : Pass
  after : Pass

/-- A field's turn in a validation. -/
structure Turn where
  field : Field
  before : Pass
  calls : List ItemCall
  after : Pass

namespace Pass

/-- The entries that were added to those of `p`. -/
def since (p later : Pass) : List (String × String) :=
  later.errors.entries.drop p.errors.entries.length

theorem Before.entries_eq {p later : Pass} (hbefore : p.Before later) :
    later.errors.entries = p.errors.entries ++ p.since later := by
  obtain ⟨added, hadded⟩ := hbefore
  rw [since, ← hadded, List.drop_left]

/-- Steps that follow on each other lead from one pass to another: each begins where the one before
it ended. -/
inductive Leads {α : Type} (first last : α → Pass) : Pass → List α → Pass → Prop
  | nil (p : Pass) : Leads first last p [] p
  | cons (step : α) {rest : List α} {q : Pass} (hrest : Leads first last (last step) rest q) :
      Leads first last (first step) (step :: rest) q

namespace Leads

variable {α : Type} {first last : α → Pass} {p q : Pass} {front steps : List α}

/-- Steps can be taken up anywhere. -/
theorem split {rear : List α} (hleads : Leads first last p (front ++ rear) q) :
    ∃ m, Leads first last p front m ∧ Leads first last m rear q := by
  induction front generalizing p with
  | nil => exact ⟨p, .nil p, hleads⟩
  | cons step rest ih =>
      cases hleads with
      | cons _ hrest =>
          obtain ⟨m, hfront, hrear⟩ := ih hrest
          exact ⟨m, .cons step hfront, hrear⟩

/-- If each step only adds entries, then what they lead to has those of the first pass, followed by
what each step added. -/
theorem entries_eq (hsteps : ∀ step ∈ steps, (first step).Before (last step))
    (hleads : Leads first last p steps q) :
    q.errors.entries =
      p.errors.entries ++ steps.flatMap fun step => (first step).since (last step) := by
  induction hleads with
  | nil p => simp
  | @cons step rest q hrest ih =>
      obtain ⟨hstep, hothers⟩ := List.forall_mem_cons.mp hsteps
      rw [ih hothers, hstep.entries_eq, List.flatMap_cons, List.append_assoc]

/-- What a step begins with is what the steps before it added, and it is all still there at the
end. -/
theorem at_step (hsteps : ∀ step ∈ steps, (first step).Before (last step))
    (hleads : Leads first last p steps q) {step : α} {rear : List α}
    (heq : steps = front ++ step :: rear) :
    (first step).errors.entries =
        p.errors.entries ++ (front.flatMap fun step => (first step).since (last step)) ∧
      (last step).Before q := by
  subst heq
  obtain ⟨m, hfront, hrear⟩ := hleads.split
  cases hrear with
  | cons _ hrear =>
      refine ⟨hfront.entries_eq fun a ha => hsteps a (List.mem_append_left _ ha), ?_⟩
      rw [Before, hrear.entries_eq fun a ha =>
        hsteps a (List.mem_append_right _ (List.mem_cons_of_mem _ ha))]
      exact List.prefix_append _ _

/-- What every step keeps is so before each of them and at the end. -/
theorem keeps {P : Pass → Prop} (hsteps : ∀ step ∈ steps, P (first step) → P (last step))
    (hleads : Leads first last p steps q) (hp : P p) : (∀ step ∈ steps, P (first step)) ∧ P q := by
  induction hleads with
  | nil p => exact ⟨by simp, hp⟩
  | @cons step rest q hrest ih =>
      obtain ⟨hstep, hothers⟩ := List.forall_mem_cons.mp hsteps
      obtain ⟨hall, hq⟩ := ih hothers (hstep hp)
      exact ⟨List.forall_mem_cons.mpr ⟨hp, hall⟩, hq⟩

end Leads

end Pass

/-- The entries that a call added. -/
def ItemCall.added (call : ItemCall) : List (String × String) :=
  call.before.since call.after

/-- The entries that were added in a field's turn. -/
def Turn.added (turn : Turn) : List (String × String) :=
  turn.before.since turn.after

/-- The items that the check of a field is called for: those of the sequence that it stores. -/
def Document.checkedItems (d : Document) (f : Field) : List Value :=
  match f.kind, d.value f.name with
  | .array _ (some _), .array items => items
  | _, _ => []

/-- There is no item in null. -/
theorem Document.checkedItems_of_null {d : Document} {f : Field} (hnull : d.value f.name = .null) :
    d.checkedItems f = [] := by
  rw [checkedItems, hnull]
  split
  · next heq => cases heq
  · rfl

variable {inner : DocRef → Session → Session × Errors} {d : Document}

/-- What happens in a field's turn: its faults are recorded, and then its check is called for each
item. -/
structure Turn.Runs (inner : DocRef → Session → Session × Errors) (d : Document)
    (turn : Turn) : Prop where
  items : turn.calls.map ItemCall.item = d.checkedItems turn.field
  call : ∀ call ∈ turn.calls, ∃ lengths check, turn.field.kind = .array lengths (some check) ∧
    call.after = (check turn.field.name call.item).run inner d call.before
  leads : Pass.Leads ItemCall.before ItemCall.after
    (turn.before.addAll turn.field.name (d.faults turn.before.session.heap turn.field))
    turn.calls turn.after

/-! ### Every validation has its turns and calls -/

/-- A check that is run for some items is called for each of them. -/
theorem Pass.exists_calls (inner : DocRef → Session → Session × Errors) (d : Document)
    (check : Value → Check) (items : List Value) (p : Pass) :
    ∃ calls : List ItemCall, calls.map ItemCall.item = items ∧
      (∀ call ∈ calls, call.after = (check call.item).run inner d call.before) ∧
      Pass.Leads ItemCall.before ItemCall.after p calls
        (items.foldl (fun p item => (check item).run inner d p) p) := by
  induction items generalizing p with
  | nil => exact ⟨[], rfl, by simp, .nil p⟩
  | cons item rest ih =>
      obtain ⟨calls, hitems, hcalls, hleads⟩ := ih ((check item).run inner d p)
      let call : ItemCall := ⟨item, p, (check item).run inner d p⟩
      exact ⟨call :: calls, by rw [List.map_cons, hitems],
        List.forall_mem_cons.mpr ⟨rfl, hcalls⟩, .cons call hleads⟩

namespace Document

theorem exists_turn (inner : DocRef → Session → Session × Errors) (d : Document) (f : Field)
    (p : Pass) :
    ∃ turn : Turn, turn.field = f ∧ turn.before = p ∧ turn.after = d.judge inner p f ∧
      turn.Runs inner d := by
  let told := p.addAll f.name (d.faults p.session.heap f)
  by_cases hchecked : ∃ lengths check items,
      f.kind = .array lengths (some check) ∧ d.value f.name = .array items
  · obtain ⟨lengths, check, items, hkind, hvalue⟩ := hchecked
    obtain ⟨calls, hitems, hcalls, hleads⟩ := Pass.exists_calls inner d (check f.name) items told
    refine ⟨⟨f, p, calls, d.judge inner p f⟩, rfl, rfl, rfl, ?_, ?_, ?_⟩
    · rw [checkedItems, hkind, hvalue]
      exact hitems
    · exact fun call hcall => ⟨lengths, check, hkind, hcalls call hcall⟩
    · rw [judge_eq, hkind, hvalue, Kind.checkItems.eq_def]
      exact hleads
  · -- there is no check, or nothing to call it for
    refine ⟨⟨f, p, [], d.judge inner p f⟩, rfl, rfl, rfl, ?_, by simp, ?_⟩
    · rw [checkedItems]
      split
      · next lengths check items hkind hvalue =>
          exact absurd ⟨lengths, check, items, hkind, hvalue⟩ hchecked
      · rfl
    · have hjudge : d.judge inner p f = told := by
        rw [judge_eq, Kind.checkItems.eq_def]
        split
        · next lengths check hkind =>
            split
            · next items hvalue =>
                exact absurd ⟨lengths, check, items, hkind, hvalue⟩ hchecked
            · rfl
        · rfl
      rw [hjudge]
      exact .nil told

/-- Judging some fields gives each of them its turn. -/
theorem exists_turns (inner : DocRef → Session → Session × Errors) (d : Document)
    (fields : List Field) (p : Pass) :
    ∃ turns : List Turn, turns.map Turn.field = fields ∧ (∀ turn ∈ turns, turn.Runs inner d) ∧
      Pass.Leads Turn.before Turn.after p turns (fields.foldl (d.judge inner) p) := by
  induction fields generalizing p with
  | nil => exact ⟨[], rfl, by simp, .nil p⟩
  | cons f rest ih =>
      obtain ⟨turn, rfl, rfl, hafter, hruns⟩ := d.exists_turn inner f p
      obtain ⟨turns, hfields, hturns, hleads⟩ := ih (d.judge inner turn.before turn.field)
      refine ⟨turn :: turns, by rw [List.map_cons, hfields],
        List.forall_mem_cons.mpr ⟨hruns, hturns⟩, .cons turn ?_⟩
      rw [hafter]
      exact hleads

end Document

/-! ### What a turn and a call add -/

namespace Turn.Runs

variable {turn : Turn}

theorem call_before (hruns : turn.Runs inner d) {call : ItemCall} (hcall : call ∈ turn.calls) :
    call.before.Before call.after := by
  obtain ⟨_, check, _, hafter⟩ := hruns.call call hcall
  rw [hafter]
  exact Check.run_steady (Pass.before_steady inner) d _ call.before

/-- In its turn a field adds what is wrong with its value, and then what the calls of its check
add. -/
theorem entries_after (hruns : turn.Runs inner d) :
    turn.after.errors.entries = turn.before.errors.entries ++
      ((d.faults turn.before.session.heap turn.field).map (fun m => (turn.field.name, m)) ++
        turn.calls.flatMap ItemCall.added) := by
  rw [hruns.leads.entries_eq fun _ => hruns.call_before, Pass.entries_addAll, List.append_assoc]
  rfl

theorem before_after (hruns : turn.Runs inner d) : turn.before.Before turn.after := by
  rw [Pass.Before, hruns.entries_after]
  exact List.prefix_append _ _

theorem added_eq (hruns : turn.Runs inner d) :
    turn.added =
      (d.faults turn.before.session.heap turn.field).map (fun m => (turn.field.name, m)) ++
        turn.calls.flatMap ItemCall.added := by
  rw [Turn.added, Pass.since, hruns.entries_after, List.drop_left]

/-- Lists stay as they are. -/
theorem lists_after (hmarks : OnlyMarks inner) (hruns : turn.Runs inner d) :
    turn.after.session.heap.lists = turn.before.session.heap.lists := by
  apply (hruns.leads.keeps (P := fun p => p.session.heap.lists = turn.before.session.heap.lists)
    ?_ rfl).2
  intro call hcall hlists
  obtain ⟨_, check, _, hafter⟩ := hruns.call call hcall
  rw [hafter, ← hlists]
  exact (Check.run_steady hmarks.steady d _ call.before).lists

end Turn.Runs

/-! ### What a check goes through -/

/-- The run of a check from `p` goes through a pass.  A field that is asked to judge a value may run
a check of its own. -/
inductive Check.Through (inner : DocRef → Session → Session × Errors) (d : Document) :
    Check → Pass → Pass → Prop
  | here (c : Check) (p : Pass) : Through inner d c p p
  | report {field message : String} {next : Check} {p q : Pass}
      (hnext : Through inner d next { p with errors := p.errors.add field message } q) :
      Through inner d (.report field message next) p q
  | errorsSoFar {next : Errors → Check} {p q : Pass}
      (hnext : Through inner d (next p.errors) p q) : Through inner d (.errorsSoFar next) p q
  | fieldValue {name : String} {next : Option Value → Check} {p q : Pass}
      (hnext : Through inner d (next (d.value? name)) p q) :
      Through inner d (.fieldValue name next) p q
  | ownErrors {next : Errors → Check} {p q : Pass}
      (hnext : Through inner d (next d.errors) p q) : Through inner d (.ownErrors next) p q
  | errorsOf {r : DocRef} {next : Errors → Check} {p q : Pass}
      (hnext : Through inner d (next (p.session.heap.errorsOf r)) p q) :
      Through inner d (.errorsOf r next) p q
  | contents {looks : Contents → List DocRef} {next : Contents → Check} {p q : Pass}
      (hnext : Through inner d (next (p.session.heap.contentsOf looks)) p q) :
      Through inner d (.contents looks next) p q
  | typeName {v : Value} {next : String → Check} {p q : Pass}
      (hnext : Through inner d (next (p.session.heap.typeName v)) p q) :
      Through inner d (.typeName v next) p q
  | judging {f : Field} {lengths : LengthRules} {check : String → Value → Check}
      (hkind : f.kind = .array lengths (some check)) {front rear : List Value} {item : Value}
      {next : Check} {p q : Pass}
      (hitem : Through inner d (check f.name item)
        (front.foldl (fun p item => (check f.name item).run inner d p)
          (p.addAll f.name (f.messages p.session.heap (.array (front ++ item :: rear))))) q) :
      Through inner d (.delegate f (.array (front ++ item :: rear)) next) p q
  | judged {f : Field} {v : Value} {next : Check} {p q : Pass}
      (hnext : Through inner d next (f.validate inner d v p) q) :
      Through inner d (.delegate f v next) p q
  | validated {item : DocRef} {next : Errors → Check} {p q : Pass}
      (hnext : Through inner d (next (inner item p.session).2)
        { p with session := (inner item p.session).1 } q) :
      Through inner d (.validate item next) p q

/-- To judge a sequence is to run the check for its items up to one, for that one, and for the
rest. -/
theorem Field.validate_array {f : Field} {lengths : LengthRules}
    {check : String → Value → Check} (hkind : f.kind = .array lengths (some check))
    (items : List Value) (p : Pass) :
    f.validate inner d (.array items) p =
      items.foldl (fun p item => (check f.name item).run inner d p)
        (p.addAll f.name (f.messages p.session.heap (.array items))) := by
  obtain ⟨name, required, default?, kind⟩ := f
  subst hkind
  rw [Field.validate, Kind.checkItems.eq_def]

/-- Wherever a check is in its run, nothing that it found is gone, and nothing that is there will be
gone when it ends. -/
theorem Check.Through.between {c : Check} {p q : Pass} (hthrough : c.Through inner d p q) :
    p.Before q ∧ q.Before (c.run inner d p) := by
  have hsteady := Pass.before_steady inner
  induction hthrough with
  | here c p => exact ⟨.refl p, c.run_steady hsteady d p⟩
  | @report field message next p q _ ih =>
      rw [Check.run]
      exact ⟨(hsteady.report p field message).trans ih.1, ih.2⟩
  | errorsSoFar _ ih | fieldValue _ ih | ownErrors _ ih | errorsOf _ ih | contents _ ih
  | typeName _ ih =>
      rw [Check.run]
      exact ih
  | @judging f lengths check hkind front rear item next p q _ ih =>
      have htold := p.before_addAll f.name
        (f.messages p.session.heap (.array (front ++ item :: rear)))
      have hitems := hsteady.foldl fun p item => (check f.name item).run_steady hsteady d p
      refine ⟨(htold.trans (hitems front _)).trans ih.1, ?_⟩
      rw [Check.run]
      apply Pass.Before.trans ?_ (next.run_steady hsteady d _)
      rw [Field.validate_array hkind, List.foldl_append, List.foldl_cons]
      exact ih.2.trans (hitems rear _)
  | @judged f v next p q _ ih =>
      rw [Check.run]
      exact ⟨(f.validate_steady hsteady d v p).trans ih.1, ih.2⟩
  | validated _ ih =>
      rw [Check.run]
      exact ih

/-! ### The calls of a validation -/

theorem Field.isAbsent_array {h : Heap} {f : Field} {lengths : LengthRules}
    {check? : Option (String → Value → Check)} (hkind : f.kind = .array lengths check?)
    (items : List Value) : f.isAbsent h (.array items) = items.isEmpty := by
  obtain ⟨name, required, default?, kind⟩ := f
  subst hkind
  rfl

namespace Document

/-- What is wrong with a stored sequence itself: it was refused, it is missing, its length. -/
theorem faults_array {h : Heap} {f : Field} {lengths : LengthRules}
    {check? : Option (String → Value → Check)} (hkind : f.kind = .array lengths check?)
    {items : List Value} (hvalue : d.value f.name = .array items) :
    d.faults h f = (if d.refused f.name then [notAList] else []) ++
      ((if f.required && items.isEmpty then [isRequired] else []) ++
        lengths.messages items.length "items") := by
  rw [faults, hvalue, Field.messages, Field.isAbsent_array hkind, hkind]
  rfl

end Document

namespace Session

/-- Validation takes the fields in turn, and in the turn of a sequence calls its check once for each
item, in their order, and never for null.  What is there when a call begins is what was added in the
turns before, then what is wrong with the sequence itself, then what the calls before it added.  All
that the check goes through from there, whatever fields and documents it calls upon, keeps that in
its place, and so does the final result keep all that the check went through. -/
theorem validate_calls_item_checks (s : Session) {r : DocRef} {d : Document}
    (hd : s.heap.document? r = some d) :
    ∃ (turns : List Turn) (final : Pass),
      turns.map Turn.field = d.schema.fields ∧
      (∀ turn ∈ turns, turn.Runs (validateAt (s.heap.documents.length - 1)) d) ∧
      Pass.Leads Turn.before Turn.after ⟨s, .empty⟩ turns final ∧
      (s.validate r).2.heap.document? r = some { d with errors := final.errors } ∧
      ∀ earlier turn later, turns = earlier ++ turn :: later →
        turn.added = (d.faults s.heap turn.field).map (fun m => (turn.field.name, m)) ++
          turn.calls.flatMap ItemCall.added ∧
        (d.value turn.field.name = .null → turn.calls = []) ∧
        ∀ lengths check items, turn.field.kind = .array lengths (some check) →
          d.value turn.field.name = .array items →
          turn.calls.map ItemCall.item = items ∧
          ∀ before call after, turn.calls = before ++ call :: after →
            call.before.errors.entries =
              earlier.flatMap Turn.added ++
              ((if d.refused turn.field.name then [notAList] else []) ++
                ((if turn.field.required && items.isEmpty then [isRequired] else []) ++
                  lengths.messages items.length "items")).map (fun m => (turn.field.name, m)) ++
              before.flatMap ItemCall.added ∧
            call.after.errors.entries = call.before.errors.entries ++ call.added ∧
            ∀ q, (check turn.field.name call.item).Through
              (validateAt (s.heap.documents.length - 1)) d call.before q →
              call.before.errors.entries <+: q.errors.entries ∧
              q.errors.entries <+: call.after.errors.entries ∧
              call.after.errors.entries <+: final.errors.entries := by
  have hlt := document?_lt hd
  obtain ⟨depth, hdepth⟩ : ∃ depth, s.heap.documents.length = depth + 1 :=
    ⟨s.heap.documents.length - 1, by omega⟩
  obtain ⟨hfound, hleft⟩ := document?_validateAt depth hd
  obtain ⟨turns, hfields, hruns, hleads⟩ :=
    d.exists_turns (validateAt depth) d.schema.fields ⟨s, .empty⟩
  rw [validate, hdepth, Nat.add_sub_cancel]
  refine ⟨turns, _, hfields, hruns, hleads, hfound ▸ hleft, ?_⟩
  intro earlier turn later hturns
  have hmem : turn ∈ turns := hturns ▸ List.mem_append_right _ List.mem_cons_self
  have hturn := hruns turn hmem
  have hlists : turn.before.session.heap.lists = s.heap.lists :=
    (hleads.keeps (P := fun p => p.session.heap.lists = s.heap.lists)
      (fun turn ht hlists => ((hruns turn ht).lists_after (validateAt_marked depth)).trans hlists)
      rfl).1 turn hmem
  have hfaults : d.faults turn.before.session.heap turn.field = d.faults s.heap turn.field :=
    Document.faults_congr hlists rfl
  obtain ⟨hseen, hfinal⟩ := hleads.at_step (fun turn ht => (hruns turn ht).before_after) hturns
  refine ⟨hfaults ▸ hturn.added_eq, ?_, ?_⟩
  · intro hnull
    have hitems := hturn.items
    rw [Document.checkedItems_of_null hnull] at hitems
    exact List.map_eq_nil_iff.mp hitems
  · intro lengths check items hkind hvalue
    have hitems := hturn.items
    rw [Document.checkedItems, hkind, hvalue] at hitems
    refine ⟨hitems, ?_⟩
    intro before call after hcalls
    have hcall : call ∈ turn.calls := hcalls ▸ List.mem_append_right _ List.mem_cons_self
    obtain ⟨hstart, hrest⟩ := hturn.leads.at_step (fun _ => hturn.call_before) hcalls
    rw [Pass.entries_addAll, hseen, hfaults, Document.faults_array hkind hvalue] at hstart
    refine ⟨hstart, (hturn.call_before hcall).entries_eq, ?_⟩
    intro q hq
    obtain ⟨lengths', check', hkind', hafter⟩ := hturn.call call hcall
    obtain ⟨rfl, rfl⟩ : lengths' = lengths ∧ check' = check := by
      simpa using hkind'.symm.trans hkind
    rw [hafter] at hrest ⊢
    exact ⟨hq.between.1, hq.between.2, hrest.trans hfinal⟩

end Session

/-! A cargo list.  One check reports under the name of another field, one counts what it sees, one
asks a field of its own to judge each item, and one validates each item. -/

def crateType : Schema :=
  .embedded 0 "Crate" [⟨"weight", true, none, .integer ⟨some 1, none⟩⟩]

def counting : String → Value → Check :=
  .reportCount fun n => "after " ++ toString n

def cargoFields : List Field :=
  [⟨"marks", false, none, .array .free (some (.reportElsewhere "crates" fun _ => "marks misread"))⟩,
    ⟨"notes", true, none, .array ⟨none, none, some 1⟩ (some counting)⟩,
    ⟨"rows", false, none, .array .free
      (some (.judgedBy ⟨"row", false, none, .array ⟨none, some 2, none⟩ (some counting)⟩))⟩,
    ⟨"crates", false, none, .array .free (some (.nested fun _ => "may not be sent"))⟩,
    ⟨"seals", true, none, .array .free (some counting)⟩]

def cargoType : Schema :=
  .document 1 "Cargo" cargoFields

def cargoRun : Session :=
  [.new crateType, .new cargoType, .set ⟨1⟩ "marks" (.array [.int 3]),
    .set ⟨1⟩ "notes" (.array [.text "wet", .text "old"]),
    .set ⟨1⟩ "rows" (.array [.array [.int 1], .null]),
    .set ⟨1⟩ "crates" (.array [.document ⟨0⟩])].foldl Operation.perform .empty

def cargo : Document :=
  ⟨cargoType,
    [⟨"marks", .array [.int 3], false, false⟩,
      ⟨"notes", .array [.text "wet", .text "old"], false, false⟩,
      ⟨"rows", .array [.array [.int 1], .null], false, false⟩,
      ⟨"crates", .array [.document ⟨0⟩], false, false⟩, ⟨"seals", .array [], false, false⟩], .empty⟩

/-- Five turns with six calls, the first of which reports for a field whose turn is yet to come, and
the entries that they leave. -/
theorem validate_calls_item_checks_cargo :
    ∃ (turns : List Turn) (final : Pass),
      turns.map (fun turn => turn.calls.map ItemCall.item) =
        [[.int 3], [.text "wet", .text "old"], [.array [.int 1], .null], [.document ⟨0⟩], []] ∧
      Pass.Leads Turn.before Turn.after ⟨cargoRun, .empty⟩ turns final ∧
      final.errors.entries =
        [("crates", "marks misread"), ("notes", "is too long (maximum is 1 items)"),
          ("notes", "after 2"), ("notes", "after 3"), ("row", "is too short (minimum is 2 items)"),
          ("row", "after 5"), ("crates", "may not be sent"), ("seals", "is required")] := by
  obtain ⟨turns, final, hfields, hruns, hleads, hleft, _⟩ :=
    Session.validate_calls_item_checks cargoRun (r := ⟨1⟩) (d := cargo) rfl
  have hitems : turns.map (fun turn => turn.calls.map ItemCall.item) =
      cargo.schema.fields.map cargo.checkedItems := by
    rw [← hfields, List.map_map]
    exact List.map_congr_left fun turn hturn => (hruns turn hturn).items
  refine ⟨turns, final, hitems, hleads, ?_⟩
  have hfound : ((cargoRun.validate ⟨1⟩).2.heap.document? ⟨1⟩).map (·.errors.entries) =
      some [("crates", "marks misread"), ("notes", "is too long (maximum is 1 items)"),
        ("notes", "after 2"), ("notes", "after 3"), ("row", "is too short (minimum is 2 items)"),
        ("row", "after 5"), ("crates", "may not be sent"), ("seals", "is required")] := rfl
  rw [hleft] at hfound
  exact Option.some.inj hfound

end DocumentModel
