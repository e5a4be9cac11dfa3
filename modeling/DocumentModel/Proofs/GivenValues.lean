/-
Documents made with given values.

Such a document is made like any other; then the values are assigned in order, and after the last of
them the choices are looked at, once for each value given.  So what counts is what a field holds in
the end.  What is recorded then is forgotten by the next validation, which knows nothing of choices.
-/
import DocumentModel.Proofs.Defaults
import DocumentModel.Proofs.FailedSave
import DocumentModel.Proofs.Retaining

namespace DocumentModel

namespace Document

/-- A string field with choices holds a text that is none of them. -/
inductive OffChoices (d : Document) (name : String) : Prop
  | intro {f : Field} {rules : StringRules} {choices : List String} {text : String}
      (hfield : d.schema.field? name = some f) (hkind : f.kind = .string rules)
      (hchoices : rules.choices? = some choices) (hvalue : d.value? name = some (.text text))
      (hnone : text ∉ choices) : OffChoices d name

theorem violatesChoices_iff {f : Field} {v : Value} :
    f.violatesChoices v = true ↔ ∃ rules choices text, f.kind = .string rules ∧
      rules.choices? = some choices ∧ v = .text text ∧ text ∉ choices := by
  cases hkind : f.kind with
  | string rules =>
      cases v with
      | text s => cases hchoices : rules.choices? <;> simp [Field.violatesChoices, hkind, hchoices]
      | _ => simp [Field.violatesChoices, hkind]
  | _ => simp [Field.violatesChoices, hkind]

theorem value_eq_text_iff {d : Document} {name text : String} :
    d.value name = .text text ↔ d.value? name = some (.text text) := by
  rw [value]
  cases d.value? name <;> simp

theorem offChoices_iff {d : Document} {name : String} :
    d.OffChoices name ↔ ((d.schema.field? name).any fun f => f.violatesChoices (d.value name)) := by
  rw [Option.any_eq_true]
  constructor
  · rintro ⟨hfield, hkind, hchoices, hvalue, hnone⟩
    exact ⟨_, hfield, violatesChoices_iff.mpr
      ⟨_, _, _, hkind, hchoices, value_eq_text_iff.mpr hvalue, hnone⟩⟩
  · rintro ⟨f, hfield, hviolates⟩
    obtain ⟨_, _, _, hkind, hchoices, hvalue, hnone⟩ := violatesChoices_iff.mp hviolates
    exact ⟨hfield, hkind, hchoices, value_eq_text_iff.mp hvalue, hnone⟩

instance (d : Document) (name : String) : Decidable (d.OffChoices name) :=
  decidable_of_iff _ offChoices_iff.symm

/-- Whether a text is off its choices is a matter of the fields and of what they hold. -/
theorem offChoices_errors (d : Document) (e : Errors) (name : String) :
    OffChoices { d with errors := e } name ↔ d.OffChoices name := by
  rw [offChoices_iff, offChoices_iff]
  rfl

end Document

namespace Heap

variable {h mid later : Heap} {r : DocRef} {s : Schema}

/-- Looking at the choices records one error for each name that is off them. -/
theorem checkChoices_eq_filter (d : Document) (names : List String) :
    checkChoices d names = { d with errors := ⟨d.errors.entries ++
      (names.filter fun name => d.OffChoices name).map fun name => (name, notInChoices)⟩ } := by
  induction names generalizing d with
  | nil => simp [checkChoices]
  | cons name rest ih =>
      have hrecord : checkChoices d (name :: rest) = checkChoices
          { d with errors := ⟨d.errors.entries ++
            if d.OffChoices name then [(name, notInChoices)] else []⟩ } rest := by
        rw [checkChoices]
        simp only [Document.offChoices_iff]
        cases hfield : d.schema.field? name with
        | none => simp
        | some f =>
            cases hviolates : f.violatesChoices (d.value name) <;> simp [hviolates, Errors.add]
      rw [hrecord, ih]
      simp only [Document.offChoices_errors, List.filter_cons]
      by_cases hoff : d.OffChoices name <;> simp [hoff]

/-- A document of a type has a slot for each field, and no errors. -/
def HasFields (h : Heap) (r : DocRef) (s : Schema) : Prop :=
  ∃ d, h.document? r = some d ∧ d.schema = s ∧ d.slots.map (·.name) = s.fieldNames ∧
    d.errors = .empty

theorem exists_find?_of_mem_map {α : Type} {name : String} {nameOf : α → String} {l : List α}
    (hname : name ∈ l.map nameOf) : ∃ a, l.find? (fun a => nameOf a = name) = some a := by
  obtain ⟨a, ha, rfl⟩ := List.mem_map.mp hname
  exact Option.isSome_iff_exists.mp (List.find?_isSome.mpr ⟨a, ha, by simp⟩)

/-- What an assignment to a declared field does: it succeeds, and one slot is replaced. -/
theorem HasFields.set (hr : h.HasFields r s) {name : String} (hname : name ∈ s.fieldNames)
    (v : Value) : ∃ d f slot a mid later, h.document? r = some d ∧ s.field? name = some f ∧
      d.slot? name = some slot ∧
      h.assign f (if slot.shared then .null else slot.value) v = (a, mid) ∧
      h.set r name v = (.ok (), later) ∧
      later.document? r = some (d.putSlot (a.apply slot)) ∧ later.HasFields r s := by
  obtain ⟨d, hd, rfl, hslots, herrors⟩ := hr
  obtain ⟨f, hfield⟩ := exists_find?_of_mem_map hname
  obtain ⟨slot, hslot⟩ := exists_find?_of_mem_map (hslots ▸ hname)
  have hdocuments := h.documents_assign f (if slot.shared then .null else slot.value) v
  cases hassign : h.assign f (if slot.shared then .null else slot.value) v with
  | mk a mid =>
      rw [hassign] at hdocuments
      have hset : h.set r name v = (.ok (), mid.putDocument r (d.putSlot (a.apply slot))) := by
        have hfield' : d.schema.field? name = some f := hfield
        have hslot' : d.slot? name = some slot := hslot
        simp only [Heap.set, hd, hfield', hslot', hassign]
      have hmid : (mid.document? r).isSome = true := by
        rw [document?, hdocuments]
        exact Option.isSome_of_mem hd
      have hlater := document?_putDocument_self mid (d.putSlot (a.apply slot)) hmid
      refine ⟨d, f, slot, a, mid, _, hd, hfield, hslot, hassign, hset, hlater, _, hlater, rfl, ?_,
        herrors⟩
      rw [← hslots, Document.putSlot, List.map_map]
      refine List.map_congr_left fun other _ => ?_
      simp only [Function.comp_apply]
      split
      · next hsame => exact hsame.symm
      · rfl

theorem HasFields.set_unknown (hr : h.HasFields r s) {name : String} (hname : name ∉ s.fieldNames)
    (v : Value) : h.set r name v = (.error (.unknownField s.name name), h) := by
  obtain ⟨d, hd, rfl, _, _⟩ := hr
  have hfield : d.schema.field? name = none := by
    refine List.find?_eq_none.mpr fun f hf heq => hname ?_
    exact List.mem_map.mpr ⟨f, hf, of_decide_eq_true heq⟩
  simp only [Heap.set, hd, hfield]

/-- Assign fields in order, whatever comes of it. -/
def setEach (h : Heap) (r : DocRef) (values : List (String × Value)) : Heap :=
  values.foldl (fun h given => (h.set r given.1 given.2).2) h

/-- Declared fields can all be assigned, -/
theorem HasFields.setAll (hr : h.HasFields r s) {values : List (String × Value)}
    (hnames : ∀ given ∈ values, given.1 ∈ s.fieldNames) :
    h.setAll r values = (.ok (), h.setEach r values) ∧ (h.setEach r values).HasFields r s := by
  induction values generalizing h with
  | nil => exact ⟨rfl, hr⟩
  | cons given rest ih =>
      obtain ⟨hname, hrest⟩ := List.forall_mem_cons.mp hnames
      obtain ⟨_, _, _, _, _, later, _, _, _, _, hset, _, hlater⟩ := hr.set hname given.2
      rw [Heap.setAll, setEach, List.foldl_cons, hset]
      exact ih hlater hrest

/-- and the first name that is not declared is the fault. -/
theorem HasFields.setAll_unknown (hr : h.HasFields r s) {before after : List (String × Value)}
    {name : String} {v : Value} (hnames : ∀ given ∈ before, given.1 ∈ s.fieldNames)
    (hname : name ∉ s.fieldNames) :
    h.setAll r (before ++ (name, v) :: after) =
      (.error (.unknownField s.name name), h.setEach r before) := by
  induction before generalizing h with
  | nil =>
      rw [List.nil_append, Heap.setAll, hr.set_unknown hname v]
      rfl
  | cons given rest ih =>
      obtain ⟨hgiven, hrest⟩ := List.forall_mem_cons.mp hnames
      obtain ⟨_, _, _, _, _, later, _, _, _, _, hset, _, hlater⟩ := hr.set hgiven given.2
      rw [List.cons_append, Heap.setAll, setEach, List.foldl_cons, hset]
      exact ih hlater hrest

/-- Assignments to other fields leave a field alone. -/
theorem setEach_retains (h : Heap) (r : DocRef) {values : List (String × Value)} {name : String}
    (hname : name ∉ values.map Prod.fst) : h.Retains r name (h.setEach r values) := by
  induction values generalizing h with
  | nil => exact .refl h r name
  | cons given rest ih =>
      rw [List.map_cons, List.mem_cons, not_or] at hname
      exact (set_retains h (fun _ => Ne.symm hname.1) given.2).trans (ih _ hname.2)

/-- A string field holds what it was last assigned, as a text without blanks at its ends. -/
theorem HasFields.value_setEach (hr : h.HasFields r s) {before after : List (String × Value)}
    {name : String} {v : Value} {f : Field} {rules : StringRules}
    (hbefore : ∀ given ∈ before, given.1 ∈ s.fieldNames) (hfield : s.field? name = some f)
    (hkind : f.kind = .string rules) (hafter : name ∉ after.map Prod.fst) :
    ∃ d, (h.setEach r (before ++ (name, v) :: after)).document? r = some d ∧
      d.value name = f.coerce (h.setEach r before) v := by
  have hname : name ∈ s.fieldNames :=
    List.mem_map.mpr ⟨f, (Schema.mem_of_field? hfield).1, (Schema.mem_of_field? hfield).2⟩
  obtain ⟨hbeforeRun, hmid⟩ := hr.setAll hbefore
  obtain ⟨d, g, slot, a, _, later, hd, hg, hslot, hassign, hset, hlater, _⟩ := hmid.set hname v
  obtain rfl := Option.some.inj (hfield.symm.trans hg)
  have hstore : a = .store (f.coerce (h.setEach r before) v) := by
    simp only [assign, hkind] at hassign
    exact (Prod.mk.inj hassign).1.symm
  have hslotName : (a.apply slot).name = name :=
    (a.name_apply slot).trans (Document.mem_of_slot? hslot).2
  have hput := d.slot?_putSlot_self (a.apply slot) (by rw [hslotName, hslot]; rfl)
  rw [hslotName] at hput
  obtain ⟨d', hd', _, hvalue⟩ := setEach_retains later r hafter _ hlater
  refine ⟨d', ?_, ?_⟩
  · rw [← hd', setEach, List.foldl_append, List.foldl_cons]
    change (((h.setEach r before).set r name v).2.setEach r after).document? r = _
    rw [hset]
  · rw [hvalue, Document.value_of_slot? hput, hstore]
    rfl

end Heap

/-! ### What a validation forgets -/

mutual

/-- No item check of a kind reports a given text. -/
inductive Kind.Avoids (text : String) : Kind → Prop
  | plain {kind : Kind} (hplain : kind.checksItems = false) : Kind.Avoids text kind
  | items {lengths : LengthRules} {check : String → Value → Check}
      (hcheck : ∀ name item, Check.Avoids text (check name item)) :
      Kind.Avoids text (.array lengths (some check))

/-- An item check never reports a given text. -/
inductive Check.Avoids (text : String) : Check → Prop
  | done : Check.Avoids text .done
  | report {field message : String} {next : Check} (hmessage : message ≠ text)
      (hnext : Check.Avoids text next) : Check.Avoids text (.report field message next)
  | errorsSoFar {next : Errors → Check} (hnext : ∀ e, Check.Avoids text (next e)) :
      Check.Avoids text (.errorsSoFar next)
  | fieldValue {name : String} {next : Option Value → Check}
      (hnext : ∀ v?, Check.Avoids text (next v?)) : Check.Avoids text (.fieldValue name next)
  | ownErrors {next : Errors → Check} (hnext : ∀ e, Check.Avoids text (next e)) :
      Check.Avoids text (.ownErrors next)
  | errorsOf {r : DocRef} {next : Errors → Check} (hnext : ∀ e, Check.Avoids text (next e)) :
      Check.Avoids text (.errorsOf r next)
  | contents {looks : Contents → List DocRef} {next : Contents → Check}
      (hnext : ∀ c, Check.Avoids text (next c)) : Check.Avoids text (.contents looks next)
  | typeName {v : Value} {next : String → Check} (hnext : ∀ t, Check.Avoids text (next t)) :
      Check.Avoids text (.typeName v next)
  | delegate {field : Field} {v : Value} {next : Check} (hfield : Kind.Avoids text field.kind)
      (hnext : Check.Avoids text next) : Check.Avoids text (.delegate field v next)
  | validate {item : DocRef} {next : Errors → Check} (hnext : ∀ e, Check.Avoids text (next e)) :
      Check.Avoids text (.validate item next)

end

/-- There is no entry with a given text. -/
def Errors.Lacks (e : Errors) (text : String) : Prop :=
  ∀ entry ∈ e.entries, entry.2 ≠ text

namespace Errors.Lacks

variable {e : Errors} {text : String}

theorem empty (text : String) : Errors.empty.Lacks text :=
  fun entry hentry => by cases hentry

theorem add (he : e.Lacks text) (field : String) {message : String} (hmessage : message ≠ text) :
    (e.add field message).Lacks text := by
  intro entry hentry
  rcases List.mem_append.mp hentry with hold | hnew
  · exact he entry hold
  · rw [List.mem_singleton.mp hnew]
    exact hmessage

theorem addAll {p : Pass} (hp : p.errors.Lacks text) (field : String) {messages : List String}
    (hmessages : text ∉ messages) : (p.addAll field messages).errors.Lacks text := by
  intro entry hentry
  rw [Pass.entries_addAll] at hentry
  rcases List.mem_append.mp hentry with hold | hnew
  · exact hp entry hold
  · obtain ⟨m, hm, rfl⟩ := List.mem_map.mp hnew
    exact fun heq => hmessages (heq ▸ hm)

end Errors.Lacks

variable {inner : DocRef → Session → Session × Errors} {text : String}

/-! What no rule says and no item check reports is not found. -/

mutual

theorem Field.validate_lacks (hrules : ∀ h f v, text ∉ Field.messages h f v) (d : Document)
    (v : Value) : (f : Field) → f.kind.Avoids text → {p : Pass} → p.errors.Lacks text →
    (f.validate inner d v p).errors.Lacks text
  | ⟨name, required, default?, kind⟩, hkind, p, hp => by
      rw [Field.validate]
      exact Kind.checkItems_lacks hrules d name v kind hkind (hp.addAll name (hrules _ _ _))
termination_by structural f => f

theorem Kind.checkItems_lacks (hrules : ∀ h f v, text ∉ Field.messages h f v) (d : Document)
    (name : String) (v : Value) : (kind : Kind) → kind.Avoids text → {p : Pass} →
    p.errors.Lacks text → (kind.checkItems inner d name v p).errors.Lacks text
  | .array lengths (some check), hkind, p, hp => by
      rw [Kind.checkItems.eq_def]
      cases hkind with
      | plain hplain => cases hplain
      | items hcheck =>
          cases v with
          | array items =>
              simp only
              induction items generalizing p with
              | nil => exact hp
              | cons item rest ih =>
                  exact ih _ (Check.run_lacks hrules d (check name item) (hcheck name item) hp)
          | _ => exact hp
  | .array lengths none, _, p, hp => hp
  | .boolean, _, p, hp => hp
  | .dateTime, _, p, hp => hp
  | .float range, _, p, hp => hp
  | .integer range, _, p, hp => hp
  | .objectId, _, p, hp => hp
  | .string rules, _, p, hp => hp
  | .embedded schema, _, p, hp => hp
  | .list schema, _, p, hp => hp
termination_by structural kind => kind

theorem Check.run_lacks (hrules : ∀ h f v, text ∉ Field.messages h f v) (d : Document) :
    (check : Check) → check.Avoids text → {p : Pass} → p.errors.Lacks text →
    (check.run inner d p).errors.Lacks text
  | .done, _, p, hp => hp
  | .report field message next, havoids, p, hp => by
      cases havoids with
      | report hmessage hnext =>
          rw [Check.run]
          exact Check.run_lacks hrules d next hnext (hp.add field hmessage)
  | .errorsSoFar next, havoids, p, hp => by
      cases havoids with
      | errorsSoFar hnext =>
          rw [Check.run]
          exact Check.run_lacks hrules d (next p.errors) (hnext _) hp
  | .fieldValue name next, havoids, p, hp => by
      cases havoids with
      | fieldValue hnext =>
          rw [Check.run]
          exact Check.run_lacks hrules d (next (d.value? name)) (hnext _) hp
  | .ownErrors next, havoids, p, hp => by
      cases havoids with
      | ownErrors hnext =>
          rw [Check.run]
          exact Check.run_lacks hrules d (next d.errors) (hnext _) hp
  | .errorsOf r next, havoids, p, hp => by
      cases havoids with
      | errorsOf hnext =>
          rw [Check.run]
          exact Check.run_lacks hrules d (next (p.session.heap.errorsOf r)) (hnext _) hp
  | .contents looks next, havoids, p, hp => by
      cases havoids with
      | contents hnext =>
          rw [Check.run]
          exact Check.run_lacks hrules d (next (p.session.heap.contentsOf looks)) (hnext _) hp
  | .typeName v next, havoids, p, hp => by
      cases havoids with
      | typeName hnext =>
          rw [Check.run]
          exact Check.run_lacks hrules d (next (p.session.heap.typeName v)) (hnext _) hp
  | .delegate f v next, havoids, p, hp => by
      cases havoids with
      | delegate hfield hnext =>
          rw [Check.run]
          exact Check.run_lacks hrules d next hnext (Field.validate_lacks hrules d v f hfield hp)
  | .validate item next, havoids, p, hp => by
      cases havoids with
      | validate hnext =>
          rw [Check.run]
          exact Check.run_lacks hrules d (next (inner item p.session).2) (hnext _) hp
termination_by structural check => check

end

/-- The rules of a kind say what a value is, or that it is of another kind. -/
theorem Kind.says_or_mismatch (kind : Kind) (required absent : Bool) (v : Value) :
    ∀ m ∈ kind.messages required absent v, SaysWhatIs m ∨ Mismatch m := by
  have hmust : ∀ m ∈ ["must be a valid boolean", "must be a valid date and time", "must be a float",
      "must be a integer", "must be a valid Object Id"], Mismatch m := by
    simp only [Mismatch]
    decide
  by_cases hv : v = .null ∨ kind.Holds v ∨ kind.schema?.isSome = true
  · exact fun m hm => Or.inl (Kind.says_messages hv required absent m hm)
  · intro m hm
    rw [not_or, not_or] at hv
    obtain ⟨hnull, hkind, hschema⟩ := hv
    cases kind with
    | string rules => exact Or.inl (rules.says_messages required absent v m hm)
    | array lengths check? =>
        cases v with
        | null => exact absurd rfl hnull
        | array items => exact absurd ⟨items, rfl⟩ hkind
        | _ => exact Or.inr (Or.inl (List.mem_singleton.mp hm))
    | embedded schema => exact absurd rfl hschema
    | list schema => exact absurd rfl hschema
    | float range =>
        cases v with
        | null => exact absurd rfl hnull
        | float x => exact absurd ⟨x, rfl⟩ hkind
        | int n =>
            exact Or.inl (range.says_messages (· < ·) Decimal.Layout.positional.format _ m hm)
        | _ => exact Or.inr (hmust m (by simp [List.mem_singleton.mp hm]))
    | _ =>
        refine Or.inr (hmust m ?_)
        cases v with
        | null => exact absurd rfl hnull
        | _ =>
            first
            | exact absurd ⟨_, rfl⟩ hkind
            | simp [List.mem_singleton.mp hm]

/-- A text that does not say what a value is and is not about its kind is no rule's. -/
theorem Field.not_mem_messages (hwhat : ¬ SaysWhatIs text) (hkind : ¬ Mismatch text) (h : Heap)
    (f : Field) (v : Value) : text ∉ f.messages h v := by
  rw [messages]
  intro hmem
  rcases List.mem_append.mp hmem with hrequired | hrule
  · obtain ⟨_, rfl⟩ := List.mem_ite_nil_right.mp hrequired |>.imp_right List.mem_singleton.mp
    exact hwhat (by simp [SaysWhatIs, isRequired])
  · rcases f.kind.says_or_mismatch _ _ v text hrule with h | h
    · exact hwhat h
    · exact hkind h

theorem not_saysWhatIs_notInChoices : ¬ SaysWhatIs notInChoices := by
  rintro ⟨c, rest, hwhat, _⟩
  have hfirst : notInChoices.toList.head? = some 'v' := by decide
  rw [hwhat] at hfirst
  exact absurd (Option.some.inj hfirst) (by decide)

theorem not_mismatch_notInChoices : ¬ Mismatch notInChoices := by
  rw [Mismatch]
  decide

theorem Document.judge_lacks (hrules : ∀ h f v, text ∉ Field.messages h f v)
    (hrefused : text ≠ notAList) (d : Document) {f : Field} (hf : f.kind.Avoids text) {p : Pass}
    (hp : p.errors.Lacks text) : (d.judge inner p f).errors.Lacks text := by
  rw [judge]
  refine Field.validate_lacks hrules d _ f hf (hp.addAll f.name ?_)
  split
  · exact fun hmem => hrefused (List.mem_singleton.mp hmem)
  · exact List.not_mem_nil

theorem Document.foldl_judge_lacks (hrules : ∀ h f v, text ∉ Field.messages h f v)
    (hrefused : text ≠ notAList) (d : Document) {fields : List Field}
    (hfields : ∀ f ∈ fields, f.kind.Avoids text) {p : Pass} (hp : p.errors.Lacks text) :
    (fields.foldl (d.judge inner) p).errors.Lacks text := by
  induction fields generalizing p with
  | nil => exact hp
  | cons f rest ih =>
      obtain ⟨hf, hrest⟩ := List.forall_mem_cons.mp hfields
      exact ih hrest (d.judge_lacks hrules hrefused hf hp)

/-- If no item check looks at errors from before, validation of a document finds the same whatever
errors it had.  If none reports a text that is no rule's, it is not among what is found. -/
theorem Session.validate_forgets {h : Heap} {r : DocRef} {d : Document}
    (hd : h.document? r = some d) (journal : List LogRecord) :
    ∃ found : Errors,
      (Session.validate ⟨h, journal⟩ r).2.heap.document? r = some { d with errors := found } ∧
      (h.Forgetful → ∀ e : Errors,
        (Session.validate ⟨h.putDocument r { d with errors := e }, journal⟩ r).2.heap.document? r =
          some { d with errors := found }) ∧
      ((∀ h f v, text ∉ Field.messages h f v) → text ≠ notAList →
        (∀ f ∈ d.schema.fields, f.kind.Avoids text) → found.Lacks text) := by
  have hlt := Heap.document?_lt hd
  obtain ⟨depth, hdepth⟩ : ∃ depth, h.documents.length = depth + 1 :=
    ⟨h.documents.length - 1, by omega⟩
  have hfound := document?_validateAt depth (s := ⟨h, journal⟩) hd
  refine ⟨(validateAt (depth + 1) r ⟨h, journal⟩).2, ?_, fun hforgets e => ?_,
    fun hrules hrefused hfields => ?_⟩
  · rw [validate, hdepth]
    exact hfound.2
  · have hput := Heap.document?_putDocument_self h { d with errors := e } (Option.isSome_of_mem hd)
    have hsame : h.cleared = (h.putDocument r { d with errors := e }).cleared := by
      rw [Heap.cleared_putDocument]
      exact (Heap.putDocument_self (by rw [Heap.document?_cleared, hd]; rfl)).symm
    have hlength : (h.putDocument r { d with errors := e }).documents.length = depth + 1 := by
      rw [Heap.putDocument, List.length_set, hdepth]
    have halike : Heap.Alike False (Session.heap ⟨h, journal⟩)
        (Session.heap ⟨h.putDocument r { d with errors := e }, journal⟩) :=
      .of_cleared_eq hsame hforgets
    rw [validate, hlength, (validateAt_seesValues False (depth + 1)).errors halike]
    exact (document?_validateAt depth (s := ⟨_, journal⟩) hput).2
  · rw [hfound.1]
    exact Document.foldl_judge_lacks hrules hrefused d hfields (.empty text)

/-! ### New documents with given values -/

theorem Started.map_name {h later : Heap} {fields : List Field} {ws : List Value}
    (hstarted : Started h fields ws later) :
    (List.zipWith Field.firstSlot fields ws).map (·.name) = fields.map (·.name) := by
  induction hstarted with
  | nil h => rfl
  | cons _ _ _ _ ih =>
      rw [List.zipWith_cons_cons, List.map_cons, List.map_cons, ih]
      rfl

theorem Schema.hasFields_instantiate {s : Schema} {h made : Heap} {r : DocRef}
    (hrun : s.instantiate h = (.ok r, made)) : made.HasFields r s := by
  obtain ⟨ws, last, hstarted, hadd⟩ := Schema.instantiate_eq_ok_iff.mp hrun
  have hself := Heap.document?_addDocument_self last (s.fresh ws)
  rw [hadd] at hself
  exact ⟨_, hself, rfl, hstarted.map_name, rfl⟩

def colourField : Field :=
  ⟨"colour", false, none, .string ⟨.free, none, some ["red", "blue"]⟩⟩

def shirtType : Schema :=
  .document 0 "Shirt" [colourField]

end DocumentModel
