/-
The check of declared defaults.

What each field may start from is stated kind by kind, apart from how construction goes about it:
where a default comes from, when it is usable, and what the field then holds.  Construction goes
through the fields in the order of declaration.  It fails exactly when it comes to a default that is
not usable, and otherwise every field holds what it should.  What is usable as a default is never of
the wrong kind for validation.
-/
import DocumentModel.Proofs.Rules

namespace DocumentModel

/-! ### Where fields start from -/

namespace Field

/-- Where a field starts from, before anything is converted, and the heap that making it leaves: the
declared default, or else an empty sequence for an array field and null for any other. -/
inductive Defaults (h : Heap) (f : Field) : Value → Heap → Prop
  | declared {d : Default} {v : Value} {later : Heap} (hdefault : f.default? = some d)
      (hrun : d.produce h = (.ok v, later)) : Defaults h f v later
  | sequence {lengths : LengthRules} {check? : Option (String → Value → Check)}
      (hdefault : f.default? = none) (hkind : f.kind = .array lengths check?) :
      Defaults h f (.array []) h
  | null (hdefault : f.default? = none)
      (hkind : ∀ lengths check?, f.kind ≠ .array lengths check?) : Defaults h f .null h

end Field

/-- A value is of a kind that is not about documents. -/
def Kind.Holds (v : Value) : Kind → Prop
  | .boolean => ∃ b, v = .bool b
  | .dateTime => ∃ t, v = .instant t
  | .float _ => ∃ x, v = .float x
  | .integer _ => ∃ n, v = .int n
  | .objectId => ∃ id, v = .objectId id
  | .string _ => ∃ s, v = .text s
  | .array _ _ => ∃ items, v = .array items
  | .embedded _ => False
  | .list _ => False

namespace Field

/-- A default is of use to its field.  Documents and lists have to be of the declared type; anything
else has to be of the kind of the field after conversion.  Null is always of use. -/
def Usable (h : Heap) (f : Field) (v : Value) : Prop :=
  match f.kind with
  | .embedded schema => v = .null ∨ ∃ r, v = .document r ∧ h.documentIsA r schema = true
  | .list schema => v = .null ∨
      (∃ l found, v = .list l ∧ h.list? l = some found ∧ found.schema.isA schema = true) ∨
      ∃ rs : List DocRef, v = .array (rs.map .document) ∧ ∀ r ∈ rs, h.documentIsA r schema = true
  | kind => f.coerce h v = .null ∨ kind.Holds (f.coerce h v)

/-- What a field comes to hold of a default that is of use to it, and the heap afterwards: the
default itself, converted, where a list field makes a new list unless the default is one. -/
inductive Takes (h : Heap) (f : Field) (v : Value) : Value → Heap → Prop
  | converted (hkind : f.kind.isList = false) : Takes h f v (f.coerce h v) h
  | itself {l : ListRef} (hkind : f.kind.isList = true) (hv : v = .list l) : Takes h f v v h
  | filled {schema : Schema} {rs : List DocRef} (hkind : f.kind = .list schema)
      (hv : v = .array (rs.map .document)) :
      Takes h f v (.list (h.addList ⟨schema, rs⟩).1) (h.addList ⟨schema, rs⟩).2
  | empty {schema : Schema} (hkind : f.kind = .list schema) (hv : v = .null) :
      Takes h f v (.list (h.addList ⟨schema, []⟩).1) (h.addList ⟨schema, []⟩).2

/-- What a field asks of its default, in words. -/
def wanted (f : Field) : String :=
  match f.kind with
  | .embedded schema => schema.name
  | .list schema => schema.name
  | kind => kind.name

/-- What is found in the place of a default that is of no use, in words: of documents meant for a
list, the first that does not fit. -/
def found (h : Heap) (f : Field) (v : Value) : String :=
  match f.kind, v with
  | .list schema, .array items =>
      match (Value.documents? items).bind (List.find? fun r => !h.documentIsA r schema) with
      | some r => h.documentType r
      | none => h.typeName v
  | _, v => h.typeName (f.coerce h v)

/-- The slot of a new document for a field that holds `v`. -/
def firstSlot (f : Field) (v : Value) : Slot :=
  ⟨f.name, v, f.kind.isList && f.default?.isSome, false⟩

end Field

/-- Fields can be started in order: each default is of use and taken, and the heap of one is the
next one's. -/
inductive Started : Heap → List Field → List Value → Heap → Prop
  | nil (h : Heap) : Started h [] [] h
  | cons {h mid next later : Heap} {f : Field} {rest : List Field} {v w : Value} {ws : List Value}
      (hdefault : f.Defaults h v mid) (husable : f.Usable mid v) (htakes : f.Takes mid v w next)
      (hrest : Started next rest ws later) : Started h (f :: rest) (w :: ws) later

/-- A document that has just been made, given the value of each field. -/
def Schema.fresh (s : Schema) (values : List Value) : Document :=
  ⟨s, List.zipWith Field.firstSlot s.fields values, .empty⟩

/-! ### What construction does with a default -/

theorem Value.isNull_iff {v : Value} : v.isNull = true ↔ v = .null := by
  cases v <;> simp [isNull]

namespace Heap

variable {h : Heap} {f : Field} {v w : Value} {later : Heap}

/-- The documents in a sequence are checked up to the first that does not fit. -/
theorem checkTypes_eq (h : Heap) (schema : Schema) (rs : List DocRef) :
    h.checkTypes schema rs = match rs.find? fun r => !h.documentIsA r schema with
      | some r => .error (.typeMismatch schema.name (h.documentType r))
      | none => .ok () := by
  induction rs with
  | nil => rfl
  | cons r rest ih => cases hr : h.documentIsA r schema <;> simp [checkTypes, hr, ih]

theorem checkTypes_eq_error {schema : Schema} {rs : List DocRef}
    (hmisfit : ¬ ∀ r ∈ rs, h.documentIsA r schema = true) :
    ∃ r, (rs.find? fun r => !h.documentIsA r schema) = some r ∧
      h.checkTypes schema rs = .error (.typeMismatch schema.name (h.documentType r)) := by
  rw [checkTypes_eq]
  cases hfind : rs.find? fun r => !h.documentIsA r schema with
  | some r => exact ⟨r, rfl, rfl⟩
  | none =>
      refine absurd (fun r hr => ?_) hmisfit
      simpa using List.find?_eq_none.mp hfind r hr

theorem initialList_of_takes {schema : Schema} (hkind : f.kind = .list schema)
    (husable : f.Usable h v) (htakes : f.Takes h v w later) :
    h.initialList f schema v = (.ok w, later) := by
  rw [Field.Usable, hkind] at husable
  cases htakes with
  | converted hplain => simp [hkind, Kind.isList] at hplain
  | itself _ hv =>
      subst hv
      rcases husable with hnull | ⟨l, found, hl, hfound, hisA⟩ | ⟨rs, hrs, _⟩
      · cases hnull
      · cases hl
        simp [initialList, hfound, hisA]
      · cases hrs
  | @filled schema' rs hkind' hv =>
      subst hv
      obtain rfl := Kind.list.inj (hkind.symm.trans hkind')
      have hfits : ∀ r ∈ rs, h.documentIsA r schema = true := by
        rcases husable with hnull | ⟨l, found, hl, _⟩ | ⟨rs', hrs, hfits⟩
        · cases hnull
        · cases hl
        · have hdocuments := Value.documents?_eq_some_iff.mpr (Value.array.inj hrs)
          rw [Value.documents?_eq_some_iff.mpr rfl] at hdocuments
          rwa [Option.some.inj hdocuments]
      have hdocuments := Value.documents?_eq_some_iff.mpr (Eq.refl (rs.map Value.document))
      simp only [initialList, hdocuments, checkTypes_eq_ok_iff.mpr hfits]
  | empty hkind' hv =>
      subst hv
      obtain rfl := Kind.list.inj (hkind.symm.trans hkind')
      rfl

theorem initialList_of_not_usable {schema : Schema} (hkind : f.kind = .list schema)
    (hunusable : ¬ f.Usable h v) :
    h.initialList f schema v = (.error (.invalidDefault f.name f.wanted (f.found h v)), h) := by
  rw [Field.Usable, hkind, not_or, not_or] at hunusable
  obtain ⟨hnull, hlist, hitems⟩ := hunusable
  have hconverted : f.coerce h v = v := by simp [Field.coerce, hkind]
  cases v with
  | null => exact absurd rfl hnull
  | list l =>
      cases hl : h.list? l with
      | none => simp [initialList, hl, unsuited, Field.wanted, Field.found, hkind, hconverted]
      | some found =>
          have hisA : ¬ found.schema.isA schema = true :=
            fun hisA => hlist ⟨l, found, rfl, hl, hisA⟩
          simp [initialList, hl, hisA, unsuited, Field.wanted, Field.found, hkind, hconverted]
  | array items =>
      cases hdocuments : Value.documents? items with
      | none => simp [initialList, hdocuments, unsuited, Field.wanted, Field.found, hkind]
      | some rs =>
          have hrs := Value.documents?_eq_some_iff.mp hdocuments
          obtain ⟨r, hfind, hcheck⟩ :=
            checkTypes_eq_error fun hfits => hitems ⟨rs, by rw [hrs], hfits⟩
          simp [initialList, hdocuments, hcheck, hfind, Field.wanted, Field.found, hkind]
  | _ => simp [initialList, unsuited, Field.wanted, Field.found, hkind, hconverted]

theorem holdsKind_iff (hschema : f.kind.schema? = none) :
    f.holdsKind v = true ↔ f.kind.Holds v := by
  cases hkind : f.kind with
  | embedded schema => simp [hkind, Kind.schema?] at hschema
  | list schema => simp [hkind, Kind.schema?] at hschema
  | _ => cases v <;> simp [Field.holdsKind, hkind, Kind.Holds]

theorem initialValue_scalar (h : Heap) (hschema : f.kind.schema? = none) (v : Value) :
    h.initialValue f v =
      (if (f.coerce h v).isNull || f.holdsKind (f.coerce h v) then .ok (f.coerce h v)
        else .error (h.unsuited f f.kind.name (f.coerce h v)), h) := by
  cases hkind : f.kind with
  | embedded schema => simp [hkind, Kind.schema?] at hschema
  | list schema => simp [hkind, Kind.schema?] at hschema
  | _ => simp [initialValue, hkind, Kind.name]

theorem usable_scalar_iff (hschema : f.kind.schema? = none) :
    f.Usable h v ↔ ((f.coerce h v).isNull || f.holdsKind (f.coerce h v)) = true := by
  rw [Bool.or_eq_true, holdsKind_iff hschema, Value.isNull_iff, Field.Usable]
  cases hkind : f.kind with
  | embedded schema => simp [hkind, Kind.schema?] at hschema
  | list schema => simp [hkind, Kind.schema?] at hschema
  | _ => rfl

/-- A default that is of use is taken, -/
theorem initialValue_of_takes (husable : f.Usable h v) (htakes : f.Takes h v w later) :
    h.initialValue f v = (.ok w, later) := by
  cases hkind : f.kind with
  | list schema =>
      simp only [initialValue, hkind]
      exact initialList_of_takes hkind husable htakes
  | embedded schema =>
      have hconverted : f.coerce h v = v := by simp [Field.coerce, hkind]
      simp only [Field.Usable, hkind] at husable
      cases htakes with
      | converted _ =>
          rw [hconverted]
          rcases husable with rfl | ⟨r, rfl, hisA⟩
          · simp [initialValue, hkind]
          · simp [initialValue, hkind, hisA]
      | itself hlist _ => simp [hkind, Kind.isList] at hlist
      | filled hlist _ => simp [hkind] at hlist
      | empty hlist _ => simp [hkind] at hlist
  | _ =>
      have hschema : f.kind.schema? = none := by rw [hkind]; rfl
      rw [initialValue_scalar h hschema, if_pos ((usable_scalar_iff hschema).mp husable)]
      cases htakes with
      | converted _ => rfl
      | itself hlist _ => simp [hkind, Kind.isList] at hlist
      | filled hlist _ => simp [hkind] at hlist
      | empty hlist _ => simp [hkind] at hlist

/-- and one that is of no use is the fault. -/
theorem initialValue_of_not_usable (hunusable : ¬ f.Usable h v) :
    h.initialValue f v = (.error (.invalidDefault f.name f.wanted (f.found h v)), h) := by
  cases hkind : f.kind with
  | list schema =>
      simp only [initialValue, hkind]
      exact initialList_of_not_usable hkind hunusable
  | embedded schema =>
      have hconverted : f.coerce h v = v := by simp [Field.coerce, hkind]
      simp only [Field.Usable, hkind, not_or] at hunusable
      obtain ⟨hnull, hdocument⟩ := hunusable
      cases v with
      | null => exact absurd rfl hnull
      | document r =>
          have hisA : ¬ h.documentIsA r schema = true := fun hisA => hdocument ⟨r, rfl, hisA⟩
          simp [initialValue, hkind, hisA, unsuited, Field.wanted, Field.found, hconverted]
      | _ => simp [initialValue, hkind, unsuited, Field.wanted, Field.found, hconverted]
  | _ =>
      have hschema : f.kind.schema? = none := by rw [hkind]; rfl
      rw [initialValue_scalar h hschema,
        if_neg fun hused => hunusable ((usable_scalar_iff hschema).mpr hused)]
      simp [unsuited, Field.wanted, Field.found, hkind]

end Heap

/-! ### What construction does, field by field -/

variable {h mid later : Heap} {f : Field} {v w : Value}

theorem Default.produce_ok (d : Default) (h : Heap) : ∃ v later, d.produce h = (.ok v, later) := by
  cases d with
  | value v => exact ⟨v, h, rfl⟩
  | factory recipe =>
      rw [Default.produce]
      simp only
      cases hmake : recipe.make h with
      | mk res later =>
          cases res with
          | ok v => exact ⟨v, later, rfl⟩
          | error e => exact ⟨.null, later, rfl⟩

/-- Every field has something to start from. -/
theorem Field.exists_defaults (h : Heap) (f : Field) : ∃ v mid, f.Defaults h v mid := by
  cases hdefault : f.default? with
  | some d =>
      obtain ⟨v, later, hrun⟩ := d.produce_ok h
      exact ⟨v, later, .declared hdefault hrun⟩
  | none =>
      by_cases hkind : ∃ lengths check?, f.kind = .array lengths check?
      · obtain ⟨lengths, check?, hkind⟩ := hkind
        exact ⟨_, h, .sequence hdefault hkind⟩
      · exact ⟨_, h, .null hdefault fun lengths check? heq => hkind ⟨lengths, check?, heq⟩⟩

theorem Field.Usable.exists_takes (husable : f.Usable h v) : ∃ w later, f.Takes h v w later := by
  cases hlist : f.kind.isList with
  | false => exact ⟨_, h, .converted hlist⟩
  | true =>
      obtain ⟨schema, hkind⟩ := Kind.exists_of_isList hlist
      simp only [Usable, hkind] at husable
      rcases husable with hv | ⟨l, _, hv, _⟩ | ⟨rs, hv, _⟩
      · exact ⟨_, _, .empty hkind hv⟩
      · exact ⟨_, _, .itself hlist hv⟩
      · exact ⟨_, _, .filled hkind hv⟩

theorem Field.bind_firstSlot (f : Field) (v : Value) (h : Heap) :
    ((fun h => h.initialValue f v) >>= fun w => pure (f.firstSlot w) : Build Slot) h =
      match h.initialValue f v with
      | (.ok w, later) => (.ok (f.firstSlot w), later)
      | (.error e, later) => (.error e, later) := by
  rw [Build.bind_apply]
  rcases h.initialValue f v with ⟨_ | _, _⟩ <;> rfl

/-- A slot is made of what the field starts from. -/
theorem Field.initialSlot_eq (hdefault : f.Defaults h v mid) :
    f.initialSlot h = match mid.initialValue f v with
      | (.ok w, later) => (.ok (f.firstSlot w), later)
      | (.error e, later) => (.error e, later) := by
  rw [← f.bind_firstSlot v mid]
  obtain ⟨name, required, default?, kind⟩ := f
  rw [Field.initialSlot.eq_def]
  cases hdefault with
  | @declared d _ _ hsome hrun =>
      obtain rfl : default? = some d := hsome
      simp only
      rw [Build.bind_apply d.produce, hrun]
      rfl
  | sequence hnone hkind =>
      obtain rfl : default? = none := hnone
      obtain rfl : kind = .array _ _ := hkind
      rfl
  | null hnone hkind =>
      obtain rfl : default? = none := hnone
      cases kind with
      | array lengths check? => exact absurd rfl (hkind lengths check?)
      | list schema =>
          -- the empty list that is implied is taken as it is
          simp only [Build.bind_apply, Heap.impliedDefault, Heap.initialValue, Heap.initialList,
            Heap.list?_addList_self, Schema.isA_refl, Heap.checkTypes, ↓reduceIte]
          rfl
      | _ => rfl

theorem Field.initialSlots_of_started {fields : List Field} {ws : List Value}
    (hstarted : Started h fields ws later) :
    Field.initialSlots fields h = (.ok (List.zipWith Field.firstSlot fields ws), later) := by
  induction hstarted with
  | nil h => rfl
  | cons hdefault husable htakes _ ih =>
      rw [Field.initialSlots, Build.bind_apply, Field.initialSlot_eq hdefault,
        Heap.initialValue_of_takes husable htakes]
      simp only [Build.bind_apply, ih, Build.pure_apply, List.zipWith_cons_cons]

/-- Fields are started until one comes that cannot use its default. -/
inductive Stuck (h : Heap) (fields : List Field) : SchemaError → Heap → Prop
  | first {before after : List Field} {f : Field} {ws : List Value} {mid later : Heap} {v : Value}
      (hfields : fields = before ++ f :: after) (hbefore : Started h before ws mid)
      (hdefault : f.Defaults mid v later) (hunusable : ¬ f.Usable later v) :
      Stuck h fields (.invalidDefault f.name f.wanted (f.found later v)) later

theorem Field.initialSlots_of_stuck {fields : List Field} {e : SchemaError}
    (hstuck : Stuck h fields e later) : Field.initialSlots fields h = (.error e, later) := by
  cases hstuck with
  | @first before after f ws mid _ v hfields hbefore hdefault hunusable =>
      subst hfields
      induction hbefore with
      | nil h =>
          rw [List.nil_append, Field.initialSlots, Build.bind_apply,
            Field.initialSlot_eq hdefault, Heap.initialValue_of_not_usable hunusable]
      | cons hdefault' husable htakes _ ih =>
          rw [List.cons_append, Field.initialSlots, Build.bind_apply,
            Field.initialSlot_eq hdefault', Heap.initialValue_of_takes husable htakes]
          simp only [Build.bind_apply, ih hdefault]

/-- Fields can be started, or one of them is the first that cannot. -/
theorem started_or_stuck (h : Heap) (fields : List Field) :
    (∃ ws later, Started h fields ws later) ∨ ∃ e later, Stuck h fields e later := by
  induction fields generalizing h with
  | nil => exact Or.inl ⟨[], h, .nil h⟩
  | cons f rest ih =>
      obtain ⟨v, mid, hdefault⟩ := f.exists_defaults h
      by_cases husable : f.Usable mid v
      · obtain ⟨w, next, htakes⟩ := husable.exists_takes
        rcases ih next with ⟨ws, later, hrest⟩ | ⟨e, later, hstuck⟩
        · exact Or.inl ⟨w :: ws, later, .cons hdefault husable htakes hrest⟩
        · cases hstuck with
          | @first before after g ws mid' _ u hfields hbefore hdefault' hunusable =>
              have hsplit : f :: rest = (f :: before) ++ g :: after := by
                rw [hfields, List.cons_append]
              exact Or.inr ⟨_, later, .first hsplit (.cons hdefault husable htakes hbefore)
                hdefault' hunusable⟩
      · exact Or.inr ⟨_, mid, .first (List.nil_append _).symm (.nil h) hdefault husable⟩

theorem Schema.instantiate_of_started {s : Schema} {ws : List Value}
    (hstarted : Started h s.fields ws later) :
    s.instantiate h =
      (.ok (later.addDocument (s.fresh ws)).1, (later.addDocument (s.fresh ws)).2) := by
  obtain ⟨id, name, role, parent?, fields⟩ := s
  rw [Schema.instantiate.eq_def]
  simp only [Build.bind_apply, Field.initialSlots_of_started hstarted, fresh]

theorem Schema.instantiate_of_stuck {s : Schema} {e : SchemaError}
    (hstuck : Stuck h s.fields e later) : s.instantiate h = (.error e, later) := by
  obtain ⟨id, name, role, parent?, fields⟩ := s
  rw [Schema.instantiate.eq_def]
  simp only [Build.bind_apply, Field.initialSlots_of_stuck hstuck]

/-- Construction gets stuck, -/
theorem Schema.instantiate_eq_error_iff {s : Schema} {e : SchemaError} :
    s.instantiate h = (.error e, later) ↔ Stuck h s.fields e later := by
  refine ⟨fun hrun => ?_, instantiate_of_stuck⟩
  rcases started_or_stuck h s.fields with ⟨ws, last, hstarted⟩ | ⟨e', last, hstuck⟩
  · rw [instantiate_of_started hstarted] at hrun
    cases hrun
  · rw [instantiate_of_stuck hstuck] at hrun
    cases hrun
    exact hstuck

/-- or it makes a document of what its fields start with. -/
theorem Schema.instantiate_eq_ok_iff {s : Schema} {r : DocRef} :
    s.instantiate h = (.ok r, later) ↔ ∃ ws last, Started h s.fields ws last ∧
      last.addDocument (s.fresh ws) = (r, later) := by
  constructor
  · intro hrun
    rcases started_or_stuck h s.fields with ⟨ws, last, hstarted⟩ | ⟨e', last, hstuck⟩
    · rw [instantiate_of_started hstarted] at hrun
      cases hrun
      exact ⟨ws, last, hstarted, rfl⟩
    · rw [instantiate_of_stuck hstuck] at hrun
      cases hrun
  · rintro ⟨ws, last, hstarted, hadd⟩
    rw [instantiate_of_started hstarted, hadd]

/-! ### What validation says of fresh values -/

/-- A message is one about a value of the wrong kind. -/
def Mismatch (message : String) : Prop :=
  message = notAList ∨ "must be a".toList <+: message.toList

/-- The message says what a value is, and it is not what the value is not. -/
def SaysWhatIs (message : String) : Prop :=
  ∃ c rest, message.toList = 'i' :: 's' :: ' ' :: c :: rest ∧ c ≠ 'n'

theorem SaysWhatIs.not_mismatch {message : String} (hwhat : SaysWhatIs message) :
    ¬ Mismatch message := by
  obtain ⟨c, rest, hmessage, hc⟩ := hwhat
  rintro (rfl | hprefix)
  · have hfourth : notAList.toList[3]? = some 'n' := by decide
    rw [hmessage] at hfourth
    exact hc (Option.some.inj hfourth)
  · rw [hmessage] at hprefix
    exact absurd (List.cons_prefix_cons.mp hprefix).1 (by decide)

theorem LengthRules.says_messages (rules : LengthRules) (length : Nat) (unit : String) :
    ∀ m ∈ rules.messages length unit, SaysWhatIs m := by
  obtain ⟨fixed?, min?, max?⟩ := rules
  rw [← LengthRules.said_rules, LengthRules.rules]
  cases fixed? with
  | some exact => simp [Rule.said, SaysWhatIs]
  | none =>
      rw [Rule.said_append, List.forall_mem_append]
      constructor
      · cases min? <;> simp [Rule.said, SaysWhatIs]
      · cases max? <;> simp [Rule.said, SaysWhatIs]

theorem Range.says_messages {α : Type} (range : Range α) (less : α → α → Bool) (text : α → String)
    (x : α) : ∀ m ∈ range.messages less text x, SaysWhatIs m := by
  obtain ⟨min?, max?⟩ := range
  rw [← Range.said_rules, Range.rules, Rule.said_append, List.forall_mem_append]
  constructor
  · cases min? <;> simp [Rule.said, SaysWhatIs]
  · cases max? <;> simp [Rule.said, SaysWhatIs]

/-- A string field has nothing to say about kinds, whatever it holds. -/
theorem StringRules.says_messages (rules : StringRules) (required absent : Bool) (v : Value) :
    ∀ m ∈ (Kind.string rules).messages required absent v, SaysWhatIs m := by
  rw [Kind.messages]
  split
  · simp
  · refine List.forall_mem_append.mpr ⟨rules.lengths.says_messages _ _, ?_⟩
    split
    · split <;> simp [SaysWhatIs]
    · simp

/-- What is of the kind of a field is not said to be of the wrong kind. -/
theorem Kind.says_messages {kind : Kind} {v : Value}
    (hv : v = .null ∨ kind.Holds v ∨ kind.schema?.isSome = true) (required absent : Bool) :
    ∀ m ∈ kind.messages required absent v, SaysWhatIs m := by
  cases kind with
  | string rules => exact rules.says_messages required absent v
  | array lengths check? =>
      rcases hv with rfl | ⟨items, rfl⟩ | hschema
      · rw [messages]
        split
        · exact lengths.says_messages _ _
        · simp
      · exact lengths.says_messages _ _
      · cases hschema
  | float range =>
      rcases hv with rfl | ⟨x, rfl⟩ | hschema
      · simp [messages, Value.isNull]
      · exact range.says_messages (· < ·) Decimal.Layout.positional.format x
      · cases hschema
  | integer range =>
      rcases hv with rfl | ⟨n, rfl⟩ | hschema
      · simp [messages, Value.isNull]
      · exact range.says_messages (· < ·) (fun n => toString n.toInt) n
      · cases hschema
  | embedded schema => cases v <;> simp [messages, Value.isNull]
  | list schema => cases v <;> simp [messages, Value.isNull]
  | _ =>
      rcases hv with rfl | ⟨b, rfl⟩ | hschema
      · simp [messages, Value.isNull]
      · simp [messages, Value.isNull, Value.asBool?, Value.asInstant?, Value.asObjectId?]
      · cases hschema

/-- What a field starts with is null or of its kind, or it is a document or a list. -/
theorem Field.Takes.holds (husable : f.Usable h v) (htakes : f.Takes h v w later) :
    w = .null ∨ f.kind.Holds w ∨ f.kind.schema?.isSome = true := by
  cases hschema : f.kind.schema? with
  | some schema => exact Or.inr (Or.inr rfl)
  | none =>
      cases htakes with
      | converted _ =>
          have hsuits := (Heap.usable_scalar_iff hschema).mp husable
          rw [Bool.or_eq_true, Heap.holdsKind_iff hschema, Value.isNull_iff] at hsuits
          exact hsuits.imp_right Or.inl
      | itself hlist _ =>
          obtain ⟨schema, hkind⟩ := Kind.exists_of_isList hlist
          simp [hkind, Kind.schema?] at hschema
      | filled hkind _ => simp [hkind, Kind.schema?] at hschema
      | empty hkind _ => simp [hkind, Kind.schema?] at hschema

/-- A new slot stands beside each field that was started, with what the field starts with. -/
theorem Started.slots {fields : List Field} {ws : List Value}
    (hstarted : Started h fields ws later) :
    List.Forall₂ (fun f slot => ∃ w, slot = f.firstSlot w ∧
      (w = .null ∨ f.kind.Holds w ∨ f.kind.schema?.isSome = true))
      fields (List.zipWith Field.firstSlot fields ws) := by
  induction hstarted with
  | nil h => exact .nil
  | cons _ husable htakes _ ih => exact .cons ⟨_, rfl, htakes.holds husable⟩ ih

theorem Started.lengths {fields : List Field} {ws : List Value}
    (hstarted : Started h fields ws later) : fields.length = ws.length := by
  induction hstarted with
  | nil h => rfl
  | cons _ _ _ _ ih => rw [List.length_cons, List.length_cons, ih]

/-- The look-up by name finds the slots that were made for fields with different names. -/
theorem Field.find?_firstSlots {fields : List Field} (hnames : (fields.map (·.name)).Nodup)
    {ws : List Value} (hlengths : fields.length = ws.length) :
    List.Forall₂ (fun f w => (List.zipWith Field.firstSlot fields ws).find?
      (fun slot => slot.name = f.name) = some (f.firstSlot w)) fields ws := by
  induction fields generalizing ws with
  | nil =>
      obtain rfl := List.length_eq_zero_iff.mp hlengths.symm
      exact .nil
  | cons f rest ih =>
      obtain ⟨w, ws, rfl⟩ := List.exists_cons_of_length_eq_add_one hlengths.symm
      obtain ⟨hnew, hrest⟩ := List.nodup_cons.mp hnames
      have hothers : ∀ g ∈ rest, f.name ≠ g.name := fun g hg heq =>
        hnew (List.mem_map.mpr ⟨g, hg, heq.symm⟩)
      refine .cons (by simp [firstSlot]) ?_
      have htail := ih hrest (Nat.succ.inj hlengths)
      refine ((List.forall₂_and_left _ _).mpr ⟨hothers, htail⟩).imp fun g w ⟨hne, hfound⟩ => ?_
      rw [List.zipWith_cons_cons, List.find?_cons_of_neg (by simp [firstSlot, hne]), hfound]

/-- Nothing that is wrong with a fresh document is about the kind of a value. -/
theorem Schema.says_faults {s : Schema} (hnames : s.fieldNames.Nodup) {ws : List Value}
    (hstarted : Started h s.fields ws later) (h' : Heap) {g : Field} (hg : g ∈ s.fields) :
    ∀ m ∈ (s.fresh ws).faults h' g, SaysWhatIs m := by
  obtain ⟨slot, hslot, w, rfl, hholds⟩ := Document.slot_of_forall₂ (d := s.fresh ws)
    (fun f slot ⟨w, hw, _⟩ => hw ▸ rfl) hstarted.slots hnames hg
  rw [Document.faults, Document.refused, hslot, Document.value_of_slot? hslot]
  simp only [Option.map_some, Option.getD_some, Field.firstSlot, Bool.false_eq_true, ↓reduceIte,
    List.nil_append, Field.messages]
  refine List.forall_mem_append.mpr ⟨fun m hm => ?_, Kind.says_messages hholds _ _⟩
  obtain ⟨_, rfl⟩ := List.mem_ite_nil_right.mp hm |>.imp_right List.mem_singleton.mp
  simp [SaysWhatIs, isRequired]

/-- Without item checks, validation finds what is wrong with each field and nothing else. -/
theorem Session.entries_validate_plain {s : Session} {r : DocRef} {d : Document}
    (hd : s.heap.document? r = some d)
    (hplain : ∀ f ∈ d.schema.fields, f.kind.checksItems = false) :
    ∃ d', (s.validate r).2.heap.document? r = some d' ∧
      d'.errors.entries = d.schema.fields.flatMap fun f =>
        (d.faults s.heap f).map fun message => (f.name, message) := by
  have hlt := Heap.document?_lt hd
  obtain ⟨depth, hdepth⟩ : ∃ depth, s.heap.documents.length = depth + 1 :=
    ⟨s.heap.documents.length - 1, by omega⟩
  obtain ⟨hfound, hleft⟩ := document?_validateAt depth hd
  rw [validate, hdepth]
  refine ⟨_, hleft, ?_⟩
  simp only [hfound]
  rw [Document.foldl_judge_plain _ d hplain]
  exact List.nil_append _

/-- Construction checks every default, in the order of declaration.  It fails exactly if it comes to
a default that is of no use to its field, and names the field.  Otherwise it makes a document in
which every field holds what it takes of its default, with no errors; validation finds errors in it
perhaps, but without item checks none about the kind of a value. -/
theorem instantiate_checks_defaults (s : Schema) (h : Heap) :
    (∀ e later, s.instantiate h = (.error e, later) ↔
      ∃ before f after ws mid v, s.fields = before ++ f :: after ∧ Started h before ws mid ∧
        f.Defaults mid v later ∧ ¬ f.Usable later v ∧
        e = .invalidDefault f.name f.wanted (f.found later v)) ∧
    (∀ r later, s.instantiate h = (.ok r, later) ↔ ∃ ws last, Started h s.fields ws last ∧
      last.addDocument (s.fresh ws) = (r, later)) ∧
    ∀ r later, s.fieldNames.Nodup → s.instantiate h = (.ok r, later) →
      ∃ d ws last, later.document? r = some d ∧ d.schema = s ∧ d.errors = .empty ∧
      Started h s.fields ws last ∧
      List.Forall₂ (fun f w => d.slot? f.name = some (f.firstSlot w)) s.fields ws ∧
      ((∀ f ∈ s.fields, f.kind.checksItems = false) → ∀ journal, ∃ d',
        (Session.validate ⟨later, journal⟩ r).2.heap.document? r = some d' ∧
        ∀ entry ∈ d'.errors.entries, ¬ Mismatch entry.2) := by
  refine ⟨fun e later => ?_, fun r later => Schema.instantiate_eq_ok_iff,
    fun r later hnames hrun => ?_⟩
  · rw [Schema.instantiate_eq_error_iff]
    constructor
    · rintro ⟨hfields, hbefore, hdefault, hunusable⟩
      exact ⟨_, _, _, _, _, _, hfields, hbefore, hdefault, hunusable, rfl⟩
    · rintro ⟨before, f, after, ws, mid, v, hfields, hbefore, hdefault, hunusable, rfl⟩
      exact .first hfields hbefore hdefault hunusable
  · obtain ⟨ws, last, hstarted, hadd⟩ := Schema.instantiate_eq_ok_iff.mp hrun
    have hd : later.document? r = some (s.fresh ws) := by
      have hself := Heap.document?_addDocument_self last (s.fresh ws)
      rwa [hadd] at hself
    refine ⟨s.fresh ws, ws, last, hd, rfl, rfl, hstarted,
      Field.find?_firstSlots hnames hstarted.lengths, fun hplain journal => ?_⟩
    obtain ⟨d', hd', hentries⟩ := Session.entries_validate_plain (s := ⟨later, journal⟩) hd hplain
    refine ⟨d', hd', fun entry hentry => ?_⟩
    rw [hentries] at hentry
    obtain ⟨g, hg, hmap⟩ := List.mem_flatMap.mp hentry
    obtain ⟨m, hm, rfl⟩ := List.mem_map.mp hmap
    exact (Schema.says_faults hnames hstarted later hg m hm).not_mismatch

/-! A ticket with a price given as an integer, and one that is paid with a text. -/

def seatType : Schema :=
  .embedded 1 "Seat" []

def ticketFields : List Field :=
  [⟨"price", false, some (.value (.int 3)), .float ⟨none, none⟩⟩,
    ⟨"codes", false, none, .array .free none⟩,
    ⟨"seats", false, none, .list seatType⟩]

def ticketType : Schema :=
  .document 0 "Ticket" ticketFields

def paidTicketType : Schema :=
  .extend 2 ticketType "Paid ticket" [⟨"paid", false, some (.value (.text "yes")), .boolean⟩]

theorem ticketFields_started :
    Started .empty ticketFields [.float (Float.ofInt 3), .array [], .list ⟨0⟩]
      (Heap.empty.addList ⟨seatType, []⟩).2 :=
  .cons (.declared rfl rfl) (Or.inr ⟨_, rfl⟩) (.converted rfl) <|
    .cons (.sequence rfl rfl) (Or.inr ⟨[], rfl⟩) (.converted rfl) <|
    .cons (.null rfl (by simp)) (Or.inl rfl) (.empty rfl rfl) (.nil _)

/-- The price is converted; the text is of no use as a payment. -/
theorem instantiate_checks_defaults_ticket :
    (∃ later, paidTicketType.instantiate .empty =
      (.error (.invalidDefault "paid" "boolean" "text"), later)) ∧
    ∃ r later d, ticketType.instantiate .empty = (.ok r, later) ∧ later.document? r = some d ∧
      d.errors = .empty ∧ d.value "codes" = .array [] := by
  have hticket : ticketType.fieldNames.Nodup := by decide
  constructor
  · obtain ⟨hfails, _⟩ := instantiate_checks_defaults paidTicketType .empty
    refine ⟨_, (hfails _ _).mpr ⟨ticketFields, _, [], _, _, _, rfl, ticketFields_started,
      .declared rfl rfl, ?_, rfl⟩⟩
    rintro (hnull | ⟨b, hb⟩)
    · cases hnull
    · cases hb
  · obtain ⟨_, hmakes, hmade⟩ := instantiate_checks_defaults ticketType .empty
    have hrun := (hmakes _ _).mpr ⟨_, _, ticketFields_started, rfl⟩
    obtain ⟨d, _, _, hd, _, herrors, _⟩ := hmade _ _ hticket hrun
    refine ⟨_, _, d, hrun, hd, herrors, ?_⟩
    cases hd
    rfl

end DocumentModel
