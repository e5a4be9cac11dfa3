/-
The hierarchy of record types.

A type comes out of a series of declarations: those of the type that it extends, as they were when
it was extended, and then its own.  The series decides which fields the type has and in which order,
and the links from types to the types that they extend decide which types it is.
-/
import DocumentModel.Proofs.Reachable
import Mathlib.Data.List.Induction
import Mathlib.Logic.Relation

namespace DocumentModel

open Relation

namespace Schema

/-- The declarations that make a type, in order: those of the type that it extends come first. -/
inductive DeclaredBy : Schema → List Field → Prop
  | document (id : Nat) (name : String) (fields : List Field) :
      DeclaredBy (document id name fields) fields
  | embedded (id : Nat) (name : String) (fields : List Field) :
      DeclaredBy (embedded id name fields) fields
  | extend {parent : Schema} {inherited : List Field} (hparent : parent.DeclaredBy inherited)
      (id : Nat) (name : String) (fields : List Field) :
      DeclaredBy (extend id parent name fields) (inherited ++ fields)

/-- A type is declared as an extension of another. -/
def Extends (s t : Schema) : Prop :=
  s.parent? = some t

/-! ### Fields -/

theorem addFields_append (fields new more : List Field) :
    addFields fields (new ++ more) = addFields (addFields fields new) more :=
  List.foldl_append

/-- The last of the declarations of a name is the one that counts. -/
theorem find?_addFields (fields new : List Field) (name : String) :
    (addFields fields new).find? (fun f => f.name = name) =
      (new.reverse.find? fun f => f.name = name).or (fields.find? fun f => f.name = name) := by
  induction new generalizing fields with
  | nil => rfl
  | cons field rest ih =>
      have hstep : (addFields fields (field :: rest)).find? (fun f => f.name = name) =
          (rest.reverse.find? fun f => f.name = name).or
            ((addField fields field).find? fun f => f.name = name) := ih (addField fields field)
      rw [hstep, List.reverse_cons, List.find?_append, Option.or_assoc]
      by_cases hname : field.name = name
      · subst hname
        simp [find?_addField_self]
      · simp [find?_addField_of_ne fields field hname, hname]

/-- Declarations only add names, and add them at the end. -/
theorem names_prefix_addFields (fields new : List Field) :
    fields.map (·.name) <+: (addFields fields new).map (·.name) := by
  induction new generalizing fields with
  | nil => exact List.prefix_refl _
  | cons field rest ih =>
      have hfirst : fields.map (·.name) <+: (addField fields field).map (·.name) := by
        rw [map_name_addField]
        split
        · exact List.prefix_refl _
        · exact List.prefix_append _ _
      exact hfirst.trans (ih (addField fields field))

theorem eraseDups_concat (names : List String) (name : String) :
    (names ++ [name]).eraseDups =
      if name ∈ names then names.eraseDups else names.eraseDups ++ [name] := by
  rw [List.eraseDups_append]
  by_cases hknown : name ∈ names
  · simp [List.removeAll, hknown]
  · simp [List.removeAll, hknown, List.eraseDups_cons]

/-- Names come in the order in which they were declared first. -/
theorem names_addFields_nil (new : List Field) :
    (addFields [] new).map (·.name) = (new.map (·.name)).eraseDups := by
  induction new using List.reverseRecOn with
  | nil => rfl
  | append_singleton before field ih =>
      rw [addFields_append, addFields, List.foldl_cons, List.foldl_nil, map_name_addField, ih,
        List.map_append, List.map_singleton, eraseDups_concat]
      simp only [List.mem_eraseDups]

namespace DeclaredBy

variable {s : Schema} {decls : List Field}

/-- Extending a type goes on where the declarations of that type ended. -/
theorem fields_eq (h : s.DeclaredBy decls) : s.fields = addFields [] decls := by
  induction h with
  | document => rfl
  | embedded => rfl
  | extend _ id name fields ih => rw [addFields_append, ← ih]; rfl

theorem fieldNames_eq (h : s.DeclaredBy decls) :
    s.fieldNames = (decls.map (·.name)).eraseDups := by
  rw [fieldNames, h.fields_eq, names_addFields_nil]

theorem field?_eq (h : s.DeclaredBy decls) (name : String) :
    s.field? name = decls.reverse.find? fun f => f.name = name := by
  rw [field?, h.fields_eq, find?_addFields, List.find?_nil, Option.or_none]

/-- A type has the role of the type that it extends, and the fields of that type first. -/
theorem of_extends (h : s.DeclaredBy decls) {parent : Schema} (hparent : s.Extends parent) :
    s.role = parent.role ∧ parent.fieldNames <+: s.fieldNames := by
  cases h with
  | document => cases hparent
  | embedded => cases hparent
  | extend _ id name fields =>
      cases hparent
      exact ⟨rfl, names_prefix_addFields _ fields⟩

end DeclaredBy

/-! ### Links -/

theorem Extends.sizeOf_lt {s t : Schema} (h : s.Extends t) : sizeOf t < sizeOf s := by
  obtain ⟨id, name, role, parent?, fields⟩ := s
  change parent? = some t at h
  subst h
  simp only [mk.sizeOf_spec, Option.some.sizeOf_spec]
  omega

/-- Going up, one meets smaller types only. -/
theorem eq_or_sizeOf_lt {s t : Schema} (h : ReflTransGen Extends s t) :
    s = t ∨ sizeOf t < sizeOf s := by
  induction h with
  | refl => exact Or.inl rfl
  | tail _ hstep ih =>
      right
      rcases ih with rfl | hlt
      · exact hstep.sizeOf_lt
      · exact hstep.sizeOf_lt.trans hlt

/-- What `isA` looks for on the way up is the number of a declaration. -/
theorem isA_iff_exists {other : Schema} : (s : Schema) →
    (s.isA other = true ↔ ∃ t, ReflTransGen Extends s t ∧ t.id = other.id)
  | ⟨id, name, role, none, fields⟩ => by
      rw [isA, beq_iff_eq]
      constructor
      · intro hid
        exact ⟨_, .refl, hid⟩
      · rintro ⟨t, hup, hid⟩
        cases hup.cases_head with
        | inl heq =>
            subst heq
            exact hid
        | inr hstep =>
            obtain ⟨parent, hparent, _⟩ := hstep
            cases hparent
  | ⟨id, name, role, some parent, fields⟩ => by
      rw [isA, Bool.or_eq_true, beq_iff_eq, isA_iff_exists parent]
      constructor
      · intro h
        cases h with
        | inl hid => exact ⟨_, .refl, hid⟩
        | inr hup =>
            obtain ⟨t, hup, hid⟩ := hup
            exact ⟨t, .head rfl hup, hid⟩
      · rintro ⟨t, hup, hid⟩
        cases hup.cases_head with
        | inl heq =>
            subst heq
            exact Or.inl hid
        | inr hstep =>
            obtain ⟨next, hparent, hup⟩ := hstep
            obtain rfl : parent = next := Option.some.inj hparent
            exact Or.inr ⟨t, hup, hid⟩
termination_by structural s => s

end Schema

namespace Declared

variable {types : List Schema}

/-- Every type of a program comes out of a series of declarations. -/
theorem declaredBy (h : Declared types) : ∀ s ∈ types, ∃ decls, s.DeclaredBy decls := by
  induction h with
  | nil => simp
  | document _ _ _ ih => exact List.forall_mem_cons.mpr ⟨⟨_, .document _ _ _⟩, ih⟩
  | embedded _ _ _ ih => exact List.forall_mem_cons.mpr ⟨⟨_, .embedded _ _ _⟩, ih⟩
  | extend _ _ hparent _ ih =>
      obtain ⟨inherited, hinherited⟩ := ih _ hparent
      exact List.forall_mem_cons.mpr ⟨⟨_, hinherited.extend _ _ _⟩, ih⟩

theorem mem_of_above (h : Declared types) {s t : Schema} (hs : s ∈ types)
    (hup : ReflTransGen Schema.Extends s t) : t ∈ types := by
  induction hup with
  | refl => exact hs
  | tail _ hstep ih => exact h.parent_mem _ ih _ hstep

/-- Among the types of a program, being a type is being linked to it. -/
theorem isA_iff (h : Declared types) {s t : Schema} (hs : s ∈ types) (ht : t ∈ types) :
    s.isA t = true ↔ ReflTransGen Schema.Extends s t := by
  rw [Schema.isA_iff_exists]
  constructor
  · intro ⟨u, hup, hid⟩
    rwa [h.eq_of_id_eq (h.mem_of_above hs hup) ht hid] at hup
  · intro hup
    exact ⟨t, hup, rfl⟩

theorem isA_antisymm (h : Declared types) {s t : Schema} (hs : s ∈ types) (ht : t ∈ types)
    (hst : s.isA t = true) (hts : t.isA s = true) : s = t := by
  apply (Schema.eq_or_sizeOf_lt ((h.isA_iff hs ht).mp hst)).resolve_right
  intro hlt
  cases Schema.eq_or_sizeOf_lt ((h.isA_iff ht hs).mp hts) with
  | inl heq => exact Nat.lt_irrefl _ (heq ▸ hlt)
  | inr hgt => exact Nat.lt_asymm hlt hgt

/-- A role is handed down, and so are the names of fields, in front of those that are added. -/
theorem handed_down (h : Declared types) {s t : Schema} (hs : s ∈ types) (ht : t ∈ types)
    (hst : s.isA t = true) : s.role = t.role ∧ t.fieldNames <+: s.fieldNames := by
  have hup := (h.isA_iff hs ht).mp hst
  clear hst ht
  induction hup with
  | refl => exact ⟨rfl, List.prefix_refl _⟩
  | tail hup hstep ih =>
      obtain ⟨decls, hdecls⟩ := h.declaredBy _ (h.mem_of_above hs hup)
      obtain ⟨hrole, hnames⟩ := hdecls.of_extends hstep
      exact ⟨ih.1.trans hrole, hnames.trans ih.2⟩

end Declared

/-- A document has a value for each field of its type. -/
theorem Heap.Sound.value?_isSome {types : List Schema} {h : Heap} (hsound : h.Sound types)
    {r : DocRef} {d : Document} (hd : h.document? r = some d) {name : String}
    (hname : name ∈ d.schema.fieldNames) : (d.value? name).isSome = true := by
  rw [← (hsound.fits hd).names] at hname
  obtain ⟨slot, hslot, rfl⟩ := List.mem_map.mp hname
  rw [Document.value?, Option.isSome_map, Document.slot?, List.find?_isSome]
  exact ⟨slot, hslot, by simp⟩

/-- The laws of the type hierarchy.  The names of the fields of a type are distinct and in the order
in which the series of declarations behind the type has them first, and the last declaration of a
name counts.  Being a type is a partial order, and goes by the links to extended types alone.  What
is of a type has its role, and its fields in front. -/
theorem type_hierarchy {types : List Schema} (h : Declared types) :
    (∀ s ∈ types, s.fieldNames.Nodup ∧ (∃ decls, s.DeclaredBy decls) ∧
      ∀ decls, s.DeclaredBy decls → s.fieldNames = (decls.map (·.name)).eraseDups ∧
        ∀ name, s.field? name = decls.reverse.find? fun f => f.name = name) ∧
    (∀ s ∈ types, s.isA s = true) ∧
    (∀ s ∈ types, ∀ t ∈ types, ∀ u ∈ types, s.isA t = true → t.isA u = true → s.isA u = true) ∧
    (∀ s ∈ types, ∀ t ∈ types, s.isA t = true → t.isA s = true → s = t) ∧
    (∀ s ∈ types, ∀ t ∈ types, s.isA t = true ↔ ReflTransGen Schema.Extends s t) ∧
    ∀ s ∈ types, ∀ t ∈ types, s.isA t = true →
      s.role = t.role ∧ t.fieldNames <+: s.fieldNames ∧
      (t.requireEmbedded = .ok t → s.requireEmbedded = .ok s) ∧
      ∀ session, Reachable types session → ∀ r d, session.heap.document? r = some d →
        d.schema = s → ∀ name ∈ t.fieldNames, (d.value? name).isSome = true := by
  refine ⟨fun s hs => ?_, fun s _ => s.isA_refl, fun s hs t ht u _ hst htu => ?_,
    fun s hs t ht => h.isA_antisymm hs ht, fun s hs t ht => h.isA_iff hs ht,
    fun s hs t ht hst => ?_⟩
  · refine ⟨h.fieldNames_nodup hs, h.declaredBy s hs, fun decls hdecls => ?_⟩
    exact ⟨hdecls.fieldNames_eq, hdecls.field?_eq⟩
  · exact h.isA_trans ht htu s hs hst
  · obtain ⟨hrole, hnames⟩ := h.handed_down hs ht hst
    refine ⟨hrole, hnames, fun hembedded => ?_,
      fun session hsession r d hd hschema name hname => ?_⟩
    · have ht : t.isEmbedded = true := by
        by_contra hnot
        rw [Schema.requireEmbedded, if_neg hnot] at hembedded
        cases hembedded
      have hs : s.isEmbedded = true := by rwa [Schema.isEmbedded, hrole]
      rw [Schema.requireEmbedded, if_pos hs]
    · exact hsession.sound.value?_isSome hd (hschema ▸ hnames.subset hname)

/-! A box is a place with a number, and has to name its street.  The other places look like places
and are not. -/

def textField (name : String) (required : Bool) : Field :=
  ⟨name, required, none, .string ⟨.free, none, none⟩⟩

def placeType : Schema :=
  .embedded 0 "Place" [textField "street" false]

def boxType : Schema :=
  .extend 1 placeType "Box" [textField "street" true, textField "number" false]

def otherPlaceType : Schema :=
  .embedded 2 "Place" [textField "street" false]

theorem placeTypes_declared : Declared [otherPlaceType, boxType, placeType] := by
  have hplain : ∀ {types : List Schema} (fields : List Field),
      (∀ f ∈ fields, f.kind.schema? = none ∧ f.default? = none) → ∀ f ∈ fields, f.Over types :=
    fun fields hfields f hf => .plain (hfields f hf).1 (hfields f hf).2
  have hplace : Declared [placeType] := by
    apply Declared.embedded .nil (by simp)
    exact hplain _ (by simp [textField, Kind.schema?])
  have hbox : Declared [boxType, placeType] := by
    apply Declared.extend hplace (by decide) List.mem_cons_self
    exact hplain _ (by simp [textField, Kind.schema?])
  apply Declared.embedded hbox (by decide)
  exact hplain _ (by simp [textField, Kind.schema?])

theorem type_hierarchy_places :
    Declared [otherPlaceType, boxType, placeType] ∧
      boxType.fieldNames = ["street", "number"] ∧
      boxType.field? "street" = some (textField "street" true) ∧
      boxType.requireEmbedded = .ok boxType ∧
      ReflTransGen Schema.Extends boxType placeType ∧
      ¬ ReflTransGen Schema.Extends otherPlaceType placeType := by
  have hplace : placeType ∈ [otherPlaceType, boxType, placeType] := by simp
  have hbox : boxType ∈ [otherPlaceType, boxType, placeType] := by simp
  have hother : otherPlaceType ∈ [otherPlaceType, boxType, placeType] := by simp
  obtain ⟨hfields, _, _, _, hlinks, hdown⟩ := type_hierarchy placeTypes_declared
  obtain ⟨hnames, hlast⟩ := (hfields boxType hbox).2.2 _
    (.extend (.embedded 0 "Place" [textField "street" false]) 1 "Box"
      [textField "street" true, textField "number" false])
  have hisA : boxType.isA placeType = true := rfl
  refine ⟨placeTypes_declared, hnames, hlast "street", (hdown _ hbox _ hplace hisA).2.2.1 rfl,
    (hlinks _ hbox _ hplace).mp hisA, ?_⟩
  intro hup
  have hnot : otherPlaceType.isA placeType = false := rfl
  rw [(hlinks _ hother _ hplace).mpr hup] at hnot
  cases hnot

end DocumentModel
