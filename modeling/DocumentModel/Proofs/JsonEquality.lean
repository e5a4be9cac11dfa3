/-
Equality of JSON up to the order of members.

`Json.same` compares the members of one object with those of another by looking them up.  What it
decides is a relation that knows no order: objects are related when they have the same keys and
under each key what is related.  Integers are related to integers only and floating-point numbers to
floating-point numbers only.
-/
import DocumentModel.Proofs.NormalForm
import Mathlib.Data.List.Perm.Subperm

namespace DocumentModel

namespace Json

/-- Two pieces of JSON are the same up to the order of members, at every depth, and up to a relation
between floating-point numbers. -/
inductive UpToOrder (R : Float → Float → Prop) : Json → Json → Prop
  | null : UpToOrder R .null .null
  | bool (b : Bool) : UpToOrder R (.bool b) (.bool b)
  | int (n : Int) : UpToOrder R (.int n) (.int n)
  | float {x y : Float} (hxy : R x y) : UpToOrder R (.float x) (.float y)
  | str (s : String) : UpToOrder R (.str s) (.str s)
  | arr {as bs : List Json} (hlength : as.length = bs.length)
      (hitems : ∀ (i : Nat) (a b : Json), as[i]? = some a → bs[i]? = some b → UpToOrder R a b) :
      UpToOrder R (.arr as) (.arr bs)
  | obj {as bs : Object} (hkeys : ∀ key, key ∈ as.map Prod.fst ↔ key ∈ bs.map Prod.fst)
      (hmembers : ∀ m ∈ as, ∀ m' ∈ bs, m.1 = m'.1 → UpToOrder R m.2 m'.2) :
      UpToOrder R (.obj as) (.obj bs)

/-- The same JSON with its members in another order. -/
abbrev Reordered : Json → Json → Prop :=
  UpToOrder (· = ·)

/-- The same JSON, where floating-point numbers are compared as numbers: the two zeros are one, and
what is not a number is like nothing. -/
abbrev Alike : Json → Json → Prop :=
  UpToOrder fun x y => (x == y) = true

/-- JSON as it can be held: objects name each key once and numbers are finite. -/
inductive Genuine : Json → Prop
  | null : Genuine .null
  | bool (b : Bool) : Genuine (.bool b)
  | int (n : Int) : Genuine (.int n)
  | float {x : Float} (hfinite : x.isFinite = true) : Genuine (.float x)
  | str (s : String) : Genuine (.str s)
  | arr {items : List Json} (hitems : ∀ j ∈ items, Genuine j) : Genuine (.arr items)
  | obj {members : Object} (hkeys : (members.map Prod.fst).Nodup)
      (hmembers : ∀ m ∈ members, Genuine m.2) : Genuine (.obj members)

/-- Members with different keys are told apart by them. -/
theorem Object.eq_of_key {members : Object} (hkeys : (members.map Prod.fst).Nodup)
    {m m' : String × Json} (hm : m ∈ members) (hm' : m' ∈ members) (hkey : m.1 = m'.1) : m = m' :=
  Prod.ext hkey <| Option.some.inj <|
    (lookup_of_mem hkeys hm).symm.trans (hkey ▸ lookup_of_mem hkeys hm')

theorem Genuine.refl {R : Float → Float → Prop} (hself : ∀ x : Float, x.isFinite = true → R x x)
    {j : Json} (hj : j.Genuine) : UpToOrder R j j := by
  induction hj with
  | null => exact .null
  | bool b => exact .bool b
  | int n => exact .int n
  | float hfinite => exact .float (hself _ hfinite)
  | str s => exact .str s
  | arr _ ih =>
      refine .arr rfl fun i j j' hj hj' => ?_
      rw [← Option.some.inj (hj.symm.trans hj')]
      exact ih j (List.mem_of_getElem? hj)
  | obj hkeys _ ih =>
      refine .obj (fun _ => Iff.rfl) fun m hm m' hm' hkey => ?_
      rw [← Object.eq_of_key hkeys hm hm' hkey]
      exact ih m hm

theorem Genuine.wellFormed {j : Json} (hj : j.Genuine) : j.WellFormed := by
  induction hj with
  | null => exact .null
  | bool b => exact .bool b
  | int n => exact .int n
  | float _ => exact .float _
  | str s => exact .str s
  | arr _ ih => exact .arr ih
  | obj hkeys _ ih => exact .obj hkeys ih

theorem WellFormed.keys_nodup {members : Object} :
    WellFormed (.obj members) → (members.map Prod.fst).Nodup
  | .obj hkeys _ => hkeys

theorem mem_of_lookup {members : Object} {key : String} {j : Json}
    (hfound : members.lookup key = some j) : (key, j) ∈ members := by
  obtain ⟨before, after, rfl, _⟩ := List.lookup_eq_some_iff.mp hfound
  exact List.mem_append_right _ List.mem_cons_self

namespace UpToOrder

variable {R S T : Float → Float → Prop} {a b c : Json}

theorem symm (hswap : ∀ x y, R x y → S y x) (hab : UpToOrder R a b) : UpToOrder S b a := by
  induction hab with
  | null => exact .null
  | bool b => exact .bool b
  | int n => exact .int n
  | float hxy => exact .float (hswap _ _ hxy)
  | str s => exact .str s
  | arr hlength _ ih => exact .arr hlength.symm fun i a b ha hb => ih i b a hb ha
  | obj hkeys _ ih =>
      exact .obj (fun key => (hkeys key).symm) fun m hm m' hm' hkey => ih m' hm' m hm hkey.symm

theorem trans (hcompose : ∀ x y z, R x y → S y z → T x z) (hab : UpToOrder R a b)
    (hbc : UpToOrder S b c) : UpToOrder T a c := by
  induction hab generalizing c with
  | float hxy =>
      cases hbc with
      | float hyz => exact .float (hcompose _ _ _ hxy hyz)
  | arr hlength _ ih =>
      cases hbc with
      | arr hlength' hitems' =>
          refine .arr (hlength.trans hlength') fun i a c ha hc => ?_
          obtain ⟨hi, _⟩ := List.getElem?_eq_some_iff.mp ha
          have hb := List.getElem?_eq_getElem (hlength ▸ hi)
          exact ih i a _ ha hb (hitems' i _ c hb hc)
  | obj hkeys _ ih =>
      cases hbc with
      | obj hkeys' hmembers' =>
          refine .obj (fun key => (hkeys key).trans (hkeys' key)) fun m hm m' hm' hkey => ?_
          obtain ⟨between, hbetween, heq⟩ :=
            List.mem_map.mp ((hkeys m.1).mp (List.mem_map_of_mem hm))
          exact ih m hm between hbetween heq.symm
            (hmembers' between hbetween m' hm' (heq.trans hkey))
  | _ =>
      cases hbc
      constructor

end UpToOrder

theorem Reordered.symm {a b : Json} (hab : a.Reordered b) : b.Reordered a :=
  UpToOrder.symm (fun _ _ => Eq.symm) hab

theorem Genuine.reordered_self {j : Json} (hj : j.Genuine) : j.Reordered j :=
  hj.refl fun _ _ => rfl

/-- To permute the members of an object is to reorder it. -/
theorem Genuine.reordered_of_perm {as bs : Object} (has : (Json.obj as).Genuine)
    (hperm : as.Perm bs) : (Json.obj as).Reordered (.obj bs) := by
  cases has with
  | obj hkeys hmembers =>
      refine .obj (fun key => (hperm.map Prod.fst).mem_iff) fun m hm m' hm' hkey => ?_
      rw [← Object.eq_of_key hkeys hm (hperm.mem_iff.mpr hm') hkey]
      exact (hmembers m hm).reordered_self

namespace UpToOrder

variable {R : Float → Float → Prop} {a a' b b' : Json}

theorem reordered_left (hab : UpToOrder R a b) (ha : a.Reordered a') : UpToOrder R a' b :=
  have hcompose : ∀ x y z, x = y → R y z → R x z := fun _ _ _ heq hyz => heq ▸ hyz
  trans hcompose ha.symm hab

theorem reordered_right (hab : UpToOrder R a b) (hb : b.Reordered b') : UpToOrder R a b' :=
  have hcompose : ∀ x y z, R x y → y = z → R x z := fun _ _ _ hxy heq => heq ▸ hxy
  trans hcompose hab hb

end UpToOrder

/-! ### What the program's comparison decides -/

/-- Objects that name each key once have as many members as each other when each member of the one
has a namesake in the other and the other way round. -/
theorem Object.keys_iff {as bs : Object} (has : (as.map Prod.fst).Nodup)
    (hbs : (bs.map Prod.fst).Nodup) :
    (∀ key, key ∈ as.map Prod.fst ↔ key ∈ bs.map Prod.fst) ↔
      as.length = bs.length ∧ ∀ key ∈ as.map Prod.fst, key ∈ bs.map Prod.fst := by
  have hlengths : as.length = bs.length ↔
      (as.map Prod.fst).length = (bs.map Prod.fst).length := by
    rw [List.length_map, List.length_map]
  rw [hlengths]
  constructor
  · exact fun hkeys =>
      ⟨((List.perm_ext_iff_of_nodup has hbs).mpr hkeys).length_eq, fun key => (hkeys key).mp⟩
  · rintro ⟨hlength, hsubset⟩ key
    exact ((List.subperm_of_subset has hsubset).perm_of_length_le hlength.ge).mem_iff

/-- Equality of items, place by place. -/
theorem sameItems_iff_getElem? {as bs : List Json} :
    sameItems as bs = true ↔ as.length = bs.length ∧
      ∀ (i : Nat) (a b : Json), as[i]? = some a → bs[i]? = some b → a.same b = true := by
  rw [sameItems_iff]
  refine and_congr_right fun _ => ⟨fun h i a b ha hb => ?_, fun h p hp => ?_⟩
  · exact h (a, b) (List.mem_of_getElem? (List.getElem?_zip_eq_some.mpr ⟨ha, hb⟩))
  · obtain ⟨i, hi⟩ := List.mem_iff_getElem?.mp hp
    obtain ⟨ha, hb⟩ := List.getElem?_zip_eq_some.mp hi
    exact h i p.1 p.2 ha hb

/-- Equality of members, namesake by namesake. -/
theorem sameMembers_iff_forall {as bs : Object} (hbs : (bs.map Prod.fst).Nodup) :
    sameMembers as bs = true ↔ (∀ key ∈ as.map Prod.fst, key ∈ bs.map Prod.fst) ∧
      ∀ m ∈ as, ∀ m' ∈ bs, m.1 = m'.1 → m.2.same m'.2 = true := by
  rw [sameMembers_iff]
  constructor
  · intro h
    refine ⟨fun key hkey => ?_, fun m hm m' hm' hkey => ?_⟩
    · obtain ⟨m, hm, rfl⟩ := List.mem_map.mp hkey
      obtain ⟨b, hb, _⟩ := h m hm
      exact List.mem_map.mpr ⟨(m.1, b), mem_of_lookup hb, rfl⟩
    · obtain ⟨b, hb, hsame⟩ := h m hm
      rw [hkey, lookup_of_mem hbs hm'] at hb
      rwa [Option.some.inj hb]
  · rintro ⟨hkeys, hsame⟩ m hm
    obtain ⟨m', hm', hkey⟩ := List.mem_map.mp (hkeys m.1 (List.mem_map_of_mem hm))
    exact ⟨m'.2, hkey ▸ lookup_of_mem hbs hm', hsame m hm m' hm' hkey.symm⟩

theorem same_of_alike {a b : Json} (hab : a.Alike b) (ha : a.WellFormed) (hb : b.WellFormed) :
    a.same b = true := by
  induction hab with
  | null => rfl
  | bool b => simp [same]
  | int n => simp [same]
  | float hxy => exact hxy
  | str s => simp [same]
  | arr hlength _ ih =>
      refine sameItems_iff_getElem?.mpr ⟨hlength, fun i a b hia hib => ?_⟩
      exact ih i a b hia hib (ha.of_arr a (List.mem_of_getElem? hia))
        (hb.of_arr b (List.mem_of_getElem? hib))
  | obj hkeys _ ih =>
      obtain ⟨hlength, hsubset⟩ := (Object.keys_iff ha.keys_nodup hb.keys_nodup).mp hkeys
      rw [same, Bool.and_eq_true, beq_iff_eq, sameMembers_iff_forall hb.keys_nodup]
      exact ⟨hlength, hsubset, fun m hm m' hm' hkey =>
        ih m hm m' hm' hkey (ha.of_obj m hm) (hb.of_obj m' hm')⟩

theorem alike_of_same {a b : Json} (ha : a.WellFormed) (hb : b.WellFormed)
    (hsame : a.same b = true) : a.Alike b := by
  induction ha generalizing b with
  | arr hitems ih =>
      cases hb with
      | arr hitems' =>
          obtain ⟨hlength, hsame⟩ := sameItems_iff_getElem?.mp hsame
          exact .arr hlength fun i a b hia hib =>
            ih a (List.mem_of_getElem? hia) (hitems' b (List.mem_of_getElem? hib))
              (hsame i a b hia hib)
      | _ => cases hsame
  | obj hkeys _ ih =>
      cases hb with
      | obj hkeys' hmembers' =>
          rw [same, Bool.and_eq_true, beq_iff_eq, sameMembers_iff_forall hkeys'] at hsame
          obtain ⟨hlength, hsubset, hsame⟩ := hsame
          exact .obj ((Object.keys_iff hkeys hkeys').mpr ⟨hlength, hsubset⟩)
            fun m hm m' hm' hkey => ih m hm (hmembers' m' hm') (hsame m hm m' hm' hkey)
      | _ => cases hsame
  | null =>
      cases hb with
      | null => exact .null
      | _ => cases hsame
  | bool x =>
      cases hb with
      | bool y => exact eq_of_beq hsame ▸ .bool x
      | _ => cases hsame
  | int n =>
      cases hb with
      | int m => exact eq_of_beq hsame ▸ .int n
      | _ => cases hsame
  | float x =>
      cases hb with
      | float y => exact .float hsame
      | _ => cases hsame
  | str s =>
      cases hb with
      | str t => exact eq_of_beq hsame ▸ .str s
      | _ => cases hsame

/-- Two pieces of JSON are equal, as the program compares them, when they are alike. -/
theorem same_iff_alike {a b : Json} (ha : a.WellFormed) (hb : b.WellFormed) :
    a.same b = true ↔ a.Alike b :=
  ⟨alike_of_same ha hb, fun hab => same_of_alike hab ha hb⟩

theorem Genuine.same_self {j : Json} (hj : j.Genuine) : j.same j = true :=
  same_of_alike (hj.refl fun _ => float_beq_self) hj.wellFormed hj.wellFormed

end Json

end DocumentModel
