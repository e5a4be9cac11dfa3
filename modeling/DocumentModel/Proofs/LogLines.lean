/-
What a line of the log says.

A line is read off the fields as they were given: under each key stands the last text that was given
for it, and the event and the severity stand where no field gives another.  The program sorts the
fields and puts them one by one into an object that has two members already.  That the sort is
stable keeps the last text of a key last.  A text never breaks the line it stands in, and the line
reads back as the object that was written, so lines are equal exactly when they say the same.
-/
import DocumentModel.Json.Reader
import DocumentModel.Log
import DocumentModel.Proofs.ByteOrder
import DocumentModel.Proofs.Filters
import Mathlib.Data.List.Sort

namespace DocumentModel

namespace Json

namespace Quoted

theorem pair_printed {d : Char} (hd : 32 ≤ d.toNat) :
    0 < ['\\', d].length ∧ ∀ e ∈ ['\\', d], 32 ≤ e.toNat := by
  refine ⟨Nat.succ_pos _, ?_⟩
  simp only [List.forall_mem_cons]
  exact ⟨by decide, hd, List.forall_mem_nil _⟩

/-- What stands for a character in a literal is neither nothing nor a control character. -/
theorem escape_printed (c : Char) : 0 < (escape c).length ∧ ∀ d ∈ escape c, 32 ≤ d.toNat := by
  have hhex : ∀ n : Fin 16, 32 ≤ (Text.hexDigit n).toNat := by decide
  rw [escape]
  iterate 7
    split
    · exact pair_printed (by decide)
  split
  · have hhigh := hhex ⟨c.toNat / 16, by omega⟩
    have hlow := hhex ⟨c.toNat % 16, by omega⟩
    refine ⟨Nat.succ_pos _, ?_⟩
    simp only [List.forall_mem_cons]
    exact ⟨by decide, by decide, by decide, by decide, hhigh, hlow, List.forall_mem_nil _⟩
  · next hcontrol => simpa using hcontrol

theorem encode_printed (text : List Char) : ∀ d ∈ encode text, 32 ≤ d.toNat := by
  intro d hd
  rw [encode, List.mem_cons, List.mem_append, List.mem_flatMap, List.mem_singleton] at hd
  rcases hd with rfl | ⟨c, _, hc⟩ | rfl
  · decide
  · exact (escape_printed c).2 d hc
  · decide

theorem length_le_flatMap_escape (text : List Char) :
    text.length ≤ (text.flatMap escape).length := by
  induction text with
  | nil => exact Nat.zero_le _
  | cons c rest ih =>
      have hc := (escape_printed c).1
      rw [List.flatMap_cons, List.length_append, List.length_cons]
      omega

theorem encode_append (text rest : List Char) :
    encode text ++ rest = '"' :: (text.flatMap escape ++ '"' :: rest) := by
  simp [encode]

/-- A literal leaves room for as many characters as it stands for. -/
theorem decode?_literal (text rest : List Char) :
    decode? ((text.flatMap escape ++ '"' :: rest).length + 1) (text.flatMap escape ++ '"' :: rest) =
      some (text, rest) := by
  have hlength := length_le_flatMap_escape text
  refine decode?_escape text rest ?_
  rw [List.length_append]
  omega

end Quoted

/-! ### Objects of texts -/

/-- All members are texts. -/
def Object.Texts (members : Object) : Prop :=
  ∀ m ∈ members, ∃ text, m.2 = .str text

theorem memberChars_cons_cons (m second : String × Json) (others : Object) :
    memberChars (m :: second :: others) =
      Quoted.encode m.1.toList ++ ':' :: (chars m.2 ++ ',' :: memberChars (second :: others)) :=
  rfl

theorem memberChars_eq_quote {members : Object} (hne : members ≠ []) :
    ∃ rest, memberChars members = '"' :: rest := by
  obtain ⟨⟨key, value⟩, others, rfl⟩ := List.exists_cons_of_ne_nil hne
  cases others <;> exact ⟨_, rfl⟩

theorem length_le_memberChars (members : Object) :
    members.length ≤ (memberChars members).length := by
  induction members with
  | nil => exact Nat.zero_le _
  | cons m others ih =>
      cases others with
      | nil => simp [memberChars, Quoted.encode]
      | cons second others =>
          rw [memberChars_cons_cons]
          simp only [List.length_append, List.length_cons] at ih ⊢
          omega

theorem memberChars_printed {members : Object} (htexts : members.Texts) :
    ∀ d ∈ memberChars members, 32 ≤ d.toNat := by
  induction members with
  | nil => simp [memberChars]
  | cons m others ih =>
      obtain ⟨key, value⟩ := m
      obtain ⟨⟨text, rfl⟩, hothers⟩ := List.forall_mem_cons.mp htexts
      cases others with
      | nil =>
          intro d hd
          rw [memberChars, List.mem_append, List.mem_cons, chars] at hd
          rcases hd with hkey | rfl | htext
          · exact Quoted.encode_printed _ d hkey
          · decide
          · exact Quoted.encode_printed _ d htext
      | cons second others =>
          intro d hd
          rw [memberChars_cons_cons, List.mem_append, List.mem_cons, List.mem_append, List.mem_cons,
            chars] at hd
          rcases hd with hkey | rfl | htext | rfl | hrest
          · exact Quoted.encode_printed _ d hkey
          · decide
          · exact Quoted.encode_printed _ d htext
          · decide
          · exact ih hothers d hrest

/-! ### Reading them back -/

theorem skipBlanks_quote (rest : List Char) : skipBlanks ('"' :: rest) = '"' :: rest := by
  rw [skipBlanks, if_neg (by decide)]

theorem value?_str (fuel : Nat) (text : String) (rest : List Char) :
    value? (fuel + 1) (chars (.str text) ++ rest) = some (.str text, rest) := by
  rw [chars, Quoted.encode_append, value?]
  simp only [Quoted.decode?_literal, Option.bind_eq_bind, Option.bind_some, String.ofList_toList,
    Option.pure_def]

/-- A member is read, and what follows it decides whether it was the last. -/
theorem members?_member (fuel : Nat) (key text : String) (rest : List Char) :
    members? (fuel + 2) (Quoted.encode key.toList ++ ':' :: (chars (.str text) ++ rest)) =
      match skipBlanks rest with
      | '}' :: rest => some ([(key, .str text)], rest)
      | ',' :: rest => (members? (fuel + 1) (skipBlanks rest)).bind fun p =>
          some ((key, .str text) :: p.1, p.2)
      | _ => none := by
  have hvalue : value? (fuel + 1) (skipBlanks (chars (.str text) ++ rest)) =
      some (.str text, rest) := by
    rw [chars, Quoted.encode_append, skipBlanks_quote, ← Quoted.encode_append, ← chars, value?_str]
  rw [Quoted.encode_append, members?]
  simp only [Quoted.decode?_literal, Option.bind_eq_bind, Option.bind_some, String.ofList_toList]
  rw [skipBlanks, if_neg (by decide)]
  simp only [hvalue, Option.bind_some]
  rfl

theorem members?_memberChars {members : Object} (hne : members ≠ []) (htexts : members.Texts)
    {fuel : Nat} (hfuel : members.length < fuel) (rest : List Char) :
    members? fuel (memberChars members ++ '}' :: rest) = some (members, rest) := by
  induction members generalizing fuel with
  | nil => exact absurd rfl hne
  | cons m others ih =>
      obtain ⟨key, value⟩ := m
      obtain ⟨⟨text, rfl⟩, hothers⟩ := List.forall_mem_cons.mp htexts
      rw [List.length_cons] at hfuel
      obtain ⟨fuel, rfl⟩ : ∃ n, fuel = n + 2 := ⟨fuel - 2, by omega⟩
      cases others with
      | nil =>
          rw [memberChars, List.append_assoc, List.cons_append, members?_member]
          rfl
      | cons second others =>
          have hread := ih (List.cons_ne_nil _ _) hothers (Nat.lt_of_succ_lt_succ hfuel)
          obtain ⟨quoted, hquoted⟩ := memberChars_eq_quote (List.cons_ne_nil second others)
          rw [memberChars_cons_cons, List.append_assoc, List.cons_append, List.append_assoc,
            List.cons_append, members?_member, skipBlanks, if_neg (by decide)]
          simp only [hquoted, List.cons_append, skipBlanks_quote] at hread ⊢
          rw [hread, Option.bind_some]

theorem value?_obj {members : Object} (hne : members ≠ []) (htexts : members.Texts)
    (hkeys : (members.map Prod.fst).Nodup) {fuel : Nat} (hfuel : members.length < fuel)
    (rest : List Char) :
    value? (fuel + 1) (chars (.obj members) ++ rest) = some (.obj members, rest) := by
  have hread := members?_memberChars hne htexts hfuel rest
  obtain ⟨quoted, hquoted⟩ := memberChars_eq_quote hne
  have hmembers : Object.ofMembers members = members := by
    rw [Object.ofMembers, Object.merge_eq_append hkeys (by simp), List.nil_append]
  rw [hquoted, List.cons_append] at hread
  rw [chars, List.cons_append, List.append_assoc, hquoted, List.cons_append, List.singleton_append,
    value?]
  simp only [skipBlanks_quote]
  change (members? fuel ('"' :: (quoted ++ '}' :: rest))).bind
    (fun p => some (Json.obj (Object.ofMembers p.1), p.2)) = _
  rw [hread, Option.bind_some, hmembers]

/-- An object of texts is read back from its own line. -/
theorem read?_render {members : Object} (hne : members ≠ []) (htexts : members.Texts)
    (hkeys : (members.map Prod.fst).Nodup) :
    read? ((Json.obj members).render ++ "\n") = some (.obj members) := by
  have hline : ((Json.obj members).render ++ "\n").toList = chars (.obj members) ++ ['\n'] := by
    rw [render, String.toList_append, String.toList_ofList]
    rfl
  have hblanks : skipBlanks (chars (.obj members) ++ ['\n']) = chars (.obj members) ++ ['\n'] := by
    rw [chars, List.cons_append, skipBlanks, if_neg (by decide)]
  have hlength := length_le_memberChars members
  rw [read?, hline, hblanks]
  simp only
  rw [value?_obj hne htexts hkeys]
  · rfl
  · simp only [chars, List.length_append, List.length_cons]
    omega

/-! ### Merging -/

namespace Object

/-- After a merge the last value of a key counts. -/
theorem get?_merge_last (data changes : Object) (key : String) :
    (data.merge changes).get? key =
      (((changes.filter fun m => m.1 = key).getLast?).map Prod.snd).or (data.get? key) := by
  induction changes generalizing data with
  | nil => rfl
  | cons m rest ih =>
      rw [merge, List.foldl_cons, ← merge, ih]
      by_cases hm : m.1 = key
      · subst hm
        rw [get?_put_self, List.filter_cons_of_pos (by simp), List.getLast?_cons]
        cases (rest.filter fun e => e.1 = m.1).getLast? <;> rfl
      · rw [get?_put_of_ne _ _ (Ne.symm hm), List.filter_cons_of_neg (by simpa using hm)]

/-- A merge keeps the keys in their places and adds new ones in the order in which they come. -/
theorem exists_keys_merge (data changes : Object) :
    ∃ new, (data.merge changes).map Prod.fst = data.map Prod.fst ++ new ∧
      new.Sublist (changes.map Prod.fst) ∧
      ∀ key, key ∈ new ↔ key ∈ changes.map Prod.fst ∧ key ∉ data.map Prod.fst := by
  induction changes generalizing data with
  | nil => exact ⟨[], by simp [merge], .slnil, by simp⟩
  | cons m rest ih =>
      obtain ⟨new, hkeys, hsublist, hmem⟩ := ih (data.put m.1 m.2)
      rw [map_fst_put] at hkeys hmem
      rw [merge, List.foldl_cons, ← merge, hkeys, List.map_cons]
      by_cases hm : m.1 ∈ data.map Prod.fst
      · simp only [if_pos hm] at hmem ⊢
        refine ⟨new, rfl, hsublist.cons _, fun key => ?_⟩
        rw [hmem, List.mem_cons]
        grind
      · simp only [if_neg hm] at hmem ⊢
        refine ⟨m.1 :: new, by simp, hsublist.cons_cons _, fun key => ?_⟩
        rw [List.mem_cons, List.mem_cons, hmem, List.mem_append, List.mem_singleton]
        grind

/-- Objects with the same keys in the same order differ only in their values. -/
theorem eq_of_get?_eq {a b : Object} (hkeys : a.map Prod.fst = b.map Prod.fst)
    (hnodup : (a.map Prod.fst).Nodup) (hget : ∀ key, a.get? key = b.get? key) : a = b := by
  have hlength : a.length = b.length := by simpa using congrArg List.length hkeys
  refine List.ext_getElem hlength fun i hi hi' => ?_
  have hkey := List.getElem_of_eq hkeys (i := i) (by simpa using hi)
  rw [List.getElem_map, List.getElem_map] at hkey
  have ha : a.get? a[i].1 = some a[i].2 := lookup_of_mem hnodup (List.getElem_mem hi)
  have hb : b.get? b[i].1 = some b[i].2 := lookup_of_mem (hkeys ▸ hnodup) (List.getElem_mem hi')
  rw [hget, hkey] at ha
  exact Prod.ext hkey (Option.some.inj (ha.symm.trans hb))

end Object

end Json

namespace LogRecord

open Json.Object

/-! ### The specification -/

/-- The last text that is given for a key. -/
def lastGiven (fields : List (String × String)) (key : String) : Option String :=
  ((fields.filter fun f => f.1 = key).getLast?).map Prod.snd

/-- What a record says under a key: the last text that its fields give for it, or else the event or
the severity. -/
def text? (r : LogRecord) (key : String) : Option String :=
  (lastGiven r.fields key).or
    (if key = "event" then some r.event
    else if key = "severity" then some r.severity.name
    else none)

/-- The same fields in another order, in which the fields of any one key follow each other as they
did. -/
structure Rearranged (fields others : List (String × String)) : Prop where
  perm : fields.Perm others
  keyed : ∀ key, fields.filter (fun f => f.1 = key) = others.filter fun f => f.1 = key

/-! ### Sorting -/

theorem keys_trans (a b c : String × String) (hab : decide (a.1 ≤ b.1) = true)
    (hbc : decide (b.1 ≤ c.1) = true) : decide (a.1 ≤ c.1) = true :=
  decide_eq_true (le_trans (of_decide_eq_true hab) (of_decide_eq_true hbc))

theorem keys_total (a b : String × String) :
    (decide (a.1 ≤ b.1) || decide (b.1 ≤ a.1)) = true := by
  simpa using le_total a.1 b.1

theorem sorted_pairwise (fields : List (String × String)) :
    (sorted fields).Pairwise fun a b => a.1 ≤ b.1 :=
  (List.pairwise_mergeSort keys_trans keys_total fields).imp of_decide_eq_true

/-- Sorting leaves the fields of a key in their order. -/
theorem filter_sorted (fields : List (String × String)) (key : String) :
    (sorted fields).filter (fun f => f.1 = key) = fields.filter fun f => f.1 = key := by
  have hequal : (fields.filter fun f => f.1 = key).Pairwise
      fun a b => decide (a.1 ≤ b.1) = true := by
    refine List.pairwise_of_forall_mem_list fun a ha b hb => decide_eq_true (le_of_eq ?_)
    rw [of_decide_eq_true (List.mem_filter.mp ha).2, of_decide_eq_true (List.mem_filter.mp hb).2]
  -- The fields of the key are in order as they are, so a stable sort has them as a sublist.
  have hsublist := (List.sublist_mergeSort keys_trans keys_total hequal List.filter_sublist).filter
    fun f => f.1 = key
  rw [List.filter_filter] at hsublist
  simp only [Bool.and_self] at hsublist
  have hperm := (List.mergeSort_perm fields fun a b => a.1 ≤ b.1).filter fun f => f.1 = key
  exact (hsublist.eq_of_length hperm.length_eq.symm).symm

/-! ### The object of a record -/

/-- The members of the object that is written. -/
def members (r : LogRecord) : Json.Object :=
  Json.Object.merge [("event", .str r.event), ("severity", .str r.severity.name)]
    ((sorted r.fields).map fun f => (f.1, Json.str f.2))

theorem line_eq (r : LogRecord) : r.line = (Json.obj r.members).render ++ "\n" :=
  rfl

theorem members_texts (r : LogRecord) : r.members.Texts := by
  intro m hm
  rcases mem_merge hm with hbase | hfield
  · simp only [List.mem_cons, List.not_mem_nil, or_false] at hbase
    rcases hbase with rfl | rfl <;> exact ⟨_, rfl⟩
  · obtain ⟨f, _, rfl⟩ := List.mem_map.mp hfield
    exact ⟨f.2, rfl⟩

theorem members_nodup (r : LogRecord) : (r.members.map Prod.fst).Nodup :=
  nodup_merge (by simp) _

/-- The event comes first, then the severity, then all other keys of the fields in increasing
order. -/
theorem members_keys (r : LogRecord) :
    ∃ keys, r.members.map Prod.fst = "event" :: "severity" :: keys ∧
      keys.Pairwise (· < ·) ∧
      ∀ key, key ∈ keys ↔ key ∈ r.fields.map Prod.fst ∧ key ≠ "event" ∧ key ≠ "severity" := by
  obtain ⟨keys, hkeys, hsublist, hmem⟩ := exists_keys_merge
    [("event", .str r.event), ("severity", .str r.severity.name)]
    ((sorted r.fields).map fun f => (f.1, Json.str f.2))
  rw [List.map_map] at hsublist hmem
  change keys.Sublist ((sorted r.fields).map Prod.fst) at hsublist
  have hordered : keys.Pairwise (· ≤ ·) :=
    (List.pairwise_map.mpr (sorted_pairwise r.fields)).sublist hsublist
  have hnodup : keys.Nodup := by
    have hall := r.members_nodup
    rw [members, hkeys] at hall
    exact (List.nodup_append.mp hall).2.1
  refine ⟨keys, hkeys, ?_, fun key => ?_⟩
  · exact (hordered.and hnodup).imp fun h => lt_of_le_of_ne h.1 h.2
  · rw [hmem]
    simp [sorted]

/-- Under each key stands what the record says there. -/
theorem get?_members (r : LogRecord) (key : String) :
    r.members.get? key = (r.text? key).map .str := by
  have hbase : Json.Object.get? [("event", .str r.event), ("severity", .str r.severity.name)] key =
      (if key = "event" then some r.event
      else if key = "severity" then some r.severity.name
      else none).map Json.str := by
    rw [Json.Object.get?, List.lookup_cons, List.lookup_cons]
    by_cases hevent : key = "event"
    · simp [hevent]
    · by_cases hseverity : key = "severity"
      · simp [hseverity]
      · simp [hevent, hseverity, beq_false_of_ne hevent, beq_false_of_ne hseverity]
  have hfields : ((sorted r.fields).map fun f => (f.1, Json.str f.2)).filter (fun m => m.1 = key) =
      (r.fields.filter fun f => f.1 = key).map fun f => (f.1, Json.str f.2) := by
    rw [List.filter_map, ← filter_sorted]
    rfl
  rw [members, get?_merge_last, hfields, List.getLast?_map, hbase, text?, lastGiven, Option.map_or,
    Option.map_map, Option.map_map]
  rfl

/-- A line reads back as the object of its record. -/
theorem read?_line (r : LogRecord) : Json.read? r.line = some (.obj r.members) := by
  obtain ⟨keys, hkeys, _⟩ := r.members_keys
  have hne : r.members ≠ [] := fun hnil => by
    rw [hnil] at hkeys
    cases hkeys
  exact Json.read?_render hne r.members_texts r.members_nodup

/-- No text breaks a line. -/
theorem line_unbroken (r : LogRecord) : ∃ text, r.line = text ++ "\n" ∧ '\n' ∉ text.toList := by
  refine ⟨(Json.obj r.members).render, rfl, fun hbreak => ?_⟩
  rw [Json.render, String.toList_ofList, Json.chars, List.mem_cons, List.mem_append,
    List.mem_singleton] at hbreak
  rcases hbreak with hbrace | hmember | hbrace
  · cases hbrace
  · exact absurd (Json.memberChars_printed r.members_texts _ hmember) (by decide)
  · cases hbrace

/-! ### Equal lines -/

theorem isSome_text? (r : LogRecord) {key : String} (hevent : key ≠ "event")
    (hseverity : key ≠ "severity") :
    (r.text? key).isSome = true ↔ key ∈ r.fields.map Prod.fst := by
  simp [text?, lastGiven, hevent, hseverity]

theorem members_eq {r other : LogRecord} (h : ∀ key, other.text? key = r.text? key) :
    other.members = r.members := by
  obtain ⟨keys, hkeys, hordered, hmem⟩ := r.members_keys
  obtain ⟨keys', hkeys', hordered', hmem'⟩ := other.members_keys
  have hsame : keys' = keys := by
    refine hordered'.eq_of_mem_iff hordered fun key => ?_
    rw [hmem, hmem']
    refine and_congr_left fun ⟨hevent, hseverity⟩ => ?_
    rw [← isSome_text? r hevent hseverity, ← isSome_text? other hevent hseverity, h]
  refine Json.Object.eq_of_get?_eq ?_ other.members_nodup fun key => ?_
  · rw [hkeys, hkeys', hsame]
  · rw [get?_members, get?_members, h]

/-- Lines are equal exactly when they say the same under each key. -/
theorem line_eq_iff (r other : LogRecord) :
    other.line = r.line ↔ ∀ key, other.text? key = r.text? key := by
  constructor
  · intro hline key
    have hread := read?_line other
    rw [hline, read?_line] at hread
    have hget := get?_members r key
    rw [Json.obj.inj (Option.some.inj hread), get?_members] at hget
    exact Option.map_injective (fun _ _ => Json.str.inj) hget
  · intro htext
    rw [line_eq, line_eq, members_eq htext]

theorem text?_of_rearranged {r : LogRecord} {others : List (String × String)}
    (h : Rearranged r.fields others) (key : String) :
    text? { r with fields := others } key = r.text? key := by
  simp only [text?, lastGiven, h.keyed]

/-- A line ends in its only line feed.  It reads back as an object that names the event, then the
severity, then each other key of the fields once, in the order of their bytes, and that has under
each key the last text that the fields give for it, or else the event or the severity.  Lines are
equal exactly when they say the same under each key; in particular the order of the fields does not
matter, except among fields of one key. -/
theorem line_canonical (r : LogRecord) :
    (∃ text, r.line = text ++ "\n" ∧ '\n' ∉ text.toList) ∧
    (∃ members keys, r.line = (Json.obj members).render ++ "\n" ∧
      Json.read? r.line = some (.obj members) ∧
      members.map Prod.fst = "event" :: "severity" :: keys ∧
      (members.map Prod.fst).Nodup ∧
      (keys.Pairwise fun a b => Text.bytes a < Text.bytes b) ∧
      (∀ key, key ∈ keys ↔ key ∈ r.fields.map Prod.fst ∧ key ≠ "event" ∧ key ≠ "severity") ∧
      ∀ key, Json.Object.get? members key = (r.text? key).map .str) ∧
    (∀ other : LogRecord, other.line = r.line ↔ ∀ key, other.text? key = r.text? key) ∧
    ∀ others, Rearranged r.fields others → line { r with fields := others } = r.line := by
  obtain ⟨keys, hkeys, hordered, hmem⟩ := r.members_keys
  refine ⟨r.line_unbroken, ⟨r.members, keys, r.line_eq, r.read?_line, hkeys, r.members_nodup,
    hordered.imp Text.bytes_lt, hmem, r.get?_members⟩, r.line_eq_iff, fun others hothers => ?_⟩
  exact (r.line_eq_iff _).mpr (text?_of_rearranged hothers)

/-! A record whose texts have line breaks, quotes and controls in them, and that gives a path twice
and the event once more.  Another order of its fields leaves the two paths as they are. -/

def upload : LogRecord :=
  ⟨.warn, "upload\nfailed",
    [("path", "a\tb"), ("event", "retry"), ("größe", "\x01"), ("path", "\"c\"\r\n")]⟩

def uploadSorted : List (String × String) :=
  [("event", "retry"), ("größe", "\x01"), ("path", "a\tb"), ("path", "\"c\"\r\n")]

theorem upload_rearranged : Rearranged upload.fields uploadSorted where
  perm := by decide
  keyed key := by
    by_cases hpath : "path" = key
    · subst hpath
      rfl
    · simp [upload, uploadSorted, List.filter_cons, hpath]

/-- The line of both has the event that the fields give and the later path. -/
theorem line_canonical_upload :
    Rearranged upload.fields uploadSorted ∧
      line { upload with fields := uploadSorted } = upload.line ∧
      ∃ members, Json.read? upload.line = some (.obj members) ∧
        Json.Object.get? members "event" = some (.str "retry") ∧
        Json.Object.get? members "path" = some (.str "\"c\"\r\n") := by
  obtain ⟨_, ⟨members, _, _, hread, _, _, _, _, hget⟩, _, hrearranged⟩ := line_canonical upload
  exact ⟨upload_rearranged, hrearranged uploadSorted upload_rearranged, members, hread,
    hget "event", hget "path"⟩

end LogRecord

end DocumentModel
