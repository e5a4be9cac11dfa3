/-
The order of texts and of their bytes.

Texts are compared character by character, and so are their bytes: a smaller character has smaller
bytes.  If two characters take the same number of bytes, those are the digits of their numbers to
base 64; if not, the first byte alone tells which of them takes more.
-/
import Mathlib.Algebra.Group.Nat.Defs
import Mathlib.Tactic.SplitIfs

namespace DocumentModel.Text

/-- The bytes of a text. -/
def bytes (s : String) : List UInt8 :=
  s.toUTF8.data.toList

theorem bytes_eq_flatMap (s : String) : bytes s = s.toList.flatMap String.utf8EncodeChar := by
  rw [bytes, String.toUTF8_eq_toByteArray, ← String.utf8Encode_toList, List.utf8Encode,
    List.toList_data_toByteArray]

namespace Utf8

theorem byte_cons_lt {p q : Nat} (hq : q < 256) (h : p < q) (x y : List UInt8) :
    UInt8.ofNat p :: x < UInt8.ofNat q :: y := by
  rw [List.cons_lt_cons_iff, UInt8.lt_iff_toNat_lt, UInt8.toNat_ofNat_of_lt' (Nat.lt_trans h hq),
    UInt8.toNat_ofNat_of_lt' hq]
  exact Or.inl h

/-! ### The bytes of a number -/

/-- A number to base 64: its last `n` digits in a byte each, and the rest, marked as the start, in
the byte before them. -/
def code (mark : Nat) : Nat → Nat → List UInt8
  | 0, v => [UInt8.ofNat (v + mark)]
  | n + 1, v => code mark n (v / 64) ++ [UInt8.ofNat (v % 64 + 128)]

theorem code_eq_cons (mark n v : Nat) :
    ∃ rest, code mark n v = UInt8.ofNat (v / 64 ^ n + mark) :: rest := by
  induction n generalizing v with
  | zero => exact ⟨[], by simp [code]⟩
  | succ n ih =>
      obtain ⟨rest, hrest⟩ := ih (v / 64)
      refine ⟨rest ++ [UInt8.ofNat (v % 64 + 128)], ?_⟩
      rw [code, hrest, List.cons_append, Nat.div_div_eq_div_mul, Nat.pow_succ']

/-- Codes of one length are ordered as the numbers are, whatever follows them. -/
theorem code_lt {mark n v w : Nat} (hfits : w / 64 ^ n + mark < 256) (h : v < w)
    (x y : List UInt8) : code mark n v ++ x < code mark n w ++ y := by
  induction n generalizing v w x y with
  | zero =>
      rw [Nat.pow_zero, Nat.div_one] at hfits
      exact byte_cons_lt hfits (Nat.add_lt_add_right h mark) x y
  | succ n ih =>
      rw [Nat.pow_succ', ← Nat.div_div_eq_div_mul] at hfits
      rw [code, code, List.append_assoc, List.append_assoc]
      -- Either the digits before the last decide, or they agree and the last one does.
      rcases Nat.lt_or_eq_of_le (Nat.div_le_div_right (c := 64) (Nat.le_of_lt h)) with hlt | heq
      · exact ih hfits hlt _ _
      · rw [heq]
        exact List.append_left_lt (byte_cons_lt (by omega) (by omega) x y)

/-! ### The bytes of a character -/

/-- How many bytes follow the first one of a character. -/
def follows (v : Nat) : Nat :=
  if v ≤ 0x7f then 0 else if v ≤ 0x7ff then 1 else if v ≤ 0xffff then 2 else 3

/-- What marks the first byte of a character, by the number of bytes that follow it. -/
def mark : Nat → Nat
  | 0 => 0
  | 1 => 0xc0
  | 2 => 0xe0
  | _ => 0xf0

theorem toNat_lt (c : Char) : c.toNat < 0x110000 := by
  have hvalid : c.toNat < 0xd800 ∨ (0xdfff < c.toNat ∧ c.toNat < 0x110000) := c.valid
  omega

theorem first_fits {v : Nat} (hv : v < 0x110000) : v / 64 ^ follows v + mark (follows v) < 256 := by
  simp only [follows]
  split_ifs <;> simp only [mark] <;> omega

/-- A longer code has a larger first byte. -/
theorem first_lt {v w : Nat} (h : v < w) (hw : w < 0x110000) (hlength : follows v ≠ follows w) :
    v / 64 ^ follows v + mark (follows v) < w / 64 ^ follows w + mark (follows w) := by
  simp only [follows] at hlength ⊢
  split_ifs at hlength ⊢ <;> simp only [mark] <;> omega

theorem utf8EncodeChar_eq_code (c : Char) :
    String.utf8EncodeChar c = code (mark (follows c.toNat)) (follows c.toNat) c.toNat := by
  have hvalid := toNat_lt c
  simp only [String.utf8EncodeChar, Char.toNat_val, follows]
  split_ifs <;>
    simp (disch := omega) [code, mark, Nat.div_div_eq_div_mul, Nat.mod_eq_of_lt]

/-- Characters are ordered as their bytes are, whatever follows them. -/
theorem utf8EncodeChar_lt {c d : Char} (h : c < d) (x y : List UInt8) :
    String.utf8EncodeChar c ++ x < String.utf8EncodeChar d ++ y := by
  have hlt : c.toNat < d.toNat := h
  have hfits := first_fits (toNat_lt d)
  rw [utf8EncodeChar_eq_code, utf8EncodeChar_eq_code]
  by_cases hlength : follows c.toNat = follows d.toNat
  · rw [hlength]
    exact code_lt hfits hlt x y
  · obtain ⟨rest, hrest⟩ := code_eq_cons (mark (follows c.toNat)) (follows c.toNat) c.toNat
    obtain ⟨rest', hrest'⟩ := code_eq_cons (mark (follows d.toNat)) (follows d.toNat) d.toNat
    rw [hrest, hrest']
    exact byte_cons_lt hfits (first_lt hlt (toNat_lt d) hlength) _ _

theorem flatMap_utf8EncodeChar_lt {l m : List Char} (h : l < m) :
    l.flatMap String.utf8EncodeChar < m.flatMap String.utf8EncodeChar := by
  induction h with
  | @nil d m =>
      obtain ⟨rest, hrest⟩ := code_eq_cons (mark (follows d.toNat)) (follows d.toNat) d.toNat
      rw [List.flatMap_cons, utf8EncodeChar_eq_code, hrest]
      exact List.nil_lt_cons _ _
  | rel hchar => exact utf8EncodeChar_lt hchar _ _
  | cons _ ih => exact List.append_left_lt ih

end Utf8

/-- Texts are ordered as their bytes are. -/
theorem bytes_lt {a b : String} (h : a < b) : bytes a < bytes b := by
  rw [bytes_eq_flatMap, bytes_eq_flatMap]
  exact Utf8.flatMap_utf8EncodeChar_lt h

end DocumentModel.Text
