/-
Blank characters, and text without the blanks at its ends.
-/

namespace DocumentModel.Text

/-- Is a character blank?  These are the characters with the White_Space property. -/
def isBlank (c : Char) : Bool :=
  let n := c.toNat
  (9 ≤ n && n ≤ 13) || n == 0x20 || n == 0x85 || n == 0xA0 || n == 0x1680 ||
    (0x2000 ≤ n && n ≤ 0x200A) || n == 0x2028 || n == 0x2029 || n == 0x202F || n == 0x205F ||
    n == 0x3000

theorem isBlank_of_isWhitespace {c : Char} (h : c.isWhitespace = true) : isBlank c = true := by
  simp only [Char.isWhitespace, Bool.or_eq_true, decide_eq_true_eq] at h
  rcases h with ((h | h) | h) | h <;> subst h <;> decide

def dropBlanks (text : List Char) : List Char :=
  text.dropWhile isBlank

def trimChars (text : List Char) : List Char :=
  (dropBlanks (dropBlanks text).reverse).reverse

def trim (text : String) : String :=
  String.ofList (trimChars text.toList)

/-- No blank stands at either end of a text. -/
def Bare (text : String) : Prop :=
  (∀ c ∈ text.toList.head?, isBlank c = false) ∧ ∀ c ∈ text.toList.getLast?, isBlank c = false

theorem isBlank_of_mem_head?_dropBlanks {text : List Char} {c : Char}
    (hc : c ∈ (dropBlanks text).head?) : isBlank c = false := by
  have hhead := List.head?_dropWhile_not isBlank text
  rw [dropBlanks, Option.mem_def] at hc
  rw [hc] at hhead
  simpa using hhead

/-- Dropping blanks at the front keeps the last character, unless nothing is left. -/
theorem mem_getLast?_of_mem_getLast?_dropBlanks {text : List Char} {c : Char}
    (hc : c ∈ (dropBlanks text).getLast?) : c ∈ text.getLast? := by
  obtain ⟨dropped, hdropped⟩ := List.dropWhile_suffix isBlank (l := text)
  change dropped ++ dropBlanks text = text at hdropped
  rw [Option.mem_def] at hc ⊢
  rw [← hdropped, List.getLast?_append, hc]
  rfl

theorem dropBlanks_eq_self {text : List Char} (h : ∀ c ∈ text.head?, isBlank c = false) :
    dropBlanks text = text := by
  cases text with
  | nil => rfl
  | cons c rest =>
      have hc : isBlank c = false := h c rfl
      simp [dropBlanks, hc]

theorem trim_bare (text : String) : Bare (trim text) := by
  constructor
  · intro c hc
    rw [trim, String.toList_ofList, trimChars, List.head?_reverse] at hc
    have hlast := mem_getLast?_of_mem_getLast?_dropBlanks hc
    rw [List.getLast?_reverse] at hlast
    exact isBlank_of_mem_head?_dropBlanks hlast
  · intro c hc
    rw [trim, String.toList_ofList, trimChars, List.getLast?_reverse] at hc
    exact isBlank_of_mem_head?_dropBlanks hc

theorem trim_eq_self {text : String} (h : Bare text) : trim text = text := by
  have hlast : ∀ c ∈ text.toList.reverse.head?, isBlank c = false := by
    rw [List.head?_reverse]
    exact h.2
  rw [trim, trimChars, dropBlanks_eq_self h.1, dropBlanks_eq_self hlast, List.reverse_reverse,
    String.ofList_toList]

end DocumentModel.Text
