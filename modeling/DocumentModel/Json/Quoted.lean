/-
String literals of JSON text.  Only the quote, the backslash and the characters below U+0020 are
escaped; reading accepts every escape of the format, surrogate pairs included.
-/
import DocumentModel.Json
import DocumentModel.Text.Hex

namespace DocumentModel.Json

namespace Quoted

open DocumentModel.Text

/-- One character as it stands between quotes. -/
def escape (c : Char) : List Char :=
  if c = '"' then ['\\', '"']
  else if c = '\\' then ['\\', '\\']
  else if c = '\n' then ['\\', 'n']
  else if c = '\r' then ['\\', 'r']
  else if c = '\t' then ['\\', 't']
  else if c = '\x08' then ['\\', 'b']
  else if c = '\x0c' then ['\\', 'f']
  else if c.toNat < 32 then
    ['\\', 'u', '0', '0', hexDigit (c.toNat / 16), hexDigit (c.toNat % 16)]
  else [c]

def encode (text : List Char) : List Char :=
  '"' :: (text.flatMap escape ++ ['"'])

def codeUnit? : List Char → Option (Nat × List Char)
  | a :: b :: c :: d :: rest => do
      let a ← hexValue? a
      let b ← hexValue? b
      let c ← hexValue? c
      let d ← hexValue? d
      return (((a * 16 + b) * 16 + c) * 16 + d, rest)
  | _ => none

/-- The character of a `\u` escape whose digits come next.  A high surrogate needs the escape of a
low one right after it; a surrogate that stands alone is no character. -/
def unicodeEscape? (input : List Char) : Option (Char × List Char) := do
  let (unit, rest) ← codeUnit? input
  if 0xD800 ≤ unit ∧ unit < 0xDC00 then
    match rest with
    | '\\' :: 'u' :: rest =>
        let (low, rest) ← codeUnit? rest
        if 0xDC00 ≤ low ∧ low < 0xE000 then
          some (Char.ofNat (0x10000 + (unit - 0xD800) * 0x400 + (low - 0xDC00)), rest)
        else none
    | _ => none
  else if 0xDC00 ≤ unit ∧ unit < 0xE000 then none
  else some (Char.ofNat unit, rest)

/-- The character of an escape, after its backslash. -/
def escaped? : List Char → Option (Char × List Char)
  | '"' :: rest => some ('"', rest)
  | '\\' :: rest => some ('\\', rest)
  | '/' :: rest => some ('/', rest)
  | 'b' :: rest => some ('\x08', rest)
  | 'f' :: rest => some ('\x0c', rest)
  | 'n' :: rest => some ('\n', rest)
  | 'r' :: rest => some ('\r', rest)
  | 't' :: rest => some ('\t', rest)
  | 'u' :: rest => unicodeEscape? rest
  | _ => none

/-- The text up to the closing quote, and what follows the quote.  The first argument bounds the
number of characters read. -/
def decode? : Nat → List Char → Option (List Char × List Char)
  | 0, _ => none
  | _, [] => none
  | _ + 1, '"' :: rest => some ([], rest)
  | fuel + 1, '\\' :: rest => do
      let (c, rest) ← escaped? rest
      let (text, rest) ← decode? fuel rest
      return (c :: text, rest)
  | fuel + 1, c :: rest =>
      if c.toNat < 32 then none
      else do
        let (text, rest) ← decode? fuel rest
        return (c :: text, rest)

theorem escaped?_control {n : Nat} (hn : n < 32) (rest : List Char) :
    escaped? ('u' :: '0' :: '0' :: hexDigit (n / 16) :: hexDigit (n % 16) :: rest) =
      some (Char.ofNat n, rest) := by
  have hhigh := hexValue?_hexDigit ⟨n / 16, by omega⟩
  have hlow := hexValue?_hexDigit ⟨n % 16, by omega⟩
  have hzero : hexValue? '0' = some 0 := by decide
  have hsum : n / 16 * 16 + n % 16 = n := by omega
  simp only at hhigh hlow
  simp only [escaped?, unicodeEscape?, codeUnit?, hhigh, hlow, hzero, Option.bind_eq_bind,
    Option.bind_some, Option.pure_def, Nat.zero_mul, Nat.zero_add, Nat.add_zero, hsum]
  rw [if_neg (by omega), if_neg (by omega)]

/-- A text is read back from its literal, whatever follows the literal. -/
theorem decode?_escape (text rest : List Char) {fuel : Nat} (hfuel : text.length < fuel) :
    decode? fuel (text.flatMap escape ++ '"' :: rest) = some (text, rest) := by
  induction text generalizing fuel with
  | nil =>
      obtain ⟨fuel, rfl⟩ := Nat.exists_eq_succ_of_ne_zero (Nat.ne_of_gt hfuel)
      rfl
  | cons c text ih =>
      obtain ⟨fuel, rfl⟩ := Nat.exists_eq_succ_of_ne_zero (Nat.ne_of_gt (Nat.zero_lt_of_lt hfuel))
      have hrest := ih (Nat.lt_of_succ_lt_succ hfuel)
      by_cases hquote : c = '"'
      · subst hquote; simp [escape, decode?, escaped?, hrest]
      by_cases hslash : c = '\\'
      · subst hslash; simp [escape, decode?, escaped?, hrest]
      by_cases hn : c = '\n'
      · subst hn; simp [escape, decode?, escaped?, hrest]
      by_cases hr : c = '\r'
      · subst hr; simp [escape, decode?, escaped?, hrest]
      by_cases ht : c = '\t'
      · subst ht; simp [escape, decode?, escaped?, hrest]
      by_cases hb : c = '\x08'
      · subst hb; simp [escape, decode?, escaped?, hrest]
      by_cases hf : c = '\x0c'
      · subst hf; simp [escape, decode?, escaped?, hrest]
      by_cases hcontrol : c.toNat < 32
      · have hc := escaped?_control hcontrol (text.flatMap escape ++ '"' :: rest)
        rw [Char.ofNat_toNat] at hc
        simp [escape, hquote, hslash, hn, hr, ht, hb, hf, hcontrol, decode?, hc, hrest]
      · simp [escape, hquote, hslash, hn, hr, ht, hb, hf, hcontrol, decode?, hrest]

/-- Pass over a literal without decoding it: escapes must be well formed, but a surrogate may stand
alone. -/
def skip? : List Char → Option (List Char)
  | [] => none
  | '"' :: rest => some rest
  | '\\' :: 'u' :: a :: b :: c :: d :: rest =>
      if [a, b, c, d].all (fun x => (hexValue? x).isSome) then skip? rest else none
  | '\\' :: c :: rest => if c ∈ "\"\\/bfnrt".toList then skip? rest else none
  | c :: rest => if c.toNat < 32 then none else skip? rest

end Quoted

end DocumentModel.Json
