/-
Dates in JSON are read as they were written.

A number of milliseconds is written as a date text from 1970 to 9999 and as a number otherwise.
Either is read as the same number.  A time as text has no blanks at its ends.
-/
import DocumentModel.Proofs.Calendar
import DocumentModel.Text.Blank
import DocumentModel.Value.Extended

namespace DocumentModel

namespace Decimal

/-! Decimal digits. -/

theorem digitsValue_eq_ofDigitChars (digits : List Char) :
    digitsValue digits = Nat.ofDigitChars 10 digits 0 := by
  rw [digitsValue, Nat.ofDigitChars_eq_foldl]
  congr 1
  funext acc c
  rw [Nat.mul_comm]
  rfl

theorem digitsValue_append_replicate_zero (digits : List Char) (n : Nat) :
    digitsValue (digits ++ List.replicate n '0') = 10 ^ n * digitsValue digits := by
  rw [digitsValue_eq_ofDigitChars, Nat.ofDigitChars_append, Nat.ofDigitChars_replicate_zero,
    digitsValue_eq_ofDigitChars]

theorem isDigit_eq (c : Char) : isDigit c = c.isDigit :=
  rfl

end Decimal

open Decimal

namespace Time

theorem isDigit_of_mem_toDigits {n : Nat} {c : Char} (hc : c ∈ Nat.toDigits 10 n) :
    isDigit c = true := by
  rw [isDigit_eq]
  exact Nat.isDigit_of_mem_toDigits (by omega) (Nat.le_refl 10) hc

theorem isDigit_of_mem_padded {width n : Nat} {c : Char} (hc : c ∈ padded width n) :
    isDigit c = true := by
  rw [padded] at hc
  rcases List.mem_append.mp hc with hzero | hdigit
  · obtain ⟨_, rfl⟩ := List.mem_replicate.mp hzero
    rfl
  · exact isDigit_of_mem_toDigits hdigit

theorem digitsValue_padded (width n : Nat) : digitsValue (padded width n) = n := by
  rw [digitsValue_eq_ofDigitChars, padded, Nat.ofDigitChars_append,
    Nat.ofDigitChars_replicate_zero, Nat.mul_zero, Nat.ofDigitChars_ten_toDigits]

/-- A number that fits takes up exactly its width. -/
theorem length_padded {width n : Nat} (hwidth : 0 < width) (hn : n < 10 ^ width) :
    (padded width n).length = width := by
  have hle := (Nat.length_toDigits_le_iff (by omega : 1 < 10) hwidth).mpr hn
  rw [padded, List.length_append, List.length_replicate]
  omega

theorem fixedDigits?_padded {width n : Nat} (hwidth : 0 < width) (hn : n < 10 ^ width)
    (rest : List Char) : fixedDigits? width (padded width n ++ rest) = some (n, rest) := by
  have hlength := length_padded hwidth hn
  have htake : (padded width n ++ rest).take width = padded width n := by
    rw [List.take_append_of_le_length (Nat.le_of_eq hlength.symm), List.take_of_length_le
      (Nat.le_of_eq hlength)]
  have hdrop : (padded width n ++ rest).drop width = rest := by
    rw [List.drop_append_of_le_length (Nat.le_of_eq hlength.symm), List.drop_of_length_le
      (Nat.le_of_eq hlength), List.nil_append]
  have hdigits : (padded width n).all isDigit = true :=
    List.all_eq_true.mpr fun c hc => isDigit_of_mem_padded hc
  rw [fixedDigits?, htake, hdrop]
  simp only [hlength, hdigits, and_self, ↓reduceIte, digitsValue_padded]

theorem char?_cons (c : Char) (rest : List Char) : char? c (c :: rest) = some rest := by
  simp [char?]

theorem separator?_T (rest : List Char) : separator? ('T' :: rest) = some rest :=
  rfl

/-- Digits, then the letter of UTC, as a fraction of a second. -/
theorem fraction?_padded {width n : Nat} (hpos : 0 < width) (hle : width ≤ 9)
    (hn : n < 10 ^ width) :
    fraction? ('.' :: (padded width n ++ ['Z'])) = some (10 ^ (9 - width) * n, ['Z']) := by
  have hlength := length_padded hpos hn
  have hdigits : ∀ c ∈ padded width n, isDigit c = true := fun c hc => isDigit_of_mem_padded hc
  have hnotZ : isDigit 'Z' = false := rfl
  have htake : (padded width n ++ ['Z']).takeWhile isDigit = padded width n := by
    rw [List.takeWhile_append_of_pos hdigits, List.takeWhile_cons_of_neg (by simp [hnotZ]),
      List.append_nil]
  have hdrop : (padded width n ++ ['Z']).dropWhile isDigit = ['Z'] := by
    rw [List.dropWhile_append_of_pos hdigits, List.dropWhile_cons_of_neg (by simp [hnotZ])]
  have hnonempty : (padded width n).isEmpty = false := by
    rw [List.isEmpty_eq_false_iff, ← List.length_pos_iff, hlength]
    exact hpos
  have hnine : (padded width n ++ List.replicate 9 '0').take 9 =
      padded width n ++ List.replicate (9 - width) '0' := by
    rw [List.take_append, hlength, List.take_of_length_le (by omega), List.take_replicate]
    congr 2
    omega
  simp only [fraction?, htake, hdrop, hnonempty, Bool.false_eq_true, ↓reduceIte, hnine,
    digitsValue_append_replicate_zero, digitsValue_padded]

theorem fraction?_shortFraction {millis : Nat} (hmillis : millis < 1000) :
    fraction? (shortFraction millis ++ ['Z']) = some (millis * 1000000, ['Z']) := by
  rw [shortFraction]
  split
  · next hzero =>
      subst hzero
      rfl
  · split
    · next htenths =>
        rw [List.cons_append, fraction?_padded (by omega) (by omega) (by omega)]
        congr 2
        omega
    · split
      · next hhundredths =>
          rw [List.cons_append, fraction?_padded (by omega) (by omega) (by omega)]
          congr 2
          omega
      · rw [List.cons_append, fraction?_padded (by omega) (by omega) (by omega)]
        congr 2
        omega

/-- The parts of a date and a time of day are read as they were written. -/
theorem written?_chars {date : Date} {hour minute second millis : Nat}
    (hyear : 0 ≤ date.year ∧ date.year ≤ 9999) (hmonth : date.month < 10 ^ 2)
    (hday : date.day < 10 ^ 2) (hhour : hour < 10 ^ 2) (hminute : minute < 10 ^ 2)
    (hsecond : second < 10 ^ 2) (hmillis : millis < 1000) :
    written? (yearChars date.year ++ '-' :: (padded 2 date.month ++ '-' ::
      (padded 2 date.day ++ 'T' :: (padded 2 hour ++ ':' :: (padded 2 minute ++ ':' ::
      (padded 2 second ++ (shortFraction millis ++ ['Z']))))))) =
      some ⟨date, hour, minute, second, millis * 1000000, 0⟩ := by
  have hyearChars : yearChars date.year = padded 4 date.year.toNat := by
    rw [yearChars, if_pos hyear]
  rw [hyearChars, written?]
  refine Option.bind_eq_some_iff.mpr ⟨_, fixedDigits?_padded (by omega) (by omega) _, ?_⟩
  refine Option.bind_eq_some_iff.mpr ⟨_, char?_cons _ _, ?_⟩
  refine Option.bind_eq_some_iff.mpr ⟨_, fixedDigits?_padded (by omega) hmonth _, ?_⟩
  refine Option.bind_eq_some_iff.mpr ⟨_, char?_cons _ _, ?_⟩
  refine Option.bind_eq_some_iff.mpr ⟨_, fixedDigits?_padded (by omega) hday _, ?_⟩
  refine Option.bind_eq_some_iff.mpr ⟨_, separator?_T _, ?_⟩
  refine Option.bind_eq_some_iff.mpr ⟨_, fixedDigits?_padded (by omega) hhour _, ?_⟩
  refine Option.bind_eq_some_iff.mpr ⟨_, char?_cons _ _, ?_⟩
  refine Option.bind_eq_some_iff.mpr ⟨_, fixedDigits?_padded (by omega) hminute _, ?_⟩
  refine Option.bind_eq_some_iff.mpr ⟨_, char?_cons _ _, ?_⟩
  refine Option.bind_eq_some_iff.mpr ⟨_, fixedDigits?_padded (by omega) hsecond _, ?_⟩
  refine Option.bind_eq_some_iff.mpr ⟨_, fraction?_shortFraction hmillis, ?_⟩
  refine Option.bind_eq_some_iff.mpr ⟨_, rfl, ?_⟩
  simp only [Int.toNat_of_nonneg hyear.1, Option.pure_def]

/-- The parts of a valid date and time of day, without a leap second, count its milliseconds. -/
theorem Written.millis?_eq {w : Written} (hvalid : w.date.isValid = true) (hhour : w.hour ≤ 23)
    (hminute : w.minute ≤ 59) (hsecond : w.second ≤ 59) (hahead : w.ahead = 0) :
    w.millis? = some (((w.date.toDays * 86400 + (w.hour * 3600 + w.minute * 60 : Nat) +
      (w.second : Nat)) * 1000000000 + w.nanos).tdiv 1000000) := by
  have hleap : w.second ≠ 60 := by omega
  have hsixty : w.second ≤ 60 := by omega
  simp only [millis?, Written.isValid, instant, hvalid, hhour, hminute, hsixty, hleap, hahead,
    decide_true, decide_false, Bool.and_true, Bool.false_and, Bool.not_true, Bool.or_false,
    Bool.false_eq_true, ↓reduceIte, Int.sub_zero]

/-- Milliseconds written as a date text are read as the same milliseconds. -/
theorem readMillis?_millisText {millis : Int} {text : String}
    (htext : millisText? millis = some text) : readMillis? text = some millis := by
  rw [millisText?] at htext
  split at htext
  · next hrange =>
      obtain ⟨hnonneg, hyear⟩ := hrange
      obtain rfl := Option.some.inj htext
      have hvalid := Date.isValid_ofDays (millis / 1000 / 86400)
      have hfirst : 0 ≤ millis / 1000 / 86400 := by omega
      have hyears := Date.year_ofDays_nonneg hfirst
      have hdays := Date.toDays_ofDays (millis / 1000 / 86400)
      have hmonth := Date.month_le_of_isValid hvalid
      have hday := Date.day_le_of_isValid hvalid
      simp only [Instant.date, Instant.secondOfDay] at hyear ⊢
      generalize Date.ofDays (millis / 1000 / 86400) = date at *
      rw [readMillis?, String.toList_ofList]
      simp only [secondChars, List.append_assoc, List.cons_append]
      rw [written?_chars ⟨hyears, hyear⟩ (by omega) (by omega) (by omega) (by omega) (by omega)
        (by omega), Option.bind_some, Written.millis?_eq hvalid]
      · simp only [hdays]
        congr 1
        rw [Int.tdiv_eq_ediv_of_nonneg (by omega)]
        omega
      all_goals simp only
      all_goals omega
  · cases htext

end Time

open Time

namespace Value

theorem toList_toString_ofNat (n : Nat) : (toString (n : Int)).toList = Nat.toDigits 10 n := by
  change (Nat.repr n).toList = _
  exact Nat.toList_repr

theorem toList_toString_negSucc (n : Nat) :
    (toString (Int.negSucc n)).toList = '-' :: Nat.toDigits 10 (n + 1) := by
  change ("-" ++ Nat.repr (n + 1)).toList = _
  rw [String.toList_append, Nat.toList_repr]
  rfl

/-- The digits of a number pass for a number of 64 bits if it is one. -/
theorem longDigits (n : Nat) (negative : Bool) :
    ((Nat.toDigits 10 n).isEmpty || !(Nat.toDigits 10 n).all isDigit) = false ∧
      (if negative then -(digitsValue (Nat.toDigits 10 n) : Int)
        else digitsValue (Nat.toDigits 10 n)) = if negative then -(n : Int) else n := by
  have hempty : (Nat.toDigits 10 n).isEmpty = false :=
    List.isEmpty_eq_false_iff.mpr Nat.toDigits_ne_nil
  have hall : (Nat.toDigits 10 n).all isDigit = true :=
    List.all_eq_true.mpr fun c hc => isDigit_of_mem_toDigits hc
  rw [hempty, hall, digitsValue_eq_ofDigitChars, Nat.ofDigitChars_ten_toDigits]
  exact ⟨rfl, rfl⟩

/-- Digits have no sign in front. -/
theorem longText?_of_digits {s : String} {n : Nat} (hs : s.toList = Nat.toDigits 10 n)
    (hfits : fitsInt64 n = true) : longText? s = some (n : Int) := by
  have hdigit : ∀ c rest, s.toList = c :: rest → isDigit c = true := fun c rest hc =>
    isDigit_of_mem_toDigits (n := n) (by rw [← hs, hc]; exact List.mem_cons_self)
  obtain ⟨hdigits, hvalue⟩ := longDigits n false
  simp only [Bool.false_eq_true, ↓reduceIte] at hvalue
  rw [longText?]
  split
  next negative digits heq =>
    split at heq
    · next rest hminus => exact absurd (hdigit _ _ hminus) (by decide)
    · next rest hplus => exact absurd (hdigit _ _ hplus) (by decide)
    · obtain ⟨rfl, rfl⟩ := Prod.mk.inj heq
      simp only [hs, hvalue, hdigits, hfits, Bool.false_eq_true, ↓reduceIte, Bool.not_true,
        Bool.or_false]

theorem longText?_of_minus {s : String} {n : Nat} (hs : s.toList = '-' :: Nat.toDigits 10 n)
    (hfits : fitsInt64 (-n) = true) : longText? s = some (-n : Int) := by
  obtain ⟨hdigits, hvalue⟩ := longDigits n true
  simp only [↓reduceIte] at hvalue
  simp only [longText?, hs, hvalue, hdigits, hfits, ↓reduceIte, Bool.not_true, Bool.or_false,
    Bool.false_eq_true]

theorem longText?_toString {n : Int} (hfits : fitsInt64 n = true) :
    longText? (toString n) = some n := by
  cases n with
  | ofNat n => exact longText?_of_digits (toList_toString_ofNat n) hfits
  | negSucc n => exact longText?_of_minus (toList_toString_negSucc n) hfits

/-- Milliseconds in a date are read as they were written. -/
theorem dateMillis?_dateMember {millis : Int} (hfits : fitsInt64 millis = true) :
    dateMillis? (Instant.dateMember millis) = some millis := by
  rw [Instant.dateMember]
  cases htext : millisText? millis with
  | some text => exact readMillis?_millisText htext
  | none => exact longText?_toString hfits

end Value

namespace Time

/-! The time as text has no blanks at its ends. -/

theorem isBlank_of_isDigit {c : Char} (hc : Decimal.isDigit c = true) :
    Text.isBlank c = false := by
  have hrange : 48 ≤ c.toNat ∧ c.toNat ≤ 57 := by
    simpa [Decimal.isDigit_eq, Char.isDigit, UInt32.le_iff_toNat_le] using hc
  simp only [Text.isBlank, Bool.or_eq_false_iff, Bool.and_eq_false_iff, decide_eq_false_iff_not,
    beq_eq_false_iff_ne]
  omega

/-- A padded number starts with a digit. -/
theorem exists_padded (width n : Nat) :
    ∃ c rest, padded width n = c :: rest ∧ Text.isBlank c = false := by
  cases hchars : padded width n with
  | nil =>
      have hempty := congrArg List.length hchars
      simp [padded, Nat.toDigits_ne_nil] at hempty
  | cons c rest =>
      exact ⟨c, rest, rfl, isBlank_of_isDigit (isDigit_of_mem_padded (hchars ▸ List.mem_cons_self))⟩

/-- A year starts with a digit or a sign. -/
theorem exists_yearChars (year : Int) :
    ∃ c rest, yearChars year = c :: rest ∧ Text.isBlank c = false := by
  rw [yearChars]
  split
  · exact exists_padded 4 year.toNat
  · refine ⟨_, _, rfl, ?_⟩
    split <;> decide

theorem rfc3339_bare (t : Instant) : Text.Bare (rfc3339 t) := by
  obtain ⟨c, rest, hyear, hbare⟩ := exists_yearChars t.date.year
  rw [Text.Bare, rfc3339, String.toList_ofList]
  constructor
  · simpa [instantChars, secondChars, hyear] using hbare
  · intro c hc
    rw [List.getLast?_append] at hc
    obtain rfl : c = '0' := by simpa using hc.symm
    decide

end Time

end DocumentModel
