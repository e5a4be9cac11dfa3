/-
RFC 3339 date-times.

Two written forms: with the offset `+00:00` and the fewest of 0, 3, 6 or 9 fraction digits that are
exact, for text; with `Z` and milliseconds, final zeros dropped, for JSON.  Reading gives
milliseconds, cut towards 1970.
-/
import DocumentModel.Time.Instant
import DocumentModel.Decimal.Reader

namespace DocumentModel.Time

/-- A number in decimal, with leading zeros up to `width` digits. -/
def padded (width n : Nat) : List Char :=
  let digits := Nat.toDigits 10 n
  List.replicate (width - digits.length) '0' ++ digits

/-- A year: four digits, and a sign outside 0 to 9999. -/
def yearChars (year : Int) : List Char :=
  if 0 ≤ year ∧ year ≤ 9999 then padded 4 year.toNat
  else (if year < 0 then '-' else '+') :: padded 4 year.natAbs

/-- A date and a time of day, up to the second. -/
def secondChars (date : Date) (secondOfDay second : Nat) : List Char :=
  yearChars date.year ++ '-' :: (padded 2 date.month ++ '-' :: (padded 2 date.day ++
    'T' :: (padded 2 (secondOfDay / 3600) ++ ':' :: (padded 2 (secondOfDay / 60 % 60) ++
    ':' :: padded 2 second))))

/-- A fraction of a second in 0, 3, 6 or 9 digits, the fewest that are exact. -/
def groupedFraction (nanos : Nat) : List Char :=
  if nanos = 0 then []
  else if nanos % 1000000 = 0 then '.' :: padded 3 (nanos / 1000000)
  else if nanos % 1000 = 0 then '.' :: padded 6 (nanos / 1000)
  else '.' :: padded 9 nanos

/-- Milliseconds as a fraction without final zeros. -/
def shortFraction (millis : Nat) : List Char :=
  if millis = 0 then []
  else if millis % 100 = 0 then '.' :: padded 1 (millis / 100)
  else if millis % 10 = 0 then '.' :: padded 2 (millis / 10)
  else '.' :: padded 3 millis

/-- The text of an instant up to its offset.  A leap second is second 60. -/
def instantChars (t : Instant) : List Char :=
  secondChars t.date t.secondOfDay (t.secondOfDay % 60 + t.nanos / 1000000000) ++
    groupedFraction (t.nanos % 1000000000)

def rfc3339 (t : Instant) : String :=
  String.ofList (instantChars t ++ "+00:00".toList)

/-- An instant as text, with the letter of UTC. -/
def rfc3339Zulu (t : Instant) : String :=
  String.ofList (instantChars t ++ ['Z'])

/-- A count of milliseconds as text, if it lies between 1970 and the end of the year 9999. -/
def millisText? (millis : Int) : Option String :=
  let t : Instant := ⟨millis / 1000, 0⟩
  if 0 ≤ millis ∧ t.date.year ≤ 9999 then
    some (String.ofList (secondChars t.date t.secondOfDay (t.secondOfDay % 60) ++
      shortFraction (millis % 1000).toNat ++ ['Z']))
  else none

def fixedDigits? (n : Nat) (input : List Char) : Option (Nat × List Char) :=
  let ds := input.take n
  if ds.length = n ∧ ds.all Decimal.isDigit then
    some (Decimal.digitsValue ds, input.drop n)
  else none

def char? (c : Char) : List Char → Option (List Char)
  | [] => none
  | d :: rest => if c = d then some rest else none

/-- Nanoseconds of an optional fraction; digits after the ninth are read and dropped. -/
def fraction? : List Char → Option (Nat × List Char)
  | '.' :: rest =>
      let ds := rest.takeWhile Decimal.isDigit
      if ds.isEmpty then none
      else
        let nine := (ds ++ List.replicate 9 '0').take 9
        some (Decimal.digitsValue nine, rest.dropWhile Decimal.isDigit)
  | rest => some (0, rest)

/-- The seconds that local time is ahead of UTC; nothing may follow. -/
def offset? : List Char → Option Int
  | ['Z'] => some 0
  | ['z'] => some 0
  | sign :: rest => do
      let (hours, rest) ← fixedDigits? 2 rest
      let rest ← char? ':' rest
      let (minutes, rest) ← fixedDigits? 2 rest
      let ahead : Int := (hours * 3600 + minutes * 60 : Nat)
      if rest ≠ [] ∨ 23 < hours ∨ 59 < minutes then none
      else if sign = '+' then some ahead
      else if sign = '-' then some (-ahead)
      else none
  | [] => none

/-- What a written date-time consists of. -/
structure Written where
  date : Date
  hour : Nat
  minute : Nat
  second : Nat
  nanos : Nat
  /-- The seconds that its local time is ahead of UTC. -/
  ahead : Int

/-- Any single byte between the date and the time. -/
def separator? : List Char → Option (List Char)
  | [] => none
  | c :: rest => if c.toNat < 128 then some rest else none

/-- Read the parts of a date-time. -/
def written? (input : List Char) : Option Written := do
  let (year, rest) ← fixedDigits? 4 input
  let rest ← char? '-' rest
  let (month, rest) ← fixedDigits? 2 rest
  let rest ← char? '-' rest
  let (day, rest) ← fixedDigits? 2 rest
  let rest ← separator? rest
  let (hour, rest) ← fixedDigits? 2 rest
  let rest ← char? ':' rest
  let (minute, rest) ← fixedDigits? 2 rest
  let rest ← char? ':' rest
  let (second, rest) ← fixedDigits? 2 rest
  let (nanos, rest) ← fraction? rest
  let ahead ← offset? rest
  return ⟨⟨year, month, day⟩, hour, minute, second, nanos, ahead⟩

namespace Written

/-- Are the parts those of a day and a time of day? -/
def isValid (w : Written) : Bool :=
  w.date.isValid && w.hour ≤ 23 && w.minute ≤ 59 && w.second ≤ 60

/-- The instant.  Second 60 counts as the last nanosecond before it. -/
def instant (w : Written) : Instant :=
  ⟨w.date.toDays * 86400 + (w.hour * 3600 + w.minute * 60 : Nat) +
      (if w.second = 60 then 59 else w.second : Nat) - w.ahead,
    if w.second = 60 then 999999999 else w.nanos⟩

/-- Can the second be a leap second?  Only the last one of a month in UTC can. -/
def allowsLeap (w : Written) : Bool :=
  let utc := w.instant
  utc.secondOfDay = 86399 && utc.date.day = Date.monthLength utc.date.year utc.date.month

/-- The milliseconds since 1970. -/
def millis? (w : Written) : Option Int :=
  if !w.isValid || (w.second = 60 && !w.allowsLeap) then none
  else some ((w.instant.seconds * 1000000000 + w.instant.nanos).tdiv 1000000)

end Written

/-- Read a date-time as milliseconds since 1970.  Any single byte may stand between the date and
the time.  Second 60 is accepted where a leap second can fall, at the end of a month in UTC, and
counts as the last nanosecond before it. -/
def readMillis? (text : String) : Option Int :=
  (written? text.toList).bind Written.millis?

end DocumentModel.Time
