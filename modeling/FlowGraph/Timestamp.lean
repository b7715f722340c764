import FlowGraph.Number.Decimal
import FlowGraph.Text.Blank

/-! # Timestamps

A timestamp counts the seconds since the start of 1970 in universal time and the nanoseconds since
then; the nanoseconds of a leap second go on beyond one second. Timestamps are ordered by the
seconds and then by the nanoseconds.

* `Timestamp.text` writes the date, the time, a fraction of 3, 6 or 9 digits if there is one, and
  the mark of universal time; `Timestamp.offsetText` ends in a zero offset instead.
* `Timestamp.parse` reads this form, and any other offset from universal time. It is lenient: there
  may be blanks between the parts, numbers may be short, and a year may have a sign.
* `Timestamp.parseStrict` reads numbers of full length only, with nothing between them but the marks.
  The two readers differ in how they read the parts (`Form`). -/

namespace FlowGraph

/-- A point in time. -/
structure Timestamp where
  /-- The seconds since the start of 1970. -/
  seconds : Int
  /-- The nanoseconds into the second. -/
  nanos : Nat
deriving DecidableEq

namespace Timestamp

/-! ### Order and arithmetic -/

/-- Whether the first timestamp is not later than the second. -/
def le (a b : Timestamp) : Bool :=
  a.seconds < b.seconds || (a.seconds == b.seconds && a.nanos ≤ b.nanos)

/-- The timestamp some milliseconds later. -/
def addMillis (t : Timestamp) (ms : Nat) : Timestamp :=
  let nanos := t.nanos + ms % 1000 * 1000000
  ⟨t.seconds + (ms / 1000 : Nat) + (nanos / 1000000000 : Nat), nanos % 1000000000⟩

/-! ### Dates -/

/-- A date. -/
structure Date where
  year : Int
  month : Nat
  day : Nat
deriving DecidableEq

/-- The days in the 400 years after which dates repeat. -/
def daysPerEra : Int := 146097

/-- The days from the start of March of year 0 to the start of 1970. -/
def epochDay : Int := 719468

/-- The days from the start of 1970 to a date. Years begin in March, so that a leap day ends one. -/
def Date.toDays (d : Date) : Int :=
  let year := if d.month ≤ 2 then d.year - 1 else d.year
  let era := year.fdiv 400
  let yearOfEra := year - era * 400
  let month : Int := if d.month ≤ 2 then d.month + 9 else d.month - 3
  let dayOfYear := (153 * month + 2) / 5 + d.day - 1
  let dayOfEra := yearOfEra * 365 + yearOfEra / 4 - yearOfEra / 100 + dayOfYear
  era * daysPerEra + dayOfEra - epochDay

/-- The date some days after the start of 1970. -/
def Date.ofDays (days : Int) : Date :=
  let shifted := days + epochDay
  let era := shifted.fdiv daysPerEra
  let dayOfEra := shifted - era * daysPerEra
  let yearOfEra := (dayOfEra - dayOfEra / 1460 + dayOfEra / 36524 - dayOfEra / 146096) / 365
  let dayOfYear := dayOfEra - (365 * yearOfEra + yearOfEra / 4 - yearOfEra / 100)
  let month := (5 * dayOfYear + 2) / 153
  let day := dayOfYear - (153 * month + 2) / 5 + 1
  let monthOfYear := if month < 10 then month + 3 else month - 9
  let year := yearOfEra + era * 400
  ⟨if monthOfYear ≤ 2 then year + 1 else year, monthOfYear.toNat, day.toNat⟩

/-- Whether a year has a leap day. -/
def isLeapYear (year : Int) : Bool := year % 4 == 0 && (year % 100 != 0 || year % 400 == 0)

/-- The days of a month. -/
def daysInMonth (year : Int) (month : Nat) : Nat :=
  if month = 2 then if isLeapYear year then 29 else 28
  else if month = 4 ∨ month = 6 ∨ month = 9 ∨ month = 11 then 30 else 31

/-- The first year of the calendar. -/
def firstYear : Int := -262143

/-- The last year of the calendar. -/
def lastYear : Int := 262142

/-- Whether the calendar has the date. -/
def Date.isValid (d : Date) : Bool :=
  firstYear ≤ d.year && d.year ≤ lastYear &&
    1 ≤ d.month && d.month ≤ 12 && 1 ≤ d.day && d.day ≤ daysInMonth d.year d.month

/-- Whether the calendar has the day of a timestamp in universal time. -/
def isOnCalendar (t : Timestamp) : Bool :=
  let day := t.seconds.fdiv 86400
  (Date.mk firstYear 1 1).toDays ≤ day && day ≤ (Date.mk lastYear 12 31).toDays

/-! ### Writing -/

/-- A number with at least `width` digits. -/
def padded (width n : Nat) : List Char :=
  let ds := Nat.toDigits 10 n
  List.replicate (width - ds.length) '0' ++ ds

/-- A year: four digits, or a sign and at least four digits outside of the years 0 to 9999. -/
def yearDigits (year : Int) : List Char :=
  if 0 ≤ year ∧ year ≤ 9999 then padded 4 year.toNat
  else (if year < 0 then '-' else '+') :: padded 4 year.natAbs

/-- The fraction of a second: none, or 3, 6 or 9 digits. -/
def fractionDigits (nanos : Nat) : List Char :=
  if nanos = 0 then []
  else if nanos % 1000000 = 0 then '.' :: padded 3 (nanos / 1000000)
  else if nanos % 1000 = 0 then '.' :: padded 6 (nanos / 1000)
  else '.' :: padded 9 nanos

/-- The date of a timestamp. -/
def date (t : Timestamp) : Date := Date.ofDays (t.seconds.fdiv 86400)

/-- The second of the day of a timestamp. -/
def secondOfDay (t : Timestamp) : Nat := (t.seconds.fmod 86400).toNat

/-- The date in digits. -/
def dateDigits (d : Date) : List Char :=
  yearDigits d.year ++ '-' :: padded 2 d.month ++ '-' :: padded 2 d.day

/-- Hours, minutes and seconds; `leap` is one in a leap second. -/
def clockDigits (second leap : Nat) : List Char :=
  padded 2 (second / 3600) ++ ':' :: padded 2 (second / 60 % 60) ++
    ':' :: padded 2 (second % 60 + leap)

/-- The date and the time. -/
def localDigits (t : Timestamp) : List Char :=
  dateDigits t.date ++ 'T' :: clockDigits t.secondOfDay (t.nanos / 1000000000) ++
    fractionDigits (t.nanos % 1000000000)

/-- The text of a timestamp. -/
def text (t : Timestamp) : String := String.ofList (t.localDigits ++ ['Z'])

/-- The text of a timestamp with a zero offset. -/
def offsetText (t : Timestamp) : String := String.ofList (t.localDigits ++ "+00:00".toList)

/-- The date and the whole seconds for a reader. -/
def displayText (t : Timestamp) : String :=
  String.ofList (dateDigits t.date ++ ' ' :: clockDigits t.secondOfDay (t.nanos / 1000000000))

/-! ### Reading -/

/-- Why a text is no timestamp. -/
inductive Fault where
  | invalid | tooShort | tooLong | outOfRange | impossible
deriving DecidableEq

/-- The wording of a fault. -/
def Fault.message : Fault → String
  | invalid => "input contains invalid characters"
  | tooShort => "premature end of input"
  | tooLong => "trailing input"
  | outOfRange => "input is out of range"
  | impossible => "no possible date and time matching input"

def skipBlanks (cs : List Char) : List Char := cs.dropWhile Text.isBlank

/-- The mark between date and time. -/
def dateEnd (cs : List Char) : Except Fault (List Char) :=
  match cs with
  | [] => .error .tooShort
  | c :: rest => if c = 't' ∨ c = 'T' ∨ c = ' ' then .ok rest else .error .invalid

/-- The least number that no field can hold. -/
def numberLimit : Nat := Nat.pow 2 63

/-- A number of one to `width` digits; it may begin with any number of zeros. -/
def number (width : Nat) (cs : List Char) : Except Fault (Nat × List Char) :=
  let digits := (cs.take width).takeWhile Char.isDigit
  match cs with
  | [] => .error .tooShort
  | _ =>
    if digits.isEmpty then .error .invalid
    else
      let n := Decimal.ofDigits digits
      if n < numberLimit then .ok (n, cs.drop digits.length) else .error .outOfRange

/-- A fraction of a second; digits after the ninth are passed over. -/
def fraction (cs : List Char) : Except Fault (Nat × List Char) :=
  match cs with
  | '.' :: rest => do
    let (n, after) ← number 9 rest
    let count := rest.length - after.length
    .ok (n * Nat.pow 10 (9 - count), after.dropWhile Char.isDigit)
  | cs => .ok (0, cs)

/-- Two digits of an offset. One more character is too short, unless it takes more than a byte. -/
def digitPair (cs : List Char) : Except Fault (Nat × List Char) :=
  match cs with
  | a :: b :: rest =>
    if a.isDigit && b.isDigit then
      .ok (10 * Decimal.digitValue a + Decimal.digitValue b, rest)
    else .error .invalid
  | [a] => .error (if a.utf8Size = 1 then .tooShort else .invalid)
  | [] => .error .tooShort

/-- The minutes of an offset. -/
def offsetMinutes (cs : List Char) : Except Fault (Nat × List Char) := do
  let (n, rest) ← digitPair cs
  if n < 60 then .ok (n, rest) else .error .outOfRange

/-- An offset that begins with a sign. -/
def signedOffset (seconds : List Char → Except Fault (Nat × List Char)) (sign : Char)
    (cs : List Char) : Except Fault (Int × List Char) :=
  if sign = '+' then do
    let (n, after) ← seconds cs
    .ok ((n : Int), after)
  else if sign = '-' ∨ sign.toNat = 0x2212 then do
    let (n, after) ← seconds cs
    .ok (-(n : Int), after)
  else .error .invalid

/-- The timestamp of a date, a time, a fraction and an offset. -/
def ofParts (date : Date) (hour minute second nanos : Nat) (shift : Int) :
    Except Fault Timestamp :=
  if !date.isValid || 86400 ≤ shift.natAbs then .error .outOfRange
  else
    let leap := second / 60
    let t : Timestamp :=
      ⟨date.toDays * 86400 + (hour * 3600 + minute * 60 + (second - leap) : Nat) - shift,
        nanos + leap * 1000000000⟩
    if t.isOnCalendar then .ok t else .error .impossible

/-- How the parts of a timestamp are read. -/
structure Form where
  year : List Char → Except Fault (Int × List Char)
  /-- A number within bounds. -/
  field (low high : Nat) : List Char → Except Fault (Nat × List Char)
  /-- A mark between two numbers. -/
  mark (c : Char) : List Char → Except Fault (List Char)
  /-- The offset from universal time in seconds. -/
  offset : List Char → Except Fault (Int × List Char)

/-- The timestamp of a text, in a form. -/
def parseAs (form : Form) (text : String) : Except Fault Timestamp := do
  let (year, cs) ← form.year text.toList
  let cs ← form.mark '-' cs
  let (month, cs) ← form.field 1 12 cs
  let cs ← form.mark '-' cs
  let (day, cs) ← form.field 1 31 cs
  let cs ← dateEnd cs
  let (hour, cs) ← form.field 0 23 cs
  let cs ← form.mark ':' cs
  let (minute, cs) ← form.field 0 59 cs
  let cs ← form.mark ':' cs
  let (second, cs) ← form.field 0 60 cs
  let (nanos, cs) ← fraction cs
  let (shift, cs) ← form.offset cs
  if !cs.isEmpty then .error .tooLong
  else ofParts ⟨year, month, day⟩ hour minute second nanos shift

/-! ### The strict form -/

namespace Strict

/-- A number of `width` digits. -/
def number (width : Nat) (cs : List Char) : Except Fault (Nat × List Char) :=
  let digits := cs.take width
  if digits.length = width ∧ digits.all Char.isDigit then
    .ok (Decimal.ofDigits digits, cs.drop width)
  else if (String.ofList cs).utf8ByteSize < width then .error .tooShort
  else .error .invalid

/-- A year of four digits. -/
def year (cs : List Char) : Except Fault (Int × List Char) := do
  let (n, rest) ← number 4 cs
  .ok ((n : Int), rest)

/-- Two digits within bounds. -/
def field (low high : Nat) (cs : List Char) : Except Fault (Nat × List Char) := do
  let (n, rest) ← number 2 cs
  if low ≤ n ∧ n ≤ high then .ok (n, rest) else .error .outOfRange

/-- A mark. -/
def mark (c : Char) (cs : List Char) : Except Fault (List Char) :=
  match cs with
  | [] => .error .tooShort
  | d :: rest => if d = c then .ok rest else .error .invalid

/-- The hours and minutes of an offset, in seconds. -/
def offsetSeconds (cs : List Char) : Except Fault (Nat × List Char) := do
  let (hours, rest) ← digitPair cs
  let rest ← mark ':' rest
  let (minutes, after) ← offsetMinutes rest
  let n := hours * 3600 + minutes * 60
  if n < 86400 then .ok (n, after) else .error .outOfRange

/-- The offset from universal time in seconds. -/
def offset (cs : List Char) : Except Fault (Int × List Char) :=
  match cs with
  | [] => .error .tooShort
  | c :: rest => if c = 'Z' ∨ c = 'z' then .ok (0, rest) else signedOffset offsetSeconds c rest

/-- The strict form. -/
def form : Form := { year, field, mark, offset }

end Strict

/-- The timestamp of a text in the strict form. -/
def parseStrict (text : String) : Except Fault Timestamp := parseAs Strict.form text

/-! ### The lenient form -/

namespace Lenient

/-- A year, after any blanks; with a sign it may have any number of digits. -/
def year (cs : List Char) : Except Fault (Int × List Char) := do
  match skipBlanks cs with
  | '-' :: rest =>
    let (n, after) ← number rest.length rest
    if n ≤ Nat.pow 2 31 then .ok (-(n : Int), after) else .error .outOfRange
  | '+' :: rest =>
    let (n, after) ← number rest.length rest
    if n < Nat.pow 2 31 then .ok ((n : Int), after) else .error .outOfRange
  | rest =>
    let (n, after) ← number 4 rest
    .ok ((n : Int), after)

/-- A number of at most two digits within bounds, after any blanks. -/
def field (low high : Nat) (cs : List Char) : Except Fault (Nat × List Char) := do
  let (n, rest) ← number 2 (skipBlanks cs)
  if low ≤ n ∧ n ≤ high then .ok (n, rest) else .error .outOfRange

/-- A mark, after any blanks. -/
def mark (c : Char) (cs : List Char) : Except Fault (List Char) := Strict.mark c (skipBlanks cs)

/-- The hours and minutes of an offset, in seconds. -/
def offsetSeconds (cs : List Char) : Except Fault (Nat × List Char) := do
  let (hours, rest) ← digitPair cs
  let (minutes, after) ← offsetMinutes (rest.dropWhile fun c => c == ':' || Text.isBlank c)
  .ok (hours * 3600 + minutes * 60, after)

/-- The offset from universal time in seconds. -/
def zone (cs : List Char) : Except Fault (Int × List Char) :=
  match cs with
  | [] => .error .tooShort
  | c :: rest =>
    if c = 'Z' ∨ c = 'z' then .ok (0, rest)
    else if (String.ofList ((c :: rest).take 3)).toUpper = "UTC" then .ok (0, rest.drop 2)
    else signedOffset offsetSeconds c rest

/-- The offset, with any blanks around it. -/
def offset (cs : List Char) : Except Fault (Int × List Char) := do
  let (n, rest) ← zone (skipBlanks cs)
  .ok (n, skipBlanks rest)

/-- The lenient form. -/
def form : Form := { year, field, mark, offset }

end Lenient

/-- The timestamp of a text in the lenient form. -/
def parse (text : String) : Except Fault Timestamp := parseAs Lenient.form text

end Timestamp

end FlowGraph
