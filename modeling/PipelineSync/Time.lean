import PipelineSync.Text.Blank

/-!
# Times

Times in universal time, to the nanosecond, and their text: `2024-01-02T03:04:05Z`, with a fraction
of three, six or nine digits if there is one. Reading takes other spellings too: blanks within the
date and the time, a small `t` or a blank between them, a fraction of any length, and an offset from
universal time, by which the time is moved.
-/

namespace PipelineSync

/-- A day of the calendar. -/
structure Date where
  year : Int
  month : Nat
  day : Nat
deriving DecidableEq, Repr, Inhabited

namespace Date

/-- Whether a year has a leap day. -/
def isLeap (year : Int) : Bool :=
  year % 4 == 0 && (year % 100 != 0 || year % 400 == 0)

/-- The number of days of a month. -/
def daysIn (year : Int) (month : Nat) : Nat :=
  if month = 2 then if isLeap year then 29 else 28
  else if month = 4 ∨ month = 6 ∨ month = 9 ∨ month = 11 then 30
  else 31

/-- Whether the calendar has this day, in the years it goes through. -/
def isValid (d : Date) : Bool :=
  -262143 ≤ d.year && d.year ≤ 262142 && 1 ≤ d.month && d.month ≤ 12 && 1 ≤ d.day &&
    d.day ≤ daysIn d.year d.month

/-- The day after. -/
def next (d : Date) : Date :=
  if d.day < daysIn d.year d.month then { d with day := d.day + 1 }
  else if d.month < 12 then ⟨d.year, d.month + 1, 1⟩
  else ⟨d.year + 1, 1, 1⟩

/-- The day before. -/
def previous (d : Date) : Date :=
  if 1 < d.day then { d with day := d.day - 1 }
  else if 1 < d.month then ⟨d.year, d.month - 1, daysIn d.year (d.month - 1)⟩
  else ⟨d.year - 1, 12, 31⟩

/-- The day so many days after the first of January 1970: years of the calendar repeat after 400,
and within the 400 a year that starts in March ends with its leap day. -/
def ofDayNumber (n : Int) : Date :=
  let shifted := n + 719468
  let era := shifted.fdiv 146097
  let dayOfEra := (shifted - era * 146097).toNat
  let yearOfEra := (dayOfEra - dayOfEra / 1460 + dayOfEra / 36524 - dayOfEra / 146096) / 365
  let dayOfYear := dayOfEra - (365 * yearOfEra + yearOfEra / 4 - yearOfEra / 100)
  let marchMonth := (5 * dayOfYear + 2) / 153
  let day := dayOfYear - (153 * marchMonth + 2) / 5 + 1
  let month := if marchMonth < 10 then marchMonth + 3 else marchMonth - 9
  let year := yearOfEra + era * 400
  ⟨if month ≤ 2 then year + 1 else year, month, day⟩

end Date

/-- A time of a day, in universal time. -/
structure Time where
  date : Date
  hour : Nat
  minute : Nat
  /-- Up to 60, for a leap second. -/
  second : Nat
  nanosecond : Nat := 0
deriving DecidableEq, Repr, Inhabited

namespace Time

/-- Whether there is such a time. -/
def isValid (t : Time) : Bool :=
  t.date.isValid && t.hour < 24 && t.minute < 60 && t.second ≤ 60 && t.nanosecond < 1000000000

/-- The time so many seconds after the start of 1970. -/
def ofUnix (seconds : Int) (nanosecond : Nat) : Time :=
  let days := seconds.fdiv 86400
  let rest := (seconds - days * 86400).toNat
  ⟨.ofDayNumber days, rest / 3600, rest / 60 % 60, rest % 60, nanosecond⟩

/-! ## Writing -/

/-- A number with zeros in front, up to a width. -/
def padded (width n : Nat) : String :=
  let digits := Nat.toDigits 10 n
  String.ofList (List.replicate (width - digits.length) '0' ++ digits)

/-- A year: four digits, or a sign and at least four digits outside the years 0 to 9999. -/
def yearText (year : Int) : String :=
  if 0 ≤ year ∧ year ≤ 9999 then padded 4 year.toNat
  else (if year < 0 then "-" else "+") ++ padded 4 year.natAbs

/-- The date with dashes. -/
def dateText (d : Date) : String :=
  yearText d.year ++ "-" ++ padded 2 d.month ++ "-" ++ padded 2 d.day

/-- The time of day with colons, to the second. -/
def clockText (t : Time) : String :=
  padded 2 t.hour ++ ":" ++ padded 2 t.minute ++ ":" ++ padded 2 t.second

/-- The fraction of the second: as many of three, six and nine digits as it needs, if any. -/
def fractionText (nanosecond : Nat) : String :=
  if nanosecond = 0 then ""
  else if nanosecond % 1000000 = 0 then "." ++ padded 3 (nanosecond / 1000000)
  else if nanosecond % 1000 = 0 then "." ++ padded 6 (nanosecond / 1000)
  else "." ++ padded 9 nanosecond

/-- A time in full. -/
def text (t : Time) : String :=
  dateText t.date ++ "T" ++ t.clockText ++ fractionText t.nanosecond ++ "Z"

/-- A time for people to read, to the second. -/
def shortText (t : Time) : String :=
  dateText t.date ++ " " ++ t.clockText ++ " UTC"

/-! ## Reading -/

/-- The number that digits write. -/
def ofDigits (ds : List Char) : Nat :=
  ds.foldl (fun n c => n * 10 + (c.toNat - '0'.toNat)) 0

/-- At least one and at most `width` digits in front, as a number, with the number of them. -/
def number? (width : Nat) (cs : List Char) : Option ((Nat × Nat) × List Char) :=
  let ds := (cs.take width).takeWhile Char.isDigit
  if ds.isEmpty then none else some ((ofDigits ds, ds.length), cs.drop ds.length)

/-- A number behind blanks. -/
def field? (width : Nat) (cs : List Char) : Option (Nat × List Char) :=
  (number? width (Text.trimStart cs)).map fun ((n, _), rest) => (n, rest)

/-- A year behind blanks: four digits at most, or a sign and any number of digits. -/
def year? (cs : List Char) : Option (Int × List Char) :=
  match Text.trimStart cs with
  | '-' :: cs => (number? cs.length cs).map fun ((n, _), rest) => (-n, rest)
  | '+' :: cs => (number? cs.length cs).map fun ((n, _), rest) => ((n : Int), rest)
  | cs => (number? 4 cs).map fun ((n, _), rest) => ((n : Int), rest)

/-- The text behind blanks and a character. -/
def expect? (c : Char) (cs : List Char) : Option (List Char) :=
  match Text.trimStart cs with
  | d :: rest => if d = c then some rest else none
  | [] => none

/-- A date. -/
def date? (cs : List Char) : Option (Date × List Char) := do
  let (year, cs) ← year? cs
  let (month, cs) ← field? 2 (← expect? '-' cs)
  let (day, cs) ← field? 2 (← expect? '-' cs)
  return (⟨year, month, day⟩, cs)

/-- A fraction, if there is one: digits beyond the ninth do not count. -/
def fraction? : List Char → Option (Nat × List Char)
  | '.' :: cs => do
    let ((n, length), rest) ← number? 9 cs
    return (n * Nat.pow 10 (9 - length), rest.dropWhile Char.isDigit)
  | cs => some (0, cs)

/-- Two digits in front. -/
def twoDigits? : List Char → Option (Nat × List Char)
  | a :: b :: rest => if a.isDigit && b.isDigit then some (ofDigits [a, b], rest) else none
  | _ => none

/-- The minutes by which a time lies ahead of universal time. -/
def offset? (cs : List Char) : Option (Int × List Char) :=
  if (cs.take 3).map Char.toUpper = ['U', 'T', 'C'] then some (0, cs.drop 3)
  else match cs with
    | 'Z' :: rest | 'z' :: rest => some (0, rest)
    | '+' :: rest => hoursAndMinutes? rest
    | '-' :: rest | '−' :: rest => (hoursAndMinutes? rest).map fun (n, rest) => (-n, rest)
    | _ => none
where
  /-- Hours and minutes; colons and blanks may stand between them. -/
  hoursAndMinutes? (cs : List Char) : Option (Int × List Char) := do
    let (hours, cs) ← twoDigits? cs
    let (minutes, cs) ← twoDigits? (cs.dropWhile fun c => c == ':' || Text.isBlank c)
    if hours < 24 ∧ minutes < 60 then return ((hours * 60 + minutes : Nat), cs) else none

/-- Moves a time back by minutes, by less than a day. -/
def back (minutes : Int) (t : Time) : Time :=
  let total := (t.hour * 60 + t.minute : Int) - minutes
  let clock := (total % 1440).toNat
  let date := if total < 0 then t.date.previous else if 1440 ≤ total then t.date.next else t.date
  { t with date, hour := clock / 60, minute := clock % 60 }

/-- The time that a text names. -/
def ofText? (s : String) : Option Time := do
  let (date, cs) ← date? s.toList
  let cs ← match cs with
    | 'T' :: cs | 't' :: cs | ' ' :: cs => some cs
    | _ => none
  let (hour, cs) ← field? 2 cs
  let (minute, cs) ← field? 2 (← expect? ':' cs)
  let (second, cs) ← field? 2 (← expect? ':' cs)
  let (nanosecond, cs) ← fraction? cs
  let (offset, cs) ← offset? (Text.trimStart cs)
  let t : Time := ⟨date, hour, minute, second, nanosecond⟩
  let moved := t.back offset
  if Text.trimStart cs = [] ∧ t.isValid ∧ moved.isValid then some moved else none

end Time

end PipelineSync
