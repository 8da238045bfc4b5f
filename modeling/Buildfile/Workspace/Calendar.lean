import Buildfile.Workspace.Floating
/-!
# Dates

A moment is a number of seconds since the first of January 1970. It is shown as a date by a format, and read
from the usual ways to write a date or a distance from another moment. There are no time zones.
-/

namespace Buildfile.Calendar

/-- A day. -/
structure Date where
  year : Int
  month : Nat
  day : Nat
  deriving DecidableEq, Inhabited

/-- The number of days from the first of January 1970 to a date; months may be out of range. -/
def Date.days (d : Date) : Int :=
  let months : Int := d.month - 1
  let year := d.year + months.fdiv 12
  let month := months.fmod 12 + 1
  let y := if month ≤ 2 then year - 1 else year
  let era := y.fdiv 400
  let yoe := y - era * 400
  let mp := (month + 9).fmod 12
  let doy := (153 * mp + 2).fdiv 5 + d.day - 1
  let doe := yoe * 365 + yoe.fdiv 4 - yoe.fdiv 100 + doy
  era * 146097 + doe - 719468

/-- The date of a number of days since the first of January 1970. -/
def Date.ofDays (n : Int) : Date :=
  let z := n + 719468
  let era := z.fdiv 146097
  let doe := z - era * 146097
  let yoe := (doe - doe.fdiv 1460 + doe.fdiv 36524 - doe.fdiv 146096).fdiv 365
  let doy := doe - (365 * yoe + yoe.fdiv 4 - yoe.fdiv 100)
  let mp := (5 * doy + 2).fdiv 153
  let month := if mp < 10 then mp + 3 else mp - 9
  let year := yoe + era * 400 + if month ≤ 2 then 1 else 0
  { year, month := month.toNat, day := (doy - (153 * mp + 2).fdiv 5 + 1).toNat }

/-- Whether there is such a day. -/
def Date.isReal (d : Date) : Bool := Date.ofDays d.days = d

/-- A moment taken apart. -/
structure Moment where
  date : Date
  hour : Nat := 0
  minute : Nat := 0
  second : Nat := 0
  deriving DecidableEq, Inhabited

/-- The seconds of a moment. -/
def Moment.seconds (m : Moment) : Int := m.date.days * 86400 + m.hour * 3600 + m.minute * 60 + m.second

/-- The moment of some seconds. -/
def Moment.ofSeconds (n : Int) : Moment :=
  let rest := (n.fmod 86400).toNat
  { date := .ofDays (n.fdiv 86400), hour := rest / 3600, minute := rest / 60 % 60, second := rest % 60 }

/-- The names of the months. -/
def monthNames : List Text :=
  [lit "January", lit "February", lit "March", lit "April", lit "May", lit "June", lit "July", lit "August",
   lit "September", lit "October", lit "November", lit "December"]

/-- The names of the days of a week. -/
def dayNames : List Text :=
  [lit "Sunday", lit "Monday", lit "Tuesday", lit "Wednesday", lit "Thursday", lit "Friday", lit "Saturday"]

/-- The day of the week, counted from Sunday. -/
def weekday (m : Moment) : Nat := ((m.date.days + 4).fmod 7).toNat

/-- The day of the year, counted from one. -/
def yearDay (m : Moment) : Nat := (m.date.days - Date.days ⟨m.date.year, 1, 1⟩ + 1).toNat

/-- The week of the year and the year it belongs to, where weeks start on Monday and the first one holds a
Thursday. -/
def isoWeek (m : Moment) : Int × Nat :=
  let thursday := m.date.days + 3 - ((weekday m + 6) % 7 : Nat)
  let year := (Date.ofDays thursday).year
  (year, ((thursday - Date.days ⟨year, 1, 1⟩).fdiv 7 + 1).toNat)

/-! ## Formats -/

/-- Digits filled up to a width. -/
def filled (fill : Char) (width n : Nat) : Text :=
  let ds := Text.ofNat n
  List.replicate (width - ds.length) fill ++ ds

/-- What a letter of a format shows, where `pad` fills numbers up. -/
def field (pad : Char) (seconds nanoseconds : Int) (m : Moment) (letter : Char) : Option Text :=
  let number (width n : Nat) : Text := if pad = '-' then Text.ofNat n else filled (if pad = '_' then ' ' else '0') width n
  let blank (width n : Nat) : Text := if pad = '-' then Text.ofNat n else filled (if pad = '0' then '0' else ' ') width n
  let hour12 := if m.hour % 12 = 0 then 12 else m.hour % 12
  let monthName := (monthNames[m.date.month - 1]?).getD []
  let dayName := (dayNames[weekday m]?).getD []
  let year := number 4 m.date.year.toNat
  let time := filled '0' 2 m.hour ++ ':' :: filled '0' 2 m.minute ++ ':' :: filled '0' 2 m.second
  match letter with
  | 'Y' => some year
  | 'C' => some (number 2 (m.date.year.toNat / 100))
  | 'y' => some (number 2 (m.date.year.toNat % 100))
  | 'm' => some (number 2 m.date.month)
  | 'd' => some (number 2 m.date.day)
  | 'e' => some (blank 2 m.date.day)
  | 'H' => some (number 2 m.hour)
  | 'k' => some (blank 2 m.hour)
  | 'I' => some (number 2 hour12)
  | 'l' => some (blank 2 hour12)
  | 'M' => some (number 2 m.minute)
  | 'S' => some (number 2 m.second)
  | 'N' => some (filled '0' 9 nanoseconds.toNat)
  | 'j' => some (number 3 (yearDay m))
  | 'u' => some (Text.ofNat (if weekday m = 0 then 7 else weekday m))
  | 'w' => some (Text.ofNat (weekday m))
  | 'a' => some (dayName.take 3)
  | 'A' => some dayName
  | 'b' | 'h' => some (monthName.take 3)
  | 'B' => some monthName
  | 'p' => some (if m.hour < 12 then lit "AM" else lit "PM")
  | 'P' => some (if m.hour < 12 then lit "am" else lit "pm")
  | 's' => some (Text.ofInt seconds)
  | 'F' => some (year ++ '-' :: filled '0' 2 m.date.month ++ '-' :: filled '0' 2 m.date.day)
  | 'D' => some (filled '0' 2 m.date.month ++ '/' :: filled '0' 2 m.date.day ++ '/' :: filled '0' 2 (m.date.year.toNat % 100))
  | 'x' => some (filled '0' 2 m.date.month ++ '/' :: filled '0' 2 m.date.day ++ '/' :: filled '0' 2 (m.date.year.toNat % 100))
  | 'T' | 'X' => some time
  | 'R' => some (filled '0' 2 m.hour ++ ':' :: filled '0' 2 m.minute)
  | 'r' => some (filled '0' 2 hour12 ++ ':' :: filled '0' 2 m.minute ++ ':' :: filled '0' 2 m.second ++
      if m.hour < 12 then lit " AM" else lit " PM")
  | 'c' => some (dayName.take 3 ++ ' ' :: monthName.take 3 ++ ' ' :: filled ' ' 2 m.date.day ++ ' ' :: time ++ ' ' :: year)
  | 'G' => some (number 4 (isoWeek m).1.toNat)
  | 'g' => some (number 2 ((isoWeek m).1.toNat % 100))
  | 'V' => some (number 2 (isoWeek m).2)
  | 'U' => some (number 2 ((yearDay m + 6 - weekday m) / 7))
  | 'W' => some (number 2 ((yearDay m + 6 - (weekday m + 6) % 7) / 7))
  | 'q' => some (Text.ofNat ((m.date.month + 2) / 3))
  | 'z' => some (lit "+0000")
  | 'Z' => some (lit "UTC")
  | 'n' => some ['\n']
  | 't' => some ['\t']
  | '%' => some ['%']
  | _ => none

/-- A moment as a format of a bounded length shows it. -/
def showWithin (seconds nanoseconds : Int) (m : Moment) : Nat → Text → Text
  | 0, t => t
  | _ + 1, [] => []
  | k + 1, '%' :: t =>
    let pad := t.takeWhile fun c => c ∈ ['-', '_', '0', '^', '#']
    let width := (t.drop pad.length).takeWhile Char.isDigit
    match t.drop (pad.length + width.length) with
    | [] => '%' :: t
    | c :: rest =>
      let padding := ((pad.filter fun c => c ∈ ['-', '_', '0']).getLast?).getD ' '
      match field padding seconds nanoseconds m c with
      | some shown =>
        let shown := if '^' ∈ pad then shown.map Char.toUpper else shown
        let wanted := Floating.ofDigits 10 width
        let shown := if c = 'N' ∧ width ≠ [] then shown.take wanted
          else List.replicate (wanted - shown.length) (if padding = '_' then ' ' else '0') ++ shown
        shown ++ showWithin seconds nanoseconds m k rest
      | none => '%' :: t.take (pad.length + width.length + 1) ++ showWithin seconds nanoseconds m k rest
  | k + 1, c :: t => c :: showWithin seconds nanoseconds m k t

/-- A moment in nanoseconds as a format shows it. -/
def text (format : Text) (nanoseconds : Int) : Text :=
  let seconds := nanoseconds.fdiv 1000000000
  showWithin seconds (nanoseconds.fmod 1000000000) (.ofSeconds seconds) (format.length + 1) format

/-! ## Reading -/

/-- A part of a written date. -/
inductive Part where
  | number (digits : Text)
  | word (t : Text)
  | sign (c : Char)
  deriving DecidableEq, Inhabited

/-- The parts of a written date of a bounded length. -/
def parts : Nat → Text → List Part
  | 0, _ | _ + 1, [] => []
  | k + 1, c :: t =>
    if c.isDigit then
      let ds := c :: t.takeWhile Char.isDigit
      .number ds :: parts k (t.drop (ds.length - 1))
    else if c.isAlpha then
      let ls := c :: t.takeWhile Char.isAlpha
      .word (ls.map Char.toLower) :: parts k (t.drop (ls.length - 1))
    else if Floating.isSpace c ∨ c = ',' then parts k t
    else .sign c :: parts k t

/-- What has been read of a date. -/
structure Draft where
  date : Option Date := none
  time : Option (Nat × Nat × Nat) := none
  /-- The nanoseconds of the time. -/
  fraction : Nat := 0
  /-- Whether the time of the day is taken over from now. -/
  months : Int := 0
  days : Int := 0
  seconds : Int := 0
  relative : Bool := false
  /-- An absolute number of seconds. -/
  absolute : Option Int := none
  /-- The distance of the zone from the middle one, in seconds. -/
  zone : Int := 0
  deriving Inhabited

/-- The value of digits. -/
def value (ds : Text) : Nat := Floating.ofDigits 10 ds

/-- The month that a word is the name of, or the start of it. -/
def month? (w : Text) : Option Nat :=
  (monthNames.findIdx? fun n => w.length ≥ 3 && w.isPrefixOf (n.map Char.toLower)).map (· + 1)

/-- The draft some units of time later. -/
def Draft.later (d : Draft) (n : Int) (unit : Text) : Option Draft :=
  let unit := if unit.getLast? = some 's' ∧ unit.length > 1 then unit.dropLast else unit
  let d := { d with relative := true }
  if unit = lit "sec" ∨ unit = lit "second" then some { d with seconds := d.seconds + n }
  else if unit = lit "min" ∨ unit = lit "minute" then some { d with seconds := d.seconds + 60 * n }
  else if unit = lit "hour" then some { d with seconds := d.seconds + 3600 * n }
  else if unit = lit "day" then some { d with days := d.days + n }
  else if unit = lit "week" then some { d with days := d.days + 7 * n }
  else if unit = lit "fortnight" then some { d with days := d.days + 14 * n }
  else if unit = lit "month" then some { d with months := d.months + n }
  else if unit = lit "year" then some { d with months := d.months + 12 * n }
  else none

/-- A year of two digits is in this century or in the last one. -/
def fullYear (ds : Text) : Int :=
  let n := value ds
  if ds.length ≤ 2 then (if n < 69 then 2000 + n else 1900 + n) else n

/-- The draft of a date from its parts, at most so many. -/
def Draft.read? (today : Date) : Nat → List Part → Draft → Option Draft
  | 0, _, _ => none
  | _ + 1, [], d => some d
  | k + 1, .sign '@' :: .sign '-' :: .number n :: rest, d => read? today k rest { d with absolute := some (-(value n : Int)) }
  | k + 1, .sign '@' :: .number n :: rest, d => read? today k rest { d with absolute := some (value n) }
  | k + 1, .number y :: .sign '-' :: .number m :: .sign '-' :: .number n :: rest, d =>
    if 1 ≤ value m ∧ value m ≤ 12 ∧ 1 ≤ value n ∧ value n ≤ 31 then
      read? today k rest { d with date := some ⟨fullYear y, value m, value n⟩ }
    else none
  | k + 1, .number m :: .sign '/' :: .number n :: .sign '/' :: .number y :: rest, d =>
    if m.length = 4 then read? today k rest { d with date := some ⟨value m, value n, value y⟩ }
    else if 1 ≤ value m ∧ value m ≤ 12 ∧ 1 ≤ value n ∧ value n ≤ 31 then
      read? today k rest { d with date := some ⟨fullYear y, value m, value n⟩ }
    else none
  | k + 1, .number h :: .sign ':' :: .number m :: .sign ':' :: .number s :: .sign '.' :: .number f :: rest, d =>
    if value h < 24 ∧ value m < 60 ∧ value s ≤ 60 then
      read? today k rest
        { d with time := some (value h, value m, value s), fraction := value ((f ++ List.replicate 9 '0').take 9) }
    else none
  | k + 1, .number h :: .sign ':' :: .number m :: .sign ':' :: .number s :: rest, d =>
    if value h < 24 ∧ value m < 60 ∧ value s ≤ 60 then
      read? today k rest { d with time := some (value h, value m, value s) }
    else none
  | k + 1, .number h :: .sign ':' :: .number m :: rest, d =>
    if value h < 24 ∧ value m < 60 then read? today k rest { d with time := some (value h, value m, 0) } else none
  | k + 1, .sign s :: .number n :: .word u :: rest, d =>
    let n : Int := if s = '-' then -(value n : Int) else value n
    if s = '-' ∨ s = '+' then
      match rest with
      | .word a :: rest' =>
        if a = lit "ago" then (d.later (-n) u).bind (read? today k rest') else (d.later n u).bind (read? today k rest)
      | _ => (d.later n u).bind (read? today k rest)
    else none
  | k + 1, .sign s :: .number n :: rest, d =>
    if (s = '+' ∨ s = '-') ∧ d.time.isSome then
      let hours := if n.length ≤ 2 then value n else value n / 100
      let minutes := if n.length ≤ 2 then 0 else value n % 100
      let z : Int := hours * 3600 + minutes * 60
      read? today k rest { d with zone := if s = '-' then -z else z }
    else none
  | k + 1, .number n :: .word w :: rest, d =>
    match month? w, rest with
    | some m, .number y :: rest =>
      if 1 ≤ value n ∧ value n ≤ 31 then read? today k rest { d with date := some ⟨fullYear y, m, value n⟩ } else none
    | some m, rest =>
      if 1 ≤ value n ∧ value n ≤ 31 then read? today k rest { d with date := some ⟨today.year, m, value n⟩ } else none
    | none, .word a :: rest' =>
      if a = lit "ago" then (d.later (-(value n : Int)) w).bind (read? today k rest')
      else (d.later (value n) w).bind (read? today k rest)
    | none, rest =>
      if (w = lit "am" ∨ w = lit "pm") ∧ 1 ≤ value n ∧ value n ≤ 12 then
        read? today k rest { d with time := some (value n % 12 + if w = lit "pm" then 12 else 0, 0, 0) }
      else (d.later (value n) w).bind (read? today k rest)
  | k + 1, .number n :: rest, d =>
    if n.length = 8 ∧ 1 ≤ value n / 100 % 100 ∧ value n / 100 % 100 ≤ 12 ∧ 1 ≤ value n % 100 ∧ value n % 100 ≤ 31 then
      read? today k rest { d with date := some ⟨(value n / 10000 : Nat), value n / 100 % 100, value n % 100⟩ }
    else if n.length ≤ 2 ∧ value n < 24 ∧ d.time.isNone then read? today k rest { d with time := some (value n, 0, 0) }
    else if n.length ≤ 4 ∧ d.time.isNone ∧ value n / 100 < 24 ∧ value n % 100 < 60 then
      read? today k rest { d with time := some (value n / 100, value n % 100, 0) }
    else none
  | k + 1, .word w :: rest, d =>
    if w ∈ [lit "now", lit "today", lit "utc", lit "gmt", lit "z", lit "t"] then
      read? today k rest { d with relative := d.relative || w = lit "now" || w = lit "today" }
    else if w = lit "yesterday" then read? today k rest { d with days := d.days - 1, relative := true }
    else if w = lit "tomorrow" then read? today k rest { d with days := d.days + 1, relative := true }
    else if w = lit "midnight" then read? today k rest { d with time := some (0, 0, 0) }
    else if w = lit "noon" then read? today k rest { d with time := some (12, 0, 0) }
    else match if w = lit "next" then some 1 else if w = lit "last" then some (-1 : Int) else none, rest with
      | some n, .word u :: rest => (d.later n u).bind (read? today k rest)
      | _, rest =>
        match month? w, rest with
        | some m, .number n :: .number y :: rest =>
          if 1 ≤ value n ∧ value n ≤ 31 then read? today k rest { d with date := some ⟨fullYear y, m, value n⟩ } else none
        | some m, .number n :: rest =>
          if 1 ≤ value n ∧ value n ≤ 31 then read? today k rest { d with date := some ⟨today.year, m, value n⟩ } else none
        | _, rest =>
          if dayNames.any fun n => w.length ≥ 3 && w.isPrefixOf (n.map Char.toLower) then read? today k rest d
          else match rest with
            | .word a :: rest =>
              if a = lit "ago" then (d.later (-1) w).bind (read? today k rest) else none
            | rest => (d.later 1 w).bind (read? today k rest)
  | _ + 1, _ :: _, _ => none

/-- The moment in nanoseconds that a text stands for, seen from another one. -/
def read? (now : Int) (t : Text) : Option Int :=
  let seconds := now.fdiv 1000000000
  let present := Moment.ofSeconds seconds
  let ps := parts t.length t
  ((Draft.read? present.date (ps.length + 1) ps {}).filter fun d => d.date.all Date.isReal).map fun d =>
    match d.absolute with
    | some n => n * 1000000000
    | none =>
      let date := d.date.getD present.date
      let date := Date.ofDays (Date.days { date with year := date.year + (date.month - 1 + d.months).fdiv 12,
                                                      month := ((date.month - 1 + d.months).fmod 12 + 1).toNat } + d.days)
      let keeps := d.time.isNone ∧ (d.relative ∧ d.date.isNone)
      let (h, m, s) := match d.time with
        | some x => x
        | none => if keeps then (present.hour, present.minute, present.second) else (0, 0, 0)
      (Moment.seconds ⟨date, h, m, s⟩ + d.seconds - d.zone) * 1000000000 +
        if keeps then now.fmod 1000000000 else d.fraction

/-- The moment in nanoseconds that digits stand for: the month, the day, the hour and the minute, with the year
before them and the seconds after a point if they are given. -/
def readStamp? (now : Int) (t : Text) : Option Int :=
  let (digits, seconds) := Text.breakAt '.' t
  let hasSeconds := t.contains '.'
  let this := (Moment.ofSeconds (now.fdiv 1000000000)).date.year
  let isRight := digits.all Char.isDigit ∧ seconds.all Char.isDigit ∧ (!hasSeconds ∨ seconds.length = 2)
  let year := digits.take (digits.length - 8)
  let n := value (digits.drop (digits.length - 8))
  let year? : Option Int := if year.length = 4 then some (value year : Int) else if year.length = 2 then some (fullYear year)
    else if year = [] ∧ digits.length = 8 then some this else none
  match year? with
  | none => none
  | some y =>
    let (month, day, hour, minute) := (n / 1000000, n / 10000 % 100, n / 100 % 100, n % 100)
    if isRight ∧ 1 ≤ month ∧ month ≤ 12 ∧ Date.isReal ⟨y, month, day⟩ ∧ hour < 24 ∧ minute < 60 ∧ value seconds ≤ 60 then
      some (Moment.seconds ⟨⟨y, month, day⟩, hour, minute, value seconds⟩ * 1000000000)
    else none

end Buildfile.Calendar
