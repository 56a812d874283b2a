import Docblock.Text.Quoted

namespace Docblock

structure Date where
  year : Nat
  month : Nat
  day : Nat
deriving DecidableEq, Repr

/-- A distance from universal time in minutes, under the name that it was written with. -/
structure Zone where
  offset : Int
  name : Text
deriving DecidableEq, Repr

structure Moment where
  date : Date
  hour : Nat
  minute : Nat
  second : Nat
  microsecond : Nat := 0
  zone : Option Zone := none
deriving DecidableEq, Repr

inductive Moment.Fault
  | year (year : Nat)
  | month
  | day
  | hour
  | minute
  | second
  | offset (minutes : Int)
  | afterLastDay
deriving DecidableEq, Repr

namespace Date

def isLeap (year : Nat) : Bool :=
  year % 4 == 0 && (year % 100 != 0 || year % 400 == 0)

def daysIn (year month : Nat) : Nat :=
  if month = 2 then if isLeap year then 29 else 28
  else if [4, 6, 9, 11].contains month then 30
  else 31

def lastYear : Nat :=
  9999

def check (date : Date) : Except Moment.Fault Date :=
  if date.year < 1 || lastYear < date.year then .error (.year date.year)
  else if date.month < 1 || 12 < date.month then .error .month
  else if date.day < 1 || daysIn date.year date.month < date.day then .error .day
  else .ok date

def next (date : Date) : Except Moment.Fault Date :=
  if date.day < daysIn date.year date.month then .ok { date with day := date.day + 1 }
  else if date.month < 12 then .ok ⟨date.year, date.month + 1, 1⟩
  else if date.year < lastYear then .ok ⟨date.year + 1, 1, 1⟩
  else .error .afterLastDay

/-- The number of days since the first day of the year before year 1. -/
def dayNumber (date : Date) : Nat :=
  let years := date.year - 1
  let months := (List.range (date.month - 1)).map fun before => daysIn date.year (before + 1)
  365 * years + years / 4 - years / 100 + years / 400 + months.foldl (· + ·) 0 + date.day

def display (date : Date) : Text :=
  "datetime.date(".toList ++
    Text.join ", ".toList [Text.ofNat date.year, Text.ofNat date.month, Text.ofNat date.day] ++
    [')']

end Date

namespace Zone

def displaySpan (minutes : Int) : Text :=
  let days := Int.fdiv minutes 1440
  let seconds := Int.fmod minutes 1440 * 60
  let fields :=
    (if days = 0 then [] else ["days=".toList ++ Text.ofInt days]) ++
      (if seconds = 0 then [] else ["seconds=".toList ++ Text.ofInt seconds])
  "datetime.timedelta(".toList ++
    (if fields.isEmpty then ['0'] else Text.join ", ".toList fields) ++ [')']

/-- A zone is less than a day away from universal time. -/
def check (zone : Zone) : Except Moment.Fault Zone :=
  if -1440 < zone.offset && zone.offset < 1440 then .ok zone else .error (.offset zone.offset)

def display (zone : Zone) : Text :=
  "datetime.timezone(".toList ++ displaySpan zone.offset ++ ", ".toList ++ zone.name.quoted ++ [')']

end Zone

namespace Moment

def check (moment : Moment) : Except Fault Moment := do
  let _ ← moment.date.check
  if 23 < moment.hour then .error .hour
  else if 59 < moment.minute then .error .minute
  else if 59 < moment.second then .error .second
  else .ok moment

def addSecond (moment : Moment) : Except Fault Moment := do
  if moment.second < 59 then return { moment with second := moment.second + 1 }
  else if moment.minute < 59 then return { moment with second := 0, minute := moment.minute + 1 }
  else if moment.hour < 23 then
    return { moment with second := 0, minute := 0, hour := moment.hour + 1 }
  else return { moment with second := 0, minute := 0, hour := 0, date := ← moment.date.next }

/-- Microseconds on the time line; with a zone, on that of universal time. -/
def instant (moment : Moment) : Int :=
  let minutes : Int := (moment.date.dayNumber * 24 + moment.hour) * 60 + moment.minute
  let universal := minutes - (moment.zone.map Zone.offset).getD 0
  (universal * 60 + moment.second) * 1000000 + moment.microsecond

def same (first second : Moment) : Bool :=
  first.zone.isSome == second.zone.isSome && first.instant == second.instant

/-- Seconds are shown if there are any behind them too, and so are microseconds. -/
def display (moment : Moment) : Text :=
  let date := moment.date
  let fine :=
    if moment.microsecond ≠ 0 then [moment.second, moment.microsecond]
    else if moment.second ≠ 0 then [moment.second]
    else []
  let numbers := [date.year, date.month, date.day, moment.hour, moment.minute] ++ fine
  let zone := (moment.zone.map fun zone => "tzinfo=".toList ++ zone.display).toList
  "datetime.datetime(".toList ++ Text.join ", ".toList (numbers.map Text.ofNat ++ zone) ++ [')']

def Fault.message : Fault → Text
  | .year number => "year ".toList ++ Text.ofNat number ++ " is out of range".toList
  | .month => "month must be in 1..12".toList
  | .day => "day is out of range for month".toList
  | .hour => "hour must be in 0..23".toList
  | .minute => "minute must be in 0..59".toList
  | .second => "second must be in 0..59".toList
  | .offset minutes =>
      "offset must be a timedelta strictly between -timedelta(hours=24) and ".toList ++
        "timedelta(hours=24), not ".toList ++ Zone.displaySpan minutes ++ ['.']
  | .afterLastDay => "date value out of range".toList

end Moment

/-- A date or a moment as it is written, in numbers that need not fit. -/
structure Moment.Written where
  year : Text
  month : Text
  day : Text
  time : Option (Text × Text × Text) := none
  fraction : Text := []
  zone : Option Text := none
deriving DecidableEq, Repr

namespace Moment.Written

/-- Between `least` and `most` digits at the front of a text that no digit follows. -/
def digits? (least most : Nat) (text : Text) : Option (Text × Text) :=
  let run := text.takeWhile Char.isDigit
  if least ≤ run.length && run.length ≤ most then some (run, text.drop run.length) else none

def char? (c : Char) (text : Text) : Option Text :=
  match text with
  | d :: rest => if d = c then some rest else none
  | [] => none

def isSpace (c : Char) : Bool :=
  c == ' ' || c == '\t'

def zone? (text : Text) : Option Text :=
  match text with
  | ['Z'] => some text
  | sign :: rest => do
      guard (sign == '-' || sign == '+')
      let (_, rest) ← digits? 1 2 rest
      if rest.isEmpty then return text
      let (_, rest) ← digits? 2 2 (← char? ':' rest)
      guard rest.isEmpty
      return text
  | [] => none

def time? (date : Written) (text : Text) : Option Written := do
  let start ←
    match text with
    | 'T' :: rest => some rest
    | 't' :: rest => some rest
    | _ =>
        let rest := text.dropWhile isSpace
        if rest.length < text.length then some rest else none
  let (hour, rest) ← digits? 1 2 start
  let (minute, rest) ← digits? 2 2 (← char? ':' rest)
  let (second, rest) ← digits? 2 2 (← char? ':' rest)
  let (fraction, rest) :=
    match rest with
    | '.' :: rest => (rest.takeWhile Char.isDigit, rest.dropWhile Char.isDigit)
    | _ => ([], rest)
  let written := { date with time := some (hour, minute, second), fraction }
  if rest.isEmpty then return written
  return { written with zone := some (← zone? (rest.dropWhile isSpace)) }

def ofText? (text : Text) : Option Written := do
  let (year, rest) ← digits? 4 4 text
  let (month, rest) ← digits? 1 2 (← char? '-' rest)
  let (day, rest) ← digits? 1 2 (← char? '-' rest)
  let date : Written := { year, month, day }
  if rest.isEmpty then return date else time? date rest

/-- A date that stands alone is recognised by its full width. -/
def isWide (written : Written) : Bool :=
  written.time.isSome || (written.month.length == 2 && written.day.length == 2)

def number (digits : Text) : Nat :=
  digits.foldl (fun sum c => sum * 10 + (c.toNat - '0'.toNat)) 0

/-- The fraction of a second in microseconds, rounded by its seventh digit alone. -/
def microseconds (fraction : Text) : Nat :=
  number ((fraction ++ List.replicate 6 '0').take 6) +
    if (fraction.drop 6).head?.any (· > '4') then 1 else 0

def offset (zone : Text) : Int :=
  match zone with
  | sign :: rest =>
      let hours := rest.takeWhile Char.isDigit
      let minutes := (rest.drop hours.length).drop 1
      let size : Int := number hours * 60 + number minutes
      if sign = '-' then -size else size
  | [] => 0

def date (written : Written) : Date :=
  ⟨number written.year, number written.month, number written.day⟩

/-- The moment that is meant. A fraction that rounds up to a whole second adds it at the end. -/
def moment (written : Written) (time : Text × Text × Text) : Except Fault Moment := do
  let zone ← written.zone.mapM fun name => Zone.check ⟨offset name, name⟩
  let micro := microseconds written.fraction
  let whole := 1000000 ≤ micro
  let moment ← Moment.check
    { date := written.date
      hour := number time.1
      minute := number time.2.1
      second := number time.2.2
      microsecond := if whole then 0 else micro
      zone }
  if whole then moment.addSecond else return moment

end Moment.Written

end Docblock
