import Downlevel.Decimal.Shortest
import Downlevel.Numeral
/-!
# Dates and times

A date is a year, a month and a day; a time may follow, with a part of a second and a zone. What is
written is read first; whether it is in the calendar and on the clock is checked afterwards.
-/
namespace Downlevel.Yaml

/-- A time of day, to the millionth of a second. The zone is in minutes, if it is known. -/
structure Clock where
  hour : Nat
  minute : Nat
  second : Nat
  millionths : Nat := 0
  zone : Option Int := none
  deriving DecidableEq, Repr

/-- A date, with or without a time. -/
structure Moment where
  year : Nat
  month : Nat
  day : Nat
  clock : Option Clock := none
  deriving DecidableEq, Repr

namespace Moment

/-- A number of at least and at most some digits in front of a text. -/
def number? (least most : Nat) (cs : List Char) : Option (Nat × List Char) :=
  let ds := (cs.take most).takeWhile Char.isDigit
  if least ≤ ds.length then some (Text.digitsValue ds, cs.drop ds.length) else none

/-- The text after a certain character. -/
def after? (c : Char) : List Char → Option (List Char)
  | [] => none
  | d :: rest => if d = c then some rest else none

/-- A date in front of a text. `exact` asks for two digits each of the month and the day. -/
def readDay (exact : Bool) (cs : List Char) : Option (Moment × List Char) := do
  let least := if exact then 2 else 1
  let (year, cs) ← number? 4 4 cs
  let cs ← after? '-' cs
  let (month, cs) ← number? least 2 cs
  let cs ← after? '-' cs
  let (day, cs) ← number? least 2 cs
  return ({ year, month, day }, cs)

/-- Whether a character is a space or a tab. -/
def isGap (c : Char) : Bool :=
  c = ' ' || c = '\t'

/-- A zone after a time: nothing, a capital Z, or hours and perhaps minutes with a sign. -/
def readZone? (cs : List Char) : Option (Option Int) :=
  match cs.dropWhile isGap with
  | [] => if cs.isEmpty then some none else none
  | ['Z'] => some (some 0)
  | sign :: rest =>
    if sign = '-' || sign = '+' then
      let minutes? : Option Nat := match number? 1 2 rest with
        | some (h, []) => some (60 * h)
        | some (h, ':' :: more) => match number? 2 2 more with
          | some (m, []) => some (60 * h + m)
          | _ => none
        | _ => none
      minutes?.map fun n => some (if sign = '-' then -Int.ofNat n else Int.ofNat n)
    else none

/-- The millionths of a second that the digits after a point write; further digits are dropped. -/
def millionths (ds : List Char) : Nat :=
  let used := ds.take 6
  Text.digitsValue used * Nat.pow 10 (6 - used.length)

/-- A time after a date. -/
def readClock? (cs : List Char) : Option Clock := do
  let cs ← match cs with
    | 'T' :: rest => some rest
    | 't' :: rest => some rest
    | c :: rest => if isGap c then some (rest.dropWhile isGap) else none
    | [] => none
  let (hour, cs) ← number? 1 2 cs
  let cs ← after? ':' cs
  let (minute, cs) ← number? 2 2 cs
  let cs ← after? ':' cs
  let (second, cs) ← number? 2 2 cs
  let (digits, cs) := match cs with
    | '.' :: more => (more.takeWhile Char.isDigit, more.dropWhile Char.isDigit)
    | _ => ([], cs)
  let zone ← readZone? cs
  return { hour, minute, second, millionths := millionths digits, zone }

/-- The date that a text writes, with or without a time. -/
def read? (cs : List Char) : Option Moment :=
  match readDay false cs with
  | some (m, []) => some m
  | some (m, rest) => (readClock? rest).map fun clock => { m with clock := some clock }
  | none => none

/-- Whether a text looks like a date: without a time, its month and day have two digits each. -/
def looks (cs : List Char) : Bool :=
  match readDay false cs with
  | some (_, []) => (readDay true cs).isSome
  | some (_, rest) => (readClock? rest).isSome
  | none => false

/-- The number of days of a month. -/
def daysOf (year month : Nat) : Nat :=
  if month = 2 then
    if year % 4 = 0 && (year % 100 ≠ 0 || year % 400 = 0) then 29 else 28
  else if [4, 6, 9, 11].contains month then 30 else 31

/-- The wording of a distance of a day or more, in minutes. -/
def distanceText (minutes : Int) : String :=
  let days := Int.fdiv minutes 1440
  let seconds := Int.fmod minutes 1440 * 60
  "datetime.timedelta(days=" ++ toString days
    ++ (if seconds = 0 then "" else ", seconds=" ++ toString seconds) ++ ")"

/-- The moment, if its zone is less than a day away, its day is in the calendar and its time on the
clock. -/
def checked (m : Moment) : Except Failure Moment :=
  let zone : Int := (m.clock.bind (·.zone)).getD 0
  let clock : Clock := m.clock.getD ⟨0, 0, 0, 0, none⟩
  if 1440 ≤ zone.natAbs then
    .error (Numeral.valueFault ("offset must be a timedelta strictly between -timedelta(hours=24)"
      ++ " and timedelta(hours=24), not " ++ distanceText zone ++ "."))
  else if m.year = 0 then .error (Numeral.valueFault "year 0 is out of range")
  else if m.month = 0 || 12 < m.month then .error (Numeral.valueFault "month must be in 1..12")
  else if m.day = 0 || daysOf m.year m.month < m.day then
    .error (Numeral.valueFault "day is out of range for month")
  else if 23 < clock.hour then .error (Numeral.valueFault "hour must be in 0..23")
  else if 59 < clock.minute then .error (Numeral.valueFault "minute must be in 0..59")
  else if 59 < clock.second then .error (Numeral.valueFault "second must be in 0..59")
  else .ok m

/-- The text of a zone. -/
def zoneText (minutes : Int) : String :=
  let two := Decimal.padDigits 2
  (if minutes < 0 then "-" else "+") ++ two (minutes.natAbs / 60) ++ ":" ++ two (minutes.natAbs % 60)

/-- The text of a moment: the date, and the time after a space, with a part of a second and a zone
only if there are any. -/
def print (m : Moment) : String :=
  let two := Decimal.padDigits 2
  let date := Decimal.padDigits 4 m.year ++ "-" ++ two m.month ++ "-" ++ two m.day
  match m.clock with
  | none => date
  | some c =>
    date ++ " " ++ two c.hour ++ ":" ++ two c.minute ++ ":" ++ two c.second
      ++ (if c.millionths = 0 then "" else "." ++ Decimal.padDigits 6 c.millionths)
      ++ (c.zone.map zoneText).getD ""

end Moment

end Downlevel.Yaml
