import DocFilter.Json.Value

/-!
# Days and times

Days of the calendar, times of day, and both together, as configuration files write them. A day or
time that does not exist has a fault that names its first part out of range.
-/

namespace DocFilter

structure Day where
  year : Nat
  month : Nat
  day : Nat
deriving DecidableEq

/-- A time of day, to the microsecond. -/
structure DayTime where
  hour : Nat
  minute : Nat
  second : Nat
  microsecond : Nat
deriving DecidableEq

/-- A day, a time of day, or both; the last with an offset from universal time in minutes, if one is
given. -/
inductive Moment where
  | day (d : Day)
  | time (t : DayTime)
  | both (d : Day) (t : DayTime) (offset : Option Int)
deriving DecidableEq

namespace Day

def isLeap (year : Nat) : Bool := year % 4 = 0 && (year % 100 != 0 || year % 400 = 0)

def daysInMonth (year month : Nat) : Nat :=
  match month with
  | 2 => if isLeap year then 29 else 28
  | 4 | 6 | 9 | 11 => 30
  | _ => 31

def fault? (d : Day) : Option String :=
  if d.year = 0 then some "year 0 is out of range"
  else if d.month = 0 || 12 < d.month then some "month must be in 1..12"
  else if d.day = 0 || daysInMonth d.year d.month < d.day then
    some "day is out of range for month"
  else none

end Day

namespace DayTime

def fault? (t : DayTime) : Option String :=
  if 23 < t.hour then some "hour must be in 0..23"
  else if 59 < t.minute then some "minute must be in 0..59"
  else if 59 < t.second then some "second must be in 0..59"
  else none

end DayTime

namespace Moment

/-- A span of minutes, as whole days and the seconds beyond them. -/
def spanText (minutes : Int) : String :=
  let days := Int.fdiv minutes 1440
  let seconds := Int.fmod minutes 1440 * 60
  let parts := (if days = 0 then [] else [s!"days={days}"]) ++
    if seconds = 0 then [] else [s!"seconds={seconds}"]
  "datetime.timedelta(" ++ ", ".intercalate parts ++ ")"

/-- Why an offset from universal time, in minutes, is too large. -/
def offsetFault? (minutes : Int) : Option String :=
  if -1440 < minutes && minutes < 1440 then none
  else
    let span := spanText minutes
    some ("offset must be a timedelta strictly between -timedelta(hours=24) and " ++
      s!"timedelta(hours=24), not {span}.")

def fault? : Moment → Option String
  | .day d => d.fault?
  | .time t => t.fault?
  | .both d t offset => ((offset.bind offsetFault?).or d.fault?).or t.fault?

def padded (width n : Nat) : String :=
  let digits := Nat.toDigits 10 n
  String.ofList (List.replicate (width - digits.length) '0' ++ digits)

def dayText (d : Day) : String :=
  padded 4 d.year ++ "-" ++ padded 2 d.month ++ "-" ++ padded 2 d.day

def timeText (t : DayTime) : String :=
  padded 2 t.hour ++ ":" ++ padded 2 t.minute ++ ":" ++ padded 2 t.second ++
    if t.microsecond = 0 then "" else "." ++ padded 6 t.microsecond

def offsetText (minutes : Int) : String :=
  (if minutes < 0 then "-" else "+") ++ padded 2 (minutes.natAbs / 60) ++ ":" ++
    padded 2 (minutes.natAbs % 60)

def text : Moment → String
  | .day d => dayText d
  | .time t => timeText t
  | .both d t offset => dayText d ++ " " ++ timeText t ++ (offset.map offsetText).getD ""

def kind : Moment → String
  | .day _ => "date"
  | .time _ => "time"
  | .both .. => "datetime"

def toJson (m : Moment) : Json :=
  .foreign ⟨m.kind, "datetime." ++ m.kind, m.text, false, true⟩

end Moment

end DocFilter
