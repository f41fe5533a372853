/-!
# Value/Calendar — dates and points in time

A point in time is a date with a time of day, to the microsecond, and how far its clock is ahead of
universal time, if that is known.  `Moment.text` shows it on its own and `Moment.inspect` inside
another value; `Moment.same` compares two points by universal time where both know it.
-/

namespace CoinPuzzles

namespace Calendar

/-- The number of days of a month. -/
def daysIn (year month : Nat) : Nat :=
  if month = 2 then
    if year % 4 = 0 ∧ (year % 100 ≠ 0 ∨ year % 400 = 0) then 29 else 28
  else if month = 4 ∨ month = 6 ∨ month = 9 ∨ month = 11 then 30 else 31

/-- The number of days up to a date since the calendar starts. -/
def dayNumber (year month day : Nat) : Nat :=
  let before := year - 1
  let days := 365 * before + before / 4 - before / 100 + before / 400
  (List.range' 1 (month - 1)).foldl (fun days m => days + daysIn year m) days + day

example : dayNumber 1 1 1 = 1 := by decide

/-- A number in at least `width` digits. -/
def zeroPadded (width n : Nat) : String :=
  let digits := toString n
  String.ofList (List.replicate (width - digits.length) '0') ++ digits

/-- A date as year, month and day. -/
def dateText (year month day : Nat) : String :=
  zeroPadded 4 year ++ "-" ++ zeroPadded 2 month ++ "-" ++ zeroPadded 2 day

/-- A span of minutes, as whole days and what is left of one in seconds. -/
def spanText (minutes : Int) : String :=
  let days := Int.fdiv minutes 1440
  let seconds := Int.fmod minutes 1440 * 60
  let parts := (if days = 0 then [] else ["days=" ++ toString days]) ++
    (if seconds = 0 then [] else ["seconds=" ++ toString seconds])
  "datetime.timedelta(" ++ (if parts.isEmpty then "0" else String.intercalate ", " parts) ++ ")"

end Calendar

/-- A point in time. -/
structure Moment where
  year : Nat
  month : Nat
  day : Nat
  hour : Nat
  minute : Nat
  second : Nat
  microsecond : Nat
  /-- The minutes by which the clock is ahead of universal time, if that is known. -/
  offset : Option Int
deriving DecidableEq

namespace Moment

open Calendar (dateText dayNumber spanText zeroPadded)

/-- The text of a point in time on its own. -/
def text (m : Moment) : String :=
  let clock := dateText m.year m.month m.day ++ " " ++ zeroPadded 2 m.hour ++ ":" ++
    zeroPadded 2 m.minute ++ ":" ++ zeroPadded 2 m.second ++
    if m.microsecond = 0 then "" else "." ++ zeroPadded 6 m.microsecond
  match m.offset with
  | none => clock
  | some offset =>
    clock ++ (if offset < 0 then "-" else "+") ++ zeroPadded 2 (offset.natAbs / 60) ++ ":" ++
      zeroPadded 2 (offset.natAbs % 60)

/-- The text of a point in time inside another value: seconds and microseconds that are zero at the
end are left out. -/
def inspect (m : Moment) : String :=
  let fine := if m.microsecond = 0 then (if m.second = 0 then [] else [m.second])
    else [m.second, m.microsecond]
  let fields := [m.year, m.month, m.day, m.hour, m.minute] ++ fine
  let clock := "datetime.datetime(" ++ String.intercalate ", " (fields.map toString)
  match m.offset with
  | none => clock ++ ")"
  | some 0 => clock ++ ", tzinfo=datetime.timezone.utc)"
  | some offset => clock ++ ", tzinfo=datetime.timezone(" ++ spanText offset ++ "))"

/-- The minute in universal time, of a clock that is ahead of it by `offset`. -/
def universalMinute (m : Moment) (offset : Int) : Int :=
  ((dayNumber m.year m.month m.day * 24 + m.hour) * 60 + m.minute : Nat) - offset

/-- Whether two points in time are the same; one whose offset is not known is never the same as one
whose offset is. -/
def same (a b : Moment) : Bool :=
  match a.offset, b.offset with
  | some x, some y =>
    a.universalMinute x == b.universalMinute y && a.second == b.second &&
      a.microsecond == b.microsecond
  | none, none => a == b
  | _, _ => false

example : text ⟨2001, 12, 14, 21, 59, 43, 100000, some (-330)⟩ =
    "2001-12-14 21:59:43.100000-05:30" := by decide +kernel

example : inspect ⟨2001, 12, 14, 21, 59, 0, 0, some (-330)⟩ =
    "datetime.datetime(2001, 12, 14, 21, 59, " ++
      "tzinfo=datetime.timezone(datetime.timedelta(days=-1, seconds=66600)))" := by decide +kernel

example :
    same ⟨2001, 12, 31, 23, 30, 0, 0, some (-60)⟩ ⟨2002, 1, 1, 0, 30, 0, 0, some 0⟩ = true := by
  decide

end Moment

end CoinPuzzles
