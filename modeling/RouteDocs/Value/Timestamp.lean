namespace RouteDocs

/-- A number with zeros before it up to `width` digits. -/
def padded (n width : Nat) : String :=
  let digits := Nat.toDigits 10 n
  .ofList (List.replicate (width - digits.length) '0' ++ digits)

/-- A day of the Gregorian calendar. -/
structure Date where
  year : Nat
  month : Nat
  day : Nat
  deriving DecidableEq, Repr, Inhabited

/-- A time of a day; the offset is in minutes. -/
structure Moment where
  date : Date
  hour : Nat
  minute : Nat
  second : Nat
  microsecond : Nat
  offset : Option Int
  deriving DecidableEq, Repr, Inhabited

namespace Date

/-- The number of days of a month. -/
def daysIn (year month : Nat) : Nat :=
  if month = 2 then
    if year % 4 = 0 ∧ (year % 100 ≠ 0 ∨ year % 400 = 0) then 29 else 28
  else if month = 4 ∨ month = 6 ∨ month = 9 ∨ month = 11 then 30
  else 31

/-- Whether the calendar has the day; its years run from 1 to 9999. -/
def exists? (d : Date) : Bool :=
  1 ≤ d.year && d.year ≤ 9999 && 1 ≤ d.month && d.month ≤ 12 && 1 ≤ d.day &&
    d.day ≤ daysIn d.year d.month

/-- The number of a day, counted from the one before the first of the calendar. -/
def number (d : Date) : Nat :=
  let before := d.year - 1
  365 * before + before / 4 - before / 100 + before / 400 +
    (List.range (d.month - 1)).foldl (fun days m => days + daysIn d.year (m + 1)) 0 + d.day

/-- Year, month and day with hyphens between them. -/
def text (d : Date) : String :=
  padded d.year 4 ++ "-" ++ padded d.month 2 ++ "-" ++ padded d.day 2

end Date

namespace Moment

/-- Whether the day and the time exist and the offset is less than a day. -/
def exists? (m : Moment) : Bool :=
  m.date.exists? && m.hour < 24 && m.minute < 60 && m.second < 60 &&
    (m.offset.getD 0).natAbs < 24 * 60

/-- The number of minutes that have gone in universal time, for a given offset. -/
def universalMinutes (m : Moment) (offset : Int) : Int :=
  ((m.date.number * 24 + m.hour) * 60 + m.minute : Nat) - offset

/-- Whether two moments are one: with offsets they are compared in universal time, and a moment
without one is none that has it. -/
def same (m n : Moment) : Bool :=
  match m.offset, n.offset with
  | some k, some l =>
    m.universalMinutes k == n.universalMinutes l && m.second == n.second &&
      m.microsecond == n.microsecond
  | _, _ => m == n

/-- An offset as a sign, hours and minutes. -/
def offsetText (minutes : Int) : String :=
  (if minutes < 0 then "-" else "+") ++ padded (minutes.natAbs / 60) 2 ++ ":" ++
    padded (minutes.natAbs % 60) 2

/-- The date and the time with a blank between them; microseconds are left out when there are
none. -/
def text (m : Moment) : String :=
  m.date.text ++ " " ++ padded m.hour 2 ++ ":" ++ padded m.minute 2 ++ ":" ++ padded m.second 2 ++
    (if m.microsecond = 0 then "" else "." ++ padded m.microsecond 6) ++
    (match m.offset with
      | some minutes => offsetText minutes
      | none => "")

end Moment
end RouteDocs
