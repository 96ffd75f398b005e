/-!
# Points in time

Seconds since the start of 1970 as a date and a time of day, of universal time or of a time zone.
-/

namespace Trigger

/-- A time zone: by how many seconds its clocks are ahead of universal time, which can change. -/
abbrev TimeZone : Type := Int → Int

/-- Universal time. -/
def TimeZone.universal : TimeZone := fun _ => 0

/-- The date and the time of day of a point in time. -/
structure Moment where
  year : Int
  month : Nat
  day : Nat
  hour : Nat
  minute : Nat
  second : Nat
deriving DecidableEq, Repr

namespace Moment

/-- The date of a day that is counted from the start of 1970. Years are taken to begin in March,
so that a leap day is the last day of its year; 146097 days make up 400 years. -/
def dateOfDay (n : Int) : Int × Nat × Nat :=
  let n := n + 719468
  let era := n.fdiv 146097
  let day := (n.fmod 146097).toNat
  let year := (day - day / 1460 + day / 36524 - day / 146096) / 365
  let rest := day - (365 * year + year / 4 - year / 100)
  let shifted := (5 * rest + 2) / 153
  let month := if shifted < 10 then shifted + 3 else shifted - 9
  (era * 400 + year + (if month ≤ 2 then 1 else 0), month, rest - (153 * shifted + 2) / 5 + 1)

/-- The point in time so many seconds after the start of 1970. -/
def ofSeconds (t : Int) : Moment :=
  let (year, month, day) := dateOfDay (t.fdiv 86400)
  let s := (t.fmod 86400).toNat
  ⟨year, month, day, s / 3600, s / 60 % 60, s % 60⟩

/-- The point in time so many seconds after the start of 1970 by the clocks of a time zone. -/
def inZone (zone : TimeZone) (t : Int) : Moment := ofSeconds (t + zone t)

/-- A number with two digits. -/
def two (n : Nat) : String := if n < 10 then "0" ++ toString n else toString n

/-- A point in time with the date first. -/
def text (m : Moment) : String :=
  toString m.year ++ "-" ++ two m.month ++ "-" ++ two m.day ++ "T" ++ two m.hour ++ ":"
    ++ two m.minute ++ ":" ++ two m.second

end Moment

end Trigger
