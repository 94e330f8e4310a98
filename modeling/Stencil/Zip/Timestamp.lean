/-! # Times of entries

An entry has a time of two seconds' precision, packed into two numbers of 16 bits: one for
the date from 1980 on, one for the time of the day.
-/

namespace Stencil

namespace Zip

/-- The packed time of an entry. -/
structure Timestamp where
  date : Nat
  time : Nat
  deriving Repr, DecidableEq

/-- A date and a time of the day. -/
structure CalendarTime where
  year : Nat
  month : Nat
  day : Nat
  hour : Nat
  minute : Nat
  second : Nat
  deriving Repr, DecidableEq

def isLeapYear (year : Nat) : Bool :=
  year % 4 = 0 && (year % 100 ≠ 0 || year % 400 = 0)

/-- The number of days of a month, zero for a number that is no month. -/
def daysOfMonth (year month : Nat) : Nat :=
  if month = 2 then (if isLeapYear year then 29 else 28)
  else if [4, 6, 9, 11].contains month then 30
  else if 1 ≤ month ∧ month ≤ 12 then 31
  else 0

namespace Timestamp

/-- Midnight at the beginning of 1980, the earliest time there is. It is the time of every
    entry written anew, so that the same edits give the same bytes. -/
def earliest : Timestamp :=
  { date := 0x21, time := 0 }

/-- The date and time that are packed, whether they exist or not. -/
def unpack (stamp : Timestamp) : CalendarTime :=
  { year := 1980 + stamp.date / 512 % 128, month := stamp.date / 32 % 16, day := stamp.date % 32
    hour := stamp.time / 2048 % 32, minute := stamp.time / 32 % 64
    second := min 58 (2 * (stamp.time % 32)) }

/-- Whether the packed date and time exist. -/
def isValid (stamp : Timestamp) : Bool :=
  let { year, month, day, hour, minute, second := _ } := stamp.unpack
  1 ≤ day && day ≤ daysOfMonth year month && hour ≤ 23 && minute ≤ 59 &&
    2 * (stamp.time % 32) ≤ 60

/-- The date and time of an entry, the earliest one if what is packed does not exist. -/
def calendar (stamp : Timestamp) : CalendarTime :=
  if stamp.isValid then stamp.unpack else earliest.unpack

end Timestamp

end Zip

end Stencil
