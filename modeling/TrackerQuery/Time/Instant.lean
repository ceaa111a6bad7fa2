import TrackerQuery.Text.Decimal
import TrackerQuery.Time.Calendar

namespace TrackerQuery.Time

-- Seconds since the start of 1970 in UTC. A leap second has no number of its own: it is the second before
-- it with a thousand million nanoseconds or more.
structure Instant where
  seconds : Int
  nanos : Nat
deriving DecidableEq, Repr

namespace Instant

instance : LT Instant where
  lt a b := a.seconds < b.seconds ∨ (a.seconds = b.seconds ∧ a.nanos < b.nanos)

instance : DecidableLT Instant := fun a b =>
  inferInstanceAs (Decidable (a.seconds < b.seconds ∨ (a.seconds = b.seconds ∧ a.nanos < b.nanos)))

def isLeap (t : Instant) : Bool :=
  1000000000 ≤ t.nanos

def date (t : Instant) : Date :=
  Date.ofDayNumber (t.seconds / 86400)

def secondOfDay (t : Instant) : Nat :=
  (t.seconds % 86400).toNat

def midnight (t : Instant) : Instant :=
  ⟨t.seconds / 86400 * 86400, 0⟩

def isRepresentable (t : Instant) : Bool :=
  -8334601228800 ≤ t.seconds && t.seconds < 8210266876800

def isSpan (seconds : Int) : Bool :=
  -9223372036854775807 ≤ seconds * 1000 && seconds * 1000 ≤ 9223372036854775807

-- The instant that lies `seconds` earlier, in range or not. Leaving a leap second backwards counts it
-- as the start of the next second, leaving it forwards as the second before.
def back (t : Instant) (seconds : Int) : Instant :=
  if !t.isLeap || seconds == 0 then ⟨t.seconds - seconds, t.nanos⟩
  else if 0 < seconds then ⟨t.seconds + 1 - seconds, t.nanos - 1000000000⟩
  else ⟨t.seconds - seconds, t.nanos - 1000000000⟩

def earlier? (t : Instant) (seconds : Int) : Option Instant :=
  if isSpan seconds && (t.back seconds).isRepresentable then some (t.back seconds) else none

def ofCivil? (d : Date) (hour minute second nanos : Nat) : Option Instant :=
  if d.isValid && -262143 ≤ d.year && d.year ≤ 262142 && hour ≤ 23 && minute ≤ 59 && second ≤ 60 then
    let start := d.dayNumber * 86400 + hour * 3600 + minute * 60
    some (if second == 60 then ⟨start + 59, nanos + 1000000000⟩ else ⟨start + second, nanos⟩)
  else none

def yearText (year : Int) : String :=
  if 0 ≤ year && year ≤ 9999 then Text.padded 4 year.toNat
  else (if year < 0 then "-" else "+") ++ Text.padded 4 year.natAbs

def dateText (t : Instant) : String :=
  let d := t.date
  yearText d.year ++ "-" ++ Text.padded 2 d.month ++ "-" ++ Text.padded 2 d.day

def clockText (t : Instant) : String :=
  let s := t.secondOfDay
  let second := s % 60 + if t.isLeap then 1 else 0
  Text.padded 2 (s / 3600) ++ ":" ++ Text.padded 2 (s / 60 % 60) ++ ":" ++ Text.padded 2 second

def fraction (t : Instant) : Nat :=
  t.nanos % 1000000000

end Instant

end TrackerQuery.Time
