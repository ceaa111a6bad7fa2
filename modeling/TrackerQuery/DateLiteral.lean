import TrackerQuery.Error
import TrackerQuery.Time.Component

namespace TrackerQuery

open TrackerQuery.Text TrackerQuery.Time

namespace Time

def readDay? (cs : List Char) : Option Instant := do
  let (date, rest) ← readDate? id cs
  if rest.isEmpty then Instant.ofCivil? date 0 0 0 0 else none

def readDaySecond? (cs : List Char) : Option Instant := do
  let (date, cs) ← readDate? id cs
  let ((hour, minute), cs) ← readHourMinute? id cs
  let (second, rest) ← readSecond? id cs
  if rest.isEmpty then Instant.ofCivil? date hour minute second 0 else none

def readDayMinute? (cs : List Char) : Option Instant := do
  let (date, cs) ← readDate? id cs
  let ((hour, minute), rest) ← readHourMinute? id cs
  if rest.isEmpty then Instant.ofCivil? date hour minute 0 0 else none

-- Days and weeks count from the midnight that started the current day, hours from the current instant.
-- The unit may end in any number of the letter `s`.
def readAgo? (now : Instant) (cs : List Char) : Option Instant :=
  match words cs with
  | [amount, unit, ['a', 'g', 'o']] => do
    let n ← readInt? amount
    let stem := String.ofList (unit.reverse.dropWhile (· == 's')).reverse
    if stem == "hour" then now.earlier? (n * 3600)
    else if stem == "day" then now.midnight.earlier? (n * 86400)
    else if stem == "week" then now.midnight.earlier? (n * 604800)
    else none
  | _ => none

def readInstant? (now : Instant) (text : String) : Option Instant :=
  let cs := trim text.toList
  if cs = "today".toList then some now.midnight
  else if cs = "yesterday".toList then now.midnight.earlier? 86400
  else (readDay? cs).or ((readDaySecond? cs).or ((readDayMinute? cs).or (readAgo? now cs)))

end Time

structure DateLiteral where
  text : String
  date : Instant
deriving DecidableEq, Repr

def DateLiteral.read (now : Instant) (text : String) : Except Error DateLiteral :=
  match readInstant? now text with
  | some date => .ok ⟨text, date⟩
  | none => .error (.rejected (.unrecognizedDate text))

end TrackerQuery
