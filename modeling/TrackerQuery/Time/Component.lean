import TrackerQuery.Text.Blank
import TrackerQuery.Text.Decimal
import TrackerQuery.Time.Instant

namespace TrackerQuery.Time

open TrackerQuery.Text

def dropChar? (c : Char) : List Char → Option (List Char)
  | [] => none
  | d :: cs => if d == c then some cs else none

def readNumber? (limit : Option Nat) (cs : List Char) : Option (Nat × List Char) :=
  let run := cs.takeWhile Char.isDigit
  let digits := match limit with
    | some n => run.take n
    | none => run
  (readDigits? digits).map fun n => (n, cs.drop digits.length)

def readTwo? (cs : List Char) : Option (Nat × List Char) :=
  readNumber? (some 2) (trimStart cs)

def readYear? (cs : List Char) : Option (Int × List Char) :=
  match trimStart cs with
  | '-' :: cs => (readNumber? none cs).map fun r => (-(r.1 : Int), r.2)
  | '+' :: cs => (readNumber? none cs).map fun r => ((r.1 : Int), r.2)
  | cs => (readNumber? (some 4) cs).map fun r => ((r.1 : Int), r.2)

-- Year, month and day with hyphens between; `gap` is what may be skipped before a hyphen.
def readDate? (gap : List Char → List Char) (cs : List Char) : Option (Date × List Char) := do
  let (year, cs) ← readYear? cs
  let cs ← dropChar? '-' (gap cs)
  let (month, cs) ← readTwo? cs
  let cs ← dropChar? '-' (gap cs)
  let (day, cs) ← readTwo? cs
  some (⟨year, month, day⟩, cs)

def readHourMinute? (gap : List Char → List Char) (cs : List Char) :
    Option ((Nat × Nat) × List Char) := do
  let (hour, cs) ← readTwo? cs
  let cs ← dropChar? ':' (gap cs)
  let (minute, cs) ← readTwo? cs
  some ((hour, minute), cs)

def readSecond? (gap : List Char → List Char) (cs : List Char) : Option (Nat × List Char) := do
  let cs ← dropChar? ':' (gap cs)
  readTwo? cs

end TrackerQuery.Time
