import TrackerQuery.Time.Component

namespace TrackerQuery.Time.Rfc3339

open TrackerQuery.Text

-- Nine digits count; further ones are skipped.
def readFraction? : List Char → Option (Nat × List Char)
  | '.' :: cs => do
    let digits := (cs.takeWhile Char.isDigit).take 9
    if digits.isEmpty then none
    else
      let n ← readDigits? (digits ++ List.replicate (9 - digits.length) '0')
      some (n, cs.dropWhile Char.isDigit)
  | cs => some (0, cs)

def readHours? (sign : Int) : List Char → Option (Int × List Char)
  | a :: b :: cs => do
    let hours ← readDigits? [a, b]
    match cs.dropWhile fun c => c == ':' || isBlank c with
    | c :: d :: cs =>
      let minutes ← readDigits? [c, d]
      if minutes ≤ 59 then some (sign * (hours * 3600 + minutes * 60), cs) else none
    | _ => none
  | _ => none

def readOffset? (cs : List Char) : Option (Int × List Char) :=
  if (cs.take 3).map Char.toLower = ['u', 't', 'c'] then some (0, cs.drop 3)
  else match cs with
    | 'Z' :: cs | 'z' :: cs => some (0, cs)
    | '+' :: cs => readHours? 1 cs
    | '-' :: cs | '−' :: cs => readHours? (-1) cs
    | _ => none

def readSeparator? : List Char → Option (List Char)
  | 'T' :: cs | 't' :: cs | ' ' :: cs => some cs
  | _ => none

def read? (text : String) : Option Instant := do
  let (date, cs) ← readDate? trimStart text.toList
  let cs ← readSeparator? cs
  let ((hour, minute), cs) ← readHourMinute? trimStart cs
  let (second, cs) ← readSecond? trimStart cs
  let (nanos, cs) ← readFraction? cs
  let (offset, cs) ← readOffset? (trimStart cs)
  let t ← Instant.ofCivil? date hour minute second nanos
  let t : Instant := ⟨t.seconds - offset, t.nanos⟩
  if offset.natAbs < 86400 && t.isRepresentable && cs.all isBlank then some t else none

def fractionText (n : Nat) : String :=
  if n == 0 then ""
  else if n % 1000000 == 0 then "." ++ padded 3 (n / 1000000)
  else if n % 1000 == 0 then "." ++ padded 6 (n / 1000)
  else "." ++ padded 9 n

def write (t : Instant) : String :=
  t.dateText ++ "T" ++ t.clockText ++ fractionText t.fraction ++ "Z"

example : read? "2024-03-01 01:30:00.5+01:00" = some ⟨1709253000, 500000000⟩ := by decide
example : read? "2016-12-31T23:59:60Z" = some ⟨1483228799, 1000000000⟩ := by decide
example : write ⟨1483228799, 1000000000⟩ = "2016-12-31T23:59:60Z" := by decide
example : write ⟨-62167219201, 20⟩ = "-0001-12-31T23:59:59.000000020Z" := by decide

end TrackerQuery.Time.Rfc3339
