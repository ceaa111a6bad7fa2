import TrackerQuery.Json

namespace TrackerQuery.Json

def isGap (c : Char) : Bool :=
  c == ' ' || c == '\t' || c == '\n' || c == '\r'

def skipGap (cs : List Char) : List Char :=
  cs.dropWhile isGap

def hexDigit? (c : Char) : Option Nat :=
  if c.isDigit then some (c.toNat - '0'.toNat)
  else if 'a' ≤ c && c ≤ 'f' then some (c.toNat - 'a'.toNat + 10)
  else if 'A' ≤ c && c ≤ 'F' then some (c.toNat - 'A'.toNat + 10)
  else none

def codeUnit? (a b c d : Char) : Option Nat := do
  some ((← hexDigit? a) * 4096 + (← hexDigit? b) * 256 + (← hexDigit? c) * 16 + (← hexDigit? d))

def isHighSurrogate (n : Nat) : Bool :=
  0xd800 ≤ n && n < 0xdc00

def isLowSurrogate (n : Nat) : Bool :=
  0xdc00 ≤ n && n < 0xe000

def escaped? : Char → Option Char
  | '"' => some '"'
  | '\\' => some '\\'
  | '/' => some '/'
  | 'b' => some '\x08'
  | 'f' => some '\x0c'
  | 'n' => some '\n'
  | 'r' => some '\r'
  | 't' => some '\t'
  | _ => none

-- Code units of a text, and whether a unit came from an escape that may be half a character.
inductive Piece where
  | char (c : Char)
  | surrogate (unit : Nat)

def readPieces : List Char → Option (List Piece × List Char)
  | [] => none
  | '"' :: cs => some ([], cs)
  | '\\' :: 'u' :: a :: b :: c :: d :: cs => do
    let n ← codeUnit? a b c d
    let piece := if isHighSurrogate n || isLowSurrogate n then .surrogate n else .char (Char.ofNat n)
    let (pieces, rest) ← readPieces cs
    some (piece :: pieces, rest)
  | '\\' :: c :: cs => do
    let c ← escaped? c
    let (pieces, rest) ← readPieces cs
    some (.char c :: pieces, rest)
  | c :: cs =>
    if c.toNat < 0x20 || c == '\\' then none
    else (readPieces cs).map fun r => (.char c :: r.1, r.2)

def joinPieces : List Piece → Option (List Char)
  | [] => some []
  | .char c :: ps => (joinPieces ps).map (c :: ·)
  | .surrogate high :: .surrogate low :: ps =>
    if isHighSurrogate high && isLowSurrogate low then
      let c := Char.ofNat (0x10000 + (high - 0xd800) * 1024 + (low - 0xdc00))
      (joinPieces ps).map (c :: ·)
    else none
  | .surrogate _ :: _ => none

def readText (cs : List Char) : Option (Option String × List Char) :=
  (readPieces cs).map fun r => ((joinPieces r.1).map String.ofList, r.2)

def readDigits (cs : List Char) : Option (List Char × List Char) :=
  let ds := cs.takeWhile Char.isDigit
  if ds.isEmpty then none else some (ds, cs.dropWhile Char.isDigit)

def skipFraction : List Char → Option (Bool × List Char)
  | '.' :: cs => (readDigits cs).map fun r => (true, r.2)
  | cs => some (false, cs)

def skipExponent (cs : List Char) : Option (Bool × List Char) :=
  match cs with
  | 'e' :: cs | 'E' :: cs =>
    let cs := match cs with
      | '+' :: cs | '-' :: cs => cs
      | cs => cs
    (readDigits cs).map fun r => (true, r.2)
  | cs => some (false, cs)

def readNumber (cs : List Char) : Option (Json × List Char) := do
  let (negative, cs) := match cs with
    | '-' :: cs => (true, cs)
    | cs => (false, cs)
  let (digits, cs) ← readDigits cs
  if digits.head? = some '0' ∧ digits ≠ ['0'] then none
  else
    let (hasFraction, cs) ← skipFraction cs
    let (hasExponent, cs) ← skipExponent cs
    let n := Nat.ofDigitChars 10 digits 0
    if hasFraction || hasExponent || (negative && n == 0) then some (.otherNumber, cs)
    else some (.integer (if negative then -(n : Int) else n), cs)

-- At most `n + 1` items, up to the closing character. The counts here and below bound nesting and length,
-- and the length of the text is always enough.
def readItems (close : Char) (item : List Char → Option (α × List Char)) :
    Nat → List Char → Option (List α × List Char)
  | 0, _ => none
  | n + 1, cs => do
    let (a, cs) ← item (skipGap cs)
    match skipGap cs with
    | c :: cs =>
      if c == close then some ([a], cs)
      else if c == ',' then (readItems close item n cs).map fun r => (a :: r.1, r.2)
      else none
    | [] => none

def readList (close : Char) (item : List Char → Option (α × List Char)) (cs : List Char) :
    Option (List α × List Char) :=
  match skipGap cs with
  | [] => none
  | c :: rest => if c == close then some ([], rest) else readItems close item cs.length (c :: rest)

def readMember (value : List Char → Option (Json × List Char)) :
    List Char → Option ((Option String × Json) × List Char)
  | '"' :: cs => do
    let (key, cs) ← readText cs
    match skipGap cs with
    | ':' :: cs =>
      let (v, cs) ← value (skipGap cs)
      some ((key, v), cs)
    | _ => none
  | _ => none

def readValue : Nat → List Char → Option (Json × List Char)
  | 0, _ => none
  | n + 1, cs =>
    match cs with
    | 'n' :: 'u' :: 'l' :: 'l' :: cs => some (.null, cs)
    | 't' :: 'r' :: 'u' :: 'e' :: cs => some (.bool true, cs)
    | 'f' :: 'a' :: 'l' :: 's' :: 'e' :: cs => some (.bool false, cs)
    | '"' :: cs => (readText cs).map fun r => (.text r.1, r.2)
    | '[' :: cs => (readList ']' (readValue n) cs).map fun r => (.array r.1, r.2)
    | '{' :: cs => (readList '}' (readMember (readValue n)) cs).map fun r => (.object r.1, r.2)
    | cs => readNumber cs

def read? (text : String) : Option Json := do
  let cs := skipGap text.toList
  let (value, rest) ← readValue (cs.length + 1) cs
  if (skipGap rest).isEmpty then some value else none

end TrackerQuery.Json
