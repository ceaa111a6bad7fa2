import TrackerQuery.Text.Blank
import TrackerQuery.Text.Decimal

namespace TrackerQuery

open TrackerQuery.Text

structure Reference where
  project : Option String
  number : Int
deriving DecidableEq, Repr

namespace Reference

-- What stands before and after the last `c`.
def splitLast? (c : Char) : List Char → Option (List Char × List Char)
  | [] => none
  | d :: cs =>
    match splitLast? c cs with
    | some (before, after) => some (d :: before, after)
    | none => if d == c then some ([], cs) else none

def read? (text : String) : Option Reference :=
  let cs := trim text.toList
  match splitLast? '#' cs with
  | some (project, number) =>
    (readInt? number).map fun n =>
      ⟨if project.isEmpty then none else some (String.ofList project), n⟩
  | none => (readInt? cs).map fun n => ⟨none, n⟩

def text (r : Reference) : String :=
  r.project.getD "" ++ "#" ++ toString r.number

end Reference

end TrackerQuery
