import TrackerQuery.Json
import TrackerQuery.Text.Decimal
import TrackerQuery.Time.Rfc3339

namespace TrackerQuery.Json

inductive Presence where
  | required
  | nullable
  | defaulted
deriving DecidableEq

structure Key where
  name : String
  presence : Presence

def memberOf? (members : List (Option String × Json)) (key : Key) : Option (Option Json) :=
  match members.filter fun m => m.1 == some key.name with
  | [] => if key.presence = .required then none else some none
  | [(_, value)] => some (some value)
  | _ => none

def itemsBy? : List Key → List Json → Option (List (Option Json))
  | [], [] => some []
  | [], _ :: _ => none
  | _ :: keys, item :: items => (itemsBy? keys items).map (some item :: ·)
  | key :: keys, [] =>
    if key.presence = .defaulted then (itemsBy? keys []).map (none :: ·) else none

-- A record is an object with known keys, each at most once, where unknown keys do not matter; or an
-- array of the values in the order of the keys, which may end early where the rest has defaults.
def record? (keys : List Key) : Json → Option (List (Option Json))
  | object members =>
    if members.all (·.1.isSome) then keys.mapM (memberOf? members) else none
  | array items => itemsBy? keys items
  | _ => none

def string? : Json → Option String
  | text s => s
  | _ => none

def int? : Json → Option Int
  | integer n => if Text.fits64 n then some n else none
  | _ => none

def bool? : Json → Option Bool
  | bool b => some b
  | _ => none

def list? (item : Json → Option α) : Json → Option (List α)
  | array items => items.mapM item
  | _ => none

def nullable? (value : Json → Option α) : Json → Option (Option α)
  | null => some none
  | j => (value j).map some

def instant? (j : Json) : Option Time.Instant :=
  j.string?.bind Time.Rfc3339.read?

def name? : Json → Option String
  | text s => s
  | object [(key, null)] => key
  | _ => none

def orDefault (default : α) (read : Json → Option α) : Option Json → Option α
  | none => some default
  | some j => read j

end TrackerQuery.Json
