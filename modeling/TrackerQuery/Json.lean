namespace TrackerQuery

-- Only what a value can be read as is kept. A number with a fraction or an exponent is `otherNumber`, and
-- so is `-0`; a text whose escapes denote no Unicode text is `none`.
inductive Json where
  | null
  | bool (b : Bool)
  | integer (n : Int)
  | otherNumber
  | text (s : Option String)
  | array (items : List Json)
  | object (members : List (Option String × Json))
deriving Inhabited

namespace Json

def ofString (s : String) : Json :=
  text (some s)

def ofOption (f : α → Json) : Option α → Json
  | some a => f a
  | none => null

def ofMembers (members : List (String × Json)) : Json :=
  object (members.map fun m => (some m.1, m.2))

end Json

end TrackerQuery
