import TrackerQuery.Criteria
import TrackerQuery.Text.Quoted

namespace TrackerQuery

inductive Direction where
  | ascending | descending
deriving DecidableEq, Repr

def Direction.text : Direction → String
  | ascending => "asc"
  | descending => "desc"

structure SortKey where
  field : String
  direction : Direction
deriving DecidableEq, Repr

def SortKey.text (s : SortKey) : String :=
  Text.quote s.field ++ " " ++ s.direction.text

-- A query without criteria asks for every entity.
structure Query (κ : Type) where
  criteria : Option (Criteria κ)
  sorts : List SortKey
deriving DecidableEq

namespace Query

def empty : Query κ :=
  ⟨none, []⟩

def merge (first second : Query κ) : Query κ where
  criteria := match first.criteria, second.criteria with
    | none, none => none
    | some a, none => some a
    | none, some b => some b
    | some a, some b => some (.all [a, b])
  sorts := first.sorts ++ second.sorts

section

variable {κ ε : Type} [LeafKind κ ε]

def isSatisfied (ctx : MatchContext) (entity : ε) (q : Query κ) : Bool :=
  q.criteria.all (Criteria.isSatisfied ctx entity)

def needsLogin (q : Query κ) : Bool :=
  q.criteria.any Criteria.needsLogin

def condition (ctx : MatchContext) (q : Query κ) : Sql.Condition :=
  match q.criteria with
  | some c => c.condition ctx
  | none => .constant true

def select (ctx : MatchContext) (q : Query κ) : Sql.Select where
  table := LeafKind.table κ
  condition := q.condition ctx
  orders := q.sorts.filterMap fun s =>
    (LeafKind.sortColumn κ s.field).map fun column => (column, s.direction == .ascending)

def text (q : Query κ) : String :=
  let criteria := match q.criteria with
    | some c => c.text
    | none => ""
  let gap := if q.criteria.isSome then " " else ""
  if q.sorts.isEmpty then criteria
  else criteria ++ gap ++ "order by " ++ joined " and " (q.sorts.map SortKey.text)

end

end Query

end TrackerQuery
