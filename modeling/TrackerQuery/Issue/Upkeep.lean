import TrackerQuery.Issue.Criterion

namespace TrackerQuery.Issue.Query

structure Outcome where
  discard : Bool
  query : Query

def mapLeaves (f : Criterion → Criterion) (q : Query) : Query :=
  { q with criteria := q.criteria.map (Criteria.map f) }

def prune (doomed : Criterion → Bool) (q : Query) : Outcome :=
  match q.criteria with
  | none => ⟨false, q⟩
  | some c =>
    let pruned := c.prune doomed
    ⟨pruned.lost, { q with criteria := some pruned.left }⟩

def renameFieldOf (old new : String) (k : Criterion) : Criterion :=
  if k.customField? = some old then k.withField new else k

def renameField (old new : String) (q : Query) : Query :=
  let q := q.mapLeaves (renameFieldOf old new)
  { q with sorts := q.sorts.map fun s => if s.field = old then { s with field := new } else s }

def deleteField (field : String) (q : Query) : Outcome :=
  prune (fun k => k.customField? == some field)
    { q with sorts := q.sorts.filter fun s => s.field != field }

def renameStateOf (old new : String) : Criterion → Criterion
  | .state field value => .state field (if value = old then new else value)
  | k => k

def renameState (old new : String) (q : Query) : Query :=
  q.mapLeaves (renameStateOf old new)

def isState (name : String) : Criterion → Bool
  | .state _ value => value == name
  | _ => false

def deleteState (name : String) (q : Query) : Outcome :=
  q.prune (isState name)

structure ChoiceEdit where
  renames : List (String × String)
  deletions : List String

def choosesDeleted (field : String) (edit : ChoiceEdit) : Criterion → Bool
  | .choiceField f value _ _ => f == field && edit.deletions.contains value
  | _ => false

-- Every value is renamed at most once, so values may trade names.
def renameChoice (field : String) (edit : ChoiceEdit) : Criterion → Criterion
  | .choiceField f value ordinal op =>
    .choiceField f (if f = field then (edit.renames.lookup value).getD value else value) ordinal op
  | k => k

-- Deletions come first; a query that they discard is not renamed in.
def editChoices (field : String) (edit : ChoiceEdit) (q : Query) : Outcome :=
  let pruned := q.prune (choosesDeleted field edit)
  if pruned.discard then pruned
  else ⟨false, pruned.query.mapLeaves (renameChoice field edit)⟩

def editAllChoices (edits : List (String × ChoiceEdit)) (q : Query) : Outcome :=
  match edits with
  | [] => ⟨false, q⟩
  | (field, edit) :: more =>
    let outcome := q.editChoices field edit
    if outcome.discard then outcome else editAllChoices more outcome.query

end TrackerQuery.Issue.Query
