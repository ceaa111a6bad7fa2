import TrackerQuery.Issue.Criterion

namespace TrackerQuery.Issue.Query

def leaves (q : Query) : List Criterion :=
  q.criteria.elim [] Criteria.leaves

def isUndefinedField (setting : Setting) (field : String) : Bool :=
  (Target.ofName? setting field).isNone

def undefinedFields (setting : Setting) (q : Query) : List String :=
  let asked := q.leaves.filterMap Criterion.customField?
  let sorted := (q.sorts.map (·.field)).filter fun f => (Builtin.ofSortName? f).isNone
  distinct ((asked ++ sorted).filter (isUndefinedField setting))

def undefinedState? (setting : Setting) : Criterion → Option String
  | .state _ value => if setting.hasState value then none else some value
  | _ => none

def undefinedStates (setting : Setting) (q : Query) : List String :=
  distinct (q.leaves.filterMap (undefinedState? setting))

structure StaleValue where
  field : String
  value : String
deriving DecidableEq, Repr

namespace StaleValue

instance : LT StaleValue where
  lt a b := a.field < b.field ∨ (a.field = b.field ∧ a.value < b.value)

instance : DecidableLT StaleValue := fun a b =>
  inferInstanceAs (Decidable (a.field < b.field ∨ (a.field = b.field ∧ a.value < b.value)))

end StaleValue

-- Only fields with a list of choices can miss a value.
def staleValue? (setting : Setting) : Criterion → Option StaleValue
  | .choiceField field value _ _ =>
    match setting.field? field with
    | some spec =>
      if spec.type == .choice && !spec.choices.contains value then some ⟨field, value⟩ else none
    | none => none
  | _ => none

def undefinedValues (setting : Setting) (q : Query) : List StaleValue :=
  distinct (q.leaves.filterMap (staleValue? setting))

end TrackerQuery.Issue.Query
