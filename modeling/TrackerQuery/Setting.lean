namespace TrackerQuery

inductive FieldType where
  | text | number | boolean | date
  | choice | userChoice | groupChoice
  | issueChoice | buildChoice | pullRequestChoice
deriving DecidableEq, Repr

namespace FieldType

def name : FieldType → String
  | text => "text"
  | number => "number"
  | boolean => "boolean"
  | date => "date"
  | choice => "choice"
  | userChoice => "user-choice"
  | groupChoice => "group-choice"
  | issueChoice => "issue-choice"
  | buildChoice => "build-choice"
  | pullRequestChoice => "pull-request-choice"

def all : List FieldType := [
  text, number, boolean, date, choice, userChoice, groupChoice,
  issueChoice, buildChoice, pullRequestChoice]

def ofName? (s : String) : Option FieldType :=
  all.find? (·.name == s)

def isChoiceLike : FieldType → Bool
  | choice | userChoice | groupChoice => true
  | _ => false

def isReference : FieldType → Bool
  | issueChoice | buildChoice | pullRequestChoice => true
  | _ => false

end FieldType

structure FieldSpec where
  name : String
  type : FieldType
  allowMultiple : Bool
  choices : List String
deriving DecidableEq, Repr

-- Position of `value` among the choices, or -1.
def FieldSpec.ordinalOf (spec : FieldSpec) (value : String) : Int :=
  if spec.type = .choice then
    match spec.choices.idxOf? value with
    | some i => i
    | none => -1
  else -1

-- Names need not be unique; the first field of a name is the one that counts.
structure Setting where
  fields : List FieldSpec
  states : List String
deriving DecidableEq, Repr

namespace Setting

def field? (s : Setting) (name : String) : Option FieldSpec :=
  s.fields.find? (·.name == name)

def hasState (s : Setting) (name : String) : Bool :=
  s.states.contains name

def empty : Setting :=
  ⟨[], []⟩

def demo : Setting where
  fields := [
    ⟨"Priority", .choice, false, ["Low", "Normal", "High", "Critical"]⟩,
    ⟨"Type", .choice, false, ["Bug", "Feature", "Task"]⟩,
    ⟨"Labels", .choice, true, ["ui", "backend", "docs"]⟩,
    ⟨"Assignee", .userChoice, false, []⟩,
    ⟨"Team", .groupChoice, false, []⟩,
    ⟨"Estimate", .number, false, []⟩,
    ⟨"Due Date", .date, false, []⟩,
    ⟨"Regression", .boolean, false, []⟩,
    ⟨"Environment", .text, false, []⟩,
    ⟨"Duplicate Of", .issueChoice, false, []⟩,
    ⟨"Found In", .buildChoice, false, []⟩,
    ⟨"Fixed By", .pullRequestChoice, false, []⟩]
  states := ["Open", "In Progress", "Closed"]

end Setting

end TrackerQuery
