import TrackerQuery.DateLiteral
import TrackerQuery.Query.Reading

namespace TrackerQuery.Project

open TrackerQuery.Text TrackerQuery.Time

inductive Field where
  | name | description | updateDate
deriving DecidableEq, Repr

namespace Field

def text : Field → String
  | name => "name"
  | description => "description"
  | updateDate => "update date"

def ofText? (s : String) : Option Field :=
  [name, description, updateDate].find? (·.text == s)

def sortColumn? : Field → Option Sql.ColumnName
  | name => some .name
  | updateDate => some .updateDate
  | description => none

end Field

inductive Criterion where
  | ownedByMe
  | ownedBy (user : String)
  | name (value : String) (contains : Bool)
  | description (value : String)
  | updateDate (op : Comparison) (value : DateLiteral)
deriving DecidableEq, Repr

namespace Criterion

def text : Criterion → String
  | ownedByMe => Operator.text .ownedByMe
  | ownedBy user => operatorText .ownedBy user
  | name value contains => fieldText Field.name.text (if contains then .contains else .is) value
  | description value => fieldText Field.description.text .contains value
  | updateDate op value => fieldText Field.updateDate.text op.dateOperator value.text

def holds (ctx : MatchContext) (project : Project) : Criterion → Bool
  | ownedByMe => ctx.user.any project.owners.contains
  | ownedBy user => project.owners.contains user
  | name value true => containsIgnoringCase project.name value
  | name value false => equalsIgnoringAsciiCase project.name value
  | description value => project.description.any (containsIgnoringCase · value)
  | updateDate op value => op.holds project.updateDate value.date

def needsLogin : Criterion → Bool
  | ownedByMe => true
  | _ => false

end Criterion

open Sql (Condition)

def column (c : Sql.ColumnName) : Sql.Column :=
  ⟨.projects, c⟩

def ownedByCondition (user : String) : Condition :=
  .related .projects ⟨.projectOwners, .project⟩ (.equals ⟨.projectOwners, .owner⟩ user)

namespace Criterion

def condition (ctx : MatchContext) : Criterion → Condition
  | ownedByMe =>
    match ctx.user with
    | some user => ownedByCondition user
    | none => .constant false
  | ownedBy user => ownedByCondition user
  | name value true => .containsIgnoringCase (column .name) value
  | name value false => .equalsIgnoringCase (column .name) value
  | description value => .containsIgnoringCase (column .description) value
  | updateDate op value => .compareInstant (column .updateDate) op value.date

instance : LeafKind Criterion Project where
  holds
  needsLogin
  condition
  text
  table := .projects
  sortColumn field := (Field.ofText? field).bind Field.sortColumn?

def readStandalone : Operator → Except Error Criterion
  | .ownedByMe => .ok ownedByMe
  | op => .error (.unsupported op)

def readFieldValue (now : Instant) (field : String) (op : Operator) (value : String) :
    Except Error Criterion :=
  match Field.ofText? field with
  | none => .error (.rejected (.fieldNotFound field))
  | some f =>
    match f, op with
    | .name, .is => .ok (name value false)
    | .name, .contains => .ok (name value true)
    | .description, .contains => .ok (description value)
    | .updateDate, .isBefore | .updateDate, .isAfter =>
      (DateLiteral.read now value).map (updateDate (.ofOperator op))
    | _, _ => .error (.rejected (.notApplicable field op))

def readValue (op : Operator) (value : String) : Except Error Criterion :=
  match op with
  | .ownedBy => .ok (ownedBy value)
  | op => .error (.unsupported op)

def checkSort (validate : Bool) (field : String) : Except Error Unit :=
  if !validate || ((Field.ofText? field).bind Field.sortColumn?).isSome then .ok ()
  else .error (.rejected (.notSortable field))

end Criterion

def reader (ctx : ReadContext) (validate : Bool) : LeafReader Criterion where
  standalone := Criterion.readStandalone
  field _ op := .error (.unsupported op)
  fieldValue := Criterion.readFieldValue ctx.now
  value := Criterion.readValue
  between _ _ := .error (.unsupported .fixedBetween)
  sortField := Criterion.checkSort validate

abbrev Query : Type := TrackerQuery.Query Criterion

def Query.read (ctx : ReadContext) (text : Option String) (validate : Bool) : Except Error Query :=
  TrackerQuery.Query.ofText? (reader ctx validate) text

end TrackerQuery.Project
