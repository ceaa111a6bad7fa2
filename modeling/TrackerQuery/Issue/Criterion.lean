import TrackerQuery.DateLiteral
import TrackerQuery.Issue.Field
import TrackerQuery.Query.Reading

namespace TrackerQuery.Issue

open TrackerQuery.Text TrackerQuery.Time

-- A leaf keeps what its text meant when it was read: an absent build, pair of commits or number is one
-- that the text leads to none of, and a negative `ordinal` is looked up in the setting of the match.
inductive Criterion where
  | submittedByMe
  | fixedInCurrentBuild
  | submittedBy (user : String)
  | fixedInBuild (value : String) (build : Option Build)
  | fixedBetween (first second : Revision) (project : Option String)
      (commits : Option (CommitId × CommitId))
  | title (value : String)
  | description (value : String)
  | comment (value : String)
  | state (field value : String)
  | milestone (value : Option String)
  | voteCount (op : Comparison) (value : Int)
  | commentCount (op : Comparison) (value : Int)
  | number (op : Comparison) (value : Int)
  | submitDate (op : Comparison) (value : DateLiteral)
  | updateDate (op : Comparison) (value : DateLiteral)
  | dateField (field : String) (op : Comparison) (value : DateLiteral)
  | stringField (field value : String) (contains : Bool)
  | choiceField (field value : String) (ordinal : Int) (op : Operator)
  | numericField (field : String) (op : Comparison) (value : Int)
  | booleanField (field : String) (value : Bool)
  | referenceField (field value : String) (number : Option Int)
  | fieldOperator (field : String) (op : Operator)
deriving DecidableEq, Repr

namespace Criterion

def customField? : Criterion → Option String
  | dateField field _ _ | stringField field _ _ | choiceField field _ _ _ | numericField field _ _
  | booleanField field _ | referenceField field _ _ | fieldOperator field _ => some field
  | _ => none

def withField (name : String) : Criterion → Criterion
  | dateField _ op value => dateField name op value
  | stringField _ value contains => stringField name value contains
  | choiceField _ value ordinal op => choiceField name value ordinal op
  | numericField _ op value => numericField name op value
  | booleanField _ value => booleanField name value
  | referenceField _ value n => referenceField name value n
  | fieldOperator _ op => fieldOperator name op
  | k => k

def text : Criterion → String
  | submittedByMe => Operator.text .submittedByMe
  | fixedInCurrentBuild => Operator.text .fixedInCurrentBuild
  | submittedBy user => operatorText .submittedBy user
  | fixedInBuild value _ => operatorText .fixedInBuild value
  | fixedBetween first second _ _ =>
    Operator.text .fixedBetween ++ " " ++ first.kind.text ++ " " ++ quote first.value
      ++ " and " ++ second.kind.text ++ " " ++ quote second.value
  | title value => fieldText Builtin.title.name .contains value
  | description value => fieldText Builtin.description.name .contains value
  | comment value => fieldText Builtin.comment.name .contains value
  | state field value => fieldText field .is value
  | milestone none => quote Builtin.milestone.name ++ " " ++ Operator.text .isEmpty
  | milestone (some value) => fieldText Builtin.milestone.name .is value
  | voteCount op value => fieldText Builtin.voteCount.name op.numberOperator (toString value)
  | commentCount op value => fieldText Builtin.commentCount.name op.numberOperator (toString value)
  | number op value => fieldText Builtin.number.name op.numberOperator (toString value)
  | submitDate op value => fieldText Builtin.submitDate.name op.dateOperator value.text
  | updateDate op value => fieldText Builtin.updateDate.name op.dateOperator value.text
  | dateField field op value => fieldText field op.dateOperator value.text
  | stringField field value contains => fieldText field (if contains then .contains else .is) value
  | choiceField field value _ op => fieldText field op value
  | numericField field op value => fieldText field op.numberOperator (toString value)
  | booleanField field value => fieldText field .is (if value then "true" else "false")
  | referenceField field value _ => fieldText field .is value
  | fieldOperator field op => quote field ++ " " ++ op.text

def choiceOrdinal (setting : Setting) (field value : String) (ordinal : Int) : Int :=
  if 0 ≤ ordinal then ordinal
  else match setting.field? field with
    | some spec => spec.ordinalOf value
    | none => -1

-- The position of a stored value: among the choices if it is one, else as stored.
def storedOrdinal (setting : Setting) (field : String) (v : FieldValue) : Int :=
  let found := match setting.field? field, v.value with
    | some spec, some text => spec.ordinalOf text
    | _, _ => -1
  if 0 ≤ found then found else v.ordinal

-- `is less than` and `is greater than` compare positions; all other operators compare texts.
def ordering? : Operator → Option Comparison
  | .isLessThan => some .less
  | .isGreaterThan => some .greater
  | _ => none

def buildNumber? (ctx : MatchContext) (op : Operator) : Option Int := do
  let build ← ctx.build
  if op == .isCurrent then some build.number else build.previous

def referredNumber? (v : FieldValue) : Option Int := do
  let text ← v.value
  let reference ← Reference.read? text
  some reference.number

def storedNumber (v : FieldValue) : Int :=
  (v.value.bind fun text => readInt? (trim text.toList)).getD v.ordinal

def isTrue (text : String) : Bool :=
  equalsIgnoringAsciiCase (trimmed text) "true"

def isFixedIn (ctx : MatchContext) (issue : Issue) (build : Build) : Bool :=
  build.project == issue.project && (ctx.relations.fixedInBuild build).contains issue.number

def holds (ctx : MatchContext) (issue : Issue) : Criterion → Bool
  | submittedByMe => ctx.user.any fun user => issue.submitter == some user
  | fixedInCurrentBuild => ctx.build.any (isFixedIn ctx issue)
  | submittedBy user => issue.submitter == some user
  | fixedInBuild _ build => build.any (isFixedIn ctx issue)
  | fixedBetween _ _ project commits =>
    commits.any fun c =>
      project.all (issue.project == ·)
        && (ctx.relations.fixedBetween project c.1 c.2).contains issue.number
  | title value => containsIgnoringCase issue.title value
  | description value => issue.description.any (containsIgnoringCase · value)
  | comment value => issue.comments.any (containsIgnoringCase · value)
  | state _ value => issue.state == value
  | milestone value => issue.milestone == value
  | voteCount op value => op.holds issue.voteCount value
  | commentCount op value => op.holds issue.commentCount value
  | number op value => op.holds issue.number value
  | submitDate op value => op.holds issue.submitDate value.date
  | updateDate op value => op.holds issue.updateDate value.date
  | dateField field op value =>
    (issue.valuesOf field).any fun v =>
      (v.value.bind (readInstant? ctx.now)).any (op.holds · value.date)
  | stringField field value contains =>
    (issue.valuesOf field).any fun v =>
      let text := v.value.getD ""
      if contains then containsIgnoringCase text value else equalsIgnoringAsciiCase text value
  | choiceField field value ordinal op =>
    match ordering? op with
    | some comparison =>
      let expected := choiceOrdinal ctx.setting field value ordinal
      0 ≤ expected && (issue.valuesOf field).any fun v =>
        let actual := storedOrdinal ctx.setting field v
        0 ≤ actual && comparison.holds actual expected
    | none => (issue.valuesOf field).any (·.value == some value)
  | numericField field op value => (issue.valuesOf field).any fun v => op.holds (storedNumber v) value
  | booleanField field value => (issue.valuesOf field).any (·.value.any isTrue) == value
  | referenceField field _ target =>
    target.any fun n => (issue.valuesOf field).any (referredNumber? · == some n)
  | fieldOperator field op =>
    match op with
    | .isEmpty => (issue.valuesOf field).isEmpty
    | .isMe => ctx.user.any fun user => (issue.valuesOf field).any (·.value == some user)
    | .isCurrent | .isPrevious =>
      (buildNumber? ctx op).any fun n => (issue.valuesOf field).any (referredNumber? · == some n)
    | _ => false

def needsLogin : Criterion → Bool
  | submittedByMe => true
  | fieldOperator _ op => op == .isMe
  | _ => false

end Criterion

open Sql (Condition)

def column (c : Sql.ColumnName) : Sql.Column :=
  ⟨.issues, c⟩

def fieldColumn (c : Sql.ColumnName) : Sql.Column :=
  ⟨.issueFields, c⟩

def fieldCondition (field : String) (condition : Condition) : Condition :=
  .related .issues (fieldColumn .issue) (.both (.equals (fieldColumn .name) field) condition)

def emptyFieldCondition (field : String) : Condition :=
  .notAmong (column .id) (fieldColumn .issue)
    (.both (.equals (fieldColumn .name) field) (.isNotNull (fieldColumn .value)))

def fixedInCondition (ctx : MatchContext) (build : Build) : Condition :=
  .both (.equals (column .project) build.project)
    (.inNumbers (column .number) (ctx.relations.fixedInBuild build))

namespace Criterion

def condition (ctx : MatchContext) : Criterion → Condition
  | submittedByMe =>
    match ctx.user with
    | some user => .equals (column .submitter) user
    | none => .constant false
  | fixedInCurrentBuild =>
    match ctx.build with
    | some build => fixedInCondition ctx build
    | none => .constant false
  | submittedBy user => .equals (column .submitter) user
  | fixedInBuild _ (some build) => fixedInCondition ctx build
  | fixedInBuild _ none => .constant false
  | fixedBetween _ _ project (some (first, last)) =>
    let numbers := Condition.inNumbers (column .number)
      (ctx.relations.fixedBetween project first last)
    match project with
    | some project => .both (.equals (column .project) project) numbers
    | none => numbers
  | fixedBetween _ _ _ none => .constant false
  | title value => .containsIgnoringCase (column .title) value
  | description value => .containsIgnoringCase (column .description) value
  | comment value =>
    .related .issues ⟨.issueComments, .issue⟩
      (.containsIgnoringCase ⟨.issueComments, .content⟩ value)
  | state _ value => .equals (column .state) value
  | milestone none => .isNull (column .milestone)
  | milestone (some value) => .equals (column .milestone) value
  | voteCount op value => .compareNumber (column .voteCount) op value
  | commentCount op value => .compareNumber (column .commentCount) op value
  | number op value => .compareNumber (column .number) op value
  | submitDate op value => .compareInstant (column .submitDate) op value.date
  | updateDate op value => .compareInstant (column .updateDate) op value.date
  | dateField field op value =>
    fieldCondition field (.compare (.timestamp (fieldColumn .value)) op (.instant value.date))
  | stringField field value true =>
    fieldCondition field (.containsIgnoringCase (fieldColumn .value) value)
  | stringField field value false =>
    fieldCondition field (.equalsIgnoringCase (fieldColumn .value) value)
  | choiceField field value ordinal op =>
    match ordering? op with
    | some comparison =>
      let expected := choiceOrdinal ctx.setting field value ordinal
      if expected < 0 then .constant false
      else fieldCondition field (.compareNumber (fieldColumn .ordinal) comparison expected)
    | none => fieldCondition field (.equals (fieldColumn .value) value)
  | numericField field op value =>
    fieldCondition field (.compareNumber (fieldColumn .ordinal) op value)
  | booleanField field value =>
    let set := fieldCondition field (.equalsIgnoringCase (fieldColumn .value) "true")
    if value then set else .negation set
  | referenceField field _ (some n) =>
    fieldCondition field (.compareNumber (fieldColumn .ordinal) .equal n)
  | referenceField _ _ none => .constant false
  | fieldOperator field op =>
    match op with
    | .isEmpty => emptyFieldCondition field
    | .isMe =>
      match ctx.user with
      | some user => fieldCondition field (.equals (fieldColumn .value) user)
      | none => .constant false
    | .isCurrent | .isPrevious =>
      match buildNumber? ctx op with
      | some n => fieldCondition field (.compareNumber (fieldColumn .ordinal) .equal n)
      | none => .constant false
    | _ => .constant false

def sortColumn (field : String) : Option Sql.ColumnName :=
  match Builtin.ofSortName? field with
  | some .number => some .number
  | some .submitDate => some .submitDate
  | some .updateDate => some .updateDate
  | some .voteCount => some .voteCount
  | some .commentCount => some .commentCount
  | _ => none

instance : LeafKind Criterion Issue where
  holds
  needsLogin
  condition
  text
  table := .issues
  sortColumn

end Criterion

abbrev Query : Type := TrackerQuery.Query Criterion

end TrackerQuery.Issue
