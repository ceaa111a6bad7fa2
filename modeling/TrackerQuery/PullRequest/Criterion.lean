import TrackerQuery.DateLiteral
import TrackerQuery.Query.Reading

namespace TrackerQuery.PullRequest

open TrackerQuery.Text TrackerQuery.Time

inductive Field where
  | number | title | description | comment | sourceBranch | targetBranch
  | submitDate | updateDate | commentCount
deriving DecidableEq, Repr

namespace Field

def name : Field → String
  | number => "number"
  | title => "title"
  | description => "description"
  | comment => "comment"
  | sourceBranch => "source branch"
  | targetBranch => "target branch"
  | submitDate => "submit date"
  | updateDate => "update date"
  | commentCount => "comment count"

def all : List Field := [
  number, title, description, comment, sourceBranch, targetBranch,
  submitDate, updateDate, commentCount]

def ofName? (s : String) : Option Field :=
  all.find? (·.name == s)

theorem ofName?_name (f : Field) : ofName? f.name = some f := by
  cases f <;> rfl

def sortColumn? : Field → Option Sql.ColumnName
  | number => some .number
  | submitDate => some .submitDate
  | updateDate => some .updateDate
  | commentCount => some .commentCount
  | _ => none

end Field

-- `commit` is absent where the text names none.
inductive Criterion where
  | hasStatus (status : Status)
  | submittedByMe
  | submittedBy (user : String)
  | includesCommit (value : String) (project : Option String) (commit : Option CommitId)
  | title (value : String)
  | description (value : String)
  | comment (value : String)
  | sourceBranch (value : String)
  | targetBranch (value : String)
  | number (op : Comparison) (value : Int)
  | commentCount (op : Comparison) (value : Int)
  | submitDate (op : Comparison) (value : DateLiteral)
  | updateDate (op : Comparison) (value : DateLiteral)
deriving DecidableEq, Repr

namespace Criterion

def statusOperator : Status → Operator
  | .pending => .isOpen
  | .merged => .isMerged
  | .discarded => .isDiscarded

def text : Criterion → String
  | hasStatus status => (statusOperator status).text
  | submittedByMe => Operator.text .submittedByMe
  | submittedBy user => operatorText .submittedBy user
  | includesCommit value _ _ => operatorText .includesCommit value
  | title value => fieldText Field.title.name .contains value
  | description value => fieldText Field.description.name .contains value
  | comment value => fieldText Field.comment.name .contains value
  | sourceBranch value => fieldText Field.sourceBranch.name .is value
  | targetBranch value => fieldText Field.targetBranch.name .is value
  | number op value => fieldText Field.number.name op.numberOperator (toString value)
  | commentCount op value => fieldText Field.commentCount.name op.numberOperator (toString value)
  | submitDate op value => fieldText Field.submitDate.name op.dateOperator value.text
  | updateDate op value => fieldText Field.updateDate.name op.dateOperator value.text

def holds (ctx : MatchContext) (request : PullRequest) : Criterion → Bool
  | hasStatus status => request.status == status
  | submittedByMe => ctx.user.any fun user => request.submitter == some user
  | submittedBy user => request.submitter == some user
  | includesCommit _ project commit =>
    commit.any fun id =>
      project.all (request.project == ·)
        && (ctx.relations.requestsIncluding project id).contains request.id
  | title value => containsIgnoringCase request.title value
  | description value => request.description.any (containsIgnoringCase · value)
  | comment value => request.comments.any (containsIgnoringCase · value)
  | sourceBranch value => request.sourceBranch == value
  | targetBranch value => request.targetBranch == value
  | number op value => op.holds request.number value
  | commentCount op value => op.holds request.commentCount value
  | submitDate op value => op.holds request.submitDate value.date
  | updateDate op value => op.holds request.updateDate value.date

def needsLogin : Criterion → Bool
  | submittedByMe => true
  | _ => false

end Criterion

open Sql (Condition)

def column (c : Sql.ColumnName) : Sql.Column :=
  ⟨.pullRequests, c⟩

namespace Criterion

def condition (ctx : MatchContext) : Criterion → Condition
  | hasStatus status => .equals (column .status) status.name
  | submittedByMe =>
    match ctx.user with
    | some user => .equals (column .submitter) user
    | none => .constant false
  | submittedBy user => .equals (column .submitter) user
  | includesCommit _ project (some id) =>
    let ids := Condition.inNumbers (column .id) (ctx.relations.requestsIncluding project id)
    match project with
    | some project => .both (.equals (column .project) project) ids
    | none => ids
  | includesCommit _ _ none => .constant false
  | title value => .containsIgnoringCase (column .title) value
  | description value => .containsIgnoringCase (column .description) value
  | comment value =>
    .related .pullRequests ⟨.pullRequestComments, .pullRequest⟩
      (.containsIgnoringCase ⟨.pullRequestComments, .content⟩ value)
  | sourceBranch value => .equals (column .sourceBranch) value
  | targetBranch value => .equals (column .targetBranch) value
  | number op value => .compareNumber (column .number) op value
  | commentCount op value => .compareNumber (column .commentCount) op value
  | submitDate op value => .compareInstant (column .submitDate) op value.date
  | updateDate op value => .compareInstant (column .updateDate) op value.date

instance : LeafKind Criterion PullRequest where
  holds
  needsLogin
  condition
  text
  table := .pullRequests
  sortColumn field := (Field.ofName? field).bind Field.sortColumn?

def readStandalone : Operator → Except Error Criterion
  | .isOpen => .ok (hasStatus .pending)
  | .isMerged => .ok (hasStatus .merged)
  | .isDiscarded => .ok (hasStatus .discarded)
  | .submittedByMe => .ok submittedByMe
  | op => .error (.unsupported op)

def readDated (now : Instant) (leaf : Comparison → DateLiteral → Criterion) (op : Operator)
    (value : String) : Except Error Criterion :=
  (DateLiteral.read now value).map (leaf (.ofOperator op))

def readFieldValue (ctx : ReadContext) (field : String) (op : Operator) (value : String) :
    Except Error Criterion :=
  match Field.ofName? field with
  | none => .error (.rejected (.fieldNotFound field))
  | some f =>
    match f, op with
    | .title, .contains => .ok (title value)
    | .description, .contains => .ok (description value)
    | .comment, .contains => .ok (comment value)
    | .sourceBranch, .is => .ok (sourceBranch value)
    | .targetBranch, .is => .ok (targetBranch value)
    | .number, .is | .number, .isLessThan | .number, .isGreaterThan =>
      (readEntityNumber value).map (number (.ofOperator op))
    | .commentCount, .is | .commentCount, .isLessThan | .commentCount, .isGreaterThan =>
      (readNumber value).map (commentCount (.ofOperator op))
    | .submitDate, .isBefore | .submitDate, .isAfter => readDated ctx.now submitDate op value
    | .updateDate, .isBefore | .updateDate, .isAfter => readDated ctx.now updateDate op value
    | _, _ => .error (.rejected (.notApplicable field op))

def readValue (ctx : ReadContext) (validate : Bool) (op : Operator) (value : String) :
    Except Error Criterion :=
  match op with
  | .submittedBy => .ok (submittedBy value)
  | .includesCommit =>
    match ctx.resolver.commit ctx.project ⟨.commit, value⟩ with
    | some id => .ok (includesCommit value ctx.project (some id))
    | none =>
      if validate then .error (.rejected (.commitNotFound value))
      else .ok (includesCommit value ctx.project none)
  | op => .error (.unsupported op)

def checkSort (validate : Bool) (field : String) : Except Error Unit :=
  if !validate || ((Field.ofName? field).bind Field.sortColumn?).isSome then .ok ()
  else .error (.rejected (.notSortable field))

end Criterion

def reader (ctx : ReadContext) (validate : Bool) : LeafReader Criterion where
  standalone := Criterion.readStandalone
  field _ op := .error (.unsupported op)
  fieldValue := Criterion.readFieldValue ctx
  value := Criterion.readValue ctx validate
  between _ _ := .error (.unsupported .fixedBetween)
  sortField := Criterion.checkSort validate

abbrev Query : Type := TrackerQuery.Query Criterion

def Query.read (ctx : ReadContext) (text : Option String) (validate : Bool) : Except Error Query :=
  TrackerQuery.Query.ofText? (reader ctx validate) text

end TrackerQuery.PullRequest
