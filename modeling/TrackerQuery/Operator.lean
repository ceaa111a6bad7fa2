namespace TrackerQuery

inductive Operator where
  | is | isNot | isBefore | isAfter | isLessThan | isGreaterThan | contains
  | isEmpty | isMe | isCurrent | isPrevious
  | submittedByMe | fixedInCurrentBuild | isOpen | isMerged | isDiscarded | ownedByMe
  | submittedBy | fixedInBuild | includesCommit | ownedBy
  | fixedBetween
deriving DecidableEq, Repr

-- The place in the grammar where an operator may stand: between a field and a value, after a field,
-- alone, before a value or before two revisions.
inductive Operator.Category where
  | fieldValue
  | field
  | standalone
  | value
  | range
deriving DecidableEq, Repr

namespace Operator

def text : Operator → String
  | is => "is"
  | isNot => "is not"
  | isBefore => "is before"
  | isAfter => "is after"
  | isLessThan => "is less than"
  | isGreaterThan => "is greater than"
  | contains => "contains"
  | isEmpty => "is empty"
  | isMe => "is me"
  | isCurrent => "is current"
  | isPrevious => "is previous"
  | submittedByMe => "submitted by me"
  | fixedInCurrentBuild => "fixed in current build"
  | isOpen => "open"
  | isMerged => "merged"
  | isDiscarded => "discarded"
  | ownedByMe => "owned by me"
  | submittedBy => "submitted by"
  | fixedInBuild => "fixed in build"
  | includesCommit => "includes commit"
  | ownedBy => "owned by"
  | fixedBetween => "fixed between"

def category : Operator → Category
  | is | isNot | isBefore | isAfter | isLessThan | isGreaterThan | contains => .fieldValue
  | isEmpty | isMe | isCurrent | isPrevious => .field
  | submittedByMe | fixedInCurrentBuild | isOpen | isMerged | isDiscarded | ownedByMe => .standalone
  | submittedBy | fixedInBuild | includesCommit | ownedBy => .value
  | fixedBetween => .range

def all : List Operator := [
  is, isNot, isBefore, isAfter, isLessThan, isGreaterThan, contains,
  isEmpty, isMe, isCurrent, isPrevious,
  submittedByMe, fixedInCurrentBuild, isOpen, isMerged, isDiscarded, ownedByMe,
  submittedBy, fixedInBuild, includesCommit, ownedBy,
  fixedBetween]

def ofText? (s : String) : Option Operator :=
  all.find? (·.text == s)

theorem ofText?_text (op : Operator) : ofText? op.text = some op := by
  cases op <;> rfl

end Operator

inductive RevisionKind where
  | branch | tag | commit | build
deriving DecidableEq, Repr

namespace RevisionKind

def text : RevisionKind → String
  | branch => "branch"
  | tag => "tag"
  | commit => "commit"
  | build => "build"

def ofText? (s : String) : Option RevisionKind :=
  [branch, tag, commit, build].find? (·.text == s)

end RevisionKind

end TrackerQuery
