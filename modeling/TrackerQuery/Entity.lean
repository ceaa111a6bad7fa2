import TrackerQuery.Time.Instant

namespace TrackerQuery

open TrackerQuery.Time

structure CommitId where
  text : String
deriving DecidableEq, Repr

structure Build where
  project : String
  number : Int
  commit : CommitId
  previous : Option Int
deriving DecidableEq, Repr

-- A field with several values has one entry for each. `ordinal` is the position among the choices, or
-- the number itself in a number field.
structure FieldValue where
  name : String
  value : Option String
  ordinal : Int
deriving DecidableEq, Repr

structure Issue where
  id : Int
  project : String
  number : Int
  title : String
  description : Option String
  comments : List String
  state : String
  milestone : Option String
  submitter : Option String
  submitDate : Instant
  updateDate : Instant
  voteCount : Int
  fields : List FieldValue
deriving DecidableEq, Repr

def Issue.valuesOf (issue : Issue) (field : String) : List FieldValue :=
  issue.fields.filter fun v => v.name == field && v.value.isSome

def Issue.commentCount (issue : Issue) : Int :=
  issue.comments.length

inductive PullRequest.Status where
  | pending | merged | discarded
deriving DecidableEq, Repr

namespace PullRequest.Status

def name : Status → String
  | pending => "open"
  | merged => "merged"
  | discarded => "discarded"

def ofName? (s : String) : Option Status :=
  [pending, merged, discarded].find? (·.name == s)

end PullRequest.Status

structure PullRequest where
  id : Int
  project : String
  number : Int
  title : String
  description : Option String
  comments : List String
  status : PullRequest.Status
  submitter : Option String
  sourceBranch : String
  targetBranch : String
  submitDate : Instant
  updateDate : Instant
deriving DecidableEq, Repr

def PullRequest.commentCount (request : PullRequest) : Int :=
  request.comments.length

structure Project where
  id : Int
  name : String
  description : Option String
  owners : List String
  updateDate : Instant
deriving DecidableEq, Repr

end TrackerQuery
