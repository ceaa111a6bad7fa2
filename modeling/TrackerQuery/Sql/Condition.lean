import TrackerQuery.Comparison
import TrackerQuery.Distinct
import TrackerQuery.Text.LowerCase
import TrackerQuery.Time.Instant

namespace TrackerQuery.Sql

open TrackerQuery.Time

inductive Table where
  | issues | issueFields | issueComments
  | pullRequests | pullRequestComments
  | projects | projectOwners
deriving DecidableEq, Repr

def Table.name : Table → String
  | issues => "issues"
  | issueFields => "issue_fields"
  | issueComments => "issue_comments"
  | pullRequests => "pull_requests"
  | pullRequestComments => "pull_request_comments"
  | projects => "projects"
  | projectOwners => "project_owners"

inductive ColumnName where
  | id | project | number | title | description | state | status | milestone | submitter
  | submitDate | updateDate | voteCount | commentCount | sourceBranch | targetBranch
  | name | owner | value | ordinal | content
  | issue | pullRequest
deriving DecidableEq, Repr

def ColumnName.text : ColumnName → String
  | id => "id"
  | project => "project"
  | number => "number"
  | title => "title"
  | description => "description"
  | state => "state"
  | status => "status"
  | milestone => "milestone"
  | submitter => "submitter"
  | submitDate => "submit_date"
  | updateDate => "update_date"
  | voteCount => "vote_count"
  | commentCount => "comment_count"
  | sourceBranch => "source_branch"
  | targetBranch => "target_branch"
  | name => "name"
  | owner => "owner"
  | value => "value"
  | ordinal => "ordinal"
  | content => "content"
  | issue => "issue"
  | pullRequest => "pull_request"

structure Column where
  table : Table
  name : ColumnName
deriving DecidableEq, Repr

inductive Value where
  | text (s : String)
  | number (n : Int)
  | instant (t : Instant)
deriving DecidableEq, Repr

inductive Term where
  | column (c : Column)
  | lower (c : Column)
  | timestamp (c : Column)
deriving DecidableEq, Repr

-- `like` looks at the lower-cased column, with a backslash as escape character. `among` asks whether
-- `column` is one of the values of `key` in the rows that satisfy `condition`.
inductive Condition where
  | constant (b : Bool)
  | compare (term : Term) (op : Comparison) (value : Value)
  | like (column : Column) (pattern : String)
  | isNull (column : Column)
  | isNotNull (column : Column)
  | oneOf (column : Column) (numbers : List Int)
  | among (column key : Column) (condition : Condition)
  | notAmong (column key : Column) (condition : Condition)
  | negation (c : Condition)
  | both (a b : Condition)
  | either (a b : Condition)
deriving DecidableEq, Repr

namespace Condition

def conjunction : List Condition → Condition
  | [] => constant true
  | c :: cs => cs.foldl both c

def disjunction : List Condition → Condition
  | [] => constant false
  | c :: cs => cs.foldl either c

def equals (column : Column) (value : String) : Condition :=
  compare (.column column) .equal (.text value)

def compareNumber (column : Column) (op : Comparison) (value : Int) : Condition :=
  compare (.column column) op (.number value)

def compareInstant (column : Column) (op : Comparison) (value : Instant) : Condition :=
  compare (.column column) op (.instant value)

def inNumbers (column : Column) (numbers : List Int) : Condition :=
  if numbers.isEmpty then constant false else oneOf column (distinct numbers)

def escapeLike : List Char → List Char
  | [] => []
  | c :: cs =>
    if c == '%' || c == '_' || c == '\\' then '\\' :: c :: escapeLike cs else c :: escapeLike cs

def containsPattern (value : String) : String :=
  "%" ++ String.ofList (escapeLike (Text.lowerCase value).toList) ++ "%"

def containsIgnoringCase (column : Column) (value : String) : Condition :=
  like column (containsPattern value)

def equalsIgnoringCase (column : Column) (value : String) : Condition :=
  compare (.lower column) .equal (.text (Text.lowerCase value))

-- Some row of the side table that belongs to the `owner` row satisfies `condition`.
def related (owner : Table) (key : Column) (condition : Condition) : Condition :=
  among ⟨owner, .id⟩ key condition

end Condition

structure Select where
  table : Table
  condition : Condition
  orders : List (ColumnName × Bool)
deriving DecidableEq, Repr

end TrackerQuery.Sql
