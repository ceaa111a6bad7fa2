import TrackerQuery.Entity
import TrackerQuery.Proofs.Sql.Truth

namespace TrackerQuery

open Sql (Row Scope)

def Issue.row (issue : Issue) : Row
  | .id => some (.number issue.id)
  | .project => some (.text issue.project)
  | .number => some (.number issue.number)
  | .title => some (.text issue.title)
  | .description => issue.description.map .text
  | .state => some (.text issue.state)
  | .milestone => issue.milestone.map .text
  | .submitter => issue.submitter.map .text
  | .submitDate => some (.instant issue.submitDate)
  | .updateDate => some (.instant issue.updateDate)
  | .voteCount => some (.number issue.voteCount)
  | .commentCount => some (.number issue.commentCount)
  | _ => none

def PullRequest.row (request : PullRequest) : Row
  | .id => some (.number request.id)
  | .project => some (.text request.project)
  | .number => some (.number request.number)
  | .title => some (.text request.title)
  | .description => request.description.map .text
  | .status => some (.text request.status.name)
  | .submitter => request.submitter.map .text
  | .sourceBranch => some (.text request.sourceBranch)
  | .targetBranch => some (.text request.targetBranch)
  | .submitDate => some (.instant request.submitDate)
  | .updateDate => some (.instant request.updateDate)
  | .commentCount => some (.number request.commentCount)
  | _ => none

def Project.row (project : Project) : Row
  | .id => some (.number project.id)
  | .name => some (.text project.name)
  | .description => project.description.map .text
  | .updateDate => some (.instant project.updateDate)
  | _ => none

def fieldRow (issue : Int) (v : FieldValue) : Row
  | .issue => some (.number issue)
  | .name => some (.text v.name)
  | .value => v.value.map .text
  | .ordinal => some (.number v.ordinal)
  | _ => none

def issueCommentRow (issue : Int) (comment : String) : Row
  | .issue => some (.number issue)
  | .content => some (.text comment)
  | _ => none

def requestCommentRow (request : Int) (comment : String) : Row
  | .pullRequest => some (.number request)
  | .content => some (.text comment)
  | _ => none

def ownerRow (project : Int) (owner : String) : Row
  | .project => some (.number project)
  | .owner => some (.text owner)
  | _ => none

structure Store where
  issues : List Issue
  requests : List PullRequest
  projects : List Project
  instant? : String → Option Time.Instant

def Store.database (store : Store) : Sql.Database where
  rows
    | .issues => store.issues.map Issue.row
    | .issueFields => store.issues.flatMap fun i => i.fields.map (fieldRow i.id)
    | .issueComments => store.issues.flatMap fun i => i.comments.map (issueCommentRow i.id)
    | .pullRequests => store.requests.map PullRequest.row
    | .pullRequestComments => store.requests.flatMap fun r => r.comments.map (requestCommentRow r.id)
    | .projects => store.projects.map Project.row
    | .projectOwners => store.projects.flatMap fun p => p.owners.map (ownerRow p.id)
  instant? := store.instant?

-- Ids tell things of one kind apart.
structure Store.Keyed (store : Store) : Prop where
  issues : (store.issues.map (·.id)).Nodup
  requests : (store.requests.map (·.id)).Nodup
  projects : (store.projects.map (·.id)).Nodup

def Issue.scope (issue : Issue) : Scope :=
  issue.row.scope .issues

def PullRequest.scope (request : PullRequest) : Scope :=
  request.row.scope .pullRequests

def Project.scope (project : Project) : Scope :=
  project.row.scope .projects

section

variable {store : Store} {condition : Sql.Condition}

theorem Issue.fields_related {issue : Issue} (keyed : store.Keyed) (stored : issue ∈ store.issues) :
    (Sql.Condition.related .issues ⟨.issueFields, .issue⟩ condition).truth store.database
        issue.scope =
      some (issue.fields.any fun v => condition.truth store.database
        (issue.scope.enter .issueFields (fieldRow issue.id v)) == some true) :=
  Sql.Condition.related_truth store.issues (·.id) (·.fields) fieldRow rfl (fun _ _ => rfl)
    keyed.issues stored rfl

theorem Issue.comments_related {issue : Issue} (keyed : store.Keyed) (stored : issue ∈ store.issues) :
    (Sql.Condition.related .issues ⟨.issueComments, .issue⟩ condition).truth store.database
        issue.scope =
      some (issue.comments.any fun comment => condition.truth store.database
        (issue.scope.enter .issueComments (issueCommentRow issue.id comment)) == some true) :=
  Sql.Condition.related_truth store.issues (·.id) (·.comments) issueCommentRow rfl (fun _ _ => rfl)
    keyed.issues stored rfl

theorem PullRequest.comments_related {request : PullRequest} (keyed : store.Keyed)
    (stored : request ∈ store.requests) :
    (Sql.Condition.related .pullRequests ⟨.pullRequestComments, .pullRequest⟩ condition).truth
        store.database request.scope =
      some (request.comments.any fun comment => condition.truth store.database
        (request.scope.enter .pullRequestComments (requestCommentRow request.id comment)) ==
          some true) :=
  Sql.Condition.related_truth store.requests (·.id) (·.comments) requestCommentRow rfl
    (fun _ _ => rfl) keyed.requests stored rfl

end

end TrackerQuery
