import TrackerQuery.Distinct
import TrackerQuery.Entity
import TrackerQuery.Json.Reading
import TrackerQuery.Json.Record

namespace TrackerQuery

open Json (Key)

def Time.Instant.toJson (t : Time.Instant) : Json :=
  .ofString (Time.Rfc3339.write t)

def User.ofJson? (j : Json) : Option String := do
  match ← j.record? [⟨"name", .required⟩] with
  | [some name] => name.string?
  | _ => none

def User.toJson (name : String) : Json :=
  .ofMembers [("name", .ofString name)]

def Build.ofJson? (j : Json) : Option Build := do
  let keys : List Key := [
    ⟨"project", .required⟩, ⟨"number", .required⟩, ⟨"commit", .required⟩, ⟨"previous", .defaulted⟩]
  match ← j.record? keys with
  | [some project, some number, some commit, previous] =>
    some {
      project := ← project.string?
      number := ← number.int?
      commit := ⟨← commit.string?⟩
      previous := ← Json.orDefault none (Json.nullable? Json.int?) previous }
  | _ => none

def Build.toJson (b : Build) : Json :=
  .ofMembers [
    ("project", .ofString b.project),
    ("number", .integer b.number),
    ("commit", .ofString b.commit.text),
    ("previous", .ofOption .integer b.previous)]

def FieldValue.ofJson? (j : Json) : Option FieldValue := do
  let keys : List Key := [⟨"name", .required⟩, ⟨"value", .nullable⟩, ⟨"ordinal", .defaulted⟩]
  match ← j.record? keys with
  | [some name, value, ordinal] =>
    some {
      name := ← name.string?
      value := ← Json.orDefault none (Json.nullable? Json.string?) value
      ordinal := ← Json.orDefault 0 Json.int? ordinal }
  | _ => none

def FieldValue.toJson (v : FieldValue) : Json :=
  .ofMembers [
    ("name", .ofString v.name),
    ("value", .ofOption .ofString v.value),
    ("ordinal", .integer v.ordinal)]

def Issue.keys : List Key := [
  ⟨"id", .required⟩, ⟨"project", .required⟩, ⟨"number", .required⟩, ⟨"title", .required⟩,
  ⟨"description", .defaulted⟩, ⟨"comments", .defaulted⟩, ⟨"state", .required⟩,
  ⟨"milestone", .defaulted⟩, ⟨"submitter", .defaulted⟩, ⟨"submit_date", .required⟩,
  ⟨"update_date", .required⟩, ⟨"vote_count", .defaulted⟩, ⟨"fields", .defaulted⟩]

def Issue.ofJson? (j : Json) : Option Issue := do
  match ← j.record? keys with
  | [some id, some project, some number, some title, description, comments, some state, milestone,
      submitter, some submitDate, some updateDate, voteCount, fields] =>
    some {
      id := ← id.int?
      project := ← project.string?
      number := ← number.int?
      title := ← title.string?
      description := ← Json.orDefault none (Json.nullable? Json.string?) description
      comments := ← Json.orDefault [] (Json.list? Json.string?) comments
      state := ← state.string?
      milestone := ← Json.orDefault none (Json.nullable? Json.string?) milestone
      submitter := ← Json.orDefault none (Json.nullable? Json.string?) submitter
      submitDate := ← submitDate.instant?
      updateDate := ← updateDate.instant?
      voteCount := ← Json.orDefault 0 Json.int? voteCount
      fields := ← Json.orDefault [] (Json.list? FieldValue.ofJson?) fields }
  | _ => none

def Issue.toJson (i : Issue) : Json :=
  .ofMembers [
    ("id", .integer i.id),
    ("project", .ofString i.project),
    ("number", .integer i.number),
    ("title", .ofString i.title),
    ("description", .ofOption .ofString i.description),
    ("comments", .array (i.comments.map .ofString)),
    ("state", .ofString i.state),
    ("milestone", .ofOption .ofString i.milestone),
    ("submitter", .ofOption .ofString i.submitter),
    ("submit_date", i.submitDate.toJson),
    ("update_date", i.updateDate.toJson),
    ("vote_count", .integer i.voteCount),
    ("fields", .array (i.fields.map FieldValue.toJson))]

def PullRequest.keys : List Key := [
  ⟨"id", .required⟩, ⟨"project", .required⟩, ⟨"number", .required⟩, ⟨"title", .required⟩,
  ⟨"description", .defaulted⟩, ⟨"comments", .defaulted⟩, ⟨"status", .required⟩,
  ⟨"submitter", .defaulted⟩, ⟨"source_branch", .required⟩, ⟨"target_branch", .required⟩,
  ⟨"submit_date", .required⟩, ⟨"update_date", .required⟩]

def PullRequest.ofJson? (j : Json) : Option PullRequest := do
  match ← j.record? keys with
  | [some id, some project, some number, some title, description, comments, some status, submitter,
      some sourceBranch, some targetBranch, some submitDate, some updateDate] =>
    some {
      id := ← id.int?
      project := ← project.string?
      number := ← number.int?
      title := ← title.string?
      description := ← Json.orDefault none (Json.nullable? Json.string?) description
      comments := ← Json.orDefault [] (Json.list? Json.string?) comments
      status := ← status.name?.bind Status.ofName?
      submitter := ← Json.orDefault none (Json.nullable? Json.string?) submitter
      sourceBranch := ← sourceBranch.string?
      targetBranch := ← targetBranch.string?
      submitDate := ← submitDate.instant?
      updateDate := ← updateDate.instant? }
  | _ => none

def PullRequest.toJson (r : PullRequest) : Json :=
  .ofMembers [
    ("id", .integer r.id),
    ("project", .ofString r.project),
    ("number", .integer r.number),
    ("title", .ofString r.title),
    ("description", .ofOption .ofString r.description),
    ("comments", .array (r.comments.map .ofString)),
    ("status", .ofString r.status.name),
    ("submitter", .ofOption .ofString r.submitter),
    ("source_branch", .ofString r.sourceBranch),
    ("target_branch", .ofString r.targetBranch),
    ("submit_date", r.submitDate.toJson),
    ("update_date", r.updateDate.toJson)]

def Project.ofJson? (j : Json) : Option Project := do
  let keys : List Key := [
    ⟨"id", .required⟩, ⟨"name", .required⟩, ⟨"description", .defaulted⟩, ⟨"owners", .defaulted⟩,
    ⟨"update_date", .required⟩]
  match ← j.record? keys with
  | [some id, some name, description, owners, some updateDate] =>
    some {
      id := ← id.int?
      name := ← name.string?
      description := ← Json.orDefault none (Json.nullable? Json.string?) description
      owners := distinct (← Json.orDefault [] (Json.list? Json.string?) owners)
      updateDate := ← updateDate.instant? }
  | _ => none

def Project.toJson (p : Project) : Json :=
  .ofMembers [
    ("id", .integer p.id),
    ("name", .ofString p.name),
    ("description", .ofOption .ofString p.description),
    ("owners", .array (p.owners.map .ofString)),
    ("update_date", p.updateDate.toJson)]

end TrackerQuery
