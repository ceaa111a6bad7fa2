import TrackerQuery.Issue.Reader
import TrackerQuery.Repository
import TrackerQuery.Setting.Json
import TrackerQuery.Sql.Printer

namespace TrackerQuery.Console

open TrackerQuery.Time

def header : String :=
  "--- Entity Query: issue query console ---"

def settingPath : String :=
  "issue_setting.json"

def project : String :=
  "demo"

def user : String :=
  "robin"

def repository : Repository :=
  Repository.empty
    |>.addCommit ⟨"a1b2c3"⟩ []
    |>.addCommit ⟨"d4e5f6"⟩ [1]
    |>.addCommit ⟨"0718aa"⟩ [2, 3]
    |>.addRef .tag "v1.0" ⟨"a1b2c3"⟩
    |>.addRef .branch "main" ⟨"0718aa"⟩
    |>.addBuild ⟨project, 1, ⟨"a1b2c3"⟩, none⟩
    |>.addBuild ⟨project, 2, ⟨"0718aa"⟩, some 1⟩

def sampleIssue (now : Instant) (number : Nat) (title state submitter : String)
    (fields : List FieldValue) : Issue where
  id := number
  project := project
  number := number
  title := title
  description := none
  comments := []
  state := state
  milestone := none
  submitter := some submitter
  submitDate := now.back (number * 3 * 86400)
  updateDate := now.back (number * 86400)
  voteCount := (number % 3 : Nat)
  fields := fields

def sampleIssues (now : Instant) : List Issue := [
  sampleIssue now 1 "Crash on startup" "Closed" "robin"
    [⟨"Priority", some "Critical", 3⟩, ⟨"Type", some "Bug", 0⟩],
  sampleIssue now 2 "Dark mode" "Open" "alex"
    [⟨"Priority", some "Normal", 1⟩, ⟨"Type", some "Feature", 1⟩],
  sampleIssue now 3 "Slow search" "In Progress" "robin"
    [⟨"Priority", some "High", 2⟩, ⟨"Assignee", some "alex", -1⟩],
  sampleIssue now 4 "Update docs" "Open" "sam"
    [⟨"Labels", some "docs", 2⟩, ⟨"Estimate", some "3", 3⟩]]

def settingOf (file : Setting.File) : Setting :=
  match Setting.load settingPath file with
  | .ok setting => setting
  | .error _ => .demo

def errorLines (e : Error) : List String :=
  ("error: " ++ e.message) ::
    match e.span with
    | some span => ["  at " ++ span.start.repr ++ "-" ++ span.stop.repr]
    | none => []

structure Desk where
  setting : Setting
  issues : List Issue

def Desk.ofFile (file : Setting.File) (now : Instant) : Desk :=
  ⟨settingOf file, sampleIssues now⟩

def answerLines (desk : Desk) (now : Instant) (query : Issue.Query) : List String :=
  let ctx : MatchContext := {
    user := some user, build := none, setting := desk.setting,
    relations := repository.relations, now }
  let matching := desk.issues.filter fun issue => query.isSatisfied ctx issue
  [ "query: " ++ query.text,
    "sql:   " ++ (query.select ctx).sql,
    "matches: [" ++ joined ", " (matching.map fun issue => "#" ++ toString issue.number) ++ "]" ]

def respond (desk : Desk) (now : Instant) (line : String) : List String :=
  let line := Text.trimmed line
  if line.isEmpty then []
  else
    let ctx : ReadContext := {
      project := some project, setting := desk.setting, resolver := repository.resolver, now }
    match Issue.Query.read ctx (some line) true with
    | .error e => errorLines e
    | .ok query => answerLines desk now query

def inputLines : List UInt8 → List (List UInt8)
  | [] => []
  | b :: bs =>
    if b == 10 then [] :: inputLines bs
    else match inputLines bs with
      | [] => [[b]]
      | line :: lines => (b :: line) :: lines

structure Outcome where
  exitCode : Nat
  lines : List String

-- Answers lines until one of them is no text.
def respondAll (desk : Desk) (now : Instant) : List (List UInt8) → Outcome
  | [] => ⟨0, []⟩
  | line :: more =>
    match String.fromUTF8? (ByteArray.mk line.toArray) with
    | none => ⟨1, []⟩
    | some text =>
      let rest := respondAll desk now more
      ⟨rest.exitCode, respond desk now text ++ rest.lines⟩

def run (file : Setting.File) (now : Instant) (input : List UInt8) : Outcome :=
  let outcome := respondAll (Desk.ofFile file now) now (inputLines input)
  ⟨outcome.exitCode, header :: outcome.lines⟩

end TrackerQuery.Console
