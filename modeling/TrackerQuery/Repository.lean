import TrackerQuery.Context

namespace TrackerQuery

-- The history lists commits from the oldest on and may repeat one; a commit stands where it first occurs.
-- Of names and fixes that are recorded twice, `refs` and `fixes` have the latest first.
structure Repository where
  history : List CommitId
  refs : List ((RevisionKind × String) × CommitId)
  fixes : List (CommitId × List Int)
  builds : List Build
  requestCommits : List (Int × CommitId)

namespace Repository

def empty : Repository :=
  ⟨[], [], [], [], []⟩

def addCommit (r : Repository) (id : CommitId) (fixed : List Int) : Repository :=
  { r with history := r.history ++ [id], fixes := (id, fixed) :: r.fixes }

def addRef (r : Repository) (kind : RevisionKind) (name : String) (id : CommitId) : Repository :=
  { r with refs := ((kind, name), id) :: r.refs }

def addBuild (r : Repository) (build : Build) : Repository :=
  { r with builds := r.builds ++ [build] }

def addRequestCommit (r : Repository) (request : Int) (id : CommitId) : Repository :=
  { r with requestCommits := r.requestCommits ++ [(request, id)] }

def position? (r : Repository) (id : CommitId) : Option Nat :=
  r.history.idxOf? id

def build? (r : Repository) (number : Int) : Option Build :=
  r.builds.find? (·.number == number)

def fixesOf (r : Repository) (id : CommitId) : List Int :=
  (r.fixes.lookup id).getD []

def fixedInRange (r : Repository) (after : Option Nat) (upTo : Nat) : List Int :=
  let start := after.elim 0 (· + 1)
  ((r.history.take (upTo + 1)).drop start).flatMap r.fixesOf

-- An abbreviated commit id means the first commit that starts with it.
def resolve (r : Repository) (revision : Revision) : Option CommitId :=
  match revision.kind with
  | .commit =>
    r.history.find? fun id =>
      !revision.value.isEmpty && revision.value.toList.isPrefixOf id.text.toList
  | .build => do
    let reference ← Reference.read? revision.value
    let build ← r.build? reference.number
    some build.commit
  | .branch | .tag => r.refs.lookup (revision.kind, revision.value)

def findBuild (r : Repository) (project : Option String) (reference : Reference) : Option Build :=
  let project := reference.project.or project
  r.builds.find? fun build =>
    build.number == reference.number && project.all (build.project == ·)

def fixedBetween (r : Repository) (first last : CommitId) : List Int :=
  match r.position? first, r.position? last with
  | some i, some j => r.fixedInRange (some i) j
  | _, _ => []

-- The commit of the build before, which bounds what a build fixes.
def previousCommit? (r : Repository) (build : Build) : Option CommitId := do
  let number ← build.previous
  let previous ← r.build? number
  some previous.commit

def fixedInBuild (r : Repository) (build : Build) : List Int :=
  match r.position? build.commit with
  | none => []
  | some upTo => r.fixedInRange ((r.previousCommit? build).bind r.position?) upTo

def requestsIncluding (r : Repository) (id : CommitId) : List Int :=
  (r.requestCommits.filter (·.2 == id)).map (·.1)

def resolver (r : Repository) : Resolver where
  commit _ revision := r.resolve revision
  build project reference := r.findBuild project reference

def relations (r : Repository) : Relations where
  fixedBetween _ first last := r.fixedBetween first last
  fixedInBuild build := r.fixedInBuild build
  requestsIncluding _ id := r.requestsIncluding id

end Repository

end TrackerQuery
