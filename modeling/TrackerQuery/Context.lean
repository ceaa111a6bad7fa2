import TrackerQuery.Entity
import TrackerQuery.Operator
import TrackerQuery.Reference
import TrackerQuery.Setting

namespace TrackerQuery

open TrackerQuery.Time

structure Revision where
  kind : RevisionKind
  value : String
deriving DecidableEq, Repr

-- Finds what a text refers to; the project is the one that the query is asked in.
structure Resolver where
  commit : Option String → Revision → Option CommitId
  build : Option String → Reference → Option Build

-- Numbers of issues and ids of pull requests that belong to commits and builds. What is fixed between
-- two commits leaves out the first; a build fixes what was fixed since the one before it.
structure Relations where
  fixedBetween : Option String → CommitId → CommitId → List Int
  fixedInBuild : Build → List Int
  requestsIncluding : Option String → CommitId → List Int

-- A query without a project is one over all projects.
structure ReadContext where
  project : Option String
  setting : Setting
  resolver : Resolver
  now : Instant

structure MatchContext where
  user : Option String
  build : Option Build
  setting : Setting
  relations : Relations
  now : Instant

end TrackerQuery
