import TrackerQuery.Proofs.Query.Evaluation
import TrackerQuery.Proofs.Sql.Store
import TrackerQuery.PullRequest.Criterion

namespace TrackerQuery.PullRequest

open Sql (Condition)

theorem Status.name_inj {s t : Status} : s.name = t.name ↔ s = t := by
  cases s <;> cases t <;> decide

namespace Criterion

variable {ctx : MatchContext} {store : Store} {request : PullRequest}

def lacks (ctx : MatchContext) (request : PullRequest) : Criterion → Bool
  | submittedByMe => ctx.user.isSome && request.submitter.isNone
  | submittedBy _ => request.submitter.isNone
  | description _ => request.description.isNone
  | _ => false

theorem holds_of_lacks (k : Criterion) (lacking : k.lacks ctx request = true) :
    k.holds ctx request = false := by
  cases k with
  | submittedByMe =>
    obtain ⟨_, absent⟩ := Bool.and_eq_true_iff.mp lacking
    simp [holds, Option.isNone_iff_eq_none.mp absent]
  | submittedBy user => simp [holds, Option.isNone_iff_eq_none.mp lacking]
  | description value => simp [holds, Option.isNone_iff_eq_none.mp lacking]
  | _ => cases lacking

theorem lacks_of_complete (complete : request.submitter.isSome ∧ request.description.isSome)
    (k : Criterion) : k.lacks ctx request = false := by
  obtain ⟨submitted, described⟩ := complete
  cases k with
  | submittedByMe => simp [lacks, submitted]
  | submittedBy user => simp [lacks, submitted]
  | description value => simp [lacks, described]
  | _ => rfl

theorem includesCommit_truth {db : Sql.Database} (value : String) (project : Option String)
    (commit : Option CommitId) :
    ((includesCommit value project commit).condition ctx).truth db request.scope =
      some ((includesCommit value project commit).holds ctx request) := by
  cases commit with
  | none => rfl
  | some id => exact Condition.inProject_truth project rfl (Condition.inNumbers_truth _ rfl)

theorem title_truth {db : Sql.Database} (value : String) :
    ((title value).condition ctx).truth db request.scope =
      some ((title value).holds ctx request) := by
  have found : request.scope (column .title) = some (.text request.title) := rfl
  rw [condition, holds, Condition.containsIgnoringCase_truth value found]

theorem comment_truth (keyed : store.Keyed) (stored : request ∈ store.requests) (value : String) :
    ((comment value).condition ctx).truth store.database request.scope =
      some ((comment value).holds ctx request) := by
  have content : ∀ comment, (Condition.containsIgnoringCase ⟨.pullRequestComments, .content⟩
      value).truth store.database (request.scope.enter .pullRequestComments
        (requestCommentRow request.id comment)) =
      some (Text.containsIgnoringCase comment value) :=
    fun _ => Condition.containsIgnoringCase_truth value rfl
  rw [condition, comments_related keyed stored]
  simp [content, holds]

theorem faithful (keyed : store.Keyed) (stored : request ∈ store.requests) (k : Criterion) :
    Criteria.FaithfulLeaf ctx request store.database request.scope (lacks ctx request) k := by
  refine ⟨?_, holds_of_lacks k⟩
  cases k with
  | hasStatus status =>
    refine (Condition.equals_truth status.name rfl).trans (congrArg some ?_)
    rw [Bool.eq_iff_iff, beq_iff_eq, Status.name_inj]
    exact beq_iff_eq.symm
  | submittedByMe => exact Condition.equalsActing_truth ctx.user rfl
  | submittedBy user => exact Condition.equals_nullable user rfl
  | includesCommit value project commit => exact includesCommit_truth value project commit
  | title value => exact title_truth value
  | description value => exact Condition.containsIgnoringCase_nullable value rfl
  | comment value => exact comment_truth keyed stored value
  | sourceBranch value => exact Condition.equals_truth value rfl
  | targetBranch value => exact Condition.equals_truth value rfl
  | number op value => exact Condition.compareNumber_truth op value rfl
  | commentCount op value => exact Condition.compareNumber_truth op value rfl
  | submitDate op value => exact Condition.compareInstant_truth op value.date rfl
  | updateDate op value => exact Condition.compareInstant_truth op value.date rfl

end Criterion

-- A leaf says nothing of a request without the submitter or the description that it asks for. That is as
-- good as no, but for a negation: where something is denied, the request has to have both.
theorem selected_iff_satisfied {store : Store} {request : PullRequest} (ctx : MatchContext)
    (keyed : store.Keyed) (stored : request ∈ store.requests) (c : Criteria Criterion)
    (complete : c.hasNegation = false ∨ request.submitter.isSome ∧ request.description.isSome) :
    (c.condition ctx).truth store.database request.scope = some true ↔
      c.isSatisfied ctx request = true := by
  refine Criteria.truth_iff_isSatisfied (fun k _ => k.faithful keyed stored) fun k mem => ?_
  rcases complete with free | complete
  · rw [Criteria.signedLeaves_of_negationFree free] at mem
    cases mem
  · exact k.lacks_of_complete complete

theorem selected_iff_satisfied_comment :
    let found : PullRequest := ⟨7, "demo", 1, "t", none, ["Now at 50%"], .merged, none, "fix", "main",
      ⟨0, 0⟩, ⟨0, 0⟩⟩
    let other : PullRequest := { found with id := 8, comments := [], submitter := some "alice" }
    let store : Store := ⟨[], [found, other], [], fun _ => none⟩
    let ctx : MatchContext :=
      ⟨none, none, Setting.demo, ⟨fun _ _ _ => [], fun _ => [], fun _ _ => []⟩, ⟨0, 0⟩⟩
    let c : Criteria Criterion :=
      .any [.leaf (.submittedBy "alice"), .all [.leaf (.comment "50%"), .leaf (.hasStatus .merged)]]
    store.Keyed ∧ found ∈ store.requests ∧ c.hasNegation = false ∧ c.isSatisfied ctx found = true ∧
      (c.condition ctx).truth store.database found.scope = some true := by
  intro found other store ctx c
  have keyed : store.Keyed := ⟨by decide, by decide, by decide⟩
  have stored : found ∈ store.requests := List.mem_cons_self
  have satisfied : c.isSatisfied ctx found = true := by decide
  exact ⟨keyed, stored, rfl, satisfied,
    (selected_iff_satisfied ctx keyed stored c (.inl rfl)).mpr satisfied⟩

end TrackerQuery.PullRequest
