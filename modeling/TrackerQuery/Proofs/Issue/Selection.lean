import TrackerQuery.Issue.Reader
import TrackerQuery.Proofs.Query.Evaluation
import TrackerQuery.Proofs.Sql.Store
import TrackerQuery.Repository

namespace TrackerQuery.Issue

open Sql (Condition)

namespace Criterion

variable {ctx : MatchContext} {db : Sql.Database} {store : Store} {issue : Issue} {k : Criterion}

def lacks (ctx : MatchContext) (issue : Issue) : Criterion → Bool
  | submittedByMe => ctx.user.isSome && issue.submitter.isNone
  | submittedBy _ => issue.submitter.isNone
  | description _ => issue.description.isNone
  | milestone (some _) => issue.milestone.isNone
  | _ => false

theorem holds_of_lacks (k : Criterion) (lacking : k.lacks ctx issue = true) :
    k.holds ctx issue = false := by
  cases k with
  | submittedByMe =>
    obtain ⟨_, absent⟩ := Bool.and_eq_true_iff.mp lacking
    simp [holds, Option.isNone_iff_eq_none.mp absent]
  | submittedBy user => simp [holds, Option.isNone_iff_eq_none.mp lacking]
  | description value => simp [holds, Option.isNone_iff_eq_none.mp lacking]
  | milestone value =>
    cases value with
    | none => cases lacking
    | some value => simp [holds, Option.isNone_iff_eq_none.mp lacking]
  | _ => cases lacking

theorem fixedIn_truth (ctx : MatchContext) (issue : Issue) (build : Build) :
    (fixedInCondition ctx build).truth db issue.scope = some (isFixedIn ctx issue build) := by
  have own : (Condition.equals (column .project) build.project).truth db issue.scope = _ :=
    Condition.equals_truth build.project rfl
  have turned : isFixedIn ctx issue build = (issue.project == build.project &&
      (ctx.relations.fixedInBuild build).contains issue.number) := by
    rw [isFixedIn, Bool.beq_comm]
  rw [turned]
  exact Condition.both_truth own (Condition.inNumbers_truth _ rfl)

theorem fixedBetween_truth (first second : Revision) (project : Option String)
    (commits : Option (CommitId × CommitId)) :
    ((fixedBetween first second project commits).condition ctx).truth db issue.scope =
      some ((fixedBetween first second project commits).holds ctx issue) := by
  cases commits with
  | none => rfl
  | some commits => exact Condition.inProject_truth project rfl (Condition.inNumbers_truth _ rfl)

theorem title_truth (value : String) : ((title value).condition ctx).truth db issue.scope =
    some ((title value).holds ctx issue) := by
  have found : issue.scope (column .title) = some (.text issue.title) := rfl
  rw [condition, holds, Condition.containsIgnoringCase_truth value found]

theorem comment_truth (keyed : store.Keyed) (stored : issue ∈ store.issues) (value : String) :
    ((comment value).condition ctx).truth store.database issue.scope =
      some ((comment value).holds ctx issue) := by
  have content : ∀ comment, (Condition.containsIgnoringCase ⟨.issueComments, .content⟩ value).truth
      store.database (issue.scope.enter .issueComments (issueCommentRow issue.id comment)) =
      some (Text.containsIgnoringCase comment value) :=
    fun _ => Condition.containsIgnoringCase_truth value rfl
  rw [condition, comments_related keyed stored]
  simp [content, holds]

theorem milestone_truth (value : Option String) :
    ((milestone value).condition ctx).truth db issue.scope =
      if (milestone value).lacks ctx issue then none
      else some ((milestone value).holds ctx issue) := by
  cases value with
  | none =>
    have found : issue.scope (column .milestone) = issue.milestone.map .text := rfl
    simp [condition, Condition.truth_isNull, found, lacks, holds]
  | some value => exact Condition.equals_nullable value rfl

theorem faithful (keyed : store.Keyed) (stored : issue ∈ store.issues)
    (builtin : k.customField? = none) :
    Criteria.FaithfulLeaf ctx issue store.database issue.scope (lacks ctx issue) k := by
  refine ⟨?_, holds_of_lacks k⟩
  cases k with
  | submittedByMe => exact Condition.equalsActing_truth ctx.user rfl
  | fixedInCurrentBuild =>
    cases current : ctx.build with
    | none => simp [LeafKind.condition, LeafKind.holds, lacks, condition, holds, current]
    | some build =>
      simp [LeafKind.condition, LeafKind.holds, lacks, condition, holds, current, fixedIn_truth]
  | submittedBy user => exact Condition.equals_nullable user rfl
  | fixedInBuild value build =>
    cases build with
    | none => rfl
    | some build => exact fixedIn_truth ctx issue build
  | fixedBetween first second project commits => exact fixedBetween_truth first second project commits
  | title value => exact title_truth value
  | description value => exact Condition.containsIgnoringCase_nullable value rfl
  | comment value => exact comment_truth keyed stored value
  | state field value => exact Condition.equals_truth value rfl
  | milestone value => exact milestone_truth value
  | voteCount op value => exact Condition.compareNumber_truth op value rfl
  | commentCount op value => exact Condition.compareNumber_truth op value rfl
  | number op value => exact Condition.compareNumber_truth op value rfl
  | submitDate op value => exact Condition.compareInstant_truth op value.date rfl
  | updateDate op value => exact Condition.compareInstant_truth op value.date rfl
  | _ => cases builtin

end Criterion

namespace Query

-- The query with everything granted that it denies of what the issue lacks.
def granted (ctx : MatchContext) (issue : Issue) (q : Query) : Query :=
  { q with criteria := q.criteria.map fun c =>
      c.granted (fun k even => !even && k.lacks ctx issue) true }

-- An issue is selected just if it matches even so. What the condition says of its row is right, and
-- it selects the issues that match if nothing is denied of what they lack.
theorem builtin_selection {store : Store} {issue : Issue} (ctx : MatchContext) (keyed : store.Keyed)
    (stored : issue ∈ store.issues) (q : Query)
    (builtin : ∀ c ∈ q.criteria, ∀ k ∈ c.leaves, k.customField? = none) :
    let said := (q.select ctx).truth store.database issue.row
    (said = some true ↔ (q.granted ctx issue).isSatisfied ctx issue = true) ∧
      (∀ b, said = some b → q.isSatisfied ctx issue = b) ∧
      ((∀ c ∈ q.criteria, ∀ k ∈ c.signedLeaves false, k.lacks ctx issue = false) →
        (said = some true ↔ q.isSatisfied ctx issue = true)) := by
  obtain ⟨criteria, sorts⟩ := q
  cases criteria with
  | none =>
    refine ⟨⟨fun _ => rfl, fun _ => rfl⟩, fun b said => ?_, fun _ => ⟨fun _ => rfl, fun _ => rfl⟩⟩
    exact Option.some.inj said
  | some c =>
    have faithful : ∀ k ∈ c.leaves, Criteria.FaithfulLeaf ctx issue store.database issue.scope
        (Criterion.lacks ctx issue) k :=
      fun k mem => Criterion.faithful keyed stored (builtin c rfl k mem)
    have selected := Criteria.truth_iff_granted (fun k mem => (faithful k mem).truth_iff) true
    exact ⟨selected, fun b => Criteria.isSatisfied_of_truth faithful,
      fun present => Criteria.truth_iff_isSatisfied faithful (present c rfl)⟩

theorem builtin_selection_title :
    let issue : Issue := ⟨1, "demo", 1, "Crash at start", none, [], "Open", none, none, ⟨0, 0⟩, ⟨0, 0⟩,
      0, []⟩
    let store : Store := ⟨[issue], [], [], fun _ => none⟩
    let ctx : MatchContext := ⟨none, none, Setting.demo, Repository.empty.relations, ⟨0, 0⟩⟩
    let c : Criteria Criterion := .all [.any [.leaf (.submittedBy "alice"), .leaf (.title "crash")],
      .negation (.leaf (.state "state" "Closed"))]
    let q : Query := ⟨some c, []⟩
    store.Keyed ∧ issue ∈ store.issues ∧ (∀ k ∈ c.leaves, k.customField? = none) ∧
      (∀ k ∈ c.signedLeaves false, k.lacks ctx issue = false) ∧ q.isSatisfied ctx issue = true ∧
      (q.select ctx).truth store.database issue.row = some true := by
  intro issue store ctx c q
  have keyed : store.Keyed := ⟨by decide, by decide, by decide⟩
  have stored : issue ∈ store.issues := List.mem_cons_self
  have builtin : ∀ k ∈ c.leaves, k.customField? = none := by decide
  have present : ∀ k ∈ c.signedLeaves false, k.lacks ctx issue = false := by decide
  have satisfied : q.isSatisfied ctx issue = true := by decide
  obtain ⟨_, _, selected⟩ := builtin_selection ctx keyed stored q
    fun _ mem => Option.mem_some.mp mem ▸ builtin
  exact ⟨keyed, stored, builtin, present, satisfied,
    (selected fun _ mem => Option.mem_some.mp mem ▸ present).mpr satisfied⟩

-- An issue without a milestone is not in milestone 1.0, but is not selected as such.
theorem builtin_selection_unplanned :
    let read : ReadContext := ⟨none, Setting.demo, Repository.empty.resolver, ⟨0, 0⟩⟩
    let ctx : MatchContext := ⟨none, none, Setting.demo, Repository.empty.relations, ⟨0, 0⟩⟩
    let issue : Issue := ⟨1, "demo", 1, "t", none, [], "Open", none, none, ⟨0, 0⟩, ⟨0, 0⟩, 0, []⟩
    let store : Store := ⟨[issue], [], [], fun _ => none⟩
    ∃ q, Query.read read (some "\"milestone\" is not \"1.0\"") true = .ok q ∧
      (∀ c ∈ q.criteria, ∀ k ∈ c.leaves, k.customField? = none) ∧ store.Keyed ∧
      ¬ ((q.select ctx).truth store.database issue.row = some true ↔
        q.isSatisfied ctx issue = true) := by
  intro read ctx issue store
  let c : Criteria Criterion := .negation (.leaf (.milestone (some "1.0")))
  have builtin : ∀ k ∈ c.leaves, k.customField? = none := by decide
  refine ⟨⟨some c, []⟩, by decide +kernel, ?_, ⟨by decide, by decide, by decide⟩, by decide⟩
  exact fun _ mem => Option.mem_some.mp mem ▸ builtin

end Query

end TrackerQuery.Issue
