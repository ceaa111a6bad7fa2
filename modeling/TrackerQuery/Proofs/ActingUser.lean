import Mathlib.Tactic.ByContra
import TrackerQuery.Issue.Criterion
import TrackerQuery.Project.Criterion
import TrackerQuery.Proofs.Query.Leaves
import TrackerQuery.PullRequest.Criterion
import TrackerQuery.Repository

namespace TrackerQuery

def MatchContext.actingAs (ctx : MatchContext) (user : Option String) : MatchContext :=
  { ctx with user }

section

variable {κ ε : Type} [LeafKind κ ε]

structure Criteria.IgnoresUser (c : Criteria κ) : Prop where
  isSatisfied : ∀ (ctx : MatchContext) (user user' : Option String) (entity : ε),
    c.isSatisfied (ctx.actingAs user) entity = c.isSatisfied (ctx.actingAs user') entity
  condition : ∀ (ctx : MatchContext) (user user' : Option String),
    c.condition (ctx.actingAs user) = c.condition (ctx.actingAs user')

structure Query.IgnoresUser (q : Query κ) : Prop where
  isSatisfied : ∀ (ctx : MatchContext) (user user' : Option String) (entity : ε),
    q.isSatisfied (ctx.actingAs user) entity = q.isSatisfied (ctx.actingAs user') entity
  select : ∀ (ctx : MatchContext) (user user' : Option String),
    q.select (ctx.actingAs user) = q.select (ctx.actingAs user')

-- What asks for no login has one answer for all, and so has what two such queries are merged to.
-- No login is asked for without a leaf that has different answers for some.
structure LoginSound (κ : Type) {ε : Type} [LeafKind κ ε] : Prop where
  criteria : ∀ c : Criteria κ, c.needsLogin = false → c.IgnoresUser
  query : ∀ q : Query κ, q.needsLogin = false → q.IgnoresUser
  merge : ∀ p q : Query κ, (p.merge q).needsLogin = (p.needsLogin || q.needsLogin)
  asked : ∀ c : Criteria κ, c.needsLogin = true → ∃ k ∈ c.leaves, ¬ (Criteria.leaf k).IgnoresUser

theorem Criteria.needsLogin_iff {c : Criteria κ} :
    c.needsLogin = true ↔ ∃ k ∈ c.leaves, LeafKind.needsLogin k = true := by
  have each : ∀ {cs : List (Criteria κ)}, (∀ c ∈ cs, c.needsLogin = true ↔
      ∃ k ∈ c.leaves, LeafKind.needsLogin k = true) →
      ((cs.map needsLogin).any id = true ↔
        ∃ k, (∃ c ∈ cs, k ∈ c.leaves) ∧ LeafKind.needsLogin k = true) := by
    intro cs ih
    rw [List.any_map, List.any_eq_true]
    constructor
    · rintro ⟨c, child, asks⟩
      obtain ⟨k, below, asks⟩ := (ih c child).mp asks
      exact ⟨k, ⟨c, child, below⟩, asks⟩
    · rintro ⟨k, ⟨c, child, below⟩, asks⟩
      exact ⟨c, child, (ih c child).mpr ⟨k, below, asks⟩⟩
  induction c using induction with
  | leaf k => simp [needsLogin, leaves]
  | all cs ih =>
    simp only [mem_leaves_all, needsLogin, fold_all]
    exact each ih
  | any cs ih =>
    simp only [mem_leaves_any, needsLogin, fold_any]
    exact each ih
  | negation c ih => exact ih

theorem LoginSound.of_leaves
    (holds : ∀ k : κ, LeafKind.needsLogin k = false → ∀ (ctx : MatchContext)
      (user user' : Option String) (entity : ε),
      LeafKind.holds (ctx.actingAs user) entity k = LeafKind.holds (ctx.actingAs user') entity k)
    (condition : ∀ k : κ, LeafKind.needsLogin k = false → ∀ (ctx : MatchContext)
      (user user' : Option String),
      LeafKind.condition (ctx.actingAs user) k = LeafKind.condition (ctx.actingAs user') k)
    (asked : ∀ k : κ, LeafKind.needsLogin k = true → ¬ (Criteria.leaf k).IgnoresUser) :
    LoginSound κ := by
  have leafwise : ∀ c : Criteria κ, c.needsLogin = false →
      ∀ k ∈ c.leaves, LeafKind.needsLogin k = false := by
    intro c anonymous k mem
    by_contra asks
    rw [Criteria.needsLogin_iff.mpr ⟨k, mem, by simpa using asks⟩] at anonymous
    cases anonymous
  have criteria : ∀ c : Criteria κ, c.needsLogin = false → c.IgnoresUser := fun c anonymous =>
    ⟨fun ctx user user' entity => Criteria.fold_congr fun k mem =>
        holds k (leafwise c anonymous k mem) ctx user user' entity,
      fun ctx user user' => Criteria.fold_congr fun k mem =>
        condition k (leafwise c anonymous k mem) ctx user user'⟩
  refine ⟨criteria, fun q anonymous => ?_, fun p q => ?_, fun c asks => ?_⟩
  · obtain ⟨_ | c, sorts⟩ := q
    · exact ⟨fun _ _ _ _ => rfl, fun _ _ _ => rfl⟩
    · have ignores := criteria c anonymous
      refine ⟨ignores.isSatisfied, fun ctx user user' => ?_⟩
      simp only [Query.select, Query.condition, ignores.condition ctx user user']
  · obtain ⟨_ | c, _⟩ := p <;> obtain ⟨_ | d, _⟩ := q <;>
      simp [Query.merge, Query.needsLogin, Criteria.needsLogin]
  · obtain ⟨k, mem, asks⟩ := Criteria.needsLogin_iff.mp asks
    exact ⟨k, mem, asked k asks⟩

end

-- Whoever submitted the issue, or is named in the field, gets another answer than nobody.
theorem Issue.asks_user {k : Issue.Criterion} (asks : k.needsLogin = true) :
    ¬ (Criteria.leaf k).IgnoresUser := by
  intro ignores
  let ctx : MatchContext := ⟨none, none, Setting.empty, Repository.empty.relations, ⟨0, 0⟩⟩
  let mine : Issue := ⟨1, "", 1, "", none, [], "", none, some "alice", ⟨0, 0⟩, ⟨0, 0⟩, 0, []⟩
  cases k with
  | submittedByMe => cases ignores.isSatisfied ctx (some "alice") none mine
  | fieldOperator field op =>
    obtain rfl : op = .isMe := beq_iff_eq.mp asks
    have same := ignores.isSatisfied ctx (some "alice") none
      { mine with fields := [⟨field, some "alice", 0⟩] }
    simp [Criteria.isSatisfied, LeafKind.holds, Issue.Criterion.holds, Issue.valuesOf,
      MatchContext.actingAs] at same
  | _ => cases asks

theorem Issue.loginSound : LoginSound Issue.Criterion := by
  refine .of_leaves (fun k anonymous ctx user user' issue => ?_) (fun k anonymous ctx user user' => ?_)
    fun _ => Issue.asks_user
  · cases k with
    | submittedByMe => cases anonymous
    | fieldOperator field op => cases op <;> first | rfl | cases anonymous
    | _ => rfl
  · cases k with
    | submittedByMe => cases anonymous
    | fieldOperator field op => cases op <;> first | rfl | cases anonymous
    | fixedInBuild value build => cases build <;> rfl
    | fixedBetween first second project commits => cases commits <;> rfl
    | milestone value => cases value <;> rfl
    | stringField field value contains => cases contains <;> rfl
    | referenceField field value number => cases number <;> rfl
    | _ => rfl

theorem PullRequest.asks_user {k : PullRequest.Criterion} (asks : k.needsLogin = true) :
    ¬ (Criteria.leaf k).IgnoresUser := by
  intro ignores
  let ctx : MatchContext := ⟨none, none, Setting.empty, Repository.empty.relations, ⟨0, 0⟩⟩
  let mine : PullRequest := ⟨1, "", 1, "", none, [], .pending, some "alice", "", "", ⟨0, 0⟩, ⟨0, 0⟩⟩
  cases k with
  | submittedByMe => cases ignores.isSatisfied ctx (some "alice") none mine
  | _ => cases asks

theorem PullRequest.loginSound : LoginSound PullRequest.Criterion := by
  refine .of_leaves (fun k anonymous ctx user user' request => ?_) (fun k anonymous ctx user user' => ?_)
    fun _ => PullRequest.asks_user
  · cases k with
    | submittedByMe => cases anonymous
    | _ => rfl
  · cases k with
    | submittedByMe => cases anonymous
    | includesCommit value project commit => cases commit <;> rfl
    | _ => rfl

theorem Project.asks_user {k : Project.Criterion} (asks : k.needsLogin = true) :
    ¬ (Criteria.leaf k).IgnoresUser := by
  intro ignores
  let ctx : MatchContext := ⟨none, none, Setting.empty, Repository.empty.relations, ⟨0, 0⟩⟩
  cases k with
  | ownedByMe => cases ignores.isSatisfied ctx (some "alice") none ⟨1, "", none, ["alice"], ⟨0, 0⟩⟩
  | _ => cases asks

theorem Project.loginSound : LoginSound Project.Criterion := by
  refine .of_leaves (fun k anonymous ctx user user' project => ?_) (fun k anonymous ctx user user' => ?_)
    fun _ => Project.asks_user
  · cases k with
    | ownedByMe => cases anonymous
    | name value contains => cases contains <;> rfl
    | _ => rfl
  · cases k with
    | ownedByMe => cases anonymous
    | name value contains => cases contains <;> rfl
    | _ => rfl

theorem anonymous_queries_ignore_user :
    LoginSound Issue.Criterion ∧ LoginSound PullRequest.Criterion ∧ LoginSound Project.Criterion :=
  ⟨Issue.loginSound, PullRequest.loginSound, Project.loginSound⟩

theorem anonymous_queries_ignore_user_merged :
    let unassigned : Issue.Query := ⟨some (.leaf (.fieldOperator "Assignee" .isEmpty)), []⟩
    let others : Issue.Query := ⟨some (.negation (.leaf (.submittedBy "alice"))), []⟩
    (unassigned.merge others).needsLogin = false ∧ (unassigned.merge others).IgnoresUser := by
  intro unassigned others
  exact ⟨rfl, anonymous_queries_ignore_user.1.query (unassigned.merge others) rfl⟩

end TrackerQuery
