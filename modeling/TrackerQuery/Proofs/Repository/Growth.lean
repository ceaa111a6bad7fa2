import TrackerQuery.Proofs.Issue.Upkeep
import TrackerQuery.Proofs.Repository.Builds

namespace TrackerQuery

namespace Repository

-- A commit is new to the history that it is added to; names may be given anew.
inductive Update (r : Repository) : Repository → Prop where
  | commit {id} (fixed : List Int) (fresh : id ∉ r.history) : Update r (r.addCommit id fixed)
  | ref (kind : RevisionKind) (name : String) (id : CommitId) : Update r (r.addRef kind name id)
  | build (build : Build) : Update r (r.addBuild build)
  | requestCommit (request : Int) (id : CommitId) : Update r (r.addRequestCommit request id)

inductive Grows : Repository → Repository → Prop where
  | refl {r} : Grows r r
  | step {r s t} (h : Grows r s) (update : Update s t) : Grows r t

structure Extends (r r' : Repository) : Prop where
  history : r.history <+: r'.history
  builds : r.builds <+: r'.builds
  fixes : ∀ id ∈ r.history, r'.fixesOf id = r.fixesOf id

variable {r r' s t : Repository} {a b id : CommitId} {i j : Nat}

namespace Extends

theorem refl (r : Repository) : r.Extends r :=
  ⟨List.prefix_rfl, List.prefix_rfl, fun _ _ => rfl⟩

theorem trans (h : r.Extends s) (h' : s.Extends t) : r.Extends t := by
  refine ⟨h.history.trans h'.history, h.builds.trans h'.builds, fun id mem => ?_⟩
  exact (h'.fixes id (h.history.subset mem)).trans (h.fixes id mem)

theorem of_update (h : r.Update r') : r.Extends r' := by
  cases h with
  | @commit added fixed fresh =>
    refine ⟨List.prefix_append _ _, List.prefix_rfl, fun id mem => ?_⟩
    have other : id ≠ added := fun same => fresh (same ▸ mem)
    simp [fixesOf, addCommit, List.lookup_cons, beq_eq_false_iff_ne.mpr other]
  | ref => exact ⟨List.prefix_rfl, List.prefix_rfl, fun _ _ => rfl⟩
  | build => exact ⟨List.prefix_rfl, List.prefix_append _ _, fun _ _ => rfl⟩
  | requestCommit => exact ⟨List.prefix_rfl, List.prefix_rfl, fun _ _ => rfl⟩

theorem of_grows (h : r.Grows r') : r.Extends r' := by
  induction h with
  | refl => exact .refl _
  | step _ update ih => exact ih.trans (of_update update)

theorem position? (h : r.Extends r') (found : r.position? id = some i) :
    r'.position? id = some i :=
  h.history.findIdx?_eq_some found

theorem fixedInRange (h : r.Extends r') {start : Option Nat} (inside : j < r.history.length) :
    r'.fixedInRange start j = r.fixedInRange start j := by
  obtain ⟨added, grown⟩ := h.history
  have range : r'.history.take (j + 1) = r.history.take (j + 1) := by
    rw [← grown, List.take_append_of_le_length inside]
  rw [Repository.fixedInRange, Repository.fixedInRange, range]
  refine List.flatMap_congr fun id mem => h.fixes id ?_
  exact List.mem_of_mem_take (List.mem_of_mem_drop mem)

theorem fixedBetween (h : r.Extends r') (known : a ∈ r.history) (known' : b ∈ r.history) :
    r'.fixedBetween a b = r.fixedBetween a b := by
  obtain ⟨i, first⟩ := position?_of_mem known
  obtain ⟨j, last⟩ := position?_of_mem known'
  have inside : j < r.history.length := (List.idxOf?_eq_some_iff.mp last).1
  rw [fixedBetween_eq first last, fixedBetween_eq (h.position? first) (h.position? last)]
  exact h.fixedInRange inside

end Extends

end Repository

namespace Issue

variable {ctx : ReadContext} {validate : Bool} {q : Query} {r r' : Repository} {k : Criterion}

namespace Criterion

theorem commits_of_readable {first second : Revision} {project : Option String}
    {commits : Option (CommitId × CommitId)}
    (h : (reader ctx validate).Readable (fixedBetween first second project commits)) :
    commits = commitsOf ctx first second := by
  obtain ⟨w, _, read⟩ := h
  cases w with
  | standalone op => cases op <;> cases read
  | field name op =>
    obtain ⟨_, _, leaf⟩ := readField_ok_iff.mp read
    split at leaf <;> cases leaf
  | fieldValue name op content =>
    obtain ⟨_, read⟩ := readFieldValue_ok_iff.mp read
    obtain ⟨content', text, _⟩ := meaning_rereads read
    have start := congrArg (fun s : String => s.toList.head?) text
    simp [Criterion.text, fieldText, Text.quote, Operator.text] at start
  | value op content =>
    obtain ⟨_, leaf⟩ | ⟨_, _, leaf⟩ := readValue_ok_iff.mp read <;> cases leaf
  | between first second =>
    obtain ⟨_, leaf⟩ := readBetween_ok_iff.mp read
    cases leaf
    rfl

def BetweenKnown (r : Repository) (k : Criterion) : Prop :=
  ∃ first second project a b, k = fixedBetween first second project (some (a, b)) ∧
    a ∈ r.history ∧ b ∈ r.history

def NamesKnown (r : Repository) (ctx : ReadContext) (k : Criterion) : Prop :=
  ∃ first second project commits, k = fixedBetween first second project commits ∧
    ∀ revision ∈ [first, second], ∃ id ∈ r.history,
      r.resolver.commit ctx.project revision = some id

theorem betweenKnown_of_readable (resolver : ctx.resolver = r.resolver)
    (h : (reader ctx validate).Readable k) (named : k.NamesKnown r ctx) : k.BetweenKnown r := by
  obtain ⟨first, second, project, commits, rfl, meant⟩ := named
  obtain ⟨a, known, start⟩ := meant first List.mem_cons_self
  obtain ⟨b, known', stop⟩ := meant second (by simp)
  refine ⟨first, second, project, a, b, ?_, known, known'⟩
  rw [commits_of_readable h]
  simp [commitsOf, resolver, start, stop]

theorem holds_of_extends (grown : r.Extends r') (h : k.BetweenKnown r) (m : MatchContext)
    (issue : Issue) : k.holds { m with relations := r'.relations } issue =
      k.holds { m with relations := r.relations } issue := by
  obtain ⟨first, second, project, a, b, rfl, known, known'⟩ := h
  simp [holds, Repository.relations, grown.fixedBetween known known']

theorem condition_of_extends (grown : r.Extends r') (h : k.BetweenKnown r) (m : MatchContext) :
    k.condition { m with relations := r'.relations } =
      k.condition { m with relations := r.relations } := by
  obtain ⟨first, second, project, a, b, rfl, known, known'⟩ := h
  simp [condition, Repository.relations, grown.fixedBetween known known']

end Criterion

namespace Query

variable {m m' : MatchContext} {issue : Issue}

theorem isSatisfied_congr (same : ∀ k ∈ q.leaves, k.holds m issue = k.holds m' issue) :
    q.isSatisfied m issue = q.isSatisfied m' issue := by
  obtain ⟨_ | c, sorts⟩ := q
  · rfl
  · exact Criteria.fold_congr same

theorem select_congr (same : ∀ k ∈ q.leaves, k.condition m = k.condition m') :
    q.select m = q.select m' := by
  obtain ⟨_ | c, sorts⟩ := q
  · rfl
  · have conditions : c.condition m = c.condition m' := Criteria.fold_congr same
    simp only [TrackerQuery.Query.select, TrackerQuery.Query.condition, conditions]

end Query

end Issue

-- What was resolved stays so in a repository that grows: commits, builds, the fixes between two
-- commits, and with them the queries that ask for nothing else.
theorem Repository.resolved_stays {r r' : Repository} (grown : r.Grows r') :
    (∀ project value id, r.resolver.commit project ⟨.commit, value⟩ = some id →
        r'.resolver.commit project ⟨.commit, value⟩ = some id) ∧
      (∀ project reference build, r.resolver.build project reference = some build →
        r'.resolver.build project reference = some build) ∧
      (∀ project, ∀ a ∈ r.history, ∀ b ∈ r.history,
        r'.relations.fixedBetween project a b = r.relations.fixedBetween project a b) ∧
      ∀ (ctx : ReadContext) (text : Option String) (validate : Bool) (q : Issue.Query),
        ctx.resolver = r.resolver → Issue.Query.read ctx text validate = .ok q →
        (∀ k ∈ q.leaves, k.NamesKnown r ctx) → ∀ m : MatchContext,
          (∀ issue : Issue, q.isSatisfied { m with relations := r'.relations } issue =
              q.isSatisfied { m with relations := r.relations } issue) ∧
            q.select { m with relations := r'.relations } =
              q.select { m with relations := r.relations } := by
  have extended := Extends.of_grows grown
  refine ⟨?_, ?_, ?_, ?_⟩
  · intro project value id found
    exact extended.history.find?_eq_some found
  · intro project reference build found
    exact extended.builds.find?_eq_some found
  · intro project a known b known'
    exact extended.fixedBetween known known'
  · intro ctx text validate q resolver read named m
    have readable := Issue.Query.leaf_of_wellFormed (ofText?_wellFormed read).criteria
    have known : ∀ k ∈ q.leaves, k.BetweenKnown r := fun k mem =>
      Issue.Criterion.betweenKnown_of_readable resolver (readable k mem) (named k mem)
    refine ⟨fun issue => ?_, ?_⟩
    · exact Issue.Query.isSatisfied_congr fun k mem =>
        Issue.Criterion.holds_of_extends extended (known k mem) m issue
    · exact Issue.Query.select_congr fun k mem =>
        Issue.Criterion.condition_of_extends extended (known k mem) m

theorem Repository.resolved_stays_moved :
    let id := CommitId.mk
    let r := ((((empty.addCommit (id "a1") [1]).addCommit (id "b2") [2, 3]).addCommit (id "c3")
      [4]).addRef .tag "v1" (id "a1")).addBuild ⟨"demo", 1, id "c3", none⟩
    let r' := ((r.addRef .tag "v1" (id "c3")).addCommit (id "c4") [2]).addBuild
      ⟨"other", 1, id "c4", none⟩
    let ctx : ReadContext := ⟨some "demo", Setting.demo, r.resolver, ⟨0, 0⟩⟩
    let text := "not(fixed between tag \"v1\" and commit \"c\")" ++
      " or fixed between commit \"a\" and build \"#1\""
    let m : MatchContext := ⟨none, none, Setting.demo, r.relations, ⟨0, 0⟩⟩
    r.Grows r' ∧
      r'.resolver.commit none ⟨.tag, "v1"⟩ ≠ r.resolver.commit none ⟨.tag, "v1"⟩ ∧
      r'.resolver.commit none ⟨.commit, "c"⟩ = some (id "c3") ∧
      r'.resolver.build none ⟨none, 1⟩ = some ⟨"demo", 1, id "c3", none⟩ ∧
      r'.relations.fixedBetween none (id "a1") (id "c3") = [2, 3, 4] ∧
      ∃ q, Issue.Query.read ctx (some text) false = .ok q ∧
        (∀ k ∈ q.leaves, k.NamesKnown r ctx) ∧
        (∀ issue : Issue, q.isSatisfied { m with relations := r'.relations } issue =
          q.isSatisfied m issue) ∧
        q.select { m with relations := r'.relations } = q.select m := by
  intro id r r' ctx text m
  have grown : r.Grows r' := by
    refine .step (.step (.step .refl (.ref .tag "v1" (id "c3"))) ?_) (.build _)
    exact .commit [2] (by decide)
  obtain ⟨commits, builds, fixes, queries⟩ := resolved_stays grown
  let between (first second : Revision) : Issue.Criterion :=
    .fixedBetween first second (some "demo") (some (id "a1", id "c3"))
  let q : Issue.Query := ⟨some (.any [.negation (.leaf (between ⟨.tag, "v1"⟩ ⟨.commit, "c"⟩)),
    .leaf (between ⟨.commit, "a"⟩ ⟨.build, "#1"⟩)]), []⟩
  have read : Issue.Query.read ctx (some text) false = .ok q := by decide +kernel
  have named : ∀ k ∈ q.leaves, k.NamesKnown r ctx := by
    intro k mem
    rcases List.mem_pair.mp mem with rfl | rfl
    · exact ⟨_, _, _, _, rfl, by decide +kernel⟩
    · exact ⟨_, _, _, _, rfl, by decide +kernel⟩
  refine ⟨grown, by decide, commits none "c" (id "c3") (by decide), ?_, ?_, q, read, named, ?_⟩
  · exact builds none ⟨none, 1⟩ ⟨"demo", 1, id "c3", none⟩ (by decide)
  · exact (fixes none (id "a1") (by decide) (id "c3") (by decide)).trans (by decide)
  · exact queries ctx (some text) false q rfl read named m

end TrackerQuery
