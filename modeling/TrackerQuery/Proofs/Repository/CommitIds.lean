import TrackerQuery.Proofs.Issue.Meaning
import TrackerQuery.Proofs.Query.Writing
import TrackerQuery.Proofs.Repository.Builds
import TrackerQuery.PullRequest.Criterion

namespace TrackerQuery

def Query.Finds {κ ε : Type} [LeafKind κ ε] (q : Query κ) (m : MatchContext) (projectOf : ε → String)
    (numberOf : ε → Int) (project : Option String) (wanted : Int → Prop) : Prop :=
  ∀ entity, q.isSatisfied m entity = true ↔
    (∀ p ∈ project, projectOf entity = p) ∧ wanted (numberOf entity)

theorem Query.Finds.iff {κ ε : Type} [LeafKind κ ε] {q : Query κ} {m : MatchContext}
    {projectOf : ε → String} {numberOf : ε → Int} {project : Option String}
    {wanted wanted' : Int → Prop} (finds : q.Finds m projectOf numberOf project wanted)
    (every : ∀ p n, ∃ entity, projectOf entity = p ∧ numberOf entity = n) :
    q.Finds m projectOf numberOf project wanted' ↔ ∀ n, wanted' n ↔ wanted n := by
  constructor
  · intro finds' n
    obtain ⟨entity, own, rfl⟩ := every (project.getD "") n
    have scope : ∀ p ∈ project, projectOf entity = p := by
      intro p mem
      rw [own, Option.mem_def.mp mem, Option.getD_some]
    exact ⟨fun h => ((finds entity).mp ((finds' entity).mpr ⟨scope, h⟩)).2,
      fun h => ((finds' entity).mp ((finds entity).mpr ⟨scope, h⟩)).2⟩
  · intro same entity
    rw [finds entity, same]

namespace Repository

def meant (r : Repository) (id : CommitId) : CommitId :=
  (r.history.find? fun c => id.text.toList.isPrefixOf c.text.toList).getD id

-- An older commit has an id that starts with this one.
def Eclipsed (r : Repository) (id : CommitId) : Prop :=
  ∃ older i j, r.position? older = some i ∧ r.position? id = some j ∧ i < j ∧
    id.text.toList <+: older.text.toList

def Includes (r : Repository) (id : CommitId) (request : Int) : Prop :=
  (request, id) ∈ r.requestCommits

def FixedAfter (r : Repository) (first last : CommitId) (issue : Int) : Prop :=
  ∃ i j k id, r.position? first = some i ∧ r.position? last = some j ∧ r.history[k]? = some id ∧
    i < k ∧ k ≤ j ∧ issue ∈ r.fixesOf id

variable {r : Repository} {id a b c : CommitId} {n : Int}

theorem mem_fixedBetween_iff : n ∈ r.fixedBetween a b ↔ r.FixedAfter a b n := by
  unfold FixedAfter
  cases start : r.position? a with
  | none => simp [fixedBetween, start]
  | some i =>
    cases stop : r.position? b with
    | none => simp [fixedBetween, stop]
    | some j =>
      rw [fixedBetween_eq start stop, mem_fixedInRange_getElem?]
      constructor
      · intro h
        obtain ⟨id, k, found, after, upTo, fixed⟩ := h
        exact ⟨i, j, k, id, rfl, rfl, found, after i rfl, upTo, fixed⟩
      · intro h
        obtain ⟨i', j', k, id, same, same', found, after, upTo, fixed⟩ := h
        obtain rfl := Option.some.inj same
        obtain rfl := Option.some.inj same'
        exact ⟨id, k, found, by simpa using after, upTo, fixed⟩

theorem mem_requestsIncluding_iff : n ∈ r.requestsIncluding id ↔ r.Includes id n := by
  simp [requestsIncluding, Includes]

theorem find?_meant (mem : id ∈ r.history) :
    (r.history.find? fun c => id.text.toList.isPrefixOf c.text.toList) = some (r.meant id) := by
  cases found : r.history.find? fun c => id.text.toList.isPrefixOf c.text.toList with
  | none =>
    have missed := List.find?_eq_none.mp found id mem
    exact absurd (List.isPrefixOf_iff_prefix.mpr (List.prefix_refl _)) missed
  | some c => simp [meant, found]

theorem resolve_commit (mem : id ∈ r.history) (named : id.text ≠ "") :
    r.resolve ⟨.commit, id.text⟩ = some (r.meant id) := by
  have full : id.text.isEmpty = false := by simpa using named
  simp only [resolve, full, Bool.not_false, Bool.true_and, find?_meant mem]

theorem position?_le {i j : Nat} (found : r.history[i]? = some id) (first : r.position? id = some j) :
    j ≤ i := by
  obtain ⟨_, _, none⟩ := List.idxOf?_eq_some_iff.mp first
  obtain ⟨_, same⟩ := List.getElem?_eq_some_iff.mp found
  exact Nat.not_lt.mp fun earlier => absurd same (none i earlier)

theorem meant_eq_iff (mem : id ∈ r.history) : r.meant id = id ↔ ¬r.Eclipsed id := by
  obtain ⟨begins, k, inside, found, none⟩ := List.find?_eq_some_iff_getElem.mp (find?_meant mem)
  have found : r.history[k]? = some (r.meant id) := List.getElem?_eq_some_iff.mpr ⟨inside, found⟩
  obtain ⟨j, position⟩ := position?_of_mem mem
  constructor
  · intro same eclipsed
    obtain ⟨older, i, j', position', position'', earlier, longer⟩ := eclipsed
    obtain rfl : j = j' := Option.some.inj (position.symm.trans position'')
    have first : j ≤ k := position?_le (same ▸ found) position
    obtain ⟨_, rfl, _⟩ := List.idxOf?_eq_some_iff.mp position'
    have shorter := none i (Nat.lt_of_lt_of_le earlier first)
    simp [List.isPrefixOf_iff_prefix.mpr longer] at shorter
  · intro clear
    obtain ⟨inside', same, _⟩ := List.idxOf?_eq_some_iff.mp position
    have upTo : k ≤ j := by
      refine Nat.not_lt.mp fun earlier => ?_
      have unlike := none j earlier
      rw [same] at unlike
      simp [List.isPrefixOf_iff_prefix.mpr (List.prefix_refl _)] at unlike
    obtain ⟨i, position'⟩ := position?_of_mem (List.mem_of_getElem? found)
    have before : i ≤ k := position?_le found position'
    refine Decidable.byContradiction fun other => clear ⟨r.meant id, i, j, position', position, ?_,
      List.isPrefixOf_iff_prefix.mp begins⟩
    have apart : i ≠ j := by
      intro same'
      obtain ⟨_, first, _⟩ := List.idxOf?_eq_some_iff.mp position'
      subst same'
      exact other (first.symm.trans same)
    omega

section

variable {ctx : ReadContext} {m : MatchContext} (validate : Bool)

theorem read_includesCommit (resolver : ctx.resolver = r.resolver) (relations : m.relations = r.relations)
    (mem : c ∈ r.history) (named : c.text ≠ "") :
    ∃ q, PullRequest.Query.read ctx (some (operatorText .includesCommit c.text)) validate = .ok q ∧
      q.Finds m PullRequest.project PullRequest.id ctx.project (r.Includes (r.meant c)) := by
  have known : ctx.resolver.commit ctx.project ⟨.commit, c.text⟩ = some (r.meant c) := by
    rw [resolver]
    exact resolve_commit mem named
  have read : (PullRequest.reader ctx validate).readWording (.value .includesCommit c.text) =
      .ok (.includesCommit c.text ctx.project (some (r.meant c))) := by
    change PullRequest.Criterion.readValue ctx validate .includesCommit c.text = _
    simp only [PullRequest.Criterion.readValue, known]
  refine ⟨_, ofText_wording (w := .value .includesCommit c.text) rfl read, fun request => ?_⟩
  rw [Query.isSatisfied_leaf, ← mem_requestsIncluding_iff]
  simp [LeafKind.holds, PullRequest.Criterion.holds, relations, Repository.relations, Option.all_eq_true]

theorem read_fixedBetween (resolver : ctx.resolver = r.resolver) (relations : m.relations = r.relations)
    (mem : a ∈ r.history) (named : a.text ≠ "") (mem' : b ∈ r.history) (named' : b.text ≠ "") :
    ∃ q, Issue.Query.read ctx
        (some (Wording.between ⟨.commit, a.text⟩ ⟨.commit, b.text⟩).text) validate = .ok q ∧
      q.Finds m Issue.project Issue.number ctx.project (r.FixedAfter (r.meant a) (r.meant b)) := by
  have known : Issue.Criterion.commitsOf ctx ⟨.commit, a.text⟩ ⟨.commit, b.text⟩ =
      some (r.meant a, r.meant b) := by
    rw [Issue.Criterion.commitsOf, resolver]
    simp [Repository.resolver, resolve_commit mem named, resolve_commit mem' named']
  have read : (Issue.reader ctx validate).readWording (.between ⟨.commit, a.text⟩ ⟨.commit, b.text⟩) =
      .ok (.fixedBetween ⟨.commit, a.text⟩ ⟨.commit, b.text⟩ ctx.project
        (some (r.meant a, r.meant b))) :=
    Issue.Criterion.readBetween_ok_iff.mpr ⟨fun _ => by rw [known]; rfl, by rw [known]⟩
  refine ⟨_, ofText_wording trivial read, fun issue => ?_⟩
  rw [Query.isSatisfied_leaf, ← mem_fixedBetween_iff]
  simp [LeafKind.holds, Issue.Criterion.holds, relations, Repository.relations, Option.all_eq_true]

end

-- A query that names a commit of the history by its id asks for what belongs to the commit that the id
-- leads to. So it asks for what belongs to the named commit just if the same belongs to both; and they
-- are one unless the named one is eclipsed.
theorem commit_ids_exact_iff (r : Repository) (ctx : ReadContext) (m : MatchContext) (validate : Bool)
    (resolver : ctx.resolver = r.resolver) (relations : m.relations = r.relations) :
    (∀ c ∈ r.history, c.text ≠ "" →
        ∃ q, PullRequest.Query.read ctx (some (operatorText .includesCommit c.text)) validate = .ok q ∧
          q.Finds m PullRequest.project PullRequest.id ctx.project (r.Includes (r.meant c)) ∧
          (q.Finds m PullRequest.project PullRequest.id ctx.project (r.Includes c) ↔
            ∀ n, r.Includes c n ↔ r.Includes (r.meant c) n)) ∧
      (∀ a ∈ r.history, a.text ≠ "" → ∀ b ∈ r.history, b.text ≠ "" →
        ∃ q, Issue.Query.read ctx
            (some (Wording.between ⟨.commit, a.text⟩ ⟨.commit, b.text⟩).text) validate = .ok q ∧
          q.Finds m Issue.project Issue.number ctx.project (r.FixedAfter (r.meant a) (r.meant b)) ∧
          (q.Finds m Issue.project Issue.number ctx.project (r.FixedAfter a b) ↔
            ∀ n, r.FixedAfter a b n ↔ r.FixedAfter (r.meant a) (r.meant b) n)) ∧
      ∀ c ∈ r.history, r.meant c = c ↔ ¬r.Eclipsed c := by
  refine ⟨fun c mem named => ?_, fun a mem named b mem' named' => ?_, fun c mem => meant_eq_iff mem⟩
  · obtain ⟨q, read, finds⟩ := read_includesCommit validate resolver relations mem named
    refine ⟨q, read, finds, finds.iff fun p n => ?_⟩
    exact ⟨⟨n, p, n, "", none, [], .pending, none, "", "", ⟨0, 0⟩, ⟨0, 0⟩⟩, rfl, rfl⟩
  · obtain ⟨q, read, finds⟩ := read_fixedBetween validate resolver relations mem named mem' named'
    refine ⟨q, read, finds, finds.iff fun p n => ?_⟩
    exact ⟨⟨n, p, n, "", none, [], "", none, none, ⟨0, 0⟩, ⟨0, 0⟩, 0, []⟩, rfl, rfl⟩

theorem commit_ids_exact_iff_eclipsed :
    let r := (((empty.addCommit ⟨"c10"⟩ [7]).addCommit ⟨"c1"⟩ [8]).addCommit ⟨"d2"⟩ [9]).addRequestCommit
      1 ⟨"c1"⟩
    let ctx : ReadContext := ⟨some "demo", Setting.demo, r.resolver, ⟨0, 0⟩⟩
    let m : MatchContext := ⟨none, none, Setting.demo, r.relations, ⟨0, 0⟩⟩
    let request : PullRequest :=
      ⟨1, "demo", 1, "t", none, [], .pending, none, "dev", "main", ⟨0, 0⟩, ⟨0, 0⟩⟩
    r.meant ⟨"d2"⟩ = ⟨"d2"⟩ ∧ r.Eclipsed ⟨"c1"⟩ ∧
      (∃ q, PullRequest.Query.read ctx (some "includes commit \"c1\"") true = .ok q ∧
        q.isSatisfied m request = false) ∧
      ∃ q, Issue.Query.read ctx (some "fixed between commit \"c10\" and commit \"d2\"") true = .ok q ∧
        q.Finds m Issue.project Issue.number (some "demo") (r.FixedAfter ⟨"c10"⟩ ⟨"d2"⟩) := by
  intro r ctx m request
  obtain ⟨including, between, exact_iff⟩ := commit_ids_exact_iff r ctx m true rfl rfl
  have eclipsed : r.Eclipsed ⟨"c1"⟩ := ⟨⟨"c10"⟩, 0, 1, rfl, rfl, by decide, by decide⟩
  have meant : r.meant ⟨"c1"⟩ = ⟨"c10"⟩ := by decide +kernel
  have first : r.meant ⟨"c10"⟩ = ⟨"c10"⟩ := by
    refine (exact_iff _ (by decide)).mpr fun h => ?_
    obtain ⟨_, i, j, _, position, earlier, _⟩ := h
    obtain rfl : 0 = j := Option.some.inj position
    exact Nat.not_lt_zero i earlier
  have last : r.meant ⟨"d2"⟩ = ⟨"d2"⟩ := by decide +kernel
  obtain ⟨q, read, finds, _⟩ := including ⟨"c1"⟩ (by decide) (by decide)
  obtain ⟨q', read', finds', _⟩ := between ⟨"c10"⟩ (by decide) (by decide) ⟨"d2"⟩ (by decide) (by decide)
  rw [meant] at finds
  rw [first, last] at finds'
  refine ⟨last, eclipsed, ⟨q, read, ?_⟩, q', read', finds'⟩
  have unrecorded : ¬r.Includes ⟨"c10"⟩ request.id := by
    unfold Includes
    decide
  exact Bool.eq_false_iff.mpr fun satisfied => unrecorded ((finds request).mp satisfied).2

-- The request is recorded with the commit that the query names, and the commit that fixes the issue
-- stands after the first one and is the last; neither is found, as a longer id stands in front.
theorem commit_ids_eclipsed :
    let r := (((empty.addCommit ⟨"a0"⟩ []).addCommit ⟨"c10"⟩ []).addCommit ⟨"c1"⟩ [8]).addRequestCommit
      1 ⟨"c1"⟩
    let ctx : ReadContext := ⟨some "demo", Setting.demo, r.resolver, ⟨0, 0⟩⟩
    let m : MatchContext := ⟨none, none, Setting.demo, r.relations, ⟨0, 0⟩⟩
    let request : PullRequest :=
      ⟨1, "demo", 1, "t", none, [], .pending, none, "dev", "main", ⟨0, 0⟩, ⟨0, 0⟩⟩
    let issue : Issue := ⟨8, "demo", 8, "t", none, [], "Open", none, none, ⟨0, 0⟩, ⟨0, 0⟩, 0, []⟩
    (⟨"c1"⟩ : CommitId) ∈ r.history ∧ r.Includes ⟨"c1"⟩ 1 ∧ r.FixedAfter ⟨"a0"⟩ ⟨"c1"⟩ 8 ∧
      (PullRequest.Query.read ctx (some "includes commit \"c1\"") true).map
        (·.isSatisfied m request) = .ok false ∧
      (Issue.Query.read ctx (some "fixed between commit \"a0\" and commit \"c1\"") true).map
        (·.isSatisfied m issue) = .ok false := by
  intro r ctx m request issue
  have included : r.Includes ⟨"c1"⟩ 1 := List.mem_singleton.mpr rfl
  have fixed : r.FixedAfter ⟨"a0"⟩ ⟨"c1"⟩ 8 :=
    ⟨0, 2, 2, ⟨"c1"⟩, rfl, rfl, rfl, by decide, by decide, by decide⟩
  exact ⟨by decide, included, fixed, by decide +kernel, by decide +kernel⟩

end Repository

end TrackerQuery
