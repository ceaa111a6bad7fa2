import TrackerQuery.Proofs.Issue.Change
import TrackerQuery.Proofs.Query.Evaluation
import TrackerQuery.Proofs.Query.Rewriting
import TrackerQuery.Repository

namespace TrackerQuery

namespace Criteria

-- No conjunction stands below an odd number of negations, those above the tree being even or odd.
inductive EvenConjunctions : Criteria κ → Bool → Prop where
  | leaf {k even} : EvenConjunctions (leaf k) even
  | all {cs} (each : ∀ c ∈ cs, EvenConjunctions c true) : EvenConjunctions (all cs) true
  | any {cs even} (each : ∀ c ∈ cs, EvenConjunctions c even) : EvenConjunctions (any cs) even
  | negation {c even} (below : EvenConjunctions c (!even)) : EvenConjunctions (negation c) even

variable {κ ε : Type} [LeafKind κ ε] {ctx : MatchContext} {entity : ε} {doomed : κ → Bool}
  {c d : Criteria κ} {cs : List (Criteria κ)} {even : Bool}

theorem isSatisfied_conjoined? (joined : conjoined? cs = some d) :
    d.isSatisfied ctx entity = cs.all (isSatisfied ctx entity) := by
  match cs, joined with
  | [c], rfl => simp
  | _ :: _ :: _, rfl => exact isSatisfied_all

-- What is true of the tree stays true above an even number of negations, what is false stays false
-- above an odd number: a negation turns the one into the other.
theorem isSatisfied_kept? (h : c.EvenConjunctions even) (kept : c.kept? doomed = some d)
    (given : c.isSatisfied ctx entity = even) : d.isSatisfied ctx entity = even := by
  induction h generalizing d with
  | leaf =>
    rw [kept?_leaf] at kept
    obtain ⟨_, same⟩ := Option.ite_none_left_eq_some.mp kept
    obtain rfl := Option.some.inj same
    exact given
  | all _ ih =>
    rw [kept?_all] at kept
    rw [isSatisfied_all, List.all_eq_true] at given
    rw [isSatisfied_conjoined? kept, List.all_eq_true]
    intro d mem
    obtain ⟨c, child, kept⟩ := List.mem_filterMap.mp mem
    exact ih c child kept (given c child)
  | @any cs even _ ih =>
    rw [kept?_any] at kept
    obtain ⟨ds, all, rfl⟩ := Option.map_eq_some_iff.mp kept
    rw [isSatisfied_any] at given ⊢
    cases even with
    | true =>
      obtain ⟨c, child, holds⟩ := List.any_eq_true.mp given
      obtain ⟨d, child', kept⟩ := partner_of_mapM all child
      exact List.any_eq_true.mpr ⟨d, child', ih c child kept holds⟩
    | false =>
      rw [List.any_eq_false] at given ⊢
      intro d mem
      obtain ⟨c, child, kept⟩ := (each_of_mapM all).2 d mem
      simpa using ih c child kept (by simpa using given c child)
  | negation _ ih =>
    rw [kept?_negation] at kept
    obtain ⟨d, below, rfl⟩ := Option.map_eq_some_iff.mp kept
    rw [isSatisfied_negation, Bool.not_eq_eq_eq_not] at given ⊢
    exact ih below given

theorem kept?_of_spared (h : c.WellFormed fun k => doomed k = false) : c.kept? doomed = some c := by
  induction h with
  | leaf spared => simp [kept?_leaf, spared]
  | @all cs two _ ih =>
    rw [kept?_all, List.filterMap_congr ih, List.filterMap_some]
    match cs, two with
    | _ :: _ :: _, _ => rfl
  | any _ _ ih =>
    rw [kept?_any, mapM_eq_some_iff.mpr (List.map_congr_left ih), Option.map_some]
  | negation _ ih => rw [kept?_negation, ih, Option.map_some]

end Criteria

namespace Issue.Query

inductive Deletes (q : Query) : Outcome → Prop where
  | field (name : String) : Deletes q (q.deleteField name)
  | state (name : String) : Deletes q (q.deleteState name)
  | choices (field : String) (values : List String) : Deletes q (q.editChoices field ⟨[], values⟩)

variable {q q' : Query} {outcome : Outcome} {ctx : MatchContext} {issue : Issue}

theorem Outcome.kept?_of_kept (kept : outcome.discard = false) : outcome.kept? = some outcome.query :=
  if_neg (by simp [kept])

theorem renameChoice_nothing (field : String) (values : List String) (k : Criterion) :
    renameChoice field ⟨[], values⟩ k = k := by
  cases k <;> simp [renameChoice]

theorem Deletes.change (h : q.Deletes outcome) :
    ∃ a : Change, (∀ k, a.exchange k = k) ∧ outcome.kept? = a.run? q := by
  cases h with
  | field name => exact ⟨(Deletion.field name).change, fun _ => rfl, kept?_delete (.field name) q⟩
  | state name => exact ⟨(Deletion.state name).change, fun _ => rfl, kept?_delete (.state name) q⟩
  | choices field values =>
    exact ⟨choiceChange field ⟨[], values⟩, renameChoice_nothing field values,
      kept?_editChoices field ⟨[], values⟩ q⟩

theorem isSatisfied_run? {a : Change} (same : ∀ k, a.exchange k = k) (run : a.run? q = some q')
    (even : ∀ c ∈ q.criteria, c.EvenConjunctions true) (satisfied : q.isSatisfied ctx issue = true) :
    q'.isSatisfied ctx issue = true := by
  unfold TrackerQuery.Query.isSatisfied at satisfied ⊢
  rcases (Change.run?_cases run).2 with ⟨_, none⟩ | ⟨c, d, found, kept, found'⟩
  · rw [none]
    rfl
  · have unchanged : d.map a.exchange = d := (Criteria.map_congr fun k _ => same k).trans d.map_id
    rw [found] at satisfied
    rw [found', unchanged]
    exact Criteria.isSatisfied_kept? (even c found) kept satisfied

-- What is left of a tree that is not lost has none of the doomed leaves and no new ones, and it is true
-- wherever the tree was, if conjunctions stand above even numbers of negations only. Nothing is done
-- to a tree without doomed leaves. So a query that a deletion does not discard finds what it found.
theorem deletions_widen :
    (∀ (doomed : Criterion → Bool) (c : Criteria Criterion), (c.prune doomed).lost = false →
        let left := (c.prune doomed).left
        left.leaves.Sublist c.leaves ∧ (∀ k ∈ left.leaves, doomed k = false) ∧
          (c.EvenConjunctions true → ∀ (ctx : MatchContext) (issue : Issue),
            c.isSatisfied ctx issue = true → left.isSatisfied ctx issue = true)) ∧
      (∀ (doomed : Criterion → Bool) (c : Criteria Criterion),
        c.WellFormed (fun k => doomed k = false) →
          (c.prune doomed).lost = false ∧ (c.prune doomed).left = c) ∧
      ∀ (q : Query) (outcome : Outcome), q.Deletes outcome → outcome.discard = false →
        (∀ c ∈ q.criteria, c.EvenConjunctions true) → ∀ (ctx : MatchContext) (issue : Issue),
          q.isSatisfied ctx issue = true → outcome.query.isSatisfied ctx issue = true := by
  refine ⟨?_, ?_, ?_⟩
  · intro doomed c spared left
    have kept : c.kept? doomed = some left := Criteria.kept?_eq_some_iff.mpr ⟨spared, rfl⟩
    obtain ⟨sublist, clean⟩ := Criteria.leaves_kept? kept
    exact ⟨sublist, clean, fun even ctx issue => Criteria.isSatisfied_kept? even kept⟩
  · intro doomed c spared
    exact Criteria.kept?_eq_some_iff.mp (Criteria.kept?_of_spared spared)
  · intro q outcome deletes kept even ctx issue satisfied
    obtain ⟨a, same, run⟩ := deletes.change
    rw [Outcome.kept?_of_kept kept] at run
    exact isSatisfied_run? same run.symm even satisfied

theorem deletions_widen_twice :
    let bug : Criteria Criterion := .leaf (.choiceField "Type" "Bug" 0 .is)
    let high : Criteria Criterion := .leaf (.choiceField "Priority" "High" 2 .is)
    let c : Criteria Criterion :=
      .negation (.any [.negation (.all [bug, high]), .leaf (.state "state" "Closed")])
    let left : Criteria Criterion := .negation (.any [.negation bug, .leaf (.state "state" "Closed")])
    let q : Query := ⟨some c, [⟨"Priority", .ascending⟩]⟩
    let ctx : MatchContext := ⟨none, none, Setting.demo, Repository.empty.relations, ⟨0, 0⟩⟩
    let issue : Issue := ⟨1, "demo", 1, "t", none, [], "Open", none, none, ⟨0, 0⟩, ⟨0, 0⟩, 0,
      [⟨"Type", some "Bug", 0⟩, ⟨"Priority", some "High", 2⟩]⟩
    c.EvenConjunctions true ∧ q.Deletes (q.deleteField "Priority") ∧
      (q.deleteField "Priority").discard = false ∧ (q.deleteField "Priority").query = ⟨some left, []⟩ ∧
      q.isSatisfied ctx issue = true ∧ (q.deleteField "Priority").query.isSatisfied ctx issue = true ∧
      (∀ k ∈ left.leaves, (k.customField? == some "Priority") = false) ∧
      left.WellFormed (fun k => (k.customField? == some "Priority") = false) ∧
      (left.prune fun k => k.customField? == some "Priority").left = left := by
  intro bug high c left q ctx issue
  obtain ⟨trees, clean, queries⟩ := deletions_widen
  have even : c.EvenConjunctions true := by
    refine .negation (.any fun d mem => ?_)
    rcases List.mem_pair.mp mem with rfl | rfl
    · refine .negation (.all fun d mem => ?_)
      rcases List.mem_pair.mp mem with rfl | rfl <;> exact .leaf
    · exact .leaf
  have kept : (c.prune fun k => k.customField? == some "Priority").lost = false := by decide
  have pruned : (c.prune fun k => k.customField? == some "Priority").left = left := by decide
  have spared := (trees _ c kept).2.1
  rw [pruned] at spared
  have wellFormed : left.WellFormed fun k => (k.customField? == some "Priority") = false := by
    refine Criteria.WellFormed.of_leaves (P := fun _ => True) ?_ spared
    refine .negation (.any (by decide) fun d mem => ?_)
    rcases List.mem_pair.mp mem with rfl | rfl
    · exact .negation (.leaf trivial)
    · exact .leaf trivial
  have deletes : q.Deletes (q.deleteField "Priority") := .field "Priority"
  have found : q.isSatisfied ctx issue = true := by decide +kernel
  have even' : ∀ c ∈ q.criteria, c.EvenConjunctions true := by
    intro c mem
    obtain rfl := Option.some.inj mem
    exact even
  exact ⟨even, deletes, by decide, by decide, found,
    queries q _ deletes (by decide) even' ctx issue found, spared, wellFormed,
    (clean _ left wellFormed).2⟩

end Issue.Query

end TrackerQuery
