import Mathlib.Data.List.Nodup
import TrackerQuery.Issue.Upkeep
import TrackerQuery.Proofs.Query.Pruning

namespace TrackerQuery.Issue.Query

variable {P : Criterion → Bool} {field field' : String}

def Outcome.kept? (outcome : Outcome) : Option Query :=
  if outcome.discard then none else some outcome.query

theorem Outcome.kept?_eq_iff {outcome outcome' : Outcome} : outcome.kept? = outcome'.kept? ↔
    outcome.discard = outcome'.discard ∧
      (outcome.discard = false → outcome.query = outcome'.query) := by
  obtain ⟨discard, query⟩ := outcome
  obtain ⟨discard', query'⟩ := outcome'
  cases discard <;> cases discard' <;> simp [kept?]

theorem kept?_prune_some (c : Criteria Criterion) (sorts : List SortKey) :
    (prune P ⟨some c, sorts⟩).kept? = (c.kept? P).map fun c => ⟨some c, sorts⟩ := by
  unfold prune Outcome.kept? Criteria.kept?
  by_cases lost : (c.prune P).lost = true
  · rw [if_pos lost, if_pos lost]
    rfl
  · rw [if_neg lost, if_neg lost]
    rfl

-- An edit of the setting, as it goes through a query: it dooms some leaves, exchanges others and spares
-- some of the sorts.
structure Change where
  dooms : Criterion → Bool
  exchange : Criterion → Criterion
  spares : SortKey → Bool

namespace Change

variable {a b : Change} {changes changes' : List Change} {q q' : Query}

def rewrite (a : Change) (q : Query) : Query :=
  { q.mapLeaves a.exchange with sorts := q.sorts.filter a.spares }

def run? (a : Change) (q : Query) : Option Query :=
  (q.prune a.dooms).kept?.map a.rewrite

def runAll? (changes : List Change) (q : Query) : Option Query :=
  changes.foldlM (fun q a => a.run? q) q

def both (a b : Change) : Change where
  dooms k := a.dooms k || b.dooms k
  exchange := b.exchange ∘ a.exchange
  spares s := b.spares s && a.spares s

theorem run?_some (a : Change) (c : Criteria Criterion) (sorts : List SortKey) :
    a.run? ⟨some c, sorts⟩ =
      (c.kept? a.dooms).map fun c => ⟨some (c.map a.exchange), sorts.filter a.spares⟩ := by
  unfold run?
  rw [kept?_prune_some, Option.map_map]
  rfl

theorem run?_cases (run : a.run? q = some q') : q'.sorts = q.sorts.filter a.spares ∧
    (q.criteria = none ∧ q'.criteria = none ∨
      ∃ c d, q.criteria = some c ∧ c.kept? a.dooms = some d ∧
        q'.criteria = some (d.map a.exchange)) := by
  obtain ⟨_ | c, sorts⟩ := q
  · obtain rfl := Option.some.inj run
    exact ⟨rfl, .inl ⟨rfl, rfl⟩⟩
  · rw [run?_some] at run
    obtain ⟨d, kept, rfl⟩ := Option.map_eq_some_iff.mp run
    exact ⟨rfl, .inr ⟨c, d, rfl, kept, rfl⟩⟩

-- A leaf that is exchanged is as doomed by the second change as it was before.
theorem run?_run? (fate : ∀ k, b.dooms (a.exchange k) = b.dooms k) (q : Query) :
    (a.run? q).bind b.run? = (a.both b).run? q := by
  obtain ⟨_ | c, sorts⟩ := q
  · exact congrArg (fun sorts => some (⟨none, sorts⟩ : Query)) List.filter_filter
  · have second : ∀ c : Criteria Criterion,
        b.run? ⟨some (c.map a.exchange), sorts.filter a.spares⟩ =
          (c.kept? b.dooms).map fun c =>
            ⟨some (c.map (b.exchange ∘ a.exchange)), sorts.filter (a.both b).spares⟩ := by
      intro c
      rw [run?_some, Criteria.kept?_map fate, Option.map_map, List.filter_filter]
      exact congrArg (Option.map · _) (funext fun c => by rw [Function.comp, Criteria.map_map]; rfl)
    rw [run?_some, run?_some, Option.bind_map, both, ← Criteria.kept?_kept?, Option.map_bind]
    exact congrArg _ (funext second)

-- Neither change brings leaves under the other or out of its reach.
structure Apart (a b : Change) : Prop where
  fate : ∀ k, b.dooms (a.exchange k) = b.dooms k
  fate' : ∀ k, a.dooms (b.exchange k) = a.dooms k
  exchange : ∀ k, b.exchange (a.exchange k) = a.exchange (b.exchange k)

theorem run?_comm (apart : a.Apart b) (q : Query) :
    (a.run? q).bind b.run? = (b.run? q).bind a.run? := by
  have same : a.both b = b.both a := by
    unfold both
    congr 1
    · exact funext fun k => Bool.or_comm _ _
    · exact funext apart.exchange
    · exact funext fun s => Bool.and_comm _ _
  rw [run?_run? apart.fate, run?_run? apart.fate', same]

theorem runAll?_perm (perm : changes.Perm changes')
    (apart : ∀ a ∈ changes, ∀ b ∈ changes, a = b ∨ a.Apart b) (q : Query) :
    runAll? changes q = runAll? changes' q := by
  unfold runAll?
  rw [List.foldlM_eq_foldl, List.foldlM_eq_foldl]
  refine perm.foldl_eq' ?_ _
  intro a mem b mem' kept
  rcases apart a mem b mem' with rfl | apart
  · rfl
  · cases kept with
    | none => rfl
    | some q => exact run?_comm apart q

end Change

inductive Deletion where
  | field (name : String)
  | state (name : String)

def Deletion.apply : Deletion → Query → Outcome
  | .field name => deleteField name
  | .state name => deleteState name

def Deletion.change : Deletion → Change
  | .field name => ⟨fun k => k.customField? == some name, fun k => k, fun s => s.field != name⟩
  | .state name => ⟨isState name, fun k => k, fun _ => true⟩

def deleteAll? (deletions : List Deletion) (q : Query) : Option Query :=
  deletions.foldlM (fun q d => (d.apply q).kept?) q

def choiceChange (field : String) (edit : ChoiceEdit) : Change :=
  ⟨choosesDeleted field edit, renameChoice field edit, fun _ => true⟩

theorem kept?_prune_sorts (spares : SortKey → Bool) (q : Query) :
    (prune P { q with sorts := q.sorts.filter spares }).kept? =
      (Change.mk P (fun k => k) spares).run? q := by
  obtain ⟨_ | c, sorts⟩ := q
  · rfl
  · have same : ∀ c : Criteria Criterion, c.map (fun k => k) = c := Criteria.map_id
    simp only [Change.run?_some, kept?_prune_some, same]

theorem kept?_delete (d : Deletion) (q : Query) : (d.apply q).kept? = d.change.run? q := by
  cases d with
  | field name => exact kept?_prune_sorts _ q
  | state name =>
    have same := kept?_prune_sorts (P := isState name) (fun _ => true) q
    rwa [List.filter_true] at same

theorem kept?_editChoices (field : String) (edit : ChoiceEdit) (q : Query) :
    (q.editChoices field edit).kept? = (choiceChange field edit).run? q := by
  unfold editChoices Change.run? choiceChange Change.rewrite
  by_cases discard : (q.prune (choosesDeleted field edit)).discard = true
  · simp [Outcome.kept?, discard]
  · simp only [Outcome.kept?, if_neg discard, List.filter_true]
    rfl

theorem kept?_editAllChoices (edits : List (String × ChoiceEdit)) (q : Query) :
    (q.editAllChoices edits).kept? =
      Change.runAll? (edits.map fun entry => choiceChange entry.1 entry.2) q := by
  induction edits generalizing q with
  | nil => rfl
  | cons entry edits ih =>
    obtain ⟨field, edit⟩ := entry
    rw [editAllChoices, List.map_cons, Change.runAll?, List.foldlM_cons, ← kept?_editChoices]
    by_cases discard : (q.editChoices field edit).discard = true
    · simp [Outcome.kept?, discard]
    · rw [if_neg discard, ih, Outcome.kept?, if_neg discard]
      rfl

theorem deleteAll?_eq (deletions : List Deletion) (q : Query) :
    q.deleteAll? deletions = Change.runAll? (deletions.map Deletion.change) q := by
  unfold deleteAll? Change.runAll?
  rw [List.foldlM_map]
  exact congrArg (List.foldlM · q deletions) (funext fun q => funext fun d => kept?_delete d q)

theorem deletions_apart (d d' : Deletion) : d.change.Apart d'.change := by
  refine ⟨?_, ?_, ?_⟩ <;> intro k <;> cases d <;> cases d' <;> rfl

theorem choiceChanges_apart (other : field ≠ field') (edit edit' : ChoiceEdit) :
    (choiceChange field edit).Apart (choiceChange field' edit') := by
  have fate : ∀ {field field'} (edit edit' : ChoiceEdit), field ≠ field' → ∀ k,
      choosesDeleted field' edit' (renameChoice field edit k) = choosesDeleted field' edit' k := by
    intro field field' edit edit' other k
    cases k with
    | choiceField f value ordinal op =>
      by_cases same : f = field
      · simp [choosesDeleted, same, beq_eq_false_iff_ne.mpr other, renameChoice]
      · simp [choosesDeleted, renameChoice, same]
    | _ => rfl
  refine ⟨fate edit edit' other, fate edit' edit other.symm, ?_⟩
  intro k
  cases k with
  | choiceField f value ordinal op =>
    by_cases same : f = field
    · simp [choiceChange, renameChoice, same, other]
    · simp [choiceChange, renameChoice, same]
  | _ => rfl

theorem deleteAll?_perm {deletions deletions' : List Deletion} (perm : deletions.Perm deletions')
    (q : Query) : q.deleteAll? deletions = q.deleteAll? deletions' := by
  rw [deleteAll?_eq, deleteAll?_eq]
  refine Change.runAll?_perm (perm.map _) ?_ q
  intro a mem b mem'
  obtain ⟨d, _, rfl⟩ := List.mem_map.mp mem
  obtain ⟨d', _, rfl⟩ := List.mem_map.mp mem'
  exact .inr (deletions_apart d d')

theorem editAllChoices_perm {edits edits' : List (String × ChoiceEdit)} (perm : edits.Perm edits')
    (keyed : (edits.map Prod.fst).Nodup) (q : Query) :
    (q.editAllChoices edits).kept? = (q.editAllChoices edits').kept? := by
  rw [kept?_editAllChoices, kept?_editAllChoices]
  refine Change.runAll?_perm (perm.map _) ?_ q
  intro a mem b mem'
  obtain ⟨entry, listed, rfl⟩ := List.mem_map.mp mem
  obtain ⟨entry', listed', rfl⟩ := List.mem_map.mp mem'
  by_cases same : entry.1 = entry'.1
  · exact .inl (by rw [List.inj_on_of_nodup_map keyed listed listed' same])
  · exact .inr (choiceChanges_apart same entry.2 entry'.2)

-- Deletions add up, so it does not matter which comes first. The entries of a map of edits, each for
-- a field of its own, can be gone through in any order.
theorem deletions_compose :
    (∀ (P Q : Criterion → Bool) (c : Criteria Criterion),
        let first := c.prune P
        let second := first.left.prune Q
        let once := c.prune fun k => P k || Q k
        (first.lost || second.lost) = once.lost ∧ (once.lost = false → second.left = once.left)) ∧
      (∀ (deletions deletions' : List Deletion) (q : Query), deletions.Perm deletions' →
        q.deleteAll? deletions = q.deleteAll? deletions') ∧
      ∀ (edits edits' : List (String × ChoiceEdit)) (q : Query), edits.Perm edits' →
        (edits.map Prod.fst).Nodup →
          (q.editAllChoices edits).discard = (q.editAllChoices edits').discard ∧
            ((q.editAllChoices edits).discard = false →
              (q.editAllChoices edits).query = (q.editAllChoices edits').query) := by
  refine ⟨Criteria.prune_prune, fun _ _ q perm => deleteAll?_perm perm q, ?_⟩
  intro edits edits' q perm keyed
  exact Outcome.kept?_eq_iff.mp (editAllChoices_perm perm keyed q)

theorem deletions_compose_priority :
    let c : Criteria Criterion := .all [.leaf (.choiceField "Priority" "High" 2 .is),
      .leaf (.state "state" "Open"), .leaf (.choiceField "Type" "Bug" 0 .is)]
    let q : Query := ⟨some c, [⟨"Priority", .ascending⟩]⟩
    let left : Criteria Criterion := .leaf (.choiceField "Type" "Bug" 0 .is)
    let rename : String × ChoiceEdit := ("Priority", ⟨[("High", "Top")], ["Low"]⟩)
    let delete : String × ChoiceEdit := ("Type", ⟨[], ["Bug"]⟩)
    ((c.prune (isState "Open")).left.prune fun k => k.customField? == some "Priority").left = left ∧
      q.deleteAll? [.field "Priority", .state "Open"] = some ⟨some left, []⟩ ∧
      q.deleteAll? [.state "Open", .field "Priority"] = some ⟨some left, []⟩ ∧
      (q.editAllChoices [rename, delete]).discard = false ∧
      (q.editAllChoices [delete, rename]).discard = false ∧
      (q.editAllChoices [rename, delete]).query = (q.editAllChoices [delete, rename]).query := by
  intro c q left rename delete
  obtain ⟨pruned, deleted, edited⟩ := deletions_compose
  have twice := (pruned (isState "Open") (fun k => k.customField? == some "Priority") c).2 (by decide)
  have one : q.deleteAll? [.field "Priority", .state "Open"] = some ⟨some left, []⟩ := by decide
  have other := deleted [.field "Priority", .state "Open"] [.state "Open", .field "Priority"] q
    (.swap _ _ [])
  obtain ⟨verdict, query⟩ := edited [rename, delete] [delete, rename] q (.swap _ _ []) (by decide)
  have kept : (q.editAllChoices [rename, delete]).discard = false := by decide
  exact ⟨twice.trans (by decide), one, other.symm.trans one, kept, verdict.symm.trans kept, query kept⟩

end TrackerQuery.Issue.Query
