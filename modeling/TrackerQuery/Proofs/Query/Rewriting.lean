import TrackerQuery.Proofs.Query.Pruning
import TrackerQuery.Proofs.Query.Writing

namespace TrackerQuery

namespace Criteria

variable {κ β : Type} {f : κ → κ} {P Q : κ → Prop} {doomed : κ → Bool}
  {c d : Criteria κ}

theorem isComposite_map (c : Criteria κ) : (c.map f).isComposite = c.isComposite := by
  cases c <;> simp [isComposite]

theorem text_map [LeafKind κ ε] (same : ∀ k, LeafKind.text (f k) = LeafKind.text k)
    (c : Criteria κ) : (c.map f).text = c.text := by
  have operands : ∀ {cs : List (Criteria κ)}, (∀ c ∈ cs, (c.map f).text = c.text) →
      operandTexts (cs.map (map f)) = operandTexts cs := by
    intro cs ih
    rw [operandTexts_eq_map, operandTexts_eq_map, List.map_map]
    refine List.map_congr_left fun c mem => ?_
    simp only [Function.comp, operandText, isComposite_map, ih c mem]
  induction c using induction with
  | leaf k => exact same k
  | all cs ih => rw [map_all, text, text, operands ih]
  | any cs ih => rw [map_any, text, text, operands ih]
  | negation c ih => rw [map_negation, text, text, ih]

namespace WellFormed

theorem map (h : c.WellFormed P) (each : ∀ k, P k → Q (f k)) : (c.map f).WellFormed Q := by
  induction h with
  | leaf h => exact .leaf (each _ h)
  | all two _ ih =>
    rw [map_all]
    exact .all (by simpa using two) (by simpa using ih)
  | any two _ ih =>
    rw [map_any]
    exact .any (by simpa using two) (by simpa using ih)
  | negation _ ih => exact .negation ih

theorem leaves (h : c.WellFormed P) : ∀ k ∈ c.leaves, P k := by
  induction h with
  | leaf h => simpa [Criteria.leaves] using h
  | all _ _ ih =>
    intro k mem
    obtain ⟨c, child, below⟩ := mem_leaves_all.mp mem
    exact ih c child k below
  | any _ _ ih =>
    intro k mem
    obtain ⟨c, child, below⟩ := mem_leaves_any.mp mem
    exact ih c child k below
  | negation _ ih => exact ih

theorem fold_map {leaf : κ → β} {all any : List β → β} {negation : β → β} (h : c.WellFormed P)
    (same : ∀ k, P k → leaf (f k) = leaf k) :
    fold leaf all any negation (c.map f) = fold leaf all any negation c := by
  rw [Criteria.fold_map]
  exact fold_congr fun k mem => same k (h.leaves k mem)

theorem of_leaves (h : c.WellFormed P) (each : ∀ k ∈ c.leaves, Q k) : c.WellFormed Q := by
  induction h with
  | leaf => exact .leaf (each _ List.mem_cons_self)
  | all two _ ih =>
    refine .all two fun c child => ih c child fun k below => ?_
    exact each k (mem_leaves_all.mpr ⟨c, child, below⟩)
  | any two _ ih =>
    refine .any two fun c child => ih c child fun k below => ?_
    exact each k (mem_leaves_any.mpr ⟨c, child, below⟩)
  | negation _ ih => exact .negation (ih each)

end WellFormed

theorem WellFormed.kept? (h : c.WellFormed P) (kept : c.kept? doomed = some d) :
    d.WellFormed fun k => P k ∧ doomed k = false := by
  induction h generalizing d with
  | leaf h =>
    rw [kept?_leaf] at kept
    obtain ⟨spared, same⟩ := Option.ite_none_left_eq_some.mp kept
    obtain rfl := Option.some.inj same
    exact .leaf ⟨h, by simpa using spared⟩
  | @all cs _ _ ih =>
    have each : ∀ d ∈ cs.filterMap (Criteria.kept? doomed),
        d.WellFormed fun k => P k ∧ doomed k = false := by
      intro d mem
      obtain ⟨c, child, kept⟩ := List.mem_filterMap.mp mem
      exact ih c child kept
    rw [kept?_all] at kept
    match cs.filterMap (Criteria.kept? doomed), each, kept with
    | [d], each, rfl => exact each d List.mem_cons_self
    | _ :: _ :: _, each, rfl => exact .all (by simp) each
  | any two _ ih =>
    rw [kept?_any] at kept
    obtain ⟨ds, all, rfl⟩ := Option.map_eq_some_iff.mp kept
    obtain ⟨length, each⟩ := each_of_mapM all
    refine .any (length ▸ two) fun d mem => ?_
    obtain ⟨c, child, kept⟩ := each d mem
    exact ih c child kept
  | negation _ ih =>
    rw [kept?_negation] at kept
    obtain ⟨d, below, rfl⟩ := Option.map_eq_some_iff.mp kept
    exact .negation (ih below)

theorem WellFormed.prune (h : c.WellFormed P) (kept : (c.prune doomed).lost = false) :
    (c.prune doomed).left.WellFormed fun k => P k ∧ doomed k = false :=
  h.kept? (by rw [Criteria.kept?, kept, if_neg Bool.false_ne_true])

end Criteria

-- No entity, no row and no reader tells the two queries apart in the setting.
structure Query.Alike [LeafKind κ ε] (setting : Setting) (q q' : Query κ) : Prop where
  text : q.text = q'.text
  sorts : q.sorts = q'.sorts
  needsLogin : q.needsLogin = q'.needsLogin
  isSatisfied : ∀ ctx : MatchContext, ctx.setting = setting → ∀ entity : ε,
    q.isSatisfied ctx entity = q'.isSatisfied ctx entity
  select : ∀ ctx : MatchContext, ctx.setting = setting → q.select ctx = q'.select ctx

theorem Query.Alike.refl [LeafKind κ ε] (q : Query κ) : q.Alike setting q :=
  ⟨rfl, rfl, rfl, fun _ _ _ => rfl, fun _ _ => rfl⟩

theorem Query.text_map [LeafKind κ ε] {f : κ → κ}
    (same : ∀ k, LeafKind.text (f k) = LeafKind.text k) (q : Query κ) :
    Query.text { q with criteria := q.criteria.map (Criteria.map f) } = q.text := by
  obtain ⟨criteria, sorts⟩ := q
  cases criteria with
  | none => rfl
  | some c => simp [Query.text, Criteria.text_map same]

theorem Query.needsLogin_map [LeafKind κ ε] {f : κ → κ}
    (same : ∀ k, LeafKind.needsLogin (f k) = LeafKind.needsLogin k) (q : Query κ) :
    Query.needsLogin { q with criteria := q.criteria.map (Criteria.map f) } = q.needsLogin := by
  obtain ⟨criteria, sorts⟩ := q
  cases criteria with
  | none => rfl
  | some c =>
    show (c.map f).needsLogin = c.needsLogin
    rw [Criteria.needsLogin, Criteria.fold_map]
    exact Criteria.fold_congr fun k _ => same k

theorem Query.alike_map [LeafKind κ ε] {P : κ → Prop} {f : κ → κ} {q : Query κ}
    (h : ∀ c ∈ q.criteria, c.WellFormed P) (text : ∀ k, LeafKind.text (f k) = LeafKind.text k)
    (needsLogin : ∀ k, LeafKind.needsLogin (f k) = LeafKind.needsLogin k)
    (holds : ∀ ctx : MatchContext, ctx.setting = setting → ∀ (entity : ε) k, P k →
      LeafKind.holds ctx entity (f k) = LeafKind.holds ctx entity k)
    (condition : ∀ ctx : MatchContext, ctx.setting = setting → ∀ k, P k →
      LeafKind.condition ctx (f k) = LeafKind.condition ctx k) :
    Query.Alike setting { q with criteria := q.criteria.map (Criteria.map f) } q := by
  obtain ⟨criteria, sorts⟩ := q
  cases criteria with
  | none => exact .refl _
  | some c =>
    have wellFormed := h c rfl
    refine ⟨Query.text_map text _, rfl, Query.needsLogin_map needsLogin _, ?_, ?_⟩
    · intro ctx same entity
      exact wellFormed.fold_map (holds ctx same entity)
    · intro ctx same
      have conditions : (c.map f).condition ctx = c.condition ctx :=
        wellFormed.fold_map (condition ctx same)
      simp [Query.select, Query.condition, conditions]

end TrackerQuery
