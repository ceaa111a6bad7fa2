import TrackerQuery.Proofs.Query.Leaves
import TrackerQuery.Proofs.Sql.Truth

namespace TrackerQuery.Criteria

open Sql (Condition Database Scope)

variable {κ ε : Type}

def signedLeaves : Criteria κ → Bool → List κ :=
  fold (fun k even => if even then [k] else []) (fun each even => each.flatMap (· even))
    (fun each even => each.flatMap (· even)) (fun child even => child (!even))

def hasNegation : Criteria κ → Bool :=
  fold (fun _ => false) (·.any id) (·.any id) (fun _ => true)

-- The tree with an empty conjunction for each leaf that is granted where it stands.
def granted (grant : κ → Bool → Bool) : Criteria κ → Bool → Criteria κ :=
  fold (fun k even => if grant k even then .all [] else .leaf k)
    (fun each even => .all (each.map (· even))) (fun each even => .any (each.map (· even)))
    (fun child even => .negation (child (!even)))

structure Evaluation (value : Criteria κ → Option Bool) : Prop where
  all_true : ∀ cs, value (.all cs) = some true ↔ ∀ c ∈ cs, value c = some true
  all_false : ∀ cs, value (.all cs) = some false ↔ ∃ c ∈ cs, value c = some false
  any_true : ∀ cs, value (.any cs) = some true ↔ ∃ c ∈ cs, value c = some true
  any_false : ∀ cs, value (.any cs) = some false ↔ ∀ c ∈ cs, value c = some false
  negation : ∀ c b, value (.negation c) = some b ↔ value c = some !b

section

variable {c : Criteria κ} {cs : List (Criteria κ)} {k : κ} {even : Bool}

theorem mem_signedLeaves_leaf : k ∈ signedLeaves (.leaf j) even ↔ even = true ∧ k = j := by
  cases even <;> simp [signedLeaves]

theorem mem_signedLeaves_all :
    k ∈ signedLeaves (.all cs) even ↔ ∃ c ∈ cs, k ∈ c.signedLeaves even := by
  simp [signedLeaves]

theorem mem_signedLeaves_any :
    k ∈ signedLeaves (.any cs) even ↔ ∃ c ∈ cs, k ∈ c.signedLeaves even := by
  simp [signedLeaves]

theorem signedLeaves_negation : signedLeaves (.negation c) even = c.signedLeaves (!even) := rfl

theorem signedLeaves_subset (c : Criteria κ) (even : Bool) : c.signedLeaves even ⊆ c.leaves := by
  induction c using induction generalizing even with
  | leaf j => cases even <;> simp [signedLeaves, leaves]
  | all cs ih =>
    intro k mem
    obtain ⟨c, child, mem⟩ := mem_signedLeaves_all.mp mem
    exact mem_leaves_all.mpr ⟨c, child, ih c child even mem⟩
  | any cs ih =>
    intro k mem
    obtain ⟨c, child, mem⟩ := mem_signedLeaves_any.mp mem
    exact mem_leaves_any.mpr ⟨c, child, ih c child even mem⟩
  | negation c ih => exact ih (!even)

theorem signedLeaves_of_negationFree (free : c.hasNegation = false) : c.signedLeaves false = [] := by
  have each : ∀ {cs : List (Criteria κ)},
      (∀ c ∈ cs, c.hasNegation = false → c.signedLeaves false = []) →
      (cs.map hasNegation).any id = false →
      (cs.map signedLeaves).flatMap (· false) = [] := by
    intro cs ih free
    rw [List.flatMap_eq_nil_iff]
    intro _ listed
    obtain ⟨c, child, rfl⟩ := List.mem_map.mp listed
    rw [List.any_eq_false] at free
    exact ih c child (by simpa using free _ (List.mem_map_of_mem child))
  induction c using induction with
  | leaf k => rfl
  | all cs ih =>
    simp only [hasNegation, signedLeaves, fold_all] at free ⊢
    exact each ih free
  | any cs ih =>
    simp only [hasNegation, signedLeaves, fold_any] at free ⊢
    exact each ih free
  | negation c ih => cases free

end

namespace Evaluation

variable {value other : Criteria κ → Option Bool}

-- What one evaluation gives the other gives, if it does so at each leaf: of the leaves below an even
-- number of negations the same is asked as of the tree, of the others the opposite.
theorem carried (first : Evaluation value) (second : Evaluation other) (c : Criteria κ) (b : Bool)
    (leaf : ∀ even, ∀ k ∈ c.signedLeaves even,
      value (.leaf k) = some (even == b) → other (.leaf k) = some (even == b))
    (given : value c = some b) : other c = some b := by
  induction c using induction generalizing b with
  | leaf k =>
    have here := leaf true k (mem_signedLeaves_leaf.mpr ⟨rfl, rfl⟩)
    rw [Bool.true_beq] at here
    exact here given
  | all cs ih =>
    have child : ∀ c ∈ cs, value c = some b → other c = some b := fun c mem =>
      ih c mem b fun even k below => leaf even k (mem_signedLeaves_all.mpr ⟨c, mem, below⟩)
    cases b with
    | true =>
      have each := (first.all_true cs).mp given
      exact (second.all_true cs).mpr fun c mem => child c mem (each c mem)
    | false =>
      obtain ⟨c, mem, fails⟩ := (first.all_false cs).mp given
      exact (second.all_false cs).mpr ⟨c, mem, child c mem fails⟩
  | any cs ih =>
    have child : ∀ c ∈ cs, value c = some b → other c = some b := fun c mem =>
      ih c mem b fun even k below => leaf even k (mem_signedLeaves_any.mpr ⟨c, mem, below⟩)
    cases b with
    | true =>
      obtain ⟨c, mem, holds⟩ := (first.any_true cs).mp given
      exact (second.any_true cs).mpr ⟨c, mem, child c mem holds⟩
    | false =>
      have each := (first.any_false cs).mp given
      exact (second.any_false cs).mpr fun c mem => child c mem (each c mem)
  | negation c ih =>
    refine (second.negation c b).mpr (ih (!b) ?_ ((first.negation c b).mp given))
    intro even k mem
    have below := leaf (!even) k (by rwa [signedLeaves_negation, Bool.not_not])
    have turned : ((!even) == b) = (even == !b) := by cases even <;> cases b <;> rfl
    rwa [turned] at below

end Evaluation

section

variable [LeafKind κ ε] {ctx : MatchContext} {entity : ε} {db : Database} {scope : Scope}

theorem isSatisfied_evaluation :
    Evaluation fun c : Criteria κ => some (c.isSatisfied ctx entity) where
  all_true cs := by simp [isSatisfied]
  all_false cs := by simp [isSatisfied]
  any_true cs := by simp [isSatisfied]
  any_false cs := by simp [isSatisfied]
  negation c b := by
    simp only [isSatisfied, fold_negation, Option.some.injEq]
    exact Bool.not_eq_eq_eq_not

theorem truth_evaluation :
    Evaluation fun c : Criteria κ => (c.condition ctx).truth db scope where
  all_true cs := by simp [condition, Condition.conjunction_true]
  all_false cs := by simp [condition, Condition.conjunction_false]
  any_true cs := by simp [condition, Condition.disjunction_true]
  any_false cs := by simp [condition, Condition.disjunction_false]
  negation c b := Condition.negation_truth

-- On the row of the entity a leaf says what it says of the entity, or nothing if the entity lacks
-- what it asks for.
def FaithfulLeaf (ctx : MatchContext) (entity : ε) (db : Database) (scope : Scope) (lacks : κ → Bool)
    (k : κ) : Prop :=
  (LeafKind.condition ctx k).truth db scope =
      (if lacks k then none else some (LeafKind.holds ctx entity k)) ∧
    (lacks k = true → LeafKind.holds ctx entity k = false)

variable {lacks : κ → Bool} {c : Criteria κ} {cs : List (Criteria κ)} {even : Bool}

@[simp] theorem isSatisfied_all : (all cs).isSatisfied ctx entity = cs.all (isSatisfied ctx entity) := by
  simp [isSatisfied, List.all_map]

@[simp] theorem isSatisfied_any : (any cs).isSatisfied ctx entity = cs.any (isSatisfied ctx entity) := by
  simp [isSatisfied, List.any_map]

theorem isSatisfied_negation : (negation c).isSatisfied ctx entity = !c.isSatisfied ctx entity := rfl

@[simp] theorem granted_all {grant : κ → Bool → Bool} :
    (all cs).granted grant even = .all (cs.map fun c => c.granted grant even) := by
  simp [granted]

@[simp] theorem granted_any {grant : κ → Bool → Bool} :
    (any cs).granted grant even = .any (cs.map fun c => c.granted grant even) := by
  simp [granted]

theorem granted_negation {grant : κ → Bool → Bool} :
    (negation c).granted grant even = .negation (c.granted grant (!even)) := rfl

theorem truth_iff_granted {grant : κ → Bool → Bool}
    (leaf : ∀ k ∈ c.leaves, ∀ b, (LeafKind.condition ctx k).truth db scope = some b ↔
      (grant k b || LeafKind.holds ctx entity k) = b)
    (b : Bool) : (c.condition ctx).truth db scope = some b ↔
      (c.granted grant b).isSatisfied ctx entity = b := by
  induction c using induction generalizing b with
  | leaf k =>
    refine (leaf k (List.mem_singleton_self k) b).trans ?_
    cases granting : grant k b <;> simp [granted, granting, isSatisfied]
  | all cs ih =>
    have each c mem := ih c mem (fun k below => leaf k (mem_leaves_all.mpr ⟨c, mem, below⟩)) b
    cases b with
    | true => simpa [truth_evaluation.all_true cs] using forall₂_congr each
    | false => simpa [truth_evaluation.all_false cs] using exists_congr fun c => and_congr_right (each c)
  | any cs ih =>
    have each c mem := ih c mem (fun k below => leaf k (mem_leaves_any.mpr ⟨c, mem, below⟩)) b
    cases b with
    | true => simpa [truth_evaluation.any_true cs] using exists_congr fun c => and_congr_right (each c)
    | false => simpa [truth_evaluation.any_false cs] using forall₂_congr each
  | negation c ih =>
    rw [granted_negation, isSatisfied_negation, Bool.not_eq_eq_eq_not]
    exact (truth_evaluation.negation c b).trans (ih leaf (!b))

theorem FaithfulLeaf.truth_iff {k : κ} (faithful : FaithfulLeaf ctx entity db scope lacks k) (b : Bool) :
    (LeafKind.condition ctx k).truth db scope = some b ↔
      (!b && lacks k || LeafKind.holds ctx entity k) = b := by
  obtain ⟨said, absent⟩ := faithful
  rw [said]
  cases b <;> cases lacking : lacks k <;> simp [absent, lacking]

theorem isSatisfied_of_truth (faithful : ∀ k ∈ c.leaves, FaithfulLeaf ctx entity db scope lacks k)
    {b : Bool} (said : (c.condition ctx).truth db scope = some b) : c.isSatisfied ctx entity = b := by
  refine Option.some.inj (truth_evaluation.carried isSatisfied_evaluation c b ?_ said)
  intro even k mem leafSaid
  change (LeafKind.condition ctx k).truth db scope = some (even == b) at leafSaid
  rw [(faithful k (signedLeaves_subset c even mem)).1] at leafSaid
  split at leafSaid
  · cases leafSaid
  · exact leafSaid

theorem truth_iff_isSatisfied (faithful : ∀ k ∈ c.leaves, FaithfulLeaf ctx entity db scope lacks k)
    (present : ∀ k ∈ c.signedLeaves false, lacks k = false) :
    (c.condition ctx).truth db scope = some true ↔ c.isSatisfied ctx entity = true := by
  refine ⟨isSatisfied_of_truth faithful, fun satisfied => ?_⟩
  refine isSatisfied_evaluation.carried truth_evaluation c true ?_ (congrArg some satisfied)
  intro even k mem leafHolds
  obtain ⟨said, absent⟩ := faithful k (signedLeaves_subset c even mem)
  change some (LeafKind.holds ctx entity k) = some (even == true) at leafHolds
  have stands : lacks k = false := by
    cases even with
    | false => exact present k mem
    | true =>
      have holds : LeafKind.holds ctx entity k = true := Option.some.inj leafHolds
      cases lacking : lacks k with
      | false => rfl
      | true => rw [absent lacking] at holds; cases holds
  change (LeafKind.condition ctx k).truth db scope = some (even == true)
  rw [said, stands]
  exact leafHolds

end

end TrackerQuery.Criteria
