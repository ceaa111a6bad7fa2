import Mathlib.Logic.Basic
import TrackerQuery.Criteria

namespace TrackerQuery.Criteria

variable {κ β : Type} {f g : κ → κ} {leaf leaf' : κ → β} {combine combine' : List β → β}
  {negate : β → β} {c : Criteria κ} {cs : List (Criteria κ)} {k : κ}

theorem leaves_all : (all cs).leaves = (cs.map leaves).flatten := by
  simp [leaves]

theorem leaves_any : (any cs).leaves = (cs.map leaves).flatten := by
  simp [leaves]

theorem leaves_negation : (negation c).leaves = c.leaves := rfl

theorem mem_leaves_all : k ∈ (all cs).leaves ↔ ∃ c ∈ cs, k ∈ c.leaves := by
  simp [leaves_all]

theorem mem_leaves_any : k ∈ (any cs).leaves ↔ ∃ c ∈ cs, k ∈ c.leaves := by
  simp [leaves_any]

theorem fold_congr (same : ∀ k ∈ c.leaves, leaf k = leaf' k) :
    fold leaf combine combine' negate c = fold leaf' combine combine' negate c := by
  induction c using induction with
  | leaf k => exact same k (List.mem_singleton_self k)
  | all cs ih =>
    rw [fold_all, fold_all]
    refine congrArg combine (List.map_congr_left fun c mem => ih c mem fun k below => ?_)
    exact same k (mem_leaves_all.mpr ⟨c, mem, below⟩)
  | any cs ih =>
    rw [fold_any, fold_any]
    refine congrArg combine' (List.map_congr_left fun c mem => ih c mem fun k below => ?_)
    exact same k (mem_leaves_any.mpr ⟨c, mem, below⟩)
  | negation c ih => exact congrArg negate (ih same)

@[simp] theorem map_leaf (k : κ) : map f (.leaf k) = .leaf (f k) := rfl

@[simp] theorem map_all (cs : List (Criteria κ)) : map f (.all cs) = .all (cs.map (map f)) := by
  simp [map]

@[simp] theorem map_any (cs : List (Criteria κ)) : map f (.any cs) = .any (cs.map (map f)) := by
  simp [map]

@[simp] theorem map_negation (c : Criteria κ) : map f (.negation c) = .negation (c.map f) := rfl

theorem map_id (c : Criteria κ) : c.map id = c := by
  induction c using induction with
  | leaf k => rfl
  | all cs ih => rw [map_all, List.map_congr_left ih, List.map_id']
  | any cs ih => rw [map_any, List.map_congr_left ih, List.map_id']
  | negation c ih => rw [map_negation, ih]

theorem fold_map (f : κ → κ) (c : Criteria κ) :
    fold leaf combine combine' negate (c.map f) =
      fold (leaf ∘ f) combine combine' negate c := by
  induction c using induction with
  | leaf k => rfl
  | all cs ih =>
    rw [map_all, fold_all, fold_all, List.map_map]
    exact congrArg combine (List.map_congr_left ih)
  | any cs ih =>
    rw [map_any, fold_any, fold_any, List.map_map]
    exact congrArg combine' (List.map_congr_left ih)
  | negation c ih => exact congrArg negate ih

theorem map_map (f g : κ → κ) (c : Criteria κ) : (c.map f).map g = c.map (g ∘ f) :=
  fold_map f c

theorem map_congr (same : ∀ k ∈ c.leaves, f k = g k) : c.map f = c.map g :=
  fold_congr fun k mem => congrArg Criteria.leaf (same k mem)

theorem map_restores (back : ∀ k ∈ c.leaves, g (f k) = k) : (c.map f).map g = c := by
  have each : ∀ k ∈ c.leaves, (g ∘ f) k = id k := back
  rw [map_map, map_congr each, map_id]

theorem leaves_map (f : κ → κ) (c : Criteria κ) : (c.map f).leaves = c.leaves.map f := by
  have each : ∀ {cs : List (Criteria κ)}, (∀ c ∈ cs, (c.map f).leaves = c.leaves.map f) →
      ((cs.map (map f)).map leaves).flatten = (cs.map leaves).flatten.map f := by
    intro cs ih
    rw [List.map_flatten, List.map_map, List.map_map]
    exact congrArg List.flatten (List.map_congr_left ih)
  induction c using induction with
  | leaf k => rfl
  | all cs ih =>
    rw [map_all, leaves, fold_all, fold_all]
    exact each ih
  | any cs ih =>
    rw [map_any, leaves, fold_any, fold_any]
    exact each ih
  | negation c ih => exact ih

end TrackerQuery.Criteria
