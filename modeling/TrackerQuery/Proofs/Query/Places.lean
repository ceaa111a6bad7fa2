import Mathlib.Data.List.Flatten
import TrackerQuery.Proofs.Query.Pruning

namespace TrackerQuery.Criteria

inductive Step where
  | operand (i : Nat)
  | negated
deriving DecidableEq, Repr

-- A leaf has its place below disjunctions, in one operand of each, and below negations. Conjunctions have
-- no part in it: one that loses an operand moves the others up, and a last one stands for the whole.
structure Placed (κ : Type) where
  place : List Step
  leaf : κ
deriving DecidableEq, Repr

def Placed.below (s : Step) (p : Placed κ) : Placed κ :=
  { p with place := s :: p.place }

def Placed.map (f : κ → κ) (p : Placed κ) : Placed κ :=
  { p with leaf := f p.leaf }

mutual

-- The leaves in their places, without those of a disjunction with a lost operand.
def standing (lost : Criteria κ → Bool) : Criteria κ → List (Placed κ)
  | .leaf k => [⟨[], k⟩]
  | .all cs => standingAll lost cs
  | .any cs => if cs.any lost then [] else standingAny lost 0 cs
  | .negation c => (standing lost c).map (.below .negated)

def standingAll (lost : Criteria κ → Bool) : List (Criteria κ) → List (Placed κ)
  | [] => []
  | c :: cs => standing lost c ++ standingAll lost cs

def standingAny (lost : Criteria κ → Bool) (i : Nat) : List (Criteria κ) → List (Placed κ)
  | [] => []
  | c :: cs => (standing lost c).map (.below (.operand i)) ++ standingAny lost (i + 1) cs

end

def placed (c : Criteria κ) : List (Placed κ) :=
  c.standing fun _ => false

def isLost (doomed : κ → Bool) : Criteria κ → Bool :=
  fold doomed (·.all id) (·.any id) id

variable {κ : Type} {doomed : κ → Bool} {lost : Criteria κ → Bool} {f : κ → κ} {c d : Criteria κ}
  {cs ds : List (Criteria κ)}

theorem standingAll_eq (lost : Criteria κ → Bool) (cs : List (Criteria κ)) :
    standingAll lost cs = cs.flatMap (standing lost) := by
  induction cs with
  | nil => rfl
  | cons c cs ih => rw [standingAll, ih, List.flatMap_cons]

theorem placed_all (cs : List (Criteria κ)) : (all cs).placed = cs.flatMap placed := by
  rw [placed, standing, standingAll_eq]
  rfl

theorem standingAny_eq (lost : Criteria κ → Bool) (i : Nat) (cs : List (Criteria κ)) :
    standingAny lost i cs =
      (cs.zipIdx i).flatMap fun p => (p.1.standing lost).map (.below (.operand p.2)) := by
  induction cs generalizing i with
  | nil => rfl
  | cons c cs ih => rw [standingAny, ih, List.zipIdx_cons, List.flatMap_cons]

theorem placed_any (cs : List (Criteria κ)) :
    (any cs).placed = cs.zipIdx.flatMap fun p => p.1.placed.map (.below (.operand p.2)) := by
  rw [placed, standing, standingAny_eq]
  simp [placed]

theorem placed_negation (c : Criteria κ) :
    (negation c).placed = c.placed.map (.below .negated) := rfl

theorem isLost_all (cs : List (Criteria κ)) : isLost doomed (.all cs) = cs.all (isLost doomed) := by
  simp [isLost]

theorem isLost_any (cs : List (Criteria κ)) : isLost doomed (.any cs) = cs.any (isLost doomed) := by
  simp [isLost]

theorem conjoined?_eq_none_iff : conjoined? cs = none ↔ cs = [] := by
  match cs with
  | [] => simp [conjoined?]
  | [_] => simp [conjoined?]
  | _ :: _ :: _ => simp [conjoined?]

theorem mapM_eq_none_iff {g : Criteria κ → Option (Criteria κ)} :
    cs.mapM g = none ↔ ∃ c ∈ cs, g c = none := by
  induction cs with
  | nil => simp
  | cons c cs ih =>
    rw [List.mapM_cons, List.exists_mem_cons_iff, ← ih]
    cases g c <;> cases cs.mapM g <;> simp

theorem kept?_eq_none_iff (c : Criteria κ) : c.kept? doomed = none ↔ c.isLost doomed = true := by
  induction c using induction with
  | leaf k => simp [kept?_leaf, isLost]
  | all cs ih =>
    rw [kept?_all, conjoined?_eq_none_iff, List.filterMap_eq_nil_iff, isLost_all, List.all_eq_true]
    exact forall₂_congr ih
  | any cs ih =>
    rw [kept?_any, Option.map_eq_none_iff, mapM_eq_none_iff, isLost_any, List.any_eq_true]
    exact exists_congr fun c => and_congr_right (ih c)
  | negation c ih =>
    rw [kept?_negation, Option.map_eq_none_iff, ih]
    rfl

theorem placed_conjoined? (cs : List (Criteria κ)) :
    (conjoined? cs).elim [] placed = cs.flatMap placed := by
  match cs with
  | [] => rfl
  | [_] => simp [conjoined?]
  | _ :: _ :: _ => exact placed_all _

theorem flatMap_filterMap (g : Criteria κ → Option (Criteria κ)) (h : Criteria κ → List β)
    (cs : List (Criteria κ)) :
    (cs.filterMap g).flatMap h = cs.flatMap fun c => (g c).elim [] h := by
  induction cs with
  | nil => rfl
  | cons c cs ih =>
    rw [List.flatMap_cons, ← ih]
    cases kept : g c with
    | none => rw [List.filterMap_cons_none kept]; rfl
    | some d => rw [List.filterMap_cons_some kept, List.flatMap_cons]; rfl

theorem filter_below (spared : κ → Bool) (s : Step) (ps : List (Placed κ)) :
    (ps.map (Placed.below s)).filter (fun p => spared p.leaf) =
      (ps.filter fun p => spared p.leaf).map (Placed.below s) := by
  rw [List.filter_map]
  rfl

theorem standingAny_kept? (spared : κ → Bool) (kept : cs.map (kept? doomed) = ds.map some)
    (each : ∀ c ∈ cs,
      (c.kept? doomed).elim [] placed = (c.standing lost).filter fun p => spared p.leaf) (i : Nat) :
    standingAny (fun _ => false) i ds =
      (standingAny lost i cs).filter fun p => spared p.leaf := by
  induction cs generalizing ds i with
  | nil =>
    obtain rfl := List.map_eq_nil_iff.mp kept.symm
    rfl
  | cons c cs ih =>
    obtain ⟨d, ds, rfl, first, more⟩ := List.map_eq_cons_iff.mp kept.symm
    obtain ⟨here, rest⟩ := List.forall_mem_cons.mp each
    rw [← first, Option.elim_some] at here
    rw [standingAny, standingAny, List.filter_append, filter_below, ← here, ih more.symm rest]
    rfl

-- What is left of a tree, if anything, are the leaves that stand and are not doomed, in their places.
theorem placed_kept? (doomed : κ → Bool) (c : Criteria κ) : (c.kept? doomed).elim [] placed =
    (c.standing (isLost doomed)).filter fun p => !doomed p.leaf := by
  induction c using induction with
  | leaf k =>
    rw [kept?_leaf]
    cases fate : doomed k <;> simp [standing, placed, fate]
  | all cs ih =>
    rw [kept?_all, placed_conjoined?, flatMap_filterMap, standing, standingAll_eq, List.filter_flatMap]
    exact List.flatMap_congr ih
  | any cs ih =>
    rw [kept?_any, standing]
    cases kept : cs.mapM (kept? doomed) with
    | none =>
      obtain ⟨c, mem, gone⟩ := mapM_eq_none_iff.mp kept
      have lost : cs.any (isLost doomed) = true :=
        List.any_eq_true.mpr ⟨c, mem, (kept?_eq_none_iff c).mp gone⟩
      rw [if_pos lost]
      rfl
    | some ds =>
      have whole : ¬cs.any (isLost doomed) = true := by
        intro lost
        obtain ⟨c, mem, gone⟩ := List.any_eq_true.mp lost
        have gone := mapM_eq_none_iff.mpr ⟨c, mem, (kept?_eq_none_iff c).mpr gone⟩
        simp [kept] at gone
      rw [if_neg whole, Option.map_some, Option.elim_some, placed_any]
      refine (standingAny_eq (fun _ => false) 0 ds).symm.trans ?_
      exact standingAny_kept? (fun k => !doomed k) (mapM_eq_some_iff.mp kept) ih 0
  | negation c ih =>
    rw [kept?_negation, standing, filter_below (fun k => !doomed k), ← ih]
    cases c.kept? doomed <;> rfl

theorem leaves_placed (c : Criteria κ) : c.placed.map (·.leaf) = c.leaves := by
  induction c using induction with
  | leaf k => rfl
  | all cs ih =>
    rw [placed_all, leaves_all, List.map_flatMap, List.flatMap_def]
    exact congrArg List.flatten (List.map_congr_left ih)
  | any cs ih =>
    rw [placed_any, leaves_any, List.map_flatMap]
    calc
      cs.zipIdx.flatMap (fun p => (p.1.placed.map (Placed.below (.operand p.2))).map Placed.leaf)
      _ = cs.zipIdx.flatMap fun p => p.1.leaves := List.flatMap_congr fun p mem => by
        rw [← ih p.1 (List.fst_mem_of_mem_zipIdx mem), List.map_map]
        rfl
      _ = (cs.zipIdx.map Prod.fst).flatMap leaves := by rw [List.flatMap_map]
      _ = (cs.map leaves).flatten := by rw [List.zipIdx_map_fst, List.flatMap_def]
  | negation c ih =>
    rw [placed_negation, leaves_negation, ← ih, List.map_map]
    rfl

theorem placed_map (f : κ → κ) (c : Criteria κ) : (c.map f).placed = c.placed.map (.map f) := by
  induction c using induction with
  | leaf k => rfl
  | all cs ih =>
    rw [map_all, placed_all, placed_all, List.flatMap_map, List.map_flatMap]
    exact List.flatMap_congr ih
  | any cs ih =>
    rw [map_any, placed_any, placed_any, List.zipIdx_map, List.flatMap_map, List.map_flatMap]
    refine List.flatMap_congr fun p mem => ?_
    rw [Prod.map_fst, ih p.1 (List.fst_mem_of_mem_zipIdx mem), List.map_map, List.map_map]
    rfl
  | negation c ih =>
    rw [map_negation, placed_negation, placed_negation, ih, List.map_map, List.map_map]
    rfl

theorem operand_of_mem {p : Placed κ} (child : c ∈ cs) (mem : p ∈ c.placed) :
    ∃ i, p.below (.operand i) ∈ (any cs).placed := by
  obtain ⟨i, found⟩ := List.getElem?_of_mem child
  rw [placed_any]
  exact ⟨i, List.mem_flatMap.mpr
    ⟨(c, i), List.mk_mem_zipIdx_iff_getElem?.mpr found, List.mem_map_of_mem mem⟩⟩

theorem standing_sublist (lost : Criteria κ → Bool) (c : Criteria κ) :
    (c.standing lost).Sublist c.placed := by
  induction c using induction with
  | leaf k => exact .refl _
  | all cs ih =>
    rw [standing, standingAll_eq, placed_all]
    exact .flatMap_right cs ih
  | any cs ih =>
    rw [standing, placed_any, standingAny_eq]
    by_cases gone : cs.any lost = true
    · rw [if_pos gone]
      exact List.nil_sublist _
    · rw [if_neg gone]
      exact .flatMap_right _ fun p mem => (ih p.1 (List.fst_mem_of_mem_zipIdx mem)).map _
  | negation c ih => exact ih.map _

end TrackerQuery.Criteria
