import Mathlib.Data.List.Basic
import TrackerQuery.Proofs.Query.Leaves

namespace TrackerQuery.Criteria

variable {κ : Type} {doomed : κ → Bool} {f : κ → κ} {c : Criteria κ} {cs : List (Criteria κ)}

def kept? (doomed : κ → Bool) (c : Criteria κ) : Option (Criteria κ) :=
  if (c.prune doomed).lost then none else some (c.prune doomed).left

def conjoined? : List (Criteria κ) → Option (Criteria κ)
  | [] => none
  | [c] => some c
  | c :: d :: cs => some (.all (c :: d :: cs))

theorem kept?_eq_some_iff {d : Criteria κ} :
    c.kept? doomed = some d ↔ (c.prune doomed).lost = false ∧ (c.prune doomed).left = d := by
  simp [kept?]

theorem survivors_eq (doomed : κ → Bool) (cs : List (Criteria κ)) :
    survivors doomed cs = cs.filterMap (kept? doomed) := by
  induction cs with
  | nil => rfl
  | cons c cs ih =>
    rw [survivors, List.filterMap_cons, kept?, ih]
    by_cases lost : (c.prune doomed).lost = true
    · rw [if_pos lost, if_pos lost]
    · rw [if_neg lost, if_neg lost]

theorem pruneUntilLost_eq (doomed : κ → Bool) (cs : List (Criteria κ)) :
    (if (pruneUntilLost doomed cs).1 then none else some (pruneUntilLost doomed cs).2) =
      cs.mapM (kept? doomed) := by
  induction cs with
  | nil => rfl
  | cons c cs ih =>
    rw [List.mapM_cons, ← ih, kept?, pruneUntilLost]
    by_cases lost : (c.prune doomed).lost = true
    · simp [lost]
    · rw [if_neg lost, if_neg lost]
      by_cases lost' : (pruneUntilLost doomed cs).1 = true
      · simp [lost']
      · simp [lost']

theorem kept?_leaf (k : κ) : kept? doomed (.leaf k) = if doomed k then none else some (.leaf k) := rfl

theorem kept?_all (cs : List (Criteria κ)) :
    kept? doomed (.all cs) = conjoined? (cs.filterMap (kept? doomed)) := by
  rw [kept?, prune, ← survivors_eq]
  match survivors doomed cs with
  | [] => rfl
  | [_] => rfl
  | _ :: _ :: _ => rfl

theorem kept?_any (cs : List (Criteria κ)) :
    kept? doomed (.any cs) = (cs.mapM (kept? doomed)).map .any := by
  rw [← pruneUntilLost_eq, kept?, prune]
  by_cases lost : (pruneUntilLost doomed cs).1 = true
  · simp [lost]
  · simp [lost]

theorem kept?_negation (c : Criteria κ) :
    kept? doomed (.negation c) = (c.kept? doomed).map .negation := by
  rw [kept?, prune, kept?]
  by_cases lost : (c.prune doomed).lost = true
  · simp [lost]
  · simp [lost]

theorem conjoined?_bind (doomed : κ → Bool) (cs : List (Criteria κ)) :
    (conjoined? cs).bind (kept? doomed) = conjoined? (cs.filterMap (kept? doomed)) := by
  match cs with
  | [] => rfl
  | [c] =>
    rw [conjoined?, Option.bind_some]
    cases kept : c.kept? doomed with
    | none => rw [List.filterMap_cons_none kept]; rfl
    | some d => rw [List.filterMap_cons_some kept]; rfl
  | c :: d :: cs => rw [conjoined?, Option.bind_some, kept?_all]

theorem conjoined?_map (f : κ → κ) (cs : List (Criteria κ)) :
    conjoined? (cs.map (map f)) = (conjoined? cs).map (map f) := by
  match cs with
  | [] => rfl
  | [_] => rfl
  | _ :: _ :: _ => simp [conjoined?]

theorem mapM_bind_mapM {g h i : Criteria κ → Option (Criteria κ)}
    (each : ∀ c ∈ cs, (g c).bind h = i c) : (cs.mapM g).bind (·.mapM h) = cs.mapM i := by
  induction cs with
  | nil => rfl
  | cons c cs ih =>
    obtain ⟨first, more⟩ := List.forall_mem_cons.mp each
    rw [List.mapM_cons, List.mapM_cons, ← first, ← ih more]
    cases g c with
    | none => rfl
    | some d =>
      cases cs.mapM g with
      | none =>
        change none = (h d).bind fun _ => none
        exact (Option.bind_fun_none _).symm
      | some ds => exact List.mapM_cons

theorem mapM_map_mapM {g i : Criteria κ → Option (Criteria κ)} {f : Criteria κ → Criteria κ}
    (each : ∀ c ∈ cs, (g c).map f = i c) : (cs.mapM g).map (List.map f) = cs.mapM i := by
  have always : List.mapM (some ∘ f) = some ∘ List.map f := funext fun cs => List.mapM_pure
  have twice : ∀ c ∈ cs, (g c).bind (some ∘ f) = i c := fun c mem => by
    rw [← Option.map_eq_bind, each c mem]
  rw [← mapM_bind_mapM twice, Option.map_eq_bind, always]

theorem mapM_eq_some_iff {g : Criteria κ → Option (Criteria κ)} {ds : List (Criteria κ)} :
    cs.mapM g = some ds ↔ cs.map g = ds.map some := by
  induction cs generalizing ds with
  | nil => cases ds <;> simp
  | cons c cs ih =>
    rw [List.mapM_cons, List.map_cons]
    constructor
    · intro all
      obtain ⟨d, first, all⟩ := Option.bind_eq_some_iff.mp all
      obtain ⟨ds, more, all⟩ := Option.bind_eq_some_iff.mp all
      cases all
      rw [first, ih.mp more, List.map_cons]
    · intro same
      cases ds with
      | nil => cases same
      | cons d ds =>
        obtain ⟨first, more⟩ := List.cons.inj same
        rw [first, ih.mpr more]
        rfl

theorem each_of_mapM {g : Criteria κ → Option (Criteria κ)} {ds : List (Criteria κ)}
    (all : cs.mapM g = some ds) : ds.length = cs.length ∧ ∀ d ∈ ds, ∃ c ∈ cs, g c = some d := by
  have same := mapM_eq_some_iff.mp all
  refine ⟨by simpa using (congrArg List.length same).symm, fun d mem => ?_⟩
  exact List.mem_map.mp (same ▸ List.mem_map_of_mem mem)

theorem partner_of_mapM {g : Criteria κ → Option (Criteria κ)} {ds : List (Criteria κ)}
    (all : cs.mapM g = some ds) (mem : c ∈ cs) : ∃ d ∈ ds, g c = some d := by
  obtain ⟨d, listed, same⟩ := List.mem_map.mp (mapM_eq_some_iff.mp all ▸ List.mem_map_of_mem mem)
  exact ⟨d, listed, same.symm⟩

theorem filterMap_of_mapM {g : Criteria κ → Option (Criteria κ)} {ds : List (Criteria κ)}
    (all : cs.mapM g = some ds) : cs.filterMap g = ds := by
  have same := congrArg (List.filterMap id) (mapM_eq_some_iff.mp all)
  simpa [List.filterMap_map] using same

theorem leaves_conjoined? {d : Criteria κ} (joined : conjoined? cs = some d) :
    d.leaves = (cs.map leaves).flatten := by
  match cs, joined with
  | [c], rfl => simp
  | _ :: _ :: _, rfl => exact leaves_all

-- Whether its children go one by one or not at all, what is left of a tree has leaves of its own only,
-- in their order, and none of them is doomed.
theorem leaves_kept? {d : Criteria κ} (kept : c.kept? doomed = some d) :
    d.leaves.Sublist c.leaves ∧ ∀ k ∈ d.leaves, doomed k = false := by
  have each : ∀ {cs : List (Criteria κ)}, (∀ c ∈ cs, ∀ {d}, c.kept? doomed = some d →
      d.leaves.Sublist c.leaves ∧ ∀ k ∈ d.leaves, doomed k = false) →
      ((cs.filterMap (kept? doomed)).map leaves).flatten.Sublist (cs.map leaves).flatten ∧
        ∀ k ∈ ((cs.filterMap (kept? doomed)).map leaves).flatten, doomed k = false := by
    intro cs ih
    induction cs with
    | nil => simp
    | cons c cs more =>
      obtain ⟨first, rest⟩ := List.forall_mem_cons.mp ih
      obtain ⟨sublist, spared⟩ := more rest
      cases kept : c.kept? doomed with
      | none =>
        rw [List.filterMap_cons_none kept]
        exact ⟨sublist.trans (List.sublist_append_right _ _), spared⟩
      | some d =>
        rw [List.filterMap_cons_some kept]
        obtain ⟨sublist', spared'⟩ := first kept
        exact ⟨sublist'.append sublist, List.forall_mem_append.mpr ⟨spared', spared⟩⟩
  induction c using induction generalizing d with
  | leaf k =>
    rw [kept?_leaf] at kept
    obtain ⟨spared, same⟩ := Option.ite_none_left_eq_some.mp kept
    obtain rfl := Option.some.inj same
    simpa [leaves] using spared
  | all cs ih =>
    rw [kept?_all] at kept
    rw [leaves_conjoined? kept, leaves_all]
    exact each ih
  | any cs ih =>
    rw [kept?_any] at kept
    obtain ⟨ds, all, rfl⟩ := Option.map_eq_some_iff.mp kept
    obtain rfl := filterMap_of_mapM all
    rw [leaves_any, leaves_any]
    exact each ih
  | negation c ih =>
    rw [kept?_negation] at kept
    obtain ⟨d, below, rfl⟩ := Option.map_eq_some_iff.mp kept
    rw [leaves_negation, leaves_negation]
    exact ih below

-- Pruned for one reason and then for another, a tree is pruned for either.
theorem kept?_kept? (P Q : κ → Bool) (c : Criteria κ) :
    (c.kept? P).bind (kept? Q) = c.kept? fun k => P k || Q k := by
  induction c using induction with
  | leaf k =>
    rw [kept?_leaf, kept?_leaf]
    cases doomed : P k with
    | true => rfl
    | false => rfl
  | all cs ih =>
    rw [kept?_all, kept?_all, conjoined?_bind, List.filterMap_filterMap, List.filterMap_congr ih]
  | any cs ih =>
    have children : (cs.mapM (kept? P)).bind (·.mapM (kept? Q)) =
        cs.mapM (kept? fun k => P k || Q k) := mapM_bind_mapM ih
    rw [kept?_any, kept?_any, Option.bind_map, ← children, Option.map_bind]
    exact congrArg _ (funext fun cs => kept?_any cs)
  | negation c ih =>
    rw [kept?_negation, kept?_negation, Option.bind_map, ← ih, Option.map_bind]
    exact congrArg _ (funext fun c => kept?_negation c)

theorem prune_prune (P Q : κ → Bool) (c : Criteria κ) :
    ((c.prune P).lost || ((c.prune P).left.prune Q).lost) = (c.prune fun k => P k || Q k).lost ∧
      ((c.prune fun k => P k || Q k).lost = false →
        ((c.prune P).left.prune Q).left = (c.prune fun k => P k || Q k).left) := by
  have composed := kept?_kept? P Q c
  unfold kept? at composed
  cases once : (c.prune fun k => P k || Q k).lost with
  | true =>
    cases first : (c.prune P).lost with
    | true => simp
    | false => simpa [first, once] using composed
  | false =>
    cases first : (c.prune P).lost with
    | true => simp [first, once] at composed
    | false => simpa [first, once, Option.ite_none_left_eq_some] using composed

theorem kept?_map (same : ∀ k, doomed (f k) = doomed k) (c : Criteria κ) :
    (c.map f).kept? doomed = (c.kept? doomed).map (map f) := by
  induction c using induction with
  | leaf k =>
    rw [map_leaf, kept?_leaf, kept?_leaf, same]
    cases doomed k <;> rfl
  | all cs ih =>
    rw [map_all, kept?_all, kept?_all, ← conjoined?_map, List.filterMap_map, List.map_filterMap]
    exact congrArg _ (List.filterMap_congr ih)
  | any cs ih =>
    have children : (cs.mapM (kept? doomed)).map (List.map (map f)) =
        (cs.map (map f)).mapM (kept? doomed) := by
      rw [List.mapM_map]
      exact mapM_map_mapM fun c mem => (ih c mem).symm
    rw [map_any, kept?_any, kept?_any, ← children, Option.map_map, Option.map_map]
    exact congrArg (Option.map · _) (funext fun cs => (map_any cs).symm)
  | negation c ih =>
    rw [map_negation, kept?_negation, kept?_negation, ih, Option.map_map, Option.map_map]
    rfl

end TrackerQuery.Criteria
