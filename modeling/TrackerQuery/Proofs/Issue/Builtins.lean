import TrackerQuery.Proofs.Issue.Renaming
import TrackerQuery.Proofs.Issue.Widening
import TrackerQuery.Proofs.Query.Places

namespace TrackerQuery

namespace Criteria

variable {κ : Type} {P : κ → Prop} {doomed : κ → Bool} {c : Criteria κ}

theorem isLost_of_spared (h : c.WellFormed fun k => doomed k = false) : c.isLost doomed = false := by
  refine Bool.eq_false_iff.mpr fun lost => ?_
  have gone := (kept?_eq_none_iff c).mpr lost
  rw [kept?_of_spared h] at gone
  cases gone

theorem standing_of_spared (h : c.WellFormed fun k => doomed k = false) :
    c.standing (isLost doomed) = c.placed := by
  induction h with
  | leaf => rfl
  | all _ _ ih =>
    rw [standing, standingAll_eq, placed_all]
    exact List.flatMap_congr ih
  | @any cs _ each ih =>
    have whole : ¬cs.any (isLost doomed) = true := by
      intro lost
      obtain ⟨c, child, gone⟩ := List.any_eq_true.mp lost
      rw [isLost_of_spared (each c child)] at gone
      cases gone
    rw [standing, if_neg whole, standingAny_eq, placed_any]
    refine List.flatMap_congr fun p mem => ?_
    rw [ih p.1 (List.fst_mem_of_mem_zipIdx mem)]
  | negation _ ih => exact congrArg _ ih

theorem standing_of_apart (h : c.WellFormed P)
    (apart : ∀ p ∈ c.placed, doomed p.leaf = true → ∀ i, Step.operand i ∉ p.place) :
    c.standing (isLost doomed) = c.placed := by
  induction h with
  | leaf => rfl
  | all _ _ ih =>
    rw [standing, standingAll_eq, placed_all]
    refine List.flatMap_congr fun c child => ih c child fun p mem => apart p ?_
    rw [placed_all]
    exact List.mem_flatMap.mpr ⟨c, child, mem⟩
  | @any cs two each _ =>
    refine standing_of_spared (.any two fun c child => (each c child).of_leaves fun k mem => ?_)
    rw [← leaves_placed] at mem
    obtain ⟨p, listed, rfl⟩ := List.mem_map.mp mem
    obtain ⟨i, listed⟩ := operand_of_mem child listed
    refine Bool.eq_false_iff.mpr fun gone => apart _ listed gone i ?_
    exact List.mem_cons_self
  | negation _ ih =>
    refine congrArg _ (ih fun p mem gone i below => ?_)
    exact apart _ (List.mem_map_of_mem mem) gone i (List.mem_cons_of_mem _ below)

end Criteria

namespace Issue

def Criterion.isBuiltin (k : Criterion) : Bool :=
  k.customField?.isNone

def isBuiltinSort (s : SortKey) : Bool :=
  (Builtin.ofSortName? s.field).isSome

namespace Query

open Criteria (Placed Step)

def placed (q : Query) : List (Placed Criterion) :=
  q.criteria.elim [] Criteria.placed

def builtins (q : Query) : List (Placed Criterion) :=
  q.placed.filter (·.leaf.isBuiltin)

def asks (field : String) (k : Criterion) : Bool :=
  k.customField? == some field

-- The leaves for builtin fields that stand in no disjunction that is lost with the custom field.
def standingBuiltins (field : String) (q : Query) : List (Placed Criterion) :=
  (q.criteria.elim [] (Criteria.standing (Criteria.isLost (asks field)))).filter (·.leaf.isBuiltin)

variable {ctx : ReadContext} {q : Query} {text : Option String} {field : String}

theorem builtins_renameField (old new : String) (q : Query) :
    (q.renameField old new).builtins = q.builtins := by
  obtain ⟨_ | c, sorts⟩ := q
  · rfl
  · have renamed : (Query.renameField old new ⟨some c, sorts⟩).builtins =
        ((c.map (renameFieldOf old new)).placed).filter (·.leaf.isBuiltin) := rfl
    have same : ∀ k : Criterion, (renameFieldOf old new k).isBuiltin = k.isBuiltin := by
      intro k
      rw [Criterion.isBuiltin, Criterion.customField_renameFieldOf, Option.isNone_map]
      rfl
    rw [renamed, Criteria.placed_map, List.filter_map]
    have fixed : ∀ p ∈ c.placed.filter (·.leaf.isBuiltin), Placed.map (renameFieldOf old new) p = p := by
      intro p mem
      have builtin := (List.mem_filter.mp mem).2
      rw [Placed.map, Criterion.renameFieldOf_builtin (Option.isNone_iff_eq_none.mp builtin)]
    have kept : c.placed.filter ((·.leaf.isBuiltin) ∘ Placed.map (renameFieldOf old new)) =
        c.placed.filter (·.leaf.isBuiltin) := List.filter_congr fun p _ => same p.leaf
    rw [kept, List.map_congr_left fixed, List.map_id']
    rfl

theorem sorts_renameField {s : SortKey} {i : Nat} (there : q.sorts[i]? = some s)
    (other : s.field ≠ old) : (q.renameField old new).sorts[i]? = some s := by
  have renamed : (q.renameField old new).sorts =
      q.sorts.map fun s => if s.field = old then { s with field := new } else s := rfl
  rw [renamed, List.getElem?_map, there, Option.map_some, if_neg other]

theorem deleteField_cases (kept : (q.deleteField field).discard = false) :
    (q.deleteField field).query.sorts = q.sorts.filter (fun s => s.field != field) ∧
      (q.deleteField field).query.criteria = q.criteria.bind (Criteria.kept? (asks field)) := by
  have run := kept?_delete (.field field) q
  rw [show (Deletion.field field).apply q = q.deleteField field from rfl,
    Outcome.kept?_of_kept kept] at run
  have same : ∀ c : Criteria Criterion, c.map (Deletion.field field).change.exchange = c :=
    Criteria.map_id
  obtain ⟨sorts, ⟨before, after⟩ | ⟨c, d, before, below, after⟩⟩ := Change.run?_cases run.symm
  · exact ⟨sorts, by rw [after, before]; rfl⟩
  · rw [same] at after
    exact ⟨sorts, by rw [after, before, Option.bind_some]; exact below.symm⟩

theorem builtins_deleteField (kept : (q.deleteField field).discard = false) :
    (q.deleteField field).query.builtins = q.standingBuiltins field := by
  obtain ⟨_, criteria⟩ := deleteField_cases kept
  rw [builtins, placed, criteria, standingBuiltins]
  cases q.criteria with
  | none => rfl
  | some c =>
    rw [Option.bind_some, Criteria.placed_kept?, Option.elim_some, List.filter_filter]
    refine List.filter_congr fun p _ => ?_
    cases custom : p.leaf.customField? with
    | none => simp [Criterion.isBuiltin, asks, custom]
    | some name => simp [Criterion.isBuiltin, custom]

theorem standingBuiltins_sublist (field : String) (q : Query) :
    (q.standingBuiltins field).Sublist q.builtins := by
  refine List.Sublist.filter _ ?_
  cases criteria : q.criteria with
  | none => simp [placed, criteria]
  | some c => simpa [placed, criteria] using Criteria.standing_sublist _ c

def AsksApart (field : String) (q : Query) : Prop :=
  ∀ p ∈ q.placed, p.leaf.customField? = some field → ∀ i, Step.operand i ∉ p.place

theorem Valid.standingBuiltins (valid : q.Valid ctx) (apart : q.AsksApart field) :
    q.standingBuiltins field = q.builtins := by
  rw [Query.standingBuiltins, builtins, placed]
  cases criteria : q.criteria with
  | none => rfl
  | some c =>
    refine congrArg _ (Criteria.standing_of_apart (valid.criteria c criteria) fun p mem asked => ?_)
    rw [AsksApart, placed, criteria] at apart
    exact apart p mem (beq_iff_eq.mp asked)

theorem unasked_of_wellTyped {k : Criterion} (typed : k.WellTyped ctx)
    (shared : Builtin.ofName? field ≠ none) : k.customField? ≠ some field := by
  intro custom
  obtain ⟨spec, named⟩ := Criterion.field_of_custom typed custom
  exact shared (ofName?_custom_iff.mp (customField_iff.mp named)).1

theorem Valid.criteria_renameField (valid : q.Valid ctx) (shared : Builtin.ofName? field ≠ none)
    (new : String) : (q.renameField field new).criteria = q.criteria := by
  obtain ⟨_ | c, sorts⟩ := q
  · rfl
  · have fixed : ∀ k ∈ c.leaves, renameFieldOf field new k = k := fun k mem =>
      if_neg (unasked_of_wellTyped ((valid.criteria c rfl).leaves k mem) shared)
    have same : c.map (renameFieldOf field new) = c := calc
      c.map (renameFieldOf field new) = c.map fun k => k := Criteria.map_congr fixed
      _ = c := Criteria.map_id c
    exact congrArg some same

theorem Valid.criteria_deleteField (valid : q.Valid ctx) (shared : Builtin.ofName? field ≠ none) :
    (q.deleteField field).discard = false ∧ (q.deleteField field).query.criteria = q.criteria := by
  obtain ⟨_ | c, sorts⟩ := q
  · exact ⟨rfl, rfl⟩
  · have spared : c.WellFormed fun k => asks field k = false :=
      (valid.criteria c rfl).imp fun k typed =>
        beq_eq_false_iff_ne.mpr (unasked_of_wellTyped typed shared)
    obtain ⟨kept, same⟩ := Criteria.kept?_eq_some_iff.mp (Criteria.kept?_of_spared spared)
    exact ⟨kept, congrArg some same⟩

-- The leaves of a validated query that ask for builtin fields outlive a renamed custom field in their
-- places, and so they do a deleted one unless they stand in a disjunction that loses an operand. So do
-- the sorts by builtin fields of other names. Where the custom field has the name of a builtin field,
-- no leaf asks for it.
theorem builtins_outlive (ctx : ReadContext) (text : Option String) (q : Query)
    (read : Query.read ctx text true = .ok q) (field new : String) :
    let renamed := q.renameField field new
    let deleted := q.deleteField field
    renamed.builtins = q.builtins ∧
      (renamed.sorts.length = q.sorts.length ∧ ∀ (i : Nat) (s : SortKey), q.sorts[i]? = some s →
        isBuiltinSort s = true → s.field ≠ field → renamed.sorts[i]? = some s) ∧
      (deleted.discard = false →
        deleted.query.builtins = q.standingBuiltins field ∧
          (q.standingBuiltins field).Sublist q.builtins ∧
          (q.AsksApart field → deleted.query.builtins = q.builtins) ∧
          deleted.query.sorts.filter (fun s => isBuiltinSort s && s.field != field) =
            q.sorts.filter fun s => isBuiltinSort s && s.field != field) ∧
      (Builtin.ofName? field ≠ none → renamed.criteria = q.criteria ∧
        deleted.discard = false ∧ deleted.query.criteria = q.criteria) := by
  intro renamed deleted
  have valid := valid_of_read read
  refine ⟨builtins_renameField field new q, ⟨List.length_map _, ?_⟩, fun kept => ?_, fun shared => ?_⟩
  · exact fun i s there _ other => sorts_renameField there other
  · have left := builtins_deleteField kept
    refine ⟨left, standingBuiltins_sublist field q, fun apart => ?_, ?_⟩
    · rw [left, valid.standingBuiltins apart]
    · rw [(deleteField_cases kept).1, List.filter_filter]
      refine List.filter_congr fun s _ => ?_
      rw [Bool.and_assoc, Bool.and_self]
  · exact ⟨valid.criteria_renameField shared new, valid.criteria_deleteField shared⟩

theorem builtins_outlive_priority :
    let setting : Setting := ⟨⟨"number", .number, false, []⟩ :: Setting.demo.fields, ["Open"]⟩
    let ctx : ReadContext := ⟨none, setting, Repository.empty.resolver, ⟨0, 0⟩⟩
    let title : Criteria Criterion := .leaf (.title "x")
    let free : Criteria Criterion := .negation (.leaf (.state "state" "Open"))
    let high : Criteria Criterion := .leaf (.choiceField "Priority" "High" 2 .is)
    let sorts : List SortKey := [⟨"vote count", .ascending⟩, ⟨"Priority", .descending⟩]
    let q : Query := ⟨some (.all [high, title, free]), sorts⟩
    let left := (q.deleteField "Priority").query
    Query.read ctx (some ("\"Priority\" is \"High\" and \"title\" contains \"x\" and " ++
        "not(\"state\" is \"Open\") order by \"vote count\" asc and \"Priority\" desc")) true = .ok q ∧
      q.AsksApart "Priority" ∧ (q.deleteField "Priority").discard = false ∧
      left = ⟨some (.all [title, free]), [⟨"vote count", .ascending⟩]⟩ ∧
      left.builtins = [⟨[], .title "x"⟩, ⟨[.negated], .state "state" "Open"⟩] ∧
      (q.renameField "Priority" "Urgency").sorts[0]? = some ⟨"vote count", .ascending⟩ ∧
      (q.deleteField "number").query.criteria = q.criteria := by
  intro setting ctx title free high sorts q left
  have read : Query.read ctx (some ("\"Priority\" is \"High\" and \"title\" contains \"x\" and " ++
      "not(\"state\" is \"Open\") order by \"vote count\" asc and \"Priority\" desc")) true = .ok q := by
    decide +kernel
  have kept : (q.deleteField "Priority").discard = false := by decide
  have apart : q.AsksApart "Priority" := by
    intro p mem asked i
    have places : ∀ p ∈ q.placed, p.leaf.customField? = some "Priority" → p.place = [] := by decide
    rw [places p mem asked]
    exact List.not_mem_nil
  obtain ⟨_, ⟨_, sorted⟩, deleted, _⟩ := builtins_outlive ctx _ q read "Priority" "Urgency"
  obtain ⟨_, _, _, shared⟩ := builtins_outlive ctx _ q read "number" "Rank"
  obtain ⟨_, _, whole, _⟩ := deleted kept
  refine ⟨read, apart, kept, by decide, (whole apart).trans (by decide), ?_, (shared (by decide)).2.2⟩
  exact sorted 0 _ rfl (by decide) (by decide)

-- The title goes with the disjunction that loses its other operand, and the query is kept. A sort by the
-- number is renamed and dropped with a custom field of that name.
theorem builtins_do_not_outlive :
    let setting : Setting := ⟨⟨"number", .number, false, []⟩ :: Setting.demo.fields, ["Open"]⟩
    let ctx : ReadContext := ⟨none, setting, Repository.empty.resolver, ⟨0, 0⟩⟩
    let title : Criteria Criterion := .leaf (.title "x")
    let isOpen : Criteria Criterion := .leaf (.state "state" "Open")
    let high : Criteria Criterion := .leaf (.choiceField "Priority" "High" 2 .is)
    let q : Query := ⟨some (.all [.any [title, high], isOpen]), []⟩
    let sorted : Query := ⟨some isOpen, [⟨"number", .ascending⟩]⟩
    Query.read ctx (some
        "(\"title\" contains \"x\" or \"Priority\" is \"High\") and \"state\" is \"Open\"") true = .ok q ∧
      (q.deleteField "Priority").discard = false ∧ (q.deleteField "Priority").query = ⟨some isOpen, []⟩ ∧
      Query.read ctx (some "\"state\" is \"Open\" order by \"number\" asc") true = .ok sorted ∧
      isBuiltinSort ⟨"number", .ascending⟩ = true ∧
      (sorted.renameField "number" "Rank").sorts = [⟨"Rank", .ascending⟩] ∧
      (sorted.deleteField "number").discard = false ∧ (sorted.deleteField "number").query.sorts = [] := by
  decide +kernel

end Query

end Issue

end TrackerQuery
