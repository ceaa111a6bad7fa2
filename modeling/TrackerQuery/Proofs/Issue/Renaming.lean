import TrackerQuery.Proofs.Issue.Upkeep

namespace TrackerQuery

theorem replaced_replaced {old new name : String} (apart : name ≠ new) :
    replaced new old (replaced old new name) = name := by
  unfold replaced
  by_cases same : name = old
  · simp [same]
  · simp [same, apart]

def FieldValue.renamed (old new : String) (v : FieldValue) : FieldValue :=
  { v with name := replaced old new v.name }

namespace Issue

def renameField (old new : String) (issue : Issue) : Issue :=
  { issue with fields := issue.fields.map (FieldValue.renamed old new) }

def renameState (old new : String) (issue : Issue) : Issue :=
  { issue with state := replaced old new issue.state }

theorem valuesOf_renameField (old : String) {issue : Issue}
    (fresh : ∀ v ∈ issue.fields, v.name ≠ new) (apart : name ≠ new) :
    (issue.renameField old new).valuesOf (replaced old new name) =
      (issue.valuesOf name).map (FieldValue.renamed old new) := by
  unfold valuesOf renameField
  rw [List.filter_map]
  refine congrArg _ (List.filter_congr fun v mem => ?_)
  exact congrArg (· && v.value.isSome) (replaced_beq (fresh v mem) apart)

end Issue

theorem FieldSpec.ordinalOf_renamed (spec : FieldSpec) (value : String) :
    (spec.renamed old new).ordinalOf value = spec.ordinalOf value := by
  unfold renamed
  split <;> rfl

def MatchContext.renameField (old new : String) (ctx : MatchContext) : MatchContext :=
  { ctx with setting := ctx.setting.renameField old new }

namespace Issue.Criterion

variable {ctx : MatchContext} {issue : Issue} {k : Criterion} {old new name : String}

theorem renameFieldOf_builtin (builtin : k.customField? = none) :
    Query.renameFieldOf old new k = k := by
  rw [Query.renameFieldOf, builtin, if_neg nofun]

theorem renameFieldOf_custom (custom : k.customField? = some name) :
    Query.renameFieldOf old new k = k.withField (replaced old new name) := by
  unfold Query.renameFieldOf replaced
  by_cases same : name = old
  · rw [custom, if_pos (congrArg some same), if_pos same]
  · rw [custom, if_neg (mt Option.some.inj same), if_neg same, withField_of_custom custom]

theorem customField_withField (custom : k.customField? = some name) :
    (k.withField name').customField? = some name' := by
  cases k <;> cases custom <;> rfl

theorem withField_withField (k : Criterion) :
    (k.withField name).withField name' = k.withField name' := by
  cases k <;> rfl

theorem customField_renameFieldOf (k : Criterion) :
    (Query.renameFieldOf old new k).customField? = k.customField?.map (replaced old new) := by
  cases custom : k.customField? with
  | none => rw [renameFieldOf_builtin custom, custom]; rfl
  | some name => rw [renameFieldOf_custom custom, customField_withField custom]; rfl

theorem renameFieldOf_restores (apart : k.customField? ≠ some new) :
    Query.renameFieldOf new old (Query.renameFieldOf old new k) = k := by
  cases custom : k.customField? with
  | none => rw [renameFieldOf_builtin custom, renameFieldOf_builtin custom]
  | some name =>
    have other : name ≠ new := by
      intro same
      exact apart (custom.trans (congrArg some same))
    rw [renameFieldOf_custom custom, renameFieldOf_custom (customField_withField custom),
      withField_withField, replaced_replaced other, withField_of_custom custom]

-- Nothing that the new name stood for stands in the way.
structure Fresh (ctx : MatchContext) (issue : Issue) (new : String) : Prop where
  setting : ∀ spec ∈ ctx.setting.fields, spec.name ≠ new
  entries : ∀ v ∈ issue.fields, v.name ≠ new

theorem choiceOrdinal_renamed (old : String) {setting : Setting}
    (fresh : ∀ spec ∈ setting.fields, spec.name ≠ new) (apart : name ≠ new) (value : String)
    (ordinal : Int) :
    choiceOrdinal (setting.renameField old new) (replaced old new name) value ordinal =
      choiceOrdinal setting name value ordinal := by
  unfold choiceOrdinal
  rw [Setting.field?_renameField old fresh apart]
  cases setting.field? name with
  | none => rfl
  | some spec => simp only [Option.map_some, FieldSpec.ordinalOf_renamed]

theorem storedOrdinal_renamed (old : String) {setting : Setting}
    (fresh : ∀ spec ∈ setting.fields, spec.name ≠ new) (apart : name ≠ new) (v : FieldValue) :
    storedOrdinal (setting.renameField old new) (replaced old new name) (v.renamed old new) =
      storedOrdinal setting name v := by
  unfold storedOrdinal
  rw [Setting.field?_renameField old fresh apart]
  obtain ⟨_, value, ordinal⟩ := v
  cases setting.field? name with
  | none => rfl
  | some spec =>
    cases value with
    | none => rfl
    | some text => simp only [FieldValue.renamed, Option.map_some, FieldSpec.ordinalOf_renamed]

theorem holds_withField (fresh : Fresh ctx issue new) (apart : name ≠ new)
    (custom : k.customField? = some name) :
    (k.withField (replaced old new name)).holds (ctx.renameField old new)
        (issue.renameField old new) = k.holds ctx issue := by
  have values := valuesOf_renameField old fresh.entries apart
  cases k with
  | dateField | stringField | numericField | booleanField | referenceField =>
    cases custom
    simp only [withField, holds, values, List.any_map]
    rfl
  | choiceField field value ordinal op =>
    cases custom
    simp only [withField, holds, values, List.any_map]
    cases ordering? op with
    | none => rfl
    | some comparison =>
      have expected := choiceOrdinal_renamed old fresh.setting apart value ordinal
      have actual := storedOrdinal_renamed old fresh.setting apart
      simp only [MatchContext.renameField, expected, Function.comp_def, actual]
  | fieldOperator field op =>
    cases custom
    cases op <;> simp only [withField, holds, values, List.any_map, List.isEmpty_map] <;> rfl
  | _ => cases custom

theorem holds_renameFieldOf (fresh : Fresh ctx issue new) (apart : k.customField? ≠ some new) :
    (Query.renameFieldOf old new k).holds (ctx.renameField old new) (issue.renameField old new) =
      k.holds ctx issue := by
  cases custom : k.customField? with
  | none =>
    rw [renameFieldOf_builtin custom]
    cases k <;> first | rfl | cases custom
  | some name =>
    rw [renameFieldOf_custom custom]
    refine holds_withField fresh ?_ custom
    intro same
    exact apart (custom.trans (congrArg some same))

def state? : Criterion → Option String
  | state _ value => some value
  | _ => none

theorem state_renameStateOf (k : Criterion) :
    (Query.renameStateOf old new k).state? = k.state?.map (replaced old new) := by
  cases k <;> rfl

theorem renameStateOf_restores (apart : k.state? ≠ some new) :
    Query.renameStateOf new old (Query.renameStateOf old new k) = k := by
  cases k with
  | state name value =>
    have other : value ≠ new := fun same => apart (congrArg some same)
    exact congrArg (state name) (replaced_replaced other)
  | _ => rfl

theorem holds_renameStateOf (states : List String) (apart : k.state? ≠ some new)
    (apart' : issue.state ≠ new) :
    (Query.renameStateOf old new k).holds { ctx with setting := { ctx.setting with states } }
      (issue.renameState old new) = k.holds ctx issue := by
  cases k with
  | state name value =>
    have other : value ≠ new := fun same => apart (congrArg some same)
    show (replaced old new issue.state == replaced old new value) = (issue.state == value)
    exact replaced_beq apart' other
  | fieldOperator name op => cases op <;> rfl
  | _ => rfl

end Issue.Criterion

namespace Issue.Query

open Criterion (Fresh)

variable {ctx ctx' : MatchContext} {issue issue' : Issue} {q : Query} {f g : Criterion → Criterion}
  {old new : String}

theorem leaves_mapLeaves (f : Criterion → Criterion) (q : Query) :
    (q.mapLeaves f).leaves = q.leaves.map f := by
  obtain ⟨_ | c, sorts⟩ := q
  · rfl
  · exact c.leaves_map f

theorem isSatisfied_mapLeaves
    (each : ∀ k ∈ q.leaves, (f k).holds ctx' issue' = k.holds ctx issue) :
    (q.mapLeaves f).isSatisfied ctx' issue' = q.isSatisfied ctx issue := by
  obtain ⟨_ | c, sorts⟩ := q
  · rfl
  · exact (Criteria.fold_map f c).trans (Criteria.fold_congr each)

theorem mapLeaves_restores (each : ∀ k ∈ q.leaves, g (f k) = k) :
    (q.mapLeaves f).mapLeaves g = q := by
  obtain ⟨_ | c, sorts⟩ := q
  · rfl
  · exact congrArg (fun c => (⟨some c, sorts⟩ : Query)) (Criteria.map_restores each)

theorem renameField_restores (apart : ∀ k ∈ q.leaves, k.customField? ≠ some new)
    (unsorted : ∀ s ∈ q.sorts, s.field ≠ new) : (q.renameField old new).renameField new old = q := by
  have criteria : (q.mapLeaves (renameFieldOf old new)).mapLeaves (renameFieldOf new old) = q :=
    mapLeaves_restores fun k mem => Criterion.renameFieldOf_restores (apart k mem)
  have sorts : (q.sorts.map fun s => if s.field = old then { s with field := new } else s).map
      (fun s => if s.field = new then { s with field := old } else s) = q.sorts := by
    rw [List.map_map]
    refine (List.map_congr_left fun s mem => ?_).trans (List.map_id _)
    by_cases same : s.field = old
    · simp [← same]
    · simp [same, unsorted s mem]
  obtain ⟨_, _⟩ := q
  simp only [mapLeaves, renameField, Query.mk.injEq] at criteria sorts ⊢
  exact ⟨criteria.1, sorts⟩

-- Under a name that was not in use, a field or a state is asked for just as it was under the old one.
theorem renaming_invisible (q : Query) (ctx : MatchContext) (issue : Issue) (old new : String) :
    ((∀ k ∈ q.leaves, k.customField? ≠ some new) → (∀ s ∈ q.sorts, s.field ≠ new) →
        (∀ spec ∈ ctx.setting.fields, spec.name ≠ new) → (∀ v ∈ issue.fields, v.name ≠ new) →
        (q.renameField old new).isSatisfied (ctx.renameField old new) (issue.renameField old new) =
            q.isSatisfied ctx issue ∧
          (q.renameField old new).leaves.map Criterion.customField? =
            q.leaves.map (fun k => k.customField?.map (replaced old new)) ∧
          (q.renameField old new).renameField new old = q) ∧
      ((∀ k ∈ q.leaves, k.state? ≠ some new) → issue.state ≠ new →
        (∀ states, (q.renameState old new).isSatisfied
            { ctx with setting := { ctx.setting with states } } (issue.renameState old new) =
              q.isSatisfied ctx issue) ∧
          (q.renameState old new).leaves.map Criterion.state? =
            q.leaves.map (fun k => k.state?.map (replaced old new)) ∧
          (q.renameState old new).renameState new old = q) := by
  constructor
  · intro apart unsorted setting entries
    have fresh : Fresh ctx issue new := ⟨setting, entries⟩
    have names : (q.mapLeaves (renameFieldOf old new)).leaves.map Criterion.customField? =
        q.leaves.map (fun k => k.customField?.map (replaced old new)) := by
      rw [leaves_mapLeaves, List.map_map]
      exact List.map_congr_left fun k _ => Criterion.customField_renameFieldOf k
    refine ⟨?_, names, renameField_restores apart unsorted⟩
    exact isSatisfied_mapLeaves fun k mem => Criterion.holds_renameFieldOf fresh (apart k mem)
  · intro apart apart'
    refine ⟨fun states => ?_, ?_, ?_⟩
    · exact isSatisfied_mapLeaves fun k mem => Criterion.holds_renameStateOf states (apart k mem) apart'
    · rw [renameState, leaves_mapLeaves, List.map_map]
      exact List.map_congr_left fun k _ => Criterion.state_renameStateOf k
    · exact mapLeaves_restores fun k mem => Criterion.renameStateOf_restores (apart k mem)

theorem renaming_invisible_priority :
    let q : Query := ⟨some (.all [.leaf (.choiceField "Priority" "Normal" (-1) .isGreaterThan),
      .negation (.leaf (.state "state" "Open"))]), [⟨"Priority", .descending⟩]⟩
    let ctx : MatchContext := ⟨none, none, Setting.demo, Repository.empty.relations, ⟨0, 0⟩⟩
    let issue : Issue := ⟨1, "demo", 1, "t", none, [], "Closed", none, none, ⟨0, 0⟩, ⟨0, 0⟩, 0,
      [⟨"Priority", some "High", -1⟩]⟩
    q.isSatisfied ctx issue = true ∧
      (q.renameField "Priority" "Urgency").isSatisfied (ctx.renameField "Priority" "Urgency")
        (issue.renameField "Priority" "Urgency") = true ∧
      (q.renameField "Priority" "Urgency").text =
        "\"Urgency\" is greater than \"Normal\" and not(\"state\" is \"Open\") order by \"Urgency\" desc" ∧
      (q.renameState "Open" "New").isSatisfied ctx (issue.renameState "Open" "New") = true := by
  intro q ctx issue
  have satisfied : q.isSatisfied ctx issue = true := by decide +kernel
  obtain ⟨renamed, _, _⟩ := (renaming_invisible q ctx issue "Priority" "Urgency").1
    (by decide) (by decide) (by decide) (by decide)
  obtain ⟨renamed', _, _⟩ := (renaming_invisible q ctx issue "Open" "New").2 (by decide) (by decide)
  exact ⟨satisfied, renamed.trans satisfied, by decide +kernel,
    (renamed' ctx.setting.states).trans satisfied⟩

end Issue.Query

end TrackerQuery
