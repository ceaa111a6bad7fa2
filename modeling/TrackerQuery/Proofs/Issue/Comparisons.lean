import TrackerQuery.Proofs.Issue.Selection

namespace TrackerQuery

-- The position of a value is what its text stands for. That of an entry without one is any.
def FieldValue.WellStored (setting : Setting) (v : FieldValue) : Prop :=
  ∀ spec, setting.field? v.name = some spec → ∀ text, v.value = some text →
    (spec.type = .number → ∀ n, Text.readInt? (Text.trim text.toList) = some n → v.ordinal = n) ∧
      (spec.type = .choice → v.ordinal = spec.ordinalOf text)

def Issue.WellStored (setting : Setting) (issue : Issue) : Prop :=
  ∀ v ∈ issue.fields, v.WellStored setting

namespace Issue.Criterion

open Sql (Condition)

inductive Compares (setting : Setting) : Criterion → Prop
  | number (found : setting.field? field = some spec) (type : spec.type = .number) :
      Compares setting (numericField field op value)
  | choice (found : setting.field? field = some spec) (type : spec.type = .choice) :
      Compares setting (choiceField field value ordinal op)

-- The position of the entry fits, but a match does not look at it.
def strays (ctx : MatchContext) (v : FieldValue) : Criterion → Bool
  | numericField field op value => v.name == field && v.value.isNone && op.holds v.ordinal value
  | choiceField field value ordinal op =>
    (ordering? op).any fun comparison =>
      let expected := choiceOrdinal ctx.setting field value ordinal
      0 ≤ expected && v.name == field && (v.value.isNone || v.ordinal < 0) &&
        comparison.holds v.ordinal expected
  | _ => false

def straysIn (ctx : MatchContext) (issue : Issue) (k : Criterion) : Bool :=
  issue.fields.any fun v => k.strays ctx v

variable {ctx : MatchContext} {db : Sql.Database} {store : Store} {issue : Issue} {k : Criterion}
  {v : FieldValue} {spec : FieldSpec} {field value : String}

theorem storedNumber_wellStored (stored : v.WellStored setting)
    (found : setting.field? v.name = some spec) (type : spec.type = .number) :
    storedNumber v = v.ordinal := by
  rw [storedNumber]
  cases text? : v.value with
  | none => rfl
  | some text =>
    cases number : Text.readInt? (Text.trim text.toList) with
    | none => simp [number]
    | some n => simp [number, (stored spec found text text?).1 type n number]

theorem storedOrdinal_wellStored (stored : v.WellStored setting)
    (found : setting.field? v.name = some spec) (type : spec.type = .choice) :
    storedOrdinal setting v.name v = v.ordinal := by
  rw [storedOrdinal, found]
  cases text? : v.value with
  | none => rfl
  | some text => simp [(stored spec found text text?).2 type]

theorem any_split {p q r : α → Bool} {as : List α} (each : ∀ a ∈ as, p a = (q a || r a)) :
    as.any p = (as.any q || as.any r) := by
  rw [Bool.eq_iff_iff, Bool.or_eq_true, List.any_eq_true, List.any_eq_true, List.any_eq_true,
    ← exists_or]
  refine exists_congr fun a => ?_
  rw [← and_or_left]
  exact and_congr_right fun mem => by rw [each a mem, Bool.or_eq_true]

-- The condition is asked of each entry of the field, with a value or without.
theorem fieldCondition_truth (keyed : store.Keyed) (stored : issue ∈ store.issues)
    (field : String) (condition : Condition) :
    (fieldCondition field condition).truth store.database issue.scope =
      some (issue.fields.any fun v => v.name == field &&
        condition.truth store.database (issue.scope.enter .issueFields (fieldRow issue.id v)) ==
          some true) := by
  rw [fieldCondition, fieldColumn, fields_related keyed stored]
  congr 2
  funext v
  have named : (Condition.equals (fieldColumn .name) field).truth store.database
      (issue.scope.enter .issueFields (fieldRow issue.id v)) = some (v.name == field) :=
    Condition.equals_truth field rfl
  rw [Condition.truth_both, named, Bool.eq_iff_iff]
  simp [Sql.conj_eq_true]

theorem positionCondition_truth (keyed : store.Keyed) (stored : issue ∈ store.issues)
    (field : String) (op : Comparison) (n : Int) :
    (fieldCondition field (.compareNumber (fieldColumn .ordinal) op n)).truth store.database
        issue.scope =
      some (issue.fields.any fun v => v.name == field && op.holds v.ordinal n) := by
  have compared : ∀ v, (Condition.compareNumber (fieldColumn .ordinal) op n).truth store.database
      (issue.scope.enter .issueFields (fieldRow issue.id v)) = some (op.holds v.ordinal n) :=
    fun _ => Condition.compareNumber_truth op n rfl
  rw [fieldCondition_truth keyed stored]
  simp [compared]

theorem numericField_truth (keyed : store.Keyed) (stored : issue ∈ store.issues)
    (wellStored : issue.WellStored ctx.setting) (found : ctx.setting.field? field = some spec)
    (type : spec.type = .number) (op : Comparison) (n : Int) :
    ((numericField field op n).condition ctx).truth store.database issue.scope =
      some ((numericField field op n).straysIn ctx issue ||
        (numericField field op n).holds ctx issue) := by
  rw [condition, positionCondition_truth keyed stored, holds, valuesOf, List.any_filter]
  refine congrArg some (any_split fun v mem => ?_)
  by_cases named : v.name = field
  · subst named
    rw [storedNumber_wellStored (wellStored v mem) found type]
    cases held : v.value <;> simp [strays, held]
  · simp [strays, beq_false_of_ne named]

theorem choiceField_truth (keyed : store.Keyed) (stored : issue ∈ store.issues)
    (wellStored : issue.WellStored ctx.setting) (found : ctx.setting.field? field = some spec)
    (type : spec.type = .choice) (ordinal : Int) (op : Operator) :
    ((choiceField field value ordinal op).condition ctx).truth store.database issue.scope =
      some ((choiceField field value ordinal op).straysIn ctx issue ||
        (choiceField field value ordinal op).holds ctx issue) := by
  cases ordered : ordering? op with
  | none =>
    have equal : ∀ v, (Condition.equals (fieldColumn .value) value).truth store.database
        (issue.scope.enter .issueFields (fieldRow issue.id v)) =
        if v.value.isNone then none else some (v.value == some value) :=
      fun _ => Condition.equals_nullable value rfl
    have none_stray : ∀ v, (choiceField field value ordinal op).strays ctx v = false := by
      simp [strays, ordered]
    simp only [condition, ordered, holds, fieldCondition_truth keyed stored, equal, straysIn,
      none_stray]
    rw [valuesOf, List.any_filter]
    refine congrArg some (any_split fun v _ => ?_)
    cases v.value <;> simp
  | some comparison =>
    simp only [condition, ordered, holds]
    by_cases unknown : choiceOrdinal ctx.setting field value ordinal < 0
    · have below := Int.not_le.mpr unknown
      have none_stray : ∀ v, (choiceField field value ordinal op).strays ctx v = false := by
        simp [strays, ordered, below]
      simp [straysIn, unknown, below, none_stray]
    · rw [if_neg unknown, positionCondition_truth keyed stored]
      have known := Int.not_lt.mp unknown
      rw [decide_eq_true known, Bool.true_and, valuesOf, List.any_filter]
      refine congrArg some (any_split fun v mem => ?_)
      by_cases named : v.name = field
      · subst named
        rw [storedOrdinal_wellStored (wellStored v mem) found type]
        have placed : (0 ≤ v.ordinal) = ¬ v.ordinal < 0 := propext Int.not_lt.symm
        by_cases below : v.ordinal < 0 <;> cases held : v.value <;>
          simp [strays, ordered, known, placed, below, held]
      · simp [strays, beq_false_of_ne named]

theorem Compares.truth (compares : k.Compares ctx.setting) (keyed : store.Keyed)
    (stored : issue ∈ store.issues) (wellStored : issue.WellStored ctx.setting) :
    (k.condition ctx).truth store.database issue.scope =
      some (k.straysIn ctx issue || k.holds ctx issue) := by
  cases compares with
  | number found type => exact numericField_truth keyed stored wellStored found type _ _
  | choice found type => exact choiceField_truth keyed stored wellStored found type _ _

-- An issue is selected just if it matches with the leaves granted in which an entry strays. So those
-- that match are selected if nothing is denied, and no others if no entry strays.
theorem comparison_selection (ctx : MatchContext) (keyed : store.Keyed)
    (stored : issue ∈ store.issues) (wellStored : issue.WellStored ctx.setting)
    (c : Criteria Criterion) (compares : ∀ k ∈ c.leaves, k.Compares ctx.setting) :
    let said := (c.condition ctx).truth store.database issue.scope
    (said = some true ↔
        (c.granted (fun k _ => k.straysIn ctx issue) true).isSatisfied ctx issue = true) ∧
      (c.hasNegation = false → c.isSatisfied ctx issue = true → said = some true) ∧
      ((∀ k ∈ c.leaves, k.straysIn ctx issue = false) →
        (said = some true ↔ c.isSatisfied ctx issue = true)) := by
  have leaf : ∀ k ∈ c.leaves, (LeafKind.condition ctx k).truth store.database issue.scope =
      some (k.straysIn ctx issue || LeafKind.holds ctx issue k) :=
    fun k mem => (compares k mem).truth keyed stored wellStored
  refine ⟨?_, fun free satisfied => ?_, fun none_stray => ?_⟩
  · exact Criteria.truth_iff_granted (fun k mem b => by rw [leaf k mem, Option.some.injEq]) true
  · refine Criteria.isSatisfied_evaluation.carried Criteria.truth_evaluation c true ?_
      (congrArg some satisfied)
    intro even k mem holds
    cases even with
    | true =>
      have holds : LeafKind.holds ctx issue k = true := Option.some.inj holds
      exact (leaf k (c.signedLeaves_subset true mem)).trans (by rw [holds, Bool.or_true]; rfl)
    | false =>
      rw [Criteria.signedLeaves_of_negationFree free] at mem
      cases mem
  · have faithful : ∀ k ∈ c.leaves, Criteria.FaithfulLeaf ctx issue store.database issue.scope
        (fun _ => false) k := fun k mem => ⟨by simpa [none_stray k mem] using leaf k mem, nofun⟩
    exact Criteria.truth_iff_isSatisfied faithful fun _ _ => rfl

theorem comparison_selection_high :
    let issue : Issue := ⟨1, "demo", 1, "t", none, [], "Open", none, none, ⟨0, 0⟩, ⟨0, 0⟩, 0,
      [⟨"Priority", some "High", 2⟩, ⟨"Estimate", some "5", 5⟩]⟩
    let store : Store := ⟨[issue], [], [], fun _ => none⟩
    let ctx : MatchContext := ⟨none, none, Setting.demo, Repository.empty.relations, ⟨0, 0⟩⟩
    let c : Criteria Criterion := .all [.leaf (.numericField "Estimate" .greater 3),
      .leaf (.choiceField "Priority" "Critical" 3 .isLessThan)]
    store.Keyed ∧ issue ∈ store.issues ∧ issue.WellStored ctx.setting ∧
      (∀ k ∈ c.leaves, k.Compares ctx.setting) ∧ c.isSatisfied ctx issue = true ∧
      (c.condition ctx).truth store.database issue.scope = some true := by
  intro issue store ctx c
  have keyed : store.Keyed := ⟨by decide, by decide, by decide⟩
  have stored : issue ∈ store.issues := List.mem_cons_self
  have wellStored : issue.WellStored ctx.setting := by
    intro v mem spec found text held
    rcases List.mem_pair.mp mem with rfl | rfl
    · obtain rfl := Option.some.inj found
      obtain rfl := Option.some.inj held
      exact ⟨nofun, fun _ => by decide⟩
    · obtain rfl := Option.some.inj found
      obtain rfl := Option.some.inj held
      exact ⟨fun _ n read => Option.some.inj read, nofun⟩
  have compares : ∀ k ∈ c.leaves, k.Compares ctx.setting := by
    intro k mem
    rcases List.mem_pair.mp mem with rfl | rfl
    · exact .number rfl rfl
    · exact .choice rfl rfl
  have satisfied : c.isSatisfied ctx issue = true := by decide +kernel
  obtain ⟨_, selected, _⟩ := comparison_selection ctx keyed stored wellStored c compares
  exact ⟨keyed, stored, wellStored, compares, satisfied, selected rfl satisfied⟩

theorem comparison_selection_strays :
    let read : ReadContext := ⟨none, Setting.demo, Repository.empty.resolver, ⟨0, 0⟩⟩
    let ctx : MatchContext := ⟨none, none, Setting.demo, Repository.empty.relations, ⟨0, 0⟩⟩
    let unset : Issue := ⟨1, "demo", 1, "t", none, [], "Open", none, none, ⟨0, 0⟩, ⟨0, 0⟩, 0,
      [⟨"Estimate", none, 0⟩]⟩
    let stale : Issue := { unset with id := 2, fields := [⟨"Priority", some "Urgent", -1⟩] }
    let store : Store := ⟨[unset, stale], [], [], fun _ => none⟩
    ∃ k l : Criterion,
      Query.read read (some "\"Estimate\" is \"0\"") true = .ok ⟨some (.leaf k), []⟩ ∧
      Query.read read (some "\"Priority\" is less than \"Normal\"") true =
        .ok ⟨some (.leaf l), []⟩ ∧
      k.Compares ctx.setting ∧ l.Compares ctx.setting ∧ store.Keyed ∧
      unset.WellStored ctx.setting ∧ stale.WellStored ctx.setting ∧
      ¬ (((Criteria.leaf k).condition ctx).truth store.database unset.scope = some true ↔
        (Criteria.leaf k).isSatisfied ctx unset = true) ∧
      ¬ (((Criteria.leaf l).condition ctx).truth store.database stale.scope = some true ↔
        (Criteria.leaf l).isSatisfied ctx stale = true) := by
  intro read ctx unset stale store
  have unsetStored : unset.WellStored ctx.setting := by
    intro v mem spec _ text held
    obtain rfl := List.mem_singleton.mp mem
    cases held
  have staleStored : stale.WellStored ctx.setting := by
    intro v mem spec found text held
    obtain rfl := List.mem_singleton.mp mem
    obtain rfl := Option.some.inj found
    obtain rfl := Option.some.inj held
    exact ⟨nofun, fun _ => by decide⟩
  exact ⟨.numericField "Estimate" .equal 0, .choiceField "Priority" "Normal" 1 .isLessThan,
    by decide +kernel, by decide +kernel, .number rfl rfl, .choice rfl rfl,
    ⟨by decide, by decide, by decide⟩, unsetStored, staleStored, by decide, by decide⟩

end Issue.Criterion

end TrackerQuery
