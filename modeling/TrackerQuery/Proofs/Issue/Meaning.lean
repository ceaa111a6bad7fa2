import TrackerQuery.Issue.Reader
import TrackerQuery.Proofs.Outcome

namespace TrackerQuery.Issue

open TrackerQuery.Text TrackerQuery.Time

theorem name_of_builtin (h : Builtin.ofName? name = some b) (other : b ≠ .state) : name = b.name := by
  unfold Builtin.ofName? at h
  split at h
  · cases h
    contradiction
  · have same := List.find?_some (p := fun (b : Builtin) => b.name == name) h
    exact (beq_iff_eq.mp same).symm

theorem name_of_spec {setting : Setting} (h : setting.field? name = some spec) : spec.name = name :=
  beq_iff_eq.mp (List.find?_some (p := fun (spec : FieldSpec) => spec.name == name) h)

theorem ofName?_builtin_iff :
    Target.ofName? setting name = some (.builtin b) ↔ Builtin.ofName? name = some b := by
  unfold Target.ofName?
  split
  · rename_i found
    simp [found]
  · rename_i free
    simp [free]

theorem ofName?_custom_iff : Target.ofName? setting name = some (.custom spec) ↔
    Builtin.ofName? name = none ∧ setting.field? name = some spec := by
  unfold Target.ofName?
  split
  · rename_i found
    simp [found]
  · rename_i free
    simp [free]

theorem ofName?_unknown_iff : Target.ofName? setting name = none ↔
    Builtin.ofName? name = none ∧ setting.field? name = none := by
  unfold Target.ofName?
  split
  · rename_i found
    simp [found]
  · rename_i free
    simp [free]

theorem checkField_ok_iff : checkField setting name op = .ok () ↔
    ∃ target, Target.ofName? setting name = some target ∧ target.takes op = true := by
  unfold checkField
  split
  · rename_i free
    simp [free]
  · rename_i target found
    by_cases taken : target.takes op = true
    · simp [found, taken]
    · simp [found, taken]

theorem dateLiteral_ok_iff {now : Instant} : DateLiteral.read now content = .ok d ↔
    d.text = content ∧ readInstant? now content = some d.date := by
  obtain ⟨text, date⟩ := d
  unfold DateLiteral.read
  split
  · rename_i found
    simp [found, eq_comm]
  · rename_i failed
    simp [failed]

namespace Criterion

def meaning (ctx : ReadContext) (validate : Bool) (name : String) (op : Operator) (content : String) :
    Except Error Criterion :=
  let target := Target.ofName? ctx.setting name
  match op with
  | .isBefore | .isAfter => readDated ctx name target op content
  | .contains => readContains validate name target content
  | .is => readIs ctx validate name target content
  | .isLessThan | .isGreaterThan => readOrdered validate name target op content
  | _ => .error (.unsupported op)

def referredTo (ctx : ReadContext) (spec : FieldSpec) (content : String) : Option Int := do
  let reference ← Reference.read? content
  if spec.type = .buildChoice then
    (ctx.resolver.build ctx.project reference).map (·.number)
  else some reference.number

def buildOf (ctx : ReadContext) (content : String) : Option Build := do
  let reference ← Reference.read? content
  ctx.resolver.build ctx.project reference

def commitsOf (ctx : ReadContext) (first second : Revision) : Option (CommitId × CommitId) := do
  let start ← ctx.resolver.commit ctx.project first
  let stop ← ctx.resolver.commit ctx.project second
  some (start, stop)

variable {ctx : ReadContext} {validate : Bool} {name content : String} {op : Operator}
  {spec : FieldSpec} {k : Criterion}

theorem checked_ok_iff {check : Except Error Unit} {x : Except Error α} :
    (do
      if validate then check
      x) = .ok a ↔ (validate = true → check = .ok ()) ∧ x = .ok a := by
  cases validate with
  | false => simp
  | true =>
    constructor
    · intro read
      obtain ⟨⟨⟩, passed, same⟩ := bind_ok_iff.mp read
      exact ⟨fun _ => passed, same⟩
    · intro h
      obtain ⟨passed, same⟩ := h
      exact bind_ok_iff.mpr ⟨(), passed rfl, same⟩

theorem readFieldValue_ok_iff : readFieldValue ctx validate name op content = .ok k ↔
    (validate = true → checkField ctx.setting name op = .ok ()) ∧
      meaning ctx validate name op content = .ok k := by
  rw [← checked_ok_iff]
  cases op <;> rfl

theorem readField_ok_iff : readField ctx validate name op = .ok k ↔
    (validate = true → checkField ctx.setting name op = .ok ()) ∧ op.category = .field ∧
      (if op = .isEmpty ∧ Builtin.ofName? name = some .milestone then milestone none
        else fieldOperator name op) = k := by
  have same : readField ctx validate name op = (do
      if validate then checkField ctx.setting name op
      if op.category = .field then
        .ok (if op = .isEmpty ∧ Builtin.ofName? name = some .milestone then milestone none
          else fieldOperator name op)
      else .error (.unsupported op)) := by
    cases op <;> simp [readField, Operator.category]
  rw [same, checked_ok_iff]
  by_cases category : op.category = .field
  · simp [category]
  · simp [category]

theorem found_ok_iff {x y : Option α} :
    found validate objection x = .ok y ↔ (validate = true → x.isSome = true) ∧ x = y := by
  cases x with
  | none =>
    cases validate with
    | false => simp [found]
    | true => simp [found]
  | some a => simp [found]

theorem found_leaf_iff (objection : Objection) (x : Option α) (leaf : Option α → Criterion) :
    (found validate objection x >>= fun a => .ok (leaf a)) = .ok k ↔
      (validate = true → x.isSome = true) ∧ leaf x = k := by
  simp only [bind_ok_iff, found_ok_iff, Except.ok.injEq]
  constructor
  · intro h
    obtain ⟨_, ⟨known, rfl⟩, rfl⟩ := h
    exact ⟨known, rfl⟩
  · intro h
    obtain ⟨known, rfl⟩ := h
    exact ⟨x, ⟨known, rfl⟩, rfl⟩

theorem readReference_ok_iff : readReference ctx validate spec content = .ok k ↔
    (validate = true → (referredTo ctx spec content).isSome = true) ∧
      referenceField spec.name content (referredTo ctx spec content) = k := by
  cases reference : Reference.read? content with
  | none =>
    have nothing : referredTo ctx spec content = none := by simp [referredTo, reference]
    rw [nothing, ← found_leaf_iff (.invalidReference content)]
    simp only [readReference, reference]
  | some reference' =>
    by_cases build : spec.type = .buildChoice
    · have looked : referredTo ctx spec content =
          (ctx.resolver.build ctx.project reference').map (·.number) := by
        simp [referredTo, reference, build]
      rw [looked, ← found_leaf_iff (.buildNotFound content)]
      simp only [readReference, reference, build, beq_self_eq_true, if_true]
    · have direct : referredTo ctx spec content = some reference'.number := by
        simp [referredTo, reference, build]
      rw [direct]
      simp [readReference, reference, build]

theorem readValue_ok_iff : readValue ctx validate op content = .ok k ↔
    op = .submittedBy ∧ submittedBy content = k ∨
      op = .fixedInBuild ∧ (validate = true → (buildOf ctx content).isSome = true) ∧
        fixedInBuild content (buildOf ctx content) = k := by
  cases op with
  | submittedBy => simp [readValue]
  | fixedInBuild =>
    cases reference : Reference.read? content with
    | none =>
      have nothing : buildOf ctx content = none := by simp [buildOf, reference]
      rw [nothing, ← found_leaf_iff (.invalidBuild content)]
      simp [readValue, reference]
    | some reference' =>
      have looked : buildOf ctx content = ctx.resolver.build ctx.project reference' := by
        simp [buildOf, reference]
      rw [looked, ← found_leaf_iff (.buildNotFound content)]
      simp [readValue, reference]
  | _ => simp [readValue]

theorem readBetween_ok_iff : readBetween ctx validate first second = .ok k ↔
    (validate = true → (commitsOf ctx first second).isSome = true) ∧
      fixedBetween first second ctx.project (commitsOf ctx first second) = k := by
  simp only [readBetween, bind_ok_iff, found_ok_iff]
  cases start : ctx.resolver.commit ctx.project first with
  | none => cases validate <;> simp [commitsOf, start]
  | some a =>
    cases stop : ctx.resolver.commit ctx.project second with
    | none => cases validate <;> simp [commitsOf, start, stop]
    | some b => simp [commitsOf, start, stop]

theorem readChoice_ok_iff {spec : Option FieldSpec} :
    readChoice validate name spec op content = .ok k ↔
      ∃ ordinal, readOrdinal validate name spec content = .ok ordinal ∧
        choiceField name content ordinal op = k := by
  simp only [readChoice, bind_ok_iff, Except.ok.injEq]

theorem readOrdinal_lenient (spec : Option FieldSpec) :
    readOrdinal false name spec content = .ok (-1) := by
  cases spec <;> rfl

theorem readChoice_lenient (spec : Option FieldSpec) :
    readChoice false name spec op content = .ok (choiceField name content (-1) op) :=
  readChoice_ok_iff.mpr ⟨-1, readOrdinal_lenient spec, rfl⟩

theorem readReference_lenient : readReference ctx false spec content =
    .ok (referenceField spec.name content (referredTo ctx spec content)) :=
  readReference_ok_iff.mpr ⟨nofun, rfl⟩

theorem readFixedInBuild_lenient : readValue ctx false .fixedInBuild content =
    .ok (fixedInBuild content (buildOf ctx content)) :=
  readValue_ok_iff.mpr (.inr ⟨rfl, nofun, rfl⟩)

theorem readOrdinal_ok_iff : readOrdinal true name (some spec) content = .ok ordinal ↔
    spec.ordinalOf content = ordinal ∧ (spec.type = .choice → 0 ≤ ordinal) := by
  unfold readOrdinal
  by_cases choice : spec.type = .choice
  · have bound : -1 ≤ spec.ordinalOf content := by
      rw [FieldSpec.ordinalOf, if_pos choice]
      split <;> omega
    by_cases unknown : spec.ordinalOf content = -1
    · simp [choice, unknown]
      omega
    · simp [choice, unknown]
      omega
  · simp [choice, FieldSpec.ordinalOf]

def value? : Criterion → Option String
  | state _ value | choiceField _ value _ _ => some value
  | _ => none

-- How an operator reads the values for a field. Choices and states are names that the setting may not
-- define, and only their leaves have a `value?`.
inductive Values (ctx : ReadContext) (name : String) (op : Operator)
    (read : Bool → String → Except Error Criterion) : Prop where
  | choice (spec : Option FieldSpec)
      (named : ∀ s, spec = some s → Target.ofName? ctx.setting name = some (.custom s))
      (same : ∀ validate content, read validate content = readChoice validate name spec op content)
  | state (named : Builtin.ofName? name = some .state)
      (same : ∀ validate content, read validate content =
        if validate && !ctx.setting.hasState content then
          .error (.rejected (.undefinedValue name content))
        else .ok (.state name content))
  | reference (spec : FieldSpec)
      (same : ∀ validate content, read validate content = readReference ctx validate spec content)
  | plain (same : ∀ content, read true content = read false content)
      (other : ∀ content k, read false content = .ok k → k.value? = none)

theorem values_of_map {number : String → Except Error α} {leaf : α → Criterion}
    (other : ∀ a, (leaf a).value? = none) :
    Values ctx name op fun _ content => (number content).map leaf := by
  refine .plain (fun _ => rfl) fun content k read => ?_
  obtain ⟨a, _, rfl⟩ := map_ok_iff.mp read
  exact other a

theorem values_of_leaf {leaf : String → Criterion} (other : ∀ a, (leaf a).value? = none) :
    Values ctx name op fun _ content => .ok (leaf content) := by
  refine .plain (fun _ => rfl) fun content k read => ?_
  cases read
  exact other content

theorem values_of_dated (target : Option Target) :
    Values ctx name op fun _ content => readDated ctx name target op content := by
  refine .plain (fun _ => rfl) fun content k read => ?_
  obtain ⟨date, _, read⟩ := bind_ok_iff.mp read
  split at read <;> cases read <;> rfl

theorem values_of_contains : Values ctx name .contains fun validate content =>
    readContains validate name (Target.ofName? ctx.setting name) content := by
  cases target : Target.ofName? ctx.setting name with
  | none => exact .choice none nofun fun _ _ => rfl
  | some t =>
    cases t with
    | builtin b =>
      cases b with
      | title | description | comment => exact values_of_leaf fun _ => rfl
      | _ => exact .choice none nofun fun _ _ => rfl
    | custom spec =>
      by_cases text : spec.type = .text
      · simp only [readContains, text, beq_self_eq_true, if_true]
        exact values_of_leaf fun _ => rfl
      · simp only [readContains, beq_iff_eq, text, if_false]
        refine .choice (some spec) (fun s same => ?_) fun _ _ => rfl
        rw [target, Option.some.inj same]

theorem values_of_is : Values ctx name .is fun validate content =>
    readIs ctx validate name (Target.ofName? ctx.setting name) content := by
  cases target : Target.ofName? ctx.setting name with
  | none => exact values_of_leaf fun _ => rfl
  | some t =>
    cases t with
    | builtin b =>
      cases b with
      | state => exact .state (ofName?_builtin_iff.mp target) fun _ _ => rfl
      | voteCount | commentCount | number =>
        simp only [readIs]
        exact values_of_map fun _ => rfl
      | _ => exact values_of_leaf fun _ => rfl
    | custom spec =>
      simp only [readIs]
      cases type : spec.type with
      | issueChoice | buildChoice | pullRequestChoice =>
        exact .reference spec fun _ _ => by simp only [readIsCustom, type]
      | choice | userChoice | groupChoice =>
        refine .choice (some spec) (fun s same => ?_) fun _ _ => by simp only [readIsCustom, type]
        rw [target, Option.some.inj same]
      | number =>
        simp only [readIsCustom, type]
        exact values_of_map fun _ => rfl
      | boolean | text | date =>
        simp only [readIsCustom, type]
        exact values_of_leaf fun _ => rfl

theorem values_of_ordered (op : Operator) : Values ctx name op fun validate content =>
    readOrdered validate name (Target.ofName? ctx.setting name) op content := by
  cases target : Target.ofName? ctx.setting name with
  | none => exact .choice none nofun fun _ _ => rfl
  | some t =>
    cases t with
    | builtin b =>
      cases b with
      | voteCount | commentCount | number =>
        simp only [readOrdered]
        exact values_of_map fun _ => rfl
      | _ => exact .choice none nofun fun _ _ => rfl
    | custom spec =>
      by_cases number : spec.type = .number
      · simp only [readOrdered, number, beq_self_eq_true, if_true]
        exact values_of_map fun _ => rfl
      · simp only [readOrdered, beq_iff_eq, number, if_false]
        refine .choice (some spec) (fun s same => ?_) fun _ _ => rfl
        rw [target, Option.some.inj same]

theorem values_of_meaning (ctx : ReadContext) (name : String) (op : Operator) :
    Values ctx name op fun validate content => meaning ctx validate name op content := by
  cases op with
  | isBefore | isAfter => exact values_of_dated _
  | contains => exact values_of_contains
  | is => exact values_of_is
  | isLessThan | isGreaterThan => exact values_of_ordered _
  | _ =>
    refine .plain (fun _ => rfl) fun content k read => ?_
    cases read

end Criterion

end TrackerQuery.Issue
