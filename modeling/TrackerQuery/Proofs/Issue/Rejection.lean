import TrackerQuery.Proofs.Issue.Typing
import TrackerQuery.Proofs.Query.Blame
import TrackerQuery.Proofs.Query.Numeral

namespace TrackerQuery.Issue

open TrackerQuery.Text TrackerQuery.Time

def NumberField (setting : Setting) (name : String) : Prop :=
  ∃ spec, CustomField setting name spec ∧ spec.type = .number

theorem numberField_iff {setting : Setting} : NumberField setting name ↔
    Builtin.ofName? name = none ∧ ∃ spec, setting.field? name = some spec ∧ spec.type = .number := by
  simp only [NumberField, customField_iff, ofName?_custom_iff, and_assoc, exists_and_left]

def HoldsNumbers (setting : Setting) (name : String) : Prop :=
  name = Builtin.voteCount.name ∨ name = Builtin.commentCount.name ∨ NumberField setting name

def foreignOperators : List Operator :=
  [.isOpen, .isMerged, .isDiscarded, .ownedByMe, .ownedBy, .includesCommit]

-- What is wrong with a leaf as such; a leaf with `is not` is worded with `is`.
inductive Malformed (setting : Setting) (now : Instant) : Wording → Prop where
  | standalone {op} (foreign : op ∈ foreignOperators) : Malformed setting now (.standalone op)
  | value {op content} (foreign : op ∈ foreignOperators) : Malformed setting now (.value op content)
  | date {name op content} (dated : op = .isBefore ∨ op = .isAfter)
      (unrecognized : readInstant? now content = none) :
      Malformed setting now (.fieldValue name op content)
  | number {name op content} (compared : op = .is ∨ op = .isLessThan ∨ op = .isGreaterThan)
      (holds : HoldsNumbers setting name) (malformed : ∀ n, ¬IsNumber content.toList n) :
      Malformed setting now (.fieldValue name op content)
  | entityNumber {op content} (compared : op = .is ∨ op = .isLessThan ∨ op = .isGreaterThan)
      (malformed : ∀ n, ¬IsEntityNumber content.toList n) :
      Malformed setting now (.fieldValue Builtin.number.name op content)

variable {ctx : ReadContext} {setting : Setting} {now : Instant} {name content : String}
  {op : Operator} {spec : FieldSpec} {w : Wording} {b : Builtin}

theorem holdsNumbers_of_builtin (named : Builtin.ofName? name = some b) :
    HoldsNumbers setting name ↔ b = .voteCount ∨ b = .commentCount := by
  constructor
  · intro holds
    rcases holds with rfl | rfl | ⟨spec, custom, _⟩
    · exact .inl (Option.some.inj (named.symm.trans (Builtin.ofName?_name _)))
    · exact .inr (Option.some.inj (named.symm.trans (Builtin.ofName?_name _)))
    · rw [(ofName?_custom_iff.mp (customField_iff.mp custom)).1] at named
      cases named
  · intro counted
    rcases counted with rfl | rfl
    · exact .inl (name_of_builtin named (by decide))
    · exact .inr (.inl (name_of_builtin named (by decide)))

theorem holdsNumbers_of_free (free : Builtin.ofName? name = none) :
    HoldsNumbers setting name ↔ NumberField setting name := by
  refine ⟨fun holds => ?_, fun field => .inr (.inr field)⟩
  rcases holds with rfl | rfl | field
  · cases free
  · cases free
  · exact field

theorem holdsNumbers_of_custom (target : Target.ofName? setting name = some (.custom spec)) :
    HoldsNumbers setting name ↔ spec.type = .number := by
  rw [holdsNumbers_of_free (ofName?_custom_iff.mp target).1]
  constructor
  · intro field
    obtain ⟨spec', custom, number⟩ := field
    rw [customField_iff.mp custom] at target
    cases target
    exact number
  · intro number
    exact ⟨spec, customField_iff.mpr target, number⟩

theorem not_holdsNumbers_of_unknown (unknown : Target.ofName? setting name = none) :
    ¬HoldsNumbers setting name := by
  rw [holdsNumbers_of_free (ofName?_unknown_iff.mp unknown).1]
  intro field
  obtain ⟨spec, custom, _⟩ := field
  rw [customField_iff.mp custom] at unknown
  cases unknown

namespace Criterion

inductive Counting (setting : Setting) (name : String) (read : String → Except Error Criterion) :
    Prop where
  | number (holds : HoldsNumbers setting name) (leaf : Int → Criterion)
      (same : ∀ content, read content = (readNumber content).map leaf)
  | entityNumber (named : Builtin.ofName? name = some .number) (leaf : Int → Criterion)
      (same : ∀ content, read content = (readEntityNumber content).map leaf)
  | other (others : ¬HoldsNumbers setting name) (apart : Builtin.ofName? name ≠ some .number)
      (leaf : String → Criterion) (same : ∀ content, read content = .ok (leaf content))

theorem counting_of_counted {read : String → Except Error Criterion}
    (named : Builtin.ofName? name = some b) (counted : b = .voteCount ∨ b = .commentCount)
    (leaf : Int → Criterion) (same : ∀ content, read content = (readNumber content).map leaf) :
    Counting setting name read :=
  .number ((holdsNumbers_of_builtin named).mpr counted) leaf same

theorem counting_of_builtin {read : String → Except Error Criterion}
    (named : Builtin.ofName? name = some b) (others : b.isNumber = false)
    (leaf : String → Criterion) (same : ∀ content, read content = .ok (leaf content)) :
    Counting setting name read := by
  refine .other ?_ ?_ leaf same
  · rw [holdsNumbers_of_builtin named]
    rintro (rfl | rfl) <;> cases others
  · rw [named]
    rintro ⟨rfl⟩
    cases others

theorem counting_of_is : Counting ctx.setting name fun content =>
    readIs ctx false name (Target.ofName? ctx.setting name) content := by
  cases target : Target.ofName? ctx.setting name with
  | none =>
    refine .other (not_holdsNumbers_of_unknown target) ?_ _ fun _ => rfl
    simp [(ofName?_unknown_iff.mp target).1]
  | some t =>
    cases t with
    | builtin b =>
      have named := ofName?_builtin_iff.mp target
      cases b with
      | voteCount => exact counting_of_counted named (.inl rfl) (voteCount .equal) fun _ => rfl
      | commentCount => exact counting_of_counted named (.inr rfl) (commentCount .equal) fun _ => rfl
      | number => exact .entityNumber named (number .equal) fun _ => rfl
      | _ => exact counting_of_builtin named rfl _ fun _ => rfl
    | custom spec =>
      have apart : Builtin.ofName? name ≠ some .number := by
        simp [(ofName?_custom_iff.mp target).1]
      have holds := holdsNumbers_of_custom target
      simp only [readIs]
      cases type : spec.type with
      | number =>
        refine .number (holds.mpr type) (numericField name .equal) fun _ => ?_
        simp only [readIsCustom, type]
      | issueChoice | buildChoice | pullRequestChoice =>
        refine .other (by simp [holds, type]) apart
          (fun content => referenceField spec.name content (referredTo ctx spec content)) fun _ => ?_
        simp only [readIsCustom, type]
        exact readReference_lenient
      | choice | userChoice | groupChoice =>
        refine .other (by simp [holds, type]) apart
          (fun content => choiceField name content (-1) .is) fun _ => ?_
        simp only [readIsCustom, type]
        exact readChoice_lenient _
      | boolean =>
        refine .other (by simp [holds, type]) apart
          (fun content => booleanField name (isTrue content)) fun _ => ?_
        simp only [readIsCustom, type]
      | text | date =>
        refine .other (by simp [holds, type]) apart
          (fun content => stringField name content false) fun _ => ?_
        simp only [readIsCustom, type]

theorem counting_of_ordered (op : Operator) : Counting ctx.setting name fun content =>
    readOrdered false name (Target.ofName? ctx.setting name) op content := by
  cases target : Target.ofName? ctx.setting name with
  | none =>
    refine .other (not_holdsNumbers_of_unknown target) ?_ _ fun _ => readChoice_lenient _
    simp [(ofName?_unknown_iff.mp target).1]
  | some t =>
    cases t with
    | builtin b =>
      have named := ofName?_builtin_iff.mp target
      cases b with
      | voteCount => exact counting_of_counted named (.inl rfl) (voteCount (.ofOperator op)) fun _ => rfl
      | commentCount => exact counting_of_counted named (.inr rfl) (commentCount (.ofOperator op)) fun _ => rfl
      | number => exact .entityNumber named (number (.ofOperator op)) fun _ => rfl
      | _ => exact counting_of_builtin named rfl _ fun _ => readChoice_lenient _
    | custom spec =>
      have holds := holdsNumbers_of_custom target
      by_cases number : spec.type = .number
      · refine .number (holds.mpr number) (numericField name (.ofOperator op)) fun _ => ?_
        simp only [readOrdered, number, beq_self_eq_true, if_true]
      · refine .other (by simp [holds, number]) ?_ (fun content => choiceField name content (-1) op)
          fun _ => ?_
        · simp [(ofName?_custom_iff.mp target).1]
        · simp only [readOrdered, beq_iff_eq, number, if_false]
          exact readChoice_lenient _

theorem refused_of_counting {read : String → Except Error Criterion}
    (h : Counting setting name read) : (∃ e, read content = .error e) ↔
      (HoldsNumbers setting name ∧ ∀ n, ¬IsNumber content.toList n) ∨
        (Builtin.ofName? name = some .number ∧ ∀ n, ¬IsEntityNumber content.toList n) := by
  cases h with
  | number holds leaf same =>
    have apart : Builtin.ofName? name ≠ some .number := by
      intro named
      rcases (holdsNumbers_of_builtin named).mp holds with other | other <;> cases other
    simp only [same, map_error_iff, refused_iff, ne_eq, readNumber_ok_iff, holds, apart, true_and,
      false_and, or_false]
  | entityNumber named leaf same =>
    have others : ¬HoldsNumbers setting name := by
      rw [holdsNumbers_of_builtin named]
      exact nofun
    simp only [same, map_error_iff, refused_iff, ne_eq, readEntityNumber_ok_iff, others, named,
      true_and, false_and, false_or]
  | other others apart leaf same =>
    simp [same, others, apart]

theorem readDated_refused_iff (target : Option Target) :
    (∃ e, readDated ctx name target op content = .error e) ↔ readInstant? ctx.now content = none := by
  have literal : DateLiteral.read ctx.now content =
      (readInstant? ctx.now content).elim (.error (.rejected (.unrecognizedDate content)))
        fun date => .ok ⟨content, date⟩ := by
    unfold DateLiteral.read
    cases readInstant? ctx.now content <;> rfl
  rw [readDated, literal]
  cases readInstant? ctx.now content with
  | none => simp [bind, Except.bind]
  | some date =>
    simp only [Option.elim_some, bind_of_ok]
    split <;> simp

theorem readContains_lenient (target : Option Target) :
    ∃ k, readContains false name target content = .ok k := by
  unfold readContains
  split
  · exact ⟨_, rfl⟩
  · exact ⟨_, rfl⟩
  · exact ⟨_, rfl⟩
  · split
    · exact ⟨_, rfl⟩
    · exact ⟨_, readChoice_lenient _⟩
  · exact ⟨_, readChoice_lenient _⟩

theorem readStandalone_refused_iff (category : op.category = .standalone) :
    (∃ e, readStandalone op = .error e) ↔ op ∈ foreignOperators := by
  cases op with
  | submittedByMe | fixedInCurrentBuild => simp [readStandalone, foreignOperators]
  | isOpen | isMerged | isDiscarded | ownedByMe => simp [readStandalone, foreignOperators]
  | _ => cases category

theorem readValue_refused_iff (category : op.category = .value) :
    (∃ e, readValue ctx false op content = .error e) ↔ op ∈ foreignOperators := by
  cases op with
  | submittedBy => simp [readValue, foreignOperators]
  | fixedInBuild =>
    simp [readFixedInBuild_lenient, foreignOperators]
  | ownedBy | includesCommit => simp [readValue, foreignOperators]
  | _ => cases category

theorem malformed_dated_iff (dated : op = .isBefore ∨ op = .isAfter) :
    Malformed setting now (.fieldValue name op content) ↔ readInstant? now content = none := by
  refine ⟨fun h => ?_, .date dated⟩
  cases h with
  | date _ unrecognized => exact unrecognized
  | number compared | entityNumber compared => rcases dated with rfl | rfl <;> simp at compared

theorem malformed_compared_iff (compared : op = .is ∨ op = .isLessThan ∨ op = .isGreaterThan) :
    Malformed setting now (.fieldValue name op content) ↔
      (HoldsNumbers setting name ∧ ∀ n, ¬IsNumber content.toList n) ∨
        (Builtin.ofName? name = some .number ∧ ∀ n, ¬IsEntityNumber content.toList n) := by
  constructor
  · intro h
    cases h with
    | date dated => rcases dated with rfl | rfl <;> simp at compared
    | number _ holds malformed => exact .inl ⟨holds, malformed⟩
    | entityNumber _ malformed => exact .inr ⟨rfl, malformed⟩
  · intro h
    rcases h with ⟨holds, malformed⟩ | ⟨named, malformed⟩
    · exact .number compared holds malformed
    · obtain rfl := name_of_builtin named (by decide)
      exact .entityNumber compared malformed

theorem meaning_refused_iff (category : op.category = .fieldValue) (direct : op ≠ .isNot) :
    (∃ e, meaning ctx false name op content = .error e) ↔
      Malformed ctx.setting ctx.now (.fieldValue name op content) := by
  cases op with
  | isBefore => exact (readDated_refused_iff _).trans (malformed_dated_iff (.inl rfl)).symm
  | isAfter => exact (readDated_refused_iff _).trans (malformed_dated_iff (.inr rfl)).symm
  | contains =>
    have read : ∃ k, meaning ctx false name .contains content = .ok k := readContains_lenient _
    refine never_refused read fun h => ?_
    cases h with
    | date dated => simp at dated
    | number compared | entityNumber compared => simp at compared
  | is =>
    exact (refused_of_counting counting_of_is).trans (malformed_compared_iff (.inl rfl)).symm
  | isLessThan =>
    exact (refused_of_counting (counting_of_ordered _)).trans
      (malformed_compared_iff (.inr (.inl rfl))).symm
  | isGreaterThan =>
    exact (refused_of_counting (counting_of_ordered _)).trans
      (malformed_compared_iff (.inr (.inr rfl))).symm
  | isNot => exact absurd rfl direct
  | _ => cases category

end Criterion

open Criterion in
theorem wording_refused_iff (grammatical : w.Grammatical) :
    (∃ e, (reader ctx false).readWording w = .error e) ↔ Malformed ctx.setting ctx.now w := by
  cases w with
  | standalone op =>
    refine (readStandalone_refused_iff grammatical).trans ⟨.standalone, fun h => ?_⟩
    cases h with
    | standalone foreign => exact foreign
  | value op content =>
    refine (readValue_refused_iff grammatical).trans ⟨.value, fun h => ?_⟩
    cases h with
    | value foreign => exact foreign
  | fieldValue name op content =>
    have same : readFieldValue ctx false name op content = meaning ctx false name op content := by
      cases op <;> rfl
    show (∃ e, readFieldValue ctx false name op content = .error e) ↔ _
    rw [same]
    exact meaning_refused_iff grammatical.1 grammatical.2
  | field name op =>
    have read : ∃ k, readField ctx false name op = .ok k :=
      ⟨_, readField_ok_iff.mpr ⟨nofun, grammatical, rfl⟩⟩
    exact never_refused read nofun
  | between first second =>
    have read : ∃ k, readBetween ctx false first second = .ok k :=
      ⟨_, readBetween_ok_iff.mpr ⟨nofun, rfl⟩⟩
    exact never_refused read nofun

theorem Malformed.of_same {setting' : Setting}
    (same : ∀ name, NumberField setting name ↔ NumberField setting' name)
    (h : Malformed setting now w) : Malformed setting' now w := by
  cases h with
  | standalone foreign => exact .standalone foreign
  | value foreign => exact .value foreign
  | date dated unrecognized => exact .date dated unrecognized
  | number compared holds malformed =>
    exact .number compared (holds.imp_right (Or.imp_right (same _).mp)) malformed
  | entityNumber compared malformed => exact .entityNumber compared malformed

theorem read_refused_iff {text : Option String} : (∃ e, Query.read ctx text false = .error e) ↔
    (∃ s, text = some s ∧ ∀ t, Tree.ofText s ≠ .ok t) ∨
      ∃ w, HasLeaf text w ∧ Malformed ctx.setting ctx.now w := by
  refine (LeafReader.ofText?_refused_iff fun _ => rfl).trans (or_congr_right ?_)
  refine exists_congr fun w => and_congr_right fun leaf => ?_
  exact wording_refused_iff (LeafReader.grammatical_of_text leaf)

-- Without validation, a text is refused if and only if it is no query or has a malformed leaf, and so
-- contexts that agree on the current instant and on which fields hold numbers accept the same texts.
theorem lenient_rejections (ctx : ReadContext) (text : Option String) :
    ((∃ e, Query.read ctx text false = .error e) ↔
        (∃ s, text = some s ∧ ∀ t, Tree.ofText s ≠ .ok t) ∨
          ∃ w, HasLeaf text w ∧ Malformed ctx.setting ctx.now w) ∧
      ∀ ctx' : ReadContext, ctx'.now = ctx.now →
        (∀ name, NumberField ctx'.setting name ↔ NumberField ctx.setting name) →
        ((∃ q, Query.read ctx' text false = .ok q) ↔ ∃ q, Query.read ctx text false = .ok q) := by
  refine ⟨read_refused_iff, fun ctx' now same => ?_⟩
  have refused : (∃ e, Query.read ctx' text false = .error e) ↔
      ∃ e, Query.read ctx text false = .error e := by
    rw [read_refused_iff, read_refused_iff, now]
    refine or_congr_right (exists_congr fun w => and_congr_right fun _ => ?_)
    exact ⟨.of_same same, .of_same fun name => (same name).symm⟩
  rw [← not_iff_not]
  simpa only [TrackerQuery.refused_iff, not_exists] using refused

theorem lenient_rejections_estimate :
    let estimate : FieldSpec := ⟨"Estimate", .number, false, []⟩
    let ctx : ReadContext :=
      ⟨none, ⟨[⟨"Priority", .choice, false, ["Low"]⟩, estimate], ["Open"]⟩, Repository.empty.resolver,
        ⟨0, 0⟩⟩
    let ctx' : ReadContext := { ctx with setting := ⟨[estimate, ⟨"Priority", .date, true, []⟩], []⟩ }
    let late := "\"Priority\" is \"None\" or \"Estimate\" is not \"1 h\""
    let stale := "\"Priority\" is \"Low\" and \"Estimate\" is less than \"+1\" order by \"Gone\""
    ((∃ s, some late = some s ∧ ∀ t, Tree.ofText s ≠ .ok t) ∨
        ∃ w, HasLeaf (some late) w ∧ Malformed ctx.setting ctx.now w) ∧
      (∀ name, NumberField ctx'.setting name ↔ NumberField ctx.setting name) ∧
      (∃ q, Query.read ctx (some stale) false = .ok q) ∧
      ∃ q, Query.read ctx' (some stale) false = .ok q := by
  intro estimate ctx ctx' late stale
  have refused : Query.read ctx (some late) false = .error (.rejected (.invalidNumber "1 h")) := by
    decide +kernel
  have read : Query.read ctx (some stale) false =
      .ok ⟨some (.all [.leaf (.choiceField "Priority" "Low" (-1) .is),
        .leaf (.numericField "Estimate" .less 1)]), [⟨"Gone", .descending⟩]⟩ := by
    decide +kernel
  have same : ∀ name, NumberField ctx'.setting name ↔ NumberField ctx.setting name := by
    intro name
    rw [numberField_iff, numberField_iff]
    by_cases priority : "Priority" = name
    · subst priority
      simp [Setting.field?, ctx, ctx', estimate]
    · by_cases other : "Estimate" = name <;>
        simp [Setting.field?, ctx, ctx', estimate, priority, other]
  refine ⟨(lenient_rejections ctx (some late)).1.mp ⟨_, refused⟩, same, ⟨_, read⟩, ?_⟩
  exact ((lenient_rejections ctx (some stale)).2 ctx' rfl same).mpr ⟨_, read⟩

end TrackerQuery.Issue
