import TrackerQuery.Proofs.RoundTrip

namespace TrackerQuery.Issue

open TrackerQuery.Text TrackerQuery.Time

structure CustomField (setting : Setting) (name : String) (spec : FieldSpec) : Prop where
  notAlias : name ≠ "status"
  notBuiltin : ∀ b : Builtin, name ≠ b.name
  first : setting.field? name = some spec

-- Choices of a list have the position of their first occurrence there, users and groups have none.
def Positioned (spec : FieldSpec) (value : String) (ordinal : Int) : Prop :=
  if spec.type = .choice then ∃ i : Nat, spec.choices.idxOf? value = some i ∧ ordinal = i
  else ordinal = -1

inductive Criterion.WellTyped (ctx : ReadContext) : Criterion → Prop where
  | submittedByMe : WellTyped ctx .submittedByMe
  | fixedInCurrentBuild : WellTyped ctx .fixedInCurrentBuild
  | submittedBy {user} : WellTyped ctx (.submittedBy user)
  | fixedInBuild {value reference build} (read : Reference.read? value = some reference)
      (known : ctx.resolver.build ctx.project reference = some build) :
      WellTyped ctx (.fixedInBuild value (some build))
  | fixedBetween {first second start stop} (known : ctx.resolver.commit ctx.project first = some start)
      (known' : ctx.resolver.commit ctx.project second = some stop) :
      WellTyped ctx (.fixedBetween first second ctx.project (some (start, stop)))
  | title {value} : WellTyped ctx (.title value)
  | description {value} : WellTyped ctx (.description value)
  | comment {value} : WellTyped ctx (.comment value)
  | state {field value} (named : field = "state" ∨ field = "status")
      (defined : value ∈ ctx.setting.states) : WellTyped ctx (.state field value)
  | milestone {value} : WellTyped ctx (.milestone value)
  | voteCount {op n} (fits : fits64 n = true) : WellTyped ctx (.voteCount op n)
  | commentCount {op n} (fits : fits64 n = true) : WellTyped ctx (.commentCount op n)
  | number {op n} (fits : fits64 n = true) : WellTyped ctx (.number op n)
  | submitDate {op d} (ordered : op ≠ .equal) (meant : readInstant? ctx.now d.text = some d.date) :
      WellTyped ctx (.submitDate op d)
  | updateDate {op d} (ordered : op ≠ .equal) (meant : readInstant? ctx.now d.text = some d.date) :
      WellTyped ctx (.updateDate op d)
  | dateField {field spec op d} (named : CustomField ctx.setting field spec) (type : spec.type = .date)
      (ordered : op ≠ .equal) (meant : readInstant? ctx.now d.text = some d.date) :
      WellTyped ctx (.dateField field op d)
  | stringField {field spec value contains} (named : CustomField ctx.setting field spec)
      (type : spec.type = .text) : WellTyped ctx (.stringField field value contains)
  | choice {field spec value ordinal} (named : CustomField ctx.setting field spec)
      (type : spec.type.isChoiceLike = true) (position : Positioned spec value ordinal) :
      WellTyped ctx (.choiceField field value ordinal .is)
  | containedChoice {field spec value ordinal} (named : CustomField ctx.setting field spec)
      (type : spec.type.isChoiceLike = true) (multiple : spec.allowMultiple = true)
      (position : Positioned spec value ordinal) :
      WellTyped ctx (.choiceField field value ordinal .contains)
  | orderedChoice {field spec value ordinal op} (named : CustomField ctx.setting field spec)
      (type : spec.type = .choice) (position : Positioned spec value ordinal)
      (ordered : op = .isLessThan ∨ op = .isGreaterThan) :
      WellTyped ctx (.choiceField field value ordinal op)
  | numericField {field spec op n} (named : CustomField ctx.setting field spec)
      (type : spec.type = .number) (fits : fits64 n = true) : WellTyped ctx (.numericField field op n)
  | booleanField {field spec value} (named : CustomField ctx.setting field spec)
      (type : spec.type = .boolean) : WellTyped ctx (.booleanField field value)
  | referenceField {field spec value reference} (named : CustomField ctx.setting field spec)
      (type : spec.type = .issueChoice ∨ spec.type = .pullRequestChoice)
      (read : Reference.read? value = some reference) :
      WellTyped ctx (.referenceField field value (some reference.number))
  | buildField {field spec value reference build} (named : CustomField ctx.setting field spec)
      (type : spec.type = .buildChoice) (read : Reference.read? value = some reference)
      (known : ctx.resolver.build ctx.project reference = some build) :
      WellTyped ctx (.referenceField field value (some build.number))
  | emptyField {field spec} (named : CustomField ctx.setting field spec) :
      WellTyped ctx (.fieldOperator field .isEmpty)
  | userField {field spec} (named : CustomField ctx.setting field spec)
      (type : spec.type = .userChoice) : WellTyped ctx (.fieldOperator field .isMe)
  | relativeBuildField {field spec op} (named : CustomField ctx.setting field spec)
      (type : spec.type = .buildChoice) (relative : op = .isCurrent ∨ op = .isPrevious) :
      WellTyped ctx (.fieldOperator field op)

variable {ctx : ReadContext} {name content : String} {op : Operator} {spec : FieldSpec} {k : Criterion}

theorem ofName?_none_iff : Builtin.ofName? name = none ↔
    name ≠ "status" ∧ ∀ b : Builtin, name ≠ b.name := by
  have listed : ∀ b : Builtin, b ∈ Builtin.all := by
    intro b
    cases b <;> decide
  unfold Builtin.ofName?
  by_cases status : name = "status"
  · simp [status]
  · simp only [beq_iff_eq, status, if_false, List.find?_eq_none, ne_eq, not_false_eq_true, true_and]
    exact ⟨fun none b same => none b (listed b) same.symm, fun none b _ same => none b same.symm⟩

theorem name_of_state : Builtin.ofName? name = some .state ↔ name = "state" ∨ name = "status" := by
  constructor
  · intro found
    unfold Builtin.ofName? at found
    split at found
    · rename_i same
      exact .inr (beq_iff_eq.mp same)
    · have same := List.find?_some (p := fun (b : Builtin) => b.name == name) found
      exact .inl (beq_iff_eq.mp same).symm
  · intro named
    rcases named with rfl | rfl <;> rfl

theorem customField_iff {setting : Setting} : CustomField setting name spec ↔
    Target.ofName? setting name = some (.custom spec) := by
  rw [ofName?_custom_iff, ofName?_none_iff]
  exact ⟨fun h => ⟨⟨h.notAlias, h.notBuiltin⟩, h.first⟩, fun h => ⟨h.1.1, h.1.2, h.2⟩⟩

theorem positioned_iff : Positioned spec content ordinal ↔
    Criterion.readOrdinal true name (some spec) content = .ok ordinal := by
  rw [Criterion.readOrdinal_ok_iff, Positioned, FieldSpec.ordinalOf]
  by_cases choice : spec.type = .choice
  · simp only [choice, if_true, forall_const]
    cases found : spec.choices.idxOf? content with
    | none =>
      simp
      omega
    | some i =>
      simp [eq_comm]
      omega
  · simp [choice, eq_comm]

namespace Criterion

theorem wellTyped_of_dated (dated : op = .isBefore ∨ op = .isAfter)
    (found : Target.ofName? ctx.setting name = some target) (taken : target.takes op = true)
    (read : readDated ctx name (some target) op content = .ok k) : k.WellTyped ctx := by
  simp only [readDated, bind_ok_iff] at read
  obtain ⟨date, literal, read⟩ := read
  obtain ⟨rfl, meant⟩ := dateLiteral_ok_iff.mp literal
  have ordered : Comparison.ofOperator op ≠ .equal := by
    rcases dated with rfl | rfl <;> simp [Comparison.ofOperator]
  cases target with
  | custom spec =>
    have type : spec.type = .date := by
      rcases dated with rfl | rfl <;> simpa [Target.takes] using taken
    cases read
    exact .dateField (customField_iff.mpr found) type ordered meant
  | builtin b =>
    have isDate : b.isDate = true := by
      rcases dated with rfl | rfl <;> simpa [Target.takes] using taken
    cases b with
    | submitDate =>
      cases read
      exact .submitDate ordered meant
    | updateDate =>
      cases read
      exact .updateDate ordered meant
    | _ => cases isDate

theorem wellTyped_of_contains (found : Target.ofName? ctx.setting name = some target)
    (taken : target.takes .contains = true)
    (read : readContains true name (some target) content = .ok k) : k.WellTyped ctx := by
  cases target with
  | custom spec =>
    have named := customField_iff.mpr found
    by_cases type : spec.type = .text
    · simp only [readContains, type, beq_self_eq_true, if_true] at read
      cases read
      exact .stringField named type
    · simp only [readContains, beq_iff_eq, type, if_false] at read
      obtain ⟨ordinal, position, rfl⟩ := readChoice_ok_iff.mp read
      have multiple : spec.allowMultiple = true ∧ spec.type.isChoiceLike = true := by
        simpa [Target.takes, type] using taken
      exact .containedChoice named multiple.2 multiple.1 (positioned_iff.mpr position)
  | builtin b =>
    cases b with
    | title =>
      cases read
      exact .title
    | description =>
      cases read
      exact .description
    | comment =>
      cases read
      exact .comment
    | _ => cases taken

theorem wellTyped_of_reference (named : CustomField ctx.setting name spec)
    (type : spec.type.isReference = true) (read : readReference ctx true spec content = .ok k) :
    k.WellTyped ctx := by
  obtain ⟨known, rfl⟩ := readReference_ok_iff.mp read
  rw [name_of_spec named.first]
  have known := known rfl
  unfold referredTo at known ⊢
  cases reference : Reference.read? content with
  | none => simp [reference] at known
  | some reference' =>
    by_cases build : spec.type = .buildChoice
    · simp only [reference, build, if_true, Option.bind_eq_bind, Option.bind_some] at known ⊢
      cases found : ctx.resolver.build ctx.project reference' with
      | none => simp [found] at known
      | some b => exact .buildField named build reference found
    · simp only [build, if_false, Option.bind_eq_bind, Option.bind_some]
      refine .referenceField named ?_ reference
      cases kind : spec.type <;> simp_all [FieldType.isReference]

theorem wellTyped_of_is (found : Target.ofName? ctx.setting name = some target)
    (taken : target.takes .is = true)
    (read : readIs ctx true name (some target) content = .ok k) : k.WellTyped ctx := by
  cases target with
  | custom spec =>
    have named := customField_iff.mpr found
    simp only [readIs] at read
    cases type : spec.type with
    | issueChoice | buildChoice | pullRequestChoice =>
      simp only [readIsCustom, type] at read
      exact wellTyped_of_reference named (by rw [type]; rfl) read
    | boolean =>
      simp only [readIsCustom, type] at read
      cases read
      exact .booleanField named type
    | number =>
      simp only [readIsCustom, type] at read
      obtain ⟨n, number, rfl⟩ := map_ok_iff.mp read
      exact .numericField named type (fits_of_readNumber number)
    | choice | userChoice | groupChoice =>
      simp only [readIsCustom, type] at read
      obtain ⟨ordinal, position, rfl⟩ := readChoice_ok_iff.mp read
      exact .choice named (by rw [type]; rfl) (positioned_iff.mpr position)
    | text =>
      simp only [readIsCustom, type] at read
      cases read
      exact .stringField named type
    | date => simp [Target.takes, type] at taken
  | builtin b =>
    cases b with
    | state =>
      simp only [readIs, Bool.true_and] at read
      by_cases defined : ctx.setting.hasState content = true
      · simp only [defined, Bool.not_true, Bool.false_eq_true, if_false] at read
        cases read
        exact .state (name_of_state.mp (ofName?_builtin_iff.mp found))
          (by simpa [Setting.hasState] using defined)
      · simp [defined] at read
    | milestone =>
      cases read
      exact .milestone
    | voteCount =>
      obtain ⟨n, number, rfl⟩ := map_ok_iff.mp read
      exact .voteCount (fits_of_readNumber number)
    | commentCount =>
      obtain ⟨n, number, rfl⟩ := map_ok_iff.mp read
      exact .commentCount (fits_of_readNumber number)
    | number =>
      simp only [readIs] at read
      obtain ⟨n, number, rfl⟩ := map_ok_iff.mp read
      exact .number (fits_of_readNumber number)
    | _ => cases taken

theorem wellTyped_of_ordered (ordered : op = .isLessThan ∨ op = .isGreaterThan)
    (found : Target.ofName? ctx.setting name = some target) (taken : target.takes op = true)
    (read : readOrdered true name (some target) op content = .ok k) : k.WellTyped ctx := by
  cases target with
  | custom spec =>
    have named := customField_iff.mpr found
    by_cases type : spec.type = .number
    · simp only [readOrdered, type, beq_self_eq_true, if_true] at read
      obtain ⟨n, number, rfl⟩ := map_ok_iff.mp read
      exact .numericField named type (fits_of_readNumber number)
    · simp only [readOrdered, beq_iff_eq, type, if_false] at read
      obtain ⟨ordinal, position, rfl⟩ := readChoice_ok_iff.mp read
      have choice : spec.type = .choice := by
        rcases ordered with rfl | rfl <;> simpa [Target.takes, type] using taken
      exact .orderedChoice named choice (positioned_iff.mpr position) ordered
  | builtin b =>
    have isNumber : b.isNumber = true := by
      rcases ordered with rfl | rfl <;> simpa [Target.takes] using taken
    cases b with
    | voteCount =>
      obtain ⟨n, number, rfl⟩ := map_ok_iff.mp read
      exact .voteCount (fits_of_readNumber number)
    | commentCount =>
      obtain ⟨n, number, rfl⟩ := map_ok_iff.mp read
      exact .commentCount (fits_of_readNumber number)
    | number =>
      simp only [readOrdered] at read
      obtain ⟨n, number, rfl⟩ := map_ok_iff.mp read
      exact .number (fits_of_readNumber number)
    | _ => cases isNumber

theorem wellTyped_of_fieldValue (read : readFieldValue ctx true name op content = .ok k) :
    k.WellTyped ctx := by
  obtain ⟨checked, read⟩ := readFieldValue_ok_iff.mp read
  obtain ⟨target, found, taken⟩ := checkField_ok_iff.mp (checked rfl)
  unfold meaning at read
  rw [found] at read
  cases op with
  | isBefore => exact wellTyped_of_dated (.inl rfl) found taken read
  | isAfter => exact wellTyped_of_dated (.inr rfl) found taken read
  | contains => exact wellTyped_of_contains found taken read
  | is => exact wellTyped_of_is found taken read
  | isLessThan => exact wellTyped_of_ordered (.inl rfl) found taken read
  | isGreaterThan => exact wellTyped_of_ordered (.inr rfl) found taken read
  | _ => cases read

theorem wellTyped_of_field (read : readField ctx true name op = .ok k) : k.WellTyped ctx := by
  obtain ⟨checked, category, rfl⟩ := readField_ok_iff.mp read
  obtain ⟨target, found, taken⟩ := checkField_ok_iff.mp (checked rfl)
  cases target with
  | custom spec =>
    have named := customField_iff.mpr found
    have other : ¬ (op = .isEmpty ∧ Builtin.ofName? name = some .milestone) := by
      simp [(ofName?_custom_iff.mp found).1]
    rw [if_neg other]
    cases op with
    | isEmpty => exact .emptyField named
    | isMe => exact .userField named (by simpa [Target.takes] using taken)
    | isCurrent => exact .relativeBuildField named (by simpa [Target.takes] using taken) (.inl rfl)
    | isPrevious => exact .relativeBuildField named (by simpa [Target.takes] using taken) (.inr rfl)
    | _ => cases category
  | builtin b =>
    cases op with
    | isEmpty =>
      have milestone : b = .milestone := by simpa [Target.takes] using taken
      rw [if_pos ⟨rfl, milestone ▸ ofName?_builtin_iff.mp found⟩]
      exact .milestone
    | isMe | isCurrent | isPrevious => cases taken
    | _ => cases category

theorem wellTyped_of_value (read : readValue ctx true op content = .ok k) : k.WellTyped ctx := by
  obtain ⟨_, rfl⟩ | ⟨_, known, rfl⟩ := readValue_ok_iff.mp read
  · exact .submittedBy
  · have known := known rfl
    unfold buildOf at known ⊢
    cases reference : Reference.read? content with
    | none => simp [reference] at known
    | some reference' =>
      cases found : ctx.resolver.build ctx.project reference' with
      | none => simp [reference, found] at known
      | some b =>
        simp only [Option.bind_eq_bind, Option.bind_some, found]
        exact .fixedInBuild reference found

theorem wellTyped_of_between (read : readBetween ctx true first second = .ok k) :
    k.WellTyped ctx := by
  obtain ⟨known, rfl⟩ := readBetween_ok_iff.mp read
  have known := known rfl
  unfold commitsOf at known ⊢
  cases start : ctx.resolver.commit ctx.project first with
  | none => simp [start] at known
  | some a =>
    cases stop : ctx.resolver.commit ctx.project second with
    | none => simp [start, stop] at known
    | some b => exact .fixedBetween start stop

theorem wellTyped_of_readable (h : (reader ctx true).Readable k) : k.WellTyped ctx := by
  obtain ⟨w, grammatical, read⟩ := h
  cases w with
  | standalone op =>
    cases op <;> cases read
    · exact .submittedByMe
    · exact .fixedInCurrentBuild
  | field name op => exact wellTyped_of_field read
  | fieldValue name op content => exact wellTyped_of_fieldValue read
  | value op content => exact wellTyped_of_value read
  | between first second => exact wellTyped_of_between read

theorem readable_of_meaning (op : Operator) (content : String) (category : op.category = .fieldValue)
    (direct : op ≠ .isNot) (found : Target.ofName? ctx.setting name = some target)
    (taken : target.takes op = true) (read : meaning ctx true name op content = .ok k) :
    (reader ctx true).Readable k :=
  ⟨.fieldValue name op content, ⟨category, direct⟩, readFieldValue_ok_iff.mpr
    ⟨fun _ => checkField_ok_iff.mpr ⟨target, found, taken⟩, read⟩⟩

theorem readable_of_field (op : Operator) (category : op.category = .field)
    (found : Target.ofName? ctx.setting name = some target) (taken : target.takes op = true) :
    (reader ctx true).Readable
      (if op = .isEmpty ∧ Builtin.ofName? name = some .milestone then milestone none
        else fieldOperator name op) := by
  refine ⟨.field name op, category, ?_⟩
  have checked : true = true → checkField ctx.setting name op = .ok () :=
    fun _ => checkField_ok_iff.mpr ⟨target, found, taken⟩
  exact readField_ok_iff.mpr ⟨checked, category, rfl⟩

theorem builtin_found (setting : Setting) (b : Builtin) :
    Target.ofName? setting b.name = some (.builtin b) :=
  ofName?_builtin_iff.mpr (Builtin.ofName?_name b)

theorem readable_of_contained (b : Builtin) (taken : (Target.builtin b).takes .contains = true)
    (read : readContains true b.name (some (.builtin b)) content = .ok k) :
    (reader ctx true).Readable k := by
  have found := builtin_found ctx.setting b
  apply readable_of_meaning .contains content rfl (by decide) found taken
  rw [meaning, found]
  exact read

theorem readable_of_number (c : Comparison) {n : Int} {read : String → Except Error Int}
    (again : read (toString n) = .ok n) {leaf : Comparison → Int → Criterion}
    (found : Target.ofName? ctx.setting name = some target)
    (taken : target.takes c.numberOperator = true)
    (equal : ∀ text, readIs ctx true name (some target) text = (read text).map (leaf .equal))
    (ordered : ∀ op text, readOrdered true name (some target) op text =
      (read text).map (leaf (.ofOperator op))) :
    (reader ctx true).Readable (leaf c n) := by
  cases c with
  | equal =>
    apply readable_of_meaning .is (toString n) rfl (by decide) found taken
    simp only [meaning, found, equal, again, Except.map]
  | less =>
    apply readable_of_meaning .isLessThan (toString n) rfl (by decide) found taken
    simp only [meaning, found, ordered, again, Except.map, Comparison.ofOperator]
  | greater =>
    apply readable_of_meaning .isGreaterThan (toString n) rfl (by decide) found taken
    simp only [meaning, found, ordered, again, Except.map, Comparison.ofOperator]

theorem readable_of_date {c : Comparison} {d : DateLiteral} (ordered : c ≠ .equal)
    (meant : readInstant? ctx.now d.text = some d.date) {leaf : Comparison → DateLiteral → Criterion}
    (found : Target.ofName? ctx.setting name = some target)
    (taken : target.takes c.dateOperator = true)
    (dated : ∀ op, readDated ctx name (some target) op d.text =
      (DateLiteral.read ctx.now d.text).map (leaf (.ofOperator op))) :
    (reader ctx true).Readable (leaf c d) := by
  have literal : DateLiteral.read ctx.now d.text = .ok d := dateLiteral_ok_iff.mpr ⟨rfl, meant⟩
  cases c with
  | equal => contradiction
  | less =>
    apply readable_of_meaning .isBefore d.text rfl (by decide) found taken
    simp [meaning, found, dated, literal, Except.map, Comparison.ofOperator]
  | greater =>
    apply readable_of_meaning .isAfter d.text rfl (by decide) found taken
    simp [meaning, found, dated, literal, Except.map, Comparison.ofOperator]

theorem readable_of_choice (op : Operator) (named : CustomField ctx.setting name spec)
    (category : op.category = .fieldValue) (direct : op ≠ .isNot)
    (taken : (Target.custom spec).takes op = true) (position : Positioned spec content ordinal)
    (chosen : meaning ctx true name op content = readChoice true name (some spec) op content) :
    (reader ctx true).Readable (choiceField name content ordinal op) := by
  apply readable_of_meaning op content category direct (customField_iff.mp named) taken
  rw [chosen]
  exact readChoice_ok_iff.mpr ⟨ordinal, positioned_iff.mp position, rfl⟩

theorem readable_of_reference (named : CustomField ctx.setting name spec)
    (type : spec.type.isReference = true) (known : (referredTo ctx spec content).isSome = true) :
    (reader ctx true).Readable (referenceField name content (referredTo ctx spec content)) := by
  have found := customField_iff.mp named
  refine readable_of_meaning .is content rfl (by decide) found ?_ ?_
  · cases kind : spec.type <;> simp_all [Target.takes, FieldType.isReference]
  · have read : readReference ctx true spec content =
        .ok (referenceField name content (referredTo ctx spec content)) := by
      rw [← name_of_spec named.first]
      exact readReference_ok_iff.mpr ⟨fun _ => known, rfl⟩
    rw [← read]
    cases kind : spec.type <;> simp_all [meaning, readIs, readIsCustom, FieldType.isReference]

theorem readable_of_fieldOperator (named : CustomField ctx.setting name spec)
    (category : op.category = .field) (taken : (Target.custom spec).takes op = true) :
    (reader ctx true).Readable (fieldOperator name op) := by
  have found := customField_iff.mp named
  have readable := readable_of_field op category found taken
  rwa [if_neg (by simp [(ofName?_custom_iff.mp found).1])] at readable

theorem readable_of_wellTyped (h : k.WellTyped ctx) : (reader ctx true).Readable k := by
  cases h with
  | submittedByMe => exact ⟨.standalone .submittedByMe, rfl, rfl⟩
  | fixedInCurrentBuild => exact ⟨.standalone .fixedInCurrentBuild, rfl, rfl⟩
  | @submittedBy user => exact ⟨.value .submittedBy user, rfl, rfl⟩
  | @fixedInBuild value reference build read known =>
    have found : buildOf ctx value = some build := by simp [buildOf, read, known]
    exact ⟨.value .fixedInBuild value, rfl, readValue_ok_iff.mpr
      (.inr ⟨rfl, by simp [found], by rw [found]⟩)⟩
  | @fixedBetween first second start stop known known' =>
    have found : commitsOf ctx first second = some (start, stop) := by
      simp [commitsOf, known, known']
    exact ⟨.between first second, trivial, readBetween_ok_iff.mpr ⟨by simp [found], by rw [found]⟩⟩
  | title => exact readable_of_contained .title rfl rfl
  | description => exact readable_of_contained .description rfl rfl
  | comment => exact readable_of_contained .comment rfl rfl
  | @state field value named defined =>
    have found : Target.ofName? ctx.setting field = some (.builtin .state) :=
      ofName?_builtin_iff.mpr (name_of_state.mpr named)
    have defined : ctx.setting.hasState value = true := by simpa [Setting.hasState] using defined
    apply readable_of_meaning .is value rfl (by decide) found rfl
    simp [meaning, found, readIs, defined]
  | @milestone value =>
    have found := builtin_found ctx.setting .milestone
    cases value with
    | none => exact readable_of_field .isEmpty rfl found rfl
    | some value =>
      apply readable_of_meaning .is value rfl (by decide) found rfl
      rw [meaning, found]
      rfl
  | @voteCount op n fits =>
    have found := builtin_found ctx.setting .voteCount
    have taken : (Target.builtin .voteCount).takes op.numberOperator = true := by cases op <;> rfl
    exact readable_of_number op (readNumber_toString fits) found taken (fun _ => rfl) fun _ _ => rfl
  | @commentCount op n fits =>
    have found := builtin_found ctx.setting .commentCount
    have taken : (Target.builtin .commentCount).takes op.numberOperator = true := by cases op <;> rfl
    exact readable_of_number op (readNumber_toString fits) found taken (fun _ => rfl) fun _ _ => rfl
  | @number op n fits =>
    have found := builtin_found ctx.setting .number
    have taken : (Target.builtin .number).takes op.numberOperator = true := by cases op <;> rfl
    exact readable_of_number op (readEntityNumber_toString fits) found taken (fun _ => rfl)
      fun _ _ => rfl
  | @submitDate op d ordered meant =>
    have found := builtin_found ctx.setting .submitDate
    exact readable_of_date ordered meant found (by cases op <;> rfl) fun _ => rfl
  | @updateDate op d ordered meant =>
    have found := builtin_found ctx.setting .updateDate
    exact readable_of_date ordered meant found (by cases op <;> rfl) fun _ => rfl
  | @dateField field spec op d named type ordered meant =>
    have taken : (Target.custom spec).takes op.dateOperator = true := by
      cases op <;> simp [Target.takes, Comparison.dateOperator, type]
    exact readable_of_date ordered meant (customField_iff.mp named) taken fun _ => rfl
  | @stringField field spec value contains named type =>
    have found := customField_iff.mp named
    cases contains with
    | true =>
      have taken : (Target.custom spec).takes .contains = true := by simp [Target.takes, type]
      apply readable_of_meaning .contains value rfl (by decide) found taken
      simp [meaning, found, readContains, type]
    | false =>
      have taken : (Target.custom spec).takes .is = true := by simp [Target.takes, type]
      apply readable_of_meaning .is value rfl (by decide) found taken
      simp [meaning, found, readIs, readIsCustom, type]
  | @choice field spec value ordinal named type position =>
    have found := customField_iff.mp named
    refine readable_of_choice .is named rfl (by decide) ?_ position ?_
    · cases kind : spec.type <;> simp_all [Target.takes, FieldType.isChoiceLike]
    · cases kind : spec.type <;> simp_all [meaning, readIs, readIsCustom, FieldType.isChoiceLike]
  | @containedChoice field spec value ordinal named type multiple position =>
    have found := customField_iff.mp named
    have other : spec.type ≠ .text := by
      intro text
      simp [text, FieldType.isChoiceLike] at type
    have taken : (Target.custom spec).takes .contains = true := by
      simp [Target.takes, multiple, type]
    apply readable_of_choice .contains named rfl (by decide) taken position
    simp [meaning, found, readContains, other]
  | @orderedChoice field spec value ordinal op named type position ordered =>
    have found := customField_iff.mp named
    have taken : (Target.custom spec).takes op = true := by
      rcases ordered with rfl | rfl <;> simp [Target.takes, type]
    rcases ordered with rfl | rfl
    · apply readable_of_choice .isLessThan named rfl (by decide) taken position
      simp [meaning, found, readOrdered, type]
    · apply readable_of_choice .isGreaterThan named rfl (by decide) taken position
      simp [meaning, found, readOrdered, type]
  | @numericField field spec op n named type fits =>
    have found := customField_iff.mp named
    have taken : (Target.custom spec).takes op.numberOperator = true := by
      cases op <;> simp [Target.takes, Comparison.numberOperator, type]
    apply readable_of_number op (readNumber_toString fits) found taken
    · simp [readIs, readIsCustom, type]
    · simp [readOrdered, type]
  | @booleanField field spec value named type =>
    have found := customField_iff.mp named
    have taken : (Target.custom spec).takes .is = true := by simp [Target.takes, type]
    apply readable_of_meaning .is (if value then "true" else "false") rfl (by decide) found taken
    simp [meaning, found, readIs, readIsCustom, type, isTrue_text]
  | @referenceField field spec value reference named type read =>
    have other : spec.type ≠ .buildChoice := by rcases type with type | type <;> simp [type]
    have target : referredTo ctx spec value = some reference.number := by
      simp [referredTo, read, other]
    have refers : spec.type.isReference = true := by
      rcases type with type | type <;> simp [type, FieldType.isReference]
    rw [← target]
    exact readable_of_reference named refers (by simp [target])
  | @buildField field spec value reference build named type read known =>
    have target : referredTo ctx spec value = some build.number := by
      simp [referredTo, read, type, known]
    rw [← target]
    exact readable_of_reference named (by simp [type, FieldType.isReference]) (by simp [target])
  | emptyField named => exact readable_of_fieldOperator named rfl rfl
  | userField named type =>
    exact readable_of_fieldOperator named rfl (by simp [Target.takes, type])
  | relativeBuildField named type relative =>
    rcases relative with rfl | rfl
    · exact readable_of_fieldOperator named rfl (by simp [Target.takes, type])
    · exact readable_of_fieldOperator named rfl (by simp [Target.takes, type])

theorem readable_iff : (reader ctx true).Readable k ↔ k.WellTyped ctx :=
  ⟨wellTyped_of_readable, readable_of_wellTyped⟩

end Criterion

theorem read_wellTyped {q : Query} (read : Query.read ctx text true = .ok q) :
    TrackerQuery.Query.WellFormed (reader ctx true) (Criterion.WellTyped ctx) q := by
  cases text with
  | none =>
    cases read
    exact ⟨by simp [TrackerQuery.Query.empty], by simp [TrackerQuery.Query.empty]⟩
  | some text =>
    have wellFormed := ofText_wellFormed read
    exact ⟨fun c mem => (wellFormed.criteria c mem).imp fun _ => Criterion.readable_iff.mp,
      wellFormed.sorts⟩

-- A tree is the criteria of some validated query just if it is well-typed, and just if its own text
-- is such a query.
theorem read_iff_wellTyped (ctx : ReadContext) (c : Criteria Criterion) :
    ((∃ text q, Query.read ctx (some text) true = .ok q ∧ q.criteria = some c) ↔
        c.WellFormed (Criterion.WellTyped ctx)) ∧
      (Query.read ctx (some c.text) true = .ok ⟨some c, []⟩ ↔
        c.WellFormed (Criterion.WellTyped ctx)) := by
  have typed : ∀ {text q}, Query.read ctx (some text) true = .ok q → q.criteria = some c →
      c.WellFormed (Criterion.WellTyped ctx) := by
    intro text q read criteria
    exact ((ofText_wellFormed read).criteria c criteria).imp fun _ => Criterion.readable_iff.mp
  have written : c.WellFormed (Criterion.WellTyped ctx) →
      Query.read ctx (some c.text) true = .ok ⟨some c, []⟩ := by
    intro wellTyped
    have spelled : c.WellFormed (reader ctx true).Spelled :=
      wellTyped.imp fun _ h => spelled_of_readable (Criterion.readable_iff.mpr h)
    have whole : (TrackerQuery.Query.mk (some c) []).WellFormed (reader ctx true)
        (reader ctx true).Spelled :=
      ⟨by simpa using spelled, by simp⟩
    exact ofText_of_writes (writes_query whole)
  exact ⟨⟨fun ⟨_, _, read, criteria⟩ => typed read criteria, fun h => ⟨_, _, written h, rfl⟩⟩,
    fun read => typed read rfl, written⟩

end TrackerQuery.Issue
