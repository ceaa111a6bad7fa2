import TrackerQuery.Proofs.Issue.Meaning
import TrackerQuery.Proofs.Query.Number
import TrackerQuery.Proofs.Query.Writing
import TrackerQuery.Project.Criterion
import TrackerQuery.PullRequest.Criterion
import TrackerQuery.Repository

namespace TrackerQuery

open TrackerQuery.Text TrackerQuery.Time

namespace Issue.Criterion

variable {ctx : ReadContext} {validate : Bool} {name content : String} {op : Operator} {k : Criterion}

theorem readDated_text (dated : op = .isBefore ∨ op = .isAfter)
    (read : readDated ctx name (Target.ofName? ctx.setting name) op content = .ok k) :
    k.text = fieldText name op content := by
  have dateOperator : (Comparison.ofOperator op).dateOperator = op := by
    rcases dated with rfl | rfl <;> rfl
  simp only [readDated, bind_ok_iff] at read
  obtain ⟨date, literal, read⟩ := read
  have same : date.text = content := (dateLiteral_ok_iff.mp literal).1
  split at read
  · rename_i found
    cases read
    simp [text, dateOperator, same, name_of_builtin (ofName?_builtin_iff.mp found)]
  · rename_i found
    cases read
    simp [text, dateOperator, same, name_of_builtin (ofName?_builtin_iff.mp found)]
  · cases read
    simp [text, dateOperator, same]

theorem readChoice_text (read : readChoice validate name spec op content = .ok k) :
    k.text = fieldText name op content := by
  obtain ⟨ordinal, _, rfl⟩ := readChoice_ok_iff.mp read
  rfl

theorem readContains_text
    (read : readContains validate name (Target.ofName? ctx.setting name) content = .ok k) :
    k.text = fieldText name .contains content := by
  unfold readContains at read
  split at read
  · rename_i found
    cases read
    simp [text, name_of_builtin (ofName?_builtin_iff.mp found)]
  · rename_i found
    cases read
    simp [text, name_of_builtin (ofName?_builtin_iff.mp found)]
  · rename_i found
    cases read
    simp [text, name_of_builtin (ofName?_builtin_iff.mp found)]
  · split at read
    · cases read
      rfl
    · exact readChoice_text read
  · exact readChoice_text read

-- The text of the leaf has the field and the operator that it was read with, and means the leaf.
def Rereads (name : String) (op : Operator) (read : String → Except Error Criterion) (k : Criterion) :
    Prop :=
  ∃ content, k.text = fieldText name op content ∧ read content = .ok k

theorem isTrue_text (b : Bool) : isTrue (if b then "true" else "false") = b := by
  cases b <;> rfl

theorem readIsCustom_rereads (named : spec.name = name)
    (read : readIsCustom ctx validate name spec content = .ok k) :
    Rereads name .is (readIsCustom ctx validate name spec) k := by
  have again := read
  cases type : spec.type with
  | issueChoice | buildChoice | pullRequestChoice =>
    simp only [readIsCustom, type] at read
    obtain ⟨_, rfl⟩ := readReference_ok_iff.mp read
    exact ⟨content, by rw [text, named], again⟩
  | boolean =>
    simp only [readIsCustom, type] at read
    cases read
    exact ⟨if isTrue content then "true" else "false", rfl, by simp [readIsCustom, type, isTrue_text]⟩
  | number =>
    simp only [readIsCustom, type] at read
    obtain ⟨n, rfl, number⟩ := readNumber_again read
    exact ⟨toString n, rfl, by simpa only [readIsCustom, type] using number⟩
  | choice | userChoice | groupChoice =>
    simp only [readIsCustom, type] at read
    exact ⟨content, readChoice_text read, again⟩
  | text | date =>
    simp only [readIsCustom, type] at read
    cases read
    exact ⟨content, rfl, again⟩

theorem readIs_rereads
    (read : readIs ctx validate name (Target.ofName? ctx.setting name) content = .ok k) :
    Rereads name .is (readIs ctx validate name (Target.ofName? ctx.setting name)) k := by
  have again := read
  cases target : Target.ofName? ctx.setting name with
  | none =>
    rw [target] at read again
    cases read
    exact ⟨content, rfl, again⟩
  | some t =>
    rw [target] at read again
    cases t with
    | custom spec =>
      have named := name_of_spec (ofName?_custom_iff.mp target).2
      exact readIsCustom_rereads named read
    | builtin b =>
      have named := ofName?_builtin_iff.mp target
      cases b with
      | state =>
        simp only [readIs] at read
        split at read
        · cases read
        · cases read
          exact ⟨content, rfl, again⟩
      | voteCount | commentCount =>
        obtain rfl := name_of_builtin named (by decide)
        obtain ⟨n, rfl, number⟩ := readNumber_again read
        exact ⟨toString n, rfl, number⟩
      | number =>
        obtain rfl := name_of_builtin named (by decide)
        simp only [readIs] at read
        obtain ⟨n, rfl, number⟩ := readEntityNumber_again read
        exact ⟨toString n, rfl, by simpa only [readIs] using number⟩
      | _ =>
        obtain rfl := name_of_builtin named (by decide)
        cases read
        exact ⟨content, rfl, again⟩

theorem readOrdered_rereads (ordered : op = .isLessThan ∨ op = .isGreaterThan)
    (read : readOrdered validate name (Target.ofName? ctx.setting name) op content = .ok k) :
    Rereads name op (readOrdered validate name (Target.ofName? ctx.setting name) op) k := by
  have numberOperator : (Comparison.ofOperator op).numberOperator = op := by
    rcases ordered with rfl | rfl <;> rfl
  have again := read
  cases target : Target.ofName? ctx.setting name with
  | none =>
    rw [target] at read again
    exact ⟨content, readChoice_text read, again⟩
  | some t =>
    rw [target] at read again
    cases t with
    | custom spec =>
      by_cases number : spec.type = .number
      · simp only [readOrdered, number, beq_self_eq_true, if_true] at read
        obtain ⟨n, rfl, number'⟩ := readNumber_again read
        refine ⟨toString n, by rw [text, numberOperator], ?_⟩
        simpa only [readOrdered, number, beq_self_eq_true, if_true] using number'
      · simp only [readOrdered, beq_iff_eq, number, if_false] at read
        exact ⟨content, readChoice_text read, again⟩
    | builtin b =>
      have named := ofName?_builtin_iff.mp target
      cases b with
      | voteCount | commentCount =>
        obtain rfl := name_of_builtin named (by decide)
        obtain ⟨n, rfl, number⟩ := readNumber_again read
        exact ⟨toString n, by rw [text, numberOperator], number⟩
      | number =>
        obtain rfl := name_of_builtin named (by decide)
        simp only [readOrdered] at read
        obtain ⟨n, rfl, number⟩ := readEntityNumber_again read
        exact ⟨toString n, by rw [text, numberOperator], by simpa only [readOrdered] using number⟩
      | _ => exact ⟨content, readChoice_text read, again⟩

theorem meaning_rereads (read : meaning ctx validate name op content = .ok k) :
    Rereads name op (meaning ctx validate name op) k := by
  cases op with
  | isBefore => exact ⟨content, readDated_text (.inl rfl) read, read⟩
  | isAfter => exact ⟨content, readDated_text (.inr rfl) read, read⟩
  | contains => exact ⟨content, readContains_text read, read⟩
  | is => exact readIs_rereads read
  | isLessThan => exact readOrdered_rereads (.inl rfl) read
  | isGreaterThan => exact readOrdered_rereads (.inr rfl) read
  | _ => cases read

end Issue.Criterion

theorem Issue.spelled_of_readable {ctx : ReadContext} {k : Criterion}
    (h : (reader ctx validate).Readable k) : (reader ctx validate).Spelled k := by
  obtain ⟨w, grammatical, read⟩ := h
  cases w with
  | standalone op =>
    refine ⟨.standalone op, grammatical, ?_, read⟩
    cases op <;> cases read <;> rfl
  | field name op =>
    refine ⟨.field name op, grammatical, ?_, read⟩
    obtain ⟨_, _, rfl⟩ := Criterion.readField_ok_iff.mp read
    by_cases milestone : op = .isEmpty ∧ Builtin.ofName? name = some .milestone
    · rw [if_pos milestone, milestone.1, name_of_builtin milestone.2 (by decide)]
      rfl
    · rw [if_neg milestone]
      rfl
  | fieldValue name op content =>
    obtain ⟨checked, read⟩ := Criterion.readFieldValue_ok_iff.mp read
    obtain ⟨content', text, again⟩ := Criterion.meaning_rereads read
    exact ⟨.fieldValue name op content', grammatical, text.symm,
      Criterion.readFieldValue_ok_iff.mpr ⟨checked, again⟩⟩
  | value op content =>
    refine ⟨.value op content, grammatical, ?_, read⟩
    obtain ⟨rfl, rfl⟩ | ⟨rfl, _, rfl⟩ := Criterion.readValue_ok_iff.mp read <;> rfl
  | between first second =>
    refine ⟨.between first second, grammatical, ?_, read⟩
    obtain ⟨_, rfl⟩ := Criterion.readBetween_ok_iff.mp read
    rfl

namespace PullRequest

theorem field_of_name (h : Field.ofName? name = some f) : name = f.name :=
  (beq_iff_eq.mp (List.find?_some (p := fun (f : Field) => f.name == name) h)).symm

theorem readDated_text {leaf : Comparison → DateLiteral → Criterion}
    (read : Criterion.readDated now leaf op content = .ok k) :
    ∃ d : DateLiteral, d.text = content ∧ k = leaf (.ofOperator op) d := by
  obtain ⟨d, literal, rfl⟩ := map_ok_iff.mp read
  exact ⟨d, (Issue.dateLiteral_ok_iff.mp literal).1, rfl⟩

theorem readFieldValue_rereads {ctx : ReadContext} {k : Criterion}
    (read : Criterion.readFieldValue ctx name op content = .ok k) :
    ∃ content', k.text = fieldText name op content' ∧
      Criterion.readFieldValue ctx name op content' = .ok k := by
  have again := read
  cases found : Field.ofName? name with
  | none => simp [Criterion.readFieldValue, found] at read
  | some f =>
    have named := field_of_name found
    subst named
    cases f with
    | title | description | comment =>
      cases op with
      | contains =>
        simp only [Criterion.readFieldValue, found] at read
        cases read
        exact ⟨content, rfl, again⟩
      | _ => simp [Criterion.readFieldValue, found] at read
    | sourceBranch | targetBranch =>
      cases op with
      | is =>
        simp only [Criterion.readFieldValue, found] at read
        cases read
        exact ⟨content, rfl, again⟩
      | _ => simp [Criterion.readFieldValue, found] at read
    | number =>
      cases op with
      | is | isLessThan | isGreaterThan =>
        simp only [Criterion.readFieldValue, found] at read
        obtain ⟨n, rfl, number⟩ := readEntityNumber_again read
        exact ⟨toString n, rfl, by simpa only [Criterion.readFieldValue, found] using number⟩
      | _ => simp [Criterion.readFieldValue, found] at read
    | commentCount =>
      cases op with
      | is | isLessThan | isGreaterThan =>
        simp only [Criterion.readFieldValue, found] at read
        obtain ⟨n, rfl, number⟩ := readNumber_again read
        exact ⟨toString n, rfl, by simpa only [Criterion.readFieldValue, found] using number⟩
      | _ => simp [Criterion.readFieldValue, found] at read
    | submitDate | updateDate =>
      cases op with
      | isBefore | isAfter =>
        simp only [Criterion.readFieldValue, found] at read
        obtain ⟨d, rfl, rfl⟩ := readDated_text read
        exact ⟨d.text, rfl, again⟩
      | _ => simp [Criterion.readFieldValue, found] at read

theorem readCommit_text {ctx : ReadContext} {k : Criterion}
    (read : Criterion.readValue ctx validate .includesCommit content = .ok k) :
    operatorText .includesCommit content = k.text := by
  simp only [Criterion.readValue] at read
  split at read
  · cases read
    rfl
  · split at read <;> cases read
    rfl

theorem spelled_of_readable {ctx : ReadContext} {k : Criterion}
    (h : (reader ctx validate).Readable k) : (reader ctx validate).Spelled k := by
  obtain ⟨w, grammatical, read⟩ := h
  cases w with
  | standalone op =>
    refine ⟨.standalone op, grammatical, ?_, read⟩
    cases op <;> cases read <;> rfl
  | field name op => cases read
  | fieldValue name op content =>
    obtain ⟨content', text, again⟩ := readFieldValue_rereads read
    exact ⟨.fieldValue name op content', grammatical, text.symm, again⟩
  | value op content =>
    refine ⟨.value op content, grammatical, ?_, read⟩
    cases op with
    | submittedBy =>
      cases read
      rfl
    | includesCommit => exact readCommit_text read
    | _ => cases read
  | between first second => cases read

end PullRequest

namespace Project

theorem field_of_text {name : String} (h : Field.ofText? name = some f) : name = f.text :=
  (beq_iff_eq.mp (List.find?_some (p := fun (f : Field) => f.text == name) h)).symm

theorem readFieldValue_text {name : String} {k : Criterion}
    (read : Criterion.readFieldValue now name op content = .ok k) :
    fieldText name op content = k.text := by
  cases found : Field.ofText? name with
  | none => simp [Criterion.readFieldValue, found] at read
  | some f =>
    have named := field_of_text found
    subst named
    cases f with
    | name =>
      cases op with
      | is | contains =>
        simp only [Criterion.readFieldValue, found] at read
        cases read
        rfl
      | _ => simp [Criterion.readFieldValue, found] at read
    | description =>
      cases op with
      | contains =>
        simp only [Criterion.readFieldValue, found] at read
        cases read
        rfl
      | _ => simp [Criterion.readFieldValue, found] at read
    | updateDate =>
      cases op with
      | isBefore | isAfter =>
        simp only [Criterion.readFieldValue, found] at read
        obtain ⟨d, literal, rfl⟩ := map_ok_iff.mp read
        obtain ⟨rfl, _⟩ := Issue.dateLiteral_ok_iff.mp literal
        rfl
      | _ => simp [Criterion.readFieldValue, found] at read

theorem spelled_of_readable {ctx : ReadContext} {k : Criterion}
    (h : (reader ctx validate).Readable k) : (reader ctx validate).Spelled k := by
  obtain ⟨w, grammatical, read⟩ := h
  cases w with
  | standalone op =>
    refine ⟨.standalone op, grammatical, ?_, read⟩
    cases op <;> cases read
    rfl
  | field name op => cases read
  | fieldValue name op content =>
    exact ⟨.fieldValue name op content, grammatical, readFieldValue_text read, read⟩
  | value op content =>
    refine ⟨.value op content, grammatical, ?_, read⟩
    cases op <;> cases read
    rfl
  | between first second => cases read

end Project

-- Reading, writing and reading again, in the same context, gives what was read.
theorem read_text_read (ctx : ReadContext) (text : Option String) (validate : Bool) :
    (∀ q, Issue.Query.read ctx text validate = .ok q →
        Issue.Query.read ctx (some q.text) validate = .ok q) ∧
      (∀ q, PullRequest.Query.read ctx text validate = .ok q →
        PullRequest.Query.read ctx (some q.text) validate = .ok q) ∧
      ∀ q, Project.Query.read ctx text validate = .ok q →
        Project.Query.read ctx (some q.text) validate = .ok q :=
  ⟨fun _ => ofText?_text fun _ => Issue.spelled_of_readable,
    fun _ => ofText?_text fun _ => PullRequest.spelled_of_readable,
    fun _ => ofText?_text fun _ => Project.spelled_of_readable⟩

theorem read_text_read_descriptions :
    let ctx : ReadContext := ⟨none, Setting.demo, Repository.empty.resolver, ⟨0, 0⟩⟩
    let text := "not (\"description\" contains \"a\") or \"update date\" is after \" today\" order by \"update date\""
    (∃ q, Issue.Query.read ctx (some text) true = .ok q ∧
        Issue.Query.read ctx (some q.text) true = .ok q) ∧
      (∃ q, PullRequest.Query.read ctx (some text) true = .ok q ∧
        PullRequest.Query.read ctx (some q.text) true = .ok q) ∧
      ∃ q, Project.Query.read ctx (some text) true = .ok q ∧
        Project.Query.read ctx (some q.text) true = .ok q := by
  intro ctx text
  have issue : Issue.Query.read ctx (some text) true =
      .ok ⟨some (.any [.negation (.leaf (.description "a")),
        .leaf (.updateDate .greater ⟨" today", ⟨0, 0⟩⟩)]), [⟨"update date", .descending⟩]⟩ := by
    decide +kernel
  have request : PullRequest.Query.read ctx (some text) true =
      .ok ⟨some (.any [.negation (.leaf (.description "a")),
        .leaf (.updateDate .greater ⟨" today", ⟨0, 0⟩⟩)]), [⟨"update date", .descending⟩]⟩ := by
    decide +kernel
  have project : Project.Query.read ctx (some text) true =
      .ok ⟨some (.any [.negation (.leaf (.description "a")),
        .leaf (.updateDate .greater ⟨" today", ⟨0, 0⟩⟩)]), [⟨"update date", .descending⟩]⟩ := by
    decide +kernel
  exact ⟨⟨_, issue, (read_text_read ctx text true).1 _ issue⟩,
    ⟨_, request, (read_text_read ctx text true).2.1 _ request⟩,
    ⟨_, project, (read_text_read ctx text true).2.2 _ project⟩⟩

end TrackerQuery
