import TrackerQuery.Issue.Reader
import TrackerQuery.Project.Criterion
import TrackerQuery.Proofs.Query.Location
import TrackerQuery.PullRequest.Criterion
import TrackerQuery.Repository

namespace TrackerQuery

open TrackerQuery.Text TrackerQuery.Time

variable {ctx : ReadContext} {setting : Setting} {validate : Bool} {name content : String}
  {op : Operator}

theorem rejected_rejects (o : Objection) :
    FailsWith Error.IsRejection (.error (.rejected o) : Except Error α) :=
  failsWith_error ⟨o, rfl⟩

theorem checked_rejects {p : Prop} [Decidable p] {a : α} {o : Objection} :
    FailsWith Error.IsRejection (if p then .ok a else .error (.rejected o)) := by
  split
  · exact failsWith_ok
  · exact rejected_rejects o

theorem readNumber_rejects : FailsWith Error.IsRejection (readNumber content) := by
  unfold readNumber
  split
  · exact failsWith_ok
  · exact rejected_rejects _

theorem DateLiteral.read_rejects (now : Instant) :
    FailsWith Error.IsRejection (DateLiteral.read now content) := by
  unfold DateLiteral.read
  split
  · exact failsWith_ok
  · exact rejected_rejects _

namespace Issue

theorem checkField_rejects : FailsWith Error.IsRejection (checkField setting name op) := by
  unfold checkField
  split
  · exact rejected_rejects _
  · exact checked_rejects

namespace Criterion

variable {target : Option Target} {spec : FieldSpec}

theorem found_rejects {x : Option α} {objection : Objection} :
    FailsWith Error.IsRejection (found validate objection x) := by
  cases x with
  | some a => exact failsWith_ok
  | none =>
    cases validate with
    | true => exact rejected_rejects _
    | false => exact failsWith_ok

theorem readChoice_rejects {spec : Option FieldSpec} :
    FailsWith Error.IsRejection (readChoice validate name spec op content) := by
  refine .bind ?_ fun _ => failsWith_ok
  unfold readOrdinal
  split
  · split
    · dsimp only
      split
      · exact rejected_rejects _
      · exact failsWith_ok
    · exact failsWith_ok
  · exact failsWith_ok

theorem readReference_rejects :
    FailsWith Error.IsRejection (readReference ctx validate spec content) := by
  unfold readReference
  split
  · exact .bind found_rejects fun _ => failsWith_ok
  · split
    · exact .bind found_rejects fun _ => failsWith_ok
    · exact .bind failsWith_ok fun _ => failsWith_ok

theorem readDated_rejects : FailsWith Error.IsRejection (readDated ctx name target op content) := by
  refine .bind (DateLiteral.read_rejects _) fun _ => ?_
  split <;> exact failsWith_ok

theorem readContains_rejects :
    FailsWith Error.IsRejection (readContains validate name target content) := by
  unfold readContains
  split
  · exact failsWith_ok
  · exact failsWith_ok
  · exact failsWith_ok
  · split
    · exact failsWith_ok
    · exact readChoice_rejects
  · exact readChoice_rejects

theorem readIsCustom_rejects :
    FailsWith Error.IsRejection (readIsCustom ctx validate name spec content) := by
  unfold readIsCustom
  cases spec.type with
  | issueChoice | buildChoice | pullRequestChoice => exact readReference_rejects
  | boolean | text | date => exact failsWith_ok
  | number => exact readNumber_rejects.map _
  | choice | userChoice | groupChoice => exact readChoice_rejects

theorem readIs_rejects : FailsWith Error.IsRejection (readIs ctx validate name target content) := by
  unfold readIs
  split
  · split
    · exact rejected_rejects _
    · exact failsWith_ok
  · exact failsWith_ok
  · exact readNumber_rejects.map _
  · exact readNumber_rejects.map _
  · exact readNumber_rejects.map _
  · exact readIsCustom_rejects
  · exact failsWith_ok

theorem readOrdered_rejects :
    FailsWith Error.IsRejection (readOrdered validate name target op content) := by
  unfold readOrdered
  split
  · exact readNumber_rejects.map _
  · exact readNumber_rejects.map _
  · exact readNumber_rejects.map _
  · split
    · exact readNumber_rejects.map _
    · exact readChoice_rejects
  · exact readChoice_rejects

theorem checked_fails {kind : Error → Prop} (weaker : ∀ e, e.IsRejection → kind e)
    {next : Except Error Criterion} (h : FailsWith kind next) :
    FailsWith kind (do if validate then checkField setting name op
                       next) := by
  cases validate with
  | true => exact .bind (checkField_rejects.imp weaker) fun _ => h
  | false => exact h

theorem readFieldValue_rejects (category : op.category = .fieldValue) (direct : op ≠ .isNot) :
    FailsWith Error.IsRejection (readFieldValue ctx validate name op content) := by
  refine checked_fails (fun _ rejection => rejection) ?_
  cases op with
  | isBefore | isAfter => exact readDated_rejects
  | contains => exact readContains_rejects
  | is => exact readIs_rejects
  | isLessThan | isGreaterThan => exact readOrdered_rejects
  | isNot => contradiction
  | _ => cases category

theorem readField_bare : FailsWith (Error.IsBare op) (readField ctx validate name op) := by
  refine checked_fails (fun _ => .inl) ?_
  split
  · exact failsWith_ok
  · exact failsWith_ok
  · exact failsWith_ok
  · exact failsWith_ok
  · exact failsWith_error (.inr rfl)

theorem readStandalone_bare : FailsWith (Error.IsBare op) (readStandalone op) := by
  unfold readStandalone
  split
  · exact failsWith_ok
  · exact failsWith_ok
  · exact failsWith_error (.inr rfl)

theorem readValue_bare : FailsWith (Error.IsBare op) (readValue ctx validate op content) := by
  unfold readValue
  split
  · exact failsWith_ok
  · split <;> exact .bind (found_rejects.imp fun _ => .inl) fun _ => failsWith_ok
  · exact failsWith_error (.inr rfl)

theorem readBetween_rejects {first second : Revision} :
    FailsWith Error.IsRejection (readBetween ctx validate first second) :=
  .bind found_rejects fun _ => .bind found_rejects fun _ => failsWith_ok

theorem checkSort_rejects : FailsWith Error.IsRejection (checkSort setting validate name) := by
  unfold checkSort
  split
  · exact failsWith_ok
  · split
    · exact checked_rejects
    · exact rejected_rejects _

end Criterion

theorem reader_placeless (ctx : ReadContext) (validate : Bool) :
    (reader ctx validate).Placeless where
  standalone _ := Criterion.readStandalone_bare
  field _ _ := Criterion.readField_bare
  fieldValue _ _ _ := Criterion.readFieldValue_rejects
  value _ _ := Criterion.readValue_bare
  between _ _ := Criterion.readBetween_rejects.imp fun _ => .inl
  sortField _ := Criterion.checkSort_rejects

end Issue

namespace PullRequest

namespace Criterion

theorem readFieldValue_rejects : FailsWith Error.IsRejection (readFieldValue ctx name op content) := by
  unfold readFieldValue
  cases Field.ofName? name with
  | none => exact rejected_rejects _
  | some f =>
    cases f with
    | title | description | comment =>
      cases op with
      | contains => exact failsWith_ok
      | _ => exact rejected_rejects _
    | sourceBranch | targetBranch =>
      cases op with
      | is => exact failsWith_ok
      | _ => exact rejected_rejects _
    | number | commentCount =>
      cases op with
      | is | isLessThan | isGreaterThan => exact readNumber_rejects.map _
      | _ => exact rejected_rejects _
    | submitDate | updateDate =>
      cases op with
      | isBefore | isAfter => exact (DateLiteral.read_rejects _).map _
      | _ => exact rejected_rejects _

theorem readStandalone_bare : FailsWith (Error.IsBare op) (readStandalone op) := by
  cases op with
  | isOpen | isMerged | isDiscarded | submittedByMe => exact failsWith_ok
  | _ => exact failsWith_error (.inr rfl)

theorem readValue_bare : FailsWith (Error.IsBare op) (readValue ctx validate op content) := by
  unfold readValue
  split
  · exact failsWith_ok
  · split
    · exact failsWith_ok
    · split
      · exact (rejected_rejects _).imp fun _ => .inl
      · exact failsWith_ok
  · exact failsWith_error (.inr rfl)

theorem checkSort_rejects : FailsWith Error.IsRejection (checkSort validate name) :=
  checked_rejects

end Criterion

theorem reader_placeless (ctx : ReadContext) (validate : Bool) :
    (reader ctx validate).Placeless where
  standalone _ := Criterion.readStandalone_bare
  field _ _ := failsWith_error (.inr rfl)
  fieldValue _ _ _ _ _ := Criterion.readFieldValue_rejects
  value _ _ := Criterion.readValue_bare
  between _ _ := failsWith_error (.inr rfl)
  sortField _ := Criterion.checkSort_rejects

end PullRequest

namespace Project

namespace Criterion

theorem readFieldValue_rejects {now : Instant} :
    FailsWith Error.IsRejection (readFieldValue now name op content) := by
  unfold readFieldValue
  cases Field.ofText? name with
  | none => exact rejected_rejects _
  | some f =>
    cases f with
    | name =>
      cases op with
      | is | contains => exact failsWith_ok
      | _ => exact rejected_rejects _
    | description =>
      cases op with
      | contains => exact failsWith_ok
      | _ => exact rejected_rejects _
    | updateDate =>
      cases op with
      | isBefore | isAfter => exact (DateLiteral.read_rejects _).map _
      | _ => exact rejected_rejects _

theorem readStandalone_bare : FailsWith (Error.IsBare op) (readStandalone op) := by
  unfold readStandalone
  split
  · exact failsWith_ok
  · exact failsWith_error (.inr rfl)

theorem readValue_bare : FailsWith (Error.IsBare op) (readValue op content) := by
  unfold readValue
  split
  · exact failsWith_ok
  · exact failsWith_error (.inr rfl)

theorem checkSort_rejects : FailsWith Error.IsRejection (checkSort validate name) :=
  checked_rejects

end Criterion

theorem reader_placeless (ctx : ReadContext) (validate : Bool) :
    (reader ctx validate).Placeless where
  standalone _ := Criterion.readStandalone_bare
  field _ _ := failsWith_error (.inr rfl)
  fieldValue _ _ _ _ _ := Criterion.readFieldValue_rejects
  value _ _ := Criterion.readValue_bare
  between _ _ := failsWith_error (.inr rfl)
  sortField _ := Criterion.checkSort_rejects

end Project

-- Whatever a text is read as, an error is at a part of it, unless its tokens have run out.
theorem read_errors_located (ctx : ReadContext) (text : Option String) (validate : Bool) (e : Error) :
    (Issue.Query.read ctx text validate = .error e →
        ∃ s, text = some s ∧ Located (Issue.reader ctx validate) s e) ∧
      (PullRequest.Query.read ctx text validate = .error e →
        ∃ s, text = some s ∧ Located (PullRequest.reader ctx validate) s e) ∧
      (Project.Query.read ctx text validate = .error e →
        ∃ s, text = some s ∧ Located (Project.reader ctx validate) s e) :=
  ⟨(Issue.reader_placeless ctx validate).located?,
    (PullRequest.reader_placeless ctx validate).located?,
    (Project.reader_placeless ctx validate).located?⟩

theorem read_errors_located_stages :
    let ctx : ReadContext := ⟨none, Setting.empty, Repository.empty.resolver, ⟨0, 0⟩⟩
    let character := "\"ä\" #"
    let short := "not (\"Ü\" is"
    let build := "owned by me and fixed in build \"é\""
    let e := Error.malformed (.unexpectedCharacter '#' 5) (some ⟨5, 6⟩)
    let e' := Error.malformed (.endOfInput .quotedValue) none
    let e'' := Error.malformed (.unexpectedOperator .fixedInBuild) (some ⟨31, 35⟩)
    (PullRequest.Query.read ctx (some character) true = .error e ∧
        Located (PullRequest.reader ctx true) character e) ∧
      (Issue.Query.read ctx (some short) false = .error e' ∧
        Located (Issue.reader ctx false) short e') ∧
      Project.Query.read ctx (some build) true = .error e'' ∧
        Located (Project.reader ctx true) build e'' := by
  intro ctx character short build e e' e''
  have cut : PullRequest.Query.read ctx (some character) true = .error e := by decide +kernel
  have parsed : Issue.Query.read ctx (some short) false = .error e' := by decide +kernel
  have read : Project.Query.read ctx (some build) true = .error e'' := by decide +kernel
  obtain ⟨_, ⟨⟩, located⟩ := (read_errors_located ctx (some character) true e).2.1 cut
  obtain ⟨_, ⟨⟩, located'⟩ := (read_errors_located ctx (some short) false e').1 parsed
  obtain ⟨_, ⟨⟩, located''⟩ := (read_errors_located ctx (some build) true e'').2.2 read
  exact ⟨⟨cut, located⟩, ⟨parsed, located'⟩, read, located''⟩

end TrackerQuery
