import TrackerQuery.Issue.Criterion

namespace TrackerQuery.Issue

open TrackerQuery.Text TrackerQuery.Time

def checkField (setting : Setting) (field : String) (op : Operator) : Except Error Unit :=
  match Target.ofName? setting field with
  | none => .error (.rejected (.fieldNotFound field))
  | some target =>
    if target.takes op then .ok () else .error (.rejected (.notApplicable field op))

namespace Criterion

-- What is not found is an error only when validating.
def found (validate : Bool) (objection : Objection) : Option α → Except Error (Option α)
  | some a => .ok (some a)
  | none => if validate then .error (.rejected objection) else .ok none

-- A choice is looked up only when validating, and only in a field with a list of choices.
def readOrdinal (validate : Bool) (field : String) (spec : Option FieldSpec) (value : String) :
    Except Error Int :=
  match spec with
  | some spec =>
    if validate && spec.type == .choice then
      let ordinal := spec.ordinalOf value
      if ordinal == -1 then .error (.rejected (.undefinedValue field value)) else .ok ordinal
    else .ok (-1)
  | none => .ok (-1)

def readChoice (validate : Bool) (field : String) (spec : Option FieldSpec) (op : Operator)
    (value : String) : Except Error Criterion := do
  let ordinal ← readOrdinal validate field spec value
  .ok (choiceField field value ordinal op)

-- A build must be known; other references only have to be well formed.
def readReference (ctx : ReadContext) (validate : Bool) (spec : FieldSpec) (value : String) :
    Except Error Criterion := do
  let number ← match Reference.read? value with
    | none => found validate (.invalidReference value) none
    | some reference =>
      if spec.type == .buildChoice then
        found validate (.buildNotFound value)
          ((ctx.resolver.build ctx.project reference).map (·.number))
      else .ok (some reference.number)
  .ok (referenceField spec.name value number)

def readDated (ctx : ReadContext) (field : String) (target : Option Target) (op : Operator)
    (value : String) : Except Error Criterion := do
  let date ← DateLiteral.read ctx.now value
  match target with
  | some (.builtin .submitDate) => .ok (submitDate (.ofOperator op) date)
  | some (.builtin .updateDate) => .ok (updateDate (.ofOperator op) date)
  | _ => .ok (dateField field (.ofOperator op) date)

def readContains (validate : Bool) (field : String) (target : Option Target) (value : String) :
    Except Error Criterion :=
  match target with
  | some (.builtin .title) => .ok (title value)
  | some (.builtin .description) => .ok (description value)
  | some (.builtin .comment) => .ok (comment value)
  | some (.custom spec) =>
    if spec.type == .text then .ok (stringField field value true)
    else readChoice validate field (some spec) .contains value
  | _ => readChoice validate field none .contains value

def readIsCustom (ctx : ReadContext) (validate : Bool) (field : String) (spec : FieldSpec)
    (value : String) : Except Error Criterion :=
  match spec.type with
  | .issueChoice | .buildChoice | .pullRequestChoice => readReference ctx validate spec value
  | .boolean => .ok (booleanField field (isTrue value))
  | .number => (readNumber value).map (numericField field .equal)
  | .choice | .userChoice | .groupChoice => readChoice validate field (some spec) .is value
  | .text | .date => .ok (stringField field value false)

def readIs (ctx : ReadContext) (validate : Bool) (field : String) (target : Option Target)
    (value : String) : Except Error Criterion :=
  match target with
  | some (.builtin .state) =>
    if validate && !ctx.setting.hasState value then
      .error (.rejected (.undefinedValue field value))
    else .ok (state field value)
  | some (.builtin .milestone) => .ok (milestone (some value))
  | some (.builtin .voteCount) => (readNumber value).map (voteCount .equal)
  | some (.builtin .commentCount) => (readNumber value).map (commentCount .equal)
  | some (.builtin .number) => (readEntityNumber value).map (number .equal)
  | some (.custom spec) => readIsCustom ctx validate field spec value
  | _ => .ok (stringField field value false)

def readOrdered (validate : Bool) (field : String) (target : Option Target) (op : Operator)
    (value : String) : Except Error Criterion :=
  match target with
  | some (.builtin .voteCount) => (readNumber value).map (voteCount (.ofOperator op))
  | some (.builtin .commentCount) => (readNumber value).map (commentCount (.ofOperator op))
  | some (.builtin .number) => (readEntityNumber value).map (number (.ofOperator op))
  | some (.custom spec) =>
    if spec.type == .number then (readNumber value).map (numericField field (.ofOperator op))
    else readChoice validate field (some spec) op value
  | _ => readChoice validate field none op value

def readFieldValue (ctx : ReadContext) (validate : Bool) (field : String) (op : Operator)
    (value : String) : Except Error Criterion := do
  if validate then checkField ctx.setting field op
  let target := Target.ofName? ctx.setting field
  match op with
  | .isBefore | .isAfter => readDated ctx field target op value
  | .contains => readContains validate field target value
  | .is => readIs ctx validate field target value
  | .isLessThan | .isGreaterThan => readOrdered validate field target op value
  | _ => .error (.unsupported op)

def readField (ctx : ReadContext) (validate : Bool) (field : String) (op : Operator) :
    Except Error Criterion := do
  if validate then checkField ctx.setting field op
  match op with
  | .isEmpty =>
    .ok (if Builtin.ofName? field = some .milestone then milestone none else fieldOperator field op)
  | .isMe | .isCurrent | .isPrevious => .ok (fieldOperator field op)
  | _ => .error (.unsupported op)

def readStandalone : Operator → Except Error Criterion
  | .submittedByMe => .ok submittedByMe
  | .fixedInCurrentBuild => .ok fixedInCurrentBuild
  | op => .error (.unsupported op)

def readValue (ctx : ReadContext) (validate : Bool) (op : Operator) (value : String) :
    Except Error Criterion :=
  match op with
  | .submittedBy => .ok (submittedBy value)
  | .fixedInBuild => do
    let build ← match Reference.read? value with
      | none => found validate (.invalidBuild value) none
      | some reference =>
        found validate (.buildNotFound value) (ctx.resolver.build ctx.project reference)
    .ok (fixedInBuild value build)
  | op => .error (.unsupported op)

-- The first revision that names no commit is the one complained about.
def readBetween (ctx : ReadContext) (validate : Bool) (first second : Revision) :
    Except Error Criterion := do
  let start ← found validate (.revisionNotFound first.kind first.value)
    (ctx.resolver.commit ctx.project first)
  let stop ← found validate (.revisionNotFound second.kind second.value)
    (ctx.resolver.commit ctx.project second)
  let commits := match start, stop with
    | some start, some stop => some (start, stop)
    | _, _ => none
  .ok (fixedBetween first second ctx.project commits)

def checkSort (setting : Setting) (validate : Bool) (field : String) : Except Error Unit :=
  if !validate || (Builtin.ofSortName? field).isSome then .ok ()
  else match setting.field? field with
    | some spec =>
      if spec.type == .choice || spec.type == .date || spec.type == .number then .ok ()
      else .error (.rejected (.notSortable field))
    | none => .error (.rejected (.notSortable field))

end Criterion

def reader (ctx : ReadContext) (validate : Bool) : LeafReader Criterion where
  standalone := Criterion.readStandalone
  field := Criterion.readField ctx validate
  fieldValue := Criterion.readFieldValue ctx validate
  value := Criterion.readValue ctx validate
  between := Criterion.readBetween ctx validate
  sortField := Criterion.checkSort ctx.setting validate

def Query.read (ctx : ReadContext) (text : Option String) (validate : Bool) : Except Error Query :=
  TrackerQuery.Query.ofText? (reader ctx validate) text

end TrackerQuery.Issue
