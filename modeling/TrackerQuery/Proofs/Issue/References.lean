import TrackerQuery.Proofs.Issue.Typing

namespace TrackerQuery

def Issue.referredIn (issue : Issue) (field : String) (n : Int) : List String :=
  (issue.valuesOf field).filterMap fun v => do
    let text ← v.value
    let reference ← Reference.read? text
    if reference.number = n then some (reference.project.getD issue.project) else none

structure Issue.Confuses (issue : Issue) (field : String) (n : Int) (project : String) : Prop where
  numbered : issue.referredIn field n ≠ []
  foreign : project ∉ issue.referredIn field n

theorem Issue.mem_referredIn {issue : Issue} {project : String} :
    project ∈ issue.referredIn field n ↔ ∃ v ∈ issue.valuesOf field, ∃ text ∈ v.value,
      ∃ reference ∈ Reference.read? text,
        reference.number = n ∧ reference.project.getD issue.project = project := by
  simp only [referredIn, List.mem_filterMap, Option.bind_eq_bind, Option.bind_eq_some_iff,
    Option.mem_def, Option.ite_none_right_eq_some, Option.some.injEq]

namespace Issue.Criterion

def relativeBuild? (m : MatchContext) (op : Operator) : Option (String × Int) :=
  m.build.bind fun build => (buildNumber? m op).map fun n => (build.project, n)

structure Relative (ctx : ReadContext) (validate : Bool) (field : String) (op : Operator) : Prop where
  operator : op = .isCurrent ∨ op = .isPrevious
  taken : validate = true →
    ∃ spec, CustomField ctx.setting field spec ∧ spec.type = .buildChoice

-- The wording asks for issues whose field refers to entity `n` of the project.
inductive AsksFor (ctx : ReadContext) (validate : Bool) (m : MatchContext) (field project : String)
    (n : Int) : Wording → Prop where
  | entity {spec content reference} (named : CustomField ctx.setting field spec)
      (type : spec.type.isReference = true) (read : Reference.read? content = some reference)
      (scope : reference.project.or ctx.project = some project)
      (known : referredTo ctx spec content = some n) :
      AsksFor ctx validate m field project n (.fieldValue field .is content)
  | build {op} (relative : Relative ctx validate field op)
      (known : relativeBuild? m op = some (project, n)) :
      AsksFor ctx validate m field project n (.field field op)

variable {ctx : ReadContext} {validate : Bool} {m : MatchContext} {issue : Issue} {w : Wording}
  {field content project : String} {op : Operator} {n : Int} {spec : FieldSpec}

theorem any_referredNumber?_iff : (issue.valuesOf field).any (referredNumber? · == some n) = true ↔
    issue.referredIn field n ≠ [] := by
  rw [List.any_eq_true]
  constructor
  · intro h
    obtain ⟨v, mem, same⟩ := h
    simp only [referredNumber?, beq_iff_eq, Option.bind_eq_bind, Option.bind_eq_some_iff,
      Option.some.injEq] at same
    obtain ⟨text, held, reference, read, number⟩ := same
    exact List.ne_nil_of_mem (mem_referredIn.mpr ⟨v, mem, text, held, reference, read, number, rfl⟩)
  · intro h
    obtain ⟨_, mem⟩ := List.exists_mem_of_ne_nil _ h
    obtain ⟨v, mem, text, held, reference, read, number, _⟩ := mem_referredIn.mp mem
    refine ⟨v, mem, ?_⟩
    simp [referredNumber?, Option.mem_def.mp held, Option.mem_def.mp read, number]

theorem buildNumber?_eq : buildNumber? m op = (relativeBuild? m op).map (·.2) := by
  cases build : m.build with
  | none => simp [buildNumber?, relativeBuild?, build]
  | some b => simp [relativeBuild?, build, Function.comp_def]

theorem readReference_wording (named : CustomField ctx.setting field spec)
    (type : spec.type.isReference = true) (known : referredTo ctx spec content = some n) :
    (reader ctx validate).readWording (.fieldValue field .is content) =
      .ok (referenceField field content (some n)) := by
  have found := customField_iff.mp named
  change readFieldValue ctx validate field .is content = _
  refine readFieldValue_ok_iff.mpr ⟨fun _ => checkField_ok_iff.mpr ⟨_, found, ?_⟩, ?_⟩
  · cases kind : spec.type <;> simp_all [Target.takes, FieldType.isReference]
  · have read : readReference ctx validate spec content =
        .ok (referenceField spec.name content (some n)) :=
      readReference_ok_iff.mpr ⟨fun _ => by rw [known]; rfl, by rw [known]⟩
    rw [name_of_spec named.first] at read
    rw [← read]
    cases kind : spec.type <;> simp_all [meaning, readIs, readIsCustom, FieldType.isReference]

theorem Relative.grammatical (relative : Relative ctx validate field op) :
    (Wording.field field op).Grammatical := by
  rcases relative.operator with rfl | rfl <;> rfl

theorem Relative.readWording (relative : Relative ctx validate field op) :
    (reader ctx validate).readWording (.field field op) = .ok (fieldOperator field op) := by
  refine readField_ok_iff.mpr ⟨fun validating => ?_, ?_, ?_⟩
  · obtain ⟨spec, named, type⟩ := relative.taken validating
    refine checkField_ok_iff.mpr ⟨_, customField_iff.mp named, ?_⟩
    rcases relative.operator with rfl | rfl <;> simp [Target.takes, type]
  · rcases relative.operator with rfl | rfl <;> rfl
  · rcases relative.operator with rfl | rfl <;> simp

theorem Relative.holds (relative : Relative ctx validate field op) :
    (fieldOperator field op).holds m issue = true ↔
      ∃ n ∈ buildNumber? m op, issue.referredIn field n ≠ [] := by
  have target : (fieldOperator field op).holds m issue = (buildNumber? m op).any fun n =>
      (issue.valuesOf field).any (referredNumber? · == some n) := by
    rcases relative.operator with rfl | rfl <;> rfl
  rw [target, Option.any_eq_true]
  exact exists_congr fun n => and_congr_right fun _ => any_referredNumber?_iff

theorem AsksFor.leaf (asks : AsksFor ctx validate m field project n w) :
    ∃ k, w.Grammatical ∧ (reader ctx validate).readWording w = .ok k ∧
      ∀ issue, k.holds m issue = true ↔ issue.referredIn field n ≠ [] := by
  cases asks with
  | @entity spec content reference named type _ _ known =>
    exact ⟨referenceField field content (some n), ⟨rfl, nofun⟩,
      readReference_wording named type known, fun _ => any_referredNumber?_iff⟩
  | @build op relative known =>
    refine ⟨fieldOperator field op, relative.grammatical, relative.readWording, fun issue => ?_⟩
    simp [relative.holds, buildNumber?_eq, known]

-- An issue matches if a value of the field has the number of what is asked for, whatever the project. So
-- it is confused with another entity just where only other projects are referred to; where no other is,
-- it matches just if it refers to what is asked for. Nothing is the build before the first one.
theorem references_confused_iff (ctx : ReadContext) (validate : Bool) (m : MatchContext)
    (field : String) :
    (∀ w project n, AsksFor ctx validate m field project n w →
        ∃ q, Query.read ctx (some w.text) validate = .ok q ∧ ∀ issue : Issue,
          (q.isSatisfied m issue = true ↔ issue.referredIn field n ≠ []) ∧
          ((q.isSatisfied m issue = true → project ∈ issue.referredIn field n) ↔
            ¬issue.Confuses field n project) ∧
          ((∀ other ∈ issue.referredIn field n, other = project) →
            (q.isSatisfied m issue = true ↔ project ∈ issue.referredIn field n))) ∧
      ∀ op, Relative ctx validate field op → relativeBuild? m op = none →
        ∃ q, Query.read ctx (some (Wording.field field op).text) validate = .ok q ∧
          ∀ issue, q.isSatisfied m issue = false := by
  constructor
  · intro w project n asks
    obtain ⟨k, grammatical, read, matched⟩ := asks.leaf
    refine ⟨_, ofText_wording grammatical read, fun issue => ?_⟩
    rw [TrackerQuery.Query.isSatisfied_leaf]
    have matched : LeafKind.holds m issue k = true ↔ issue.referredIn field n ≠ [] := matched issue
    refine ⟨matched, ?_, fun single => ⟨fun satisfied => ?_, fun mem => ?_⟩⟩
    · rw [matched]
      exact ⟨fun meant confused => confused.foreign (meant confused.numbered),
        fun clear numbered => Decidable.byContradiction fun foreign => clear ⟨numbered, foreign⟩⟩
    · obtain ⟨other, mem⟩ := List.exists_mem_of_ne_nil _ (matched.mp satisfied)
      exact single other mem ▸ mem
    · exact matched.mpr (List.ne_nil_of_mem mem)
  · intro op relative missing
    refine ⟨_, ofText_wording relative.grammatical relative.readWording, fun issue => ?_⟩
    have unmatched : ¬(fieldOperator field op).holds m issue = true := by
      simp [relative.holds, buildNumber?_eq, missing]
    exact Bool.eq_false_iff.mpr unmatched

theorem references_confused_iff_duplicate :
    let build : Build := ⟨"demo", 2, ⟨"c2"⟩, none⟩
    let ctx : ReadContext := ⟨some "demo", Setting.demo, Repository.empty.resolver, ⟨0, 0⟩⟩
    let m : MatchContext := ⟨none, some build, Setting.demo, Repository.empty.relations, ⟨0, 0⟩⟩
    let own : Issue := ⟨1, "demo", 1, "t", none, [], "Open", none, none, ⟨0, 0⟩, ⟨0, 0⟩, 0,
      [⟨"Duplicate Of", some "#5", 0⟩, ⟨"Found In", some "demo#2", 0⟩]⟩
    let foreign : Issue := { own with
      id := 2
      fields := [⟨"Duplicate Of", some "other#5", 0⟩, ⟨"Found In", some "other#2", 0⟩] }
    own.referredIn "Duplicate Of" 5 = ["demo"] ∧ foreign.Confuses "Duplicate Of" 5 "demo" ∧
      (∃ q, Query.read ctx (some "\"Duplicate Of\" is \"#5\"") true = .ok q ∧
        q.isSatisfied m own = true ∧ q.isSatisfied m foreign = true) ∧
      (∃ q, Query.read ctx (some "\"Found In\" is current") true = .ok q ∧
        q.isSatisfied m own = true ∧ q.isSatisfied m foreign = true) ∧
      ∃ q, Query.read ctx (some "\"Found In\" is previous") true = .ok q ∧
        q.isSatisfied m own = false := by
  intro build ctx m own foreign
  have duplicates : own.referredIn "Duplicate Of" 5 = ["demo"] := by decide +kernel
  have builds : own.referredIn "Found In" 2 = ["demo"] := by decide +kernel
  have duplicates' : foreign.referredIn "Duplicate Of" 5 = ["other"] := by decide +kernel
  have builds' : foreign.referredIn "Found In" 2 = ["other"] := by decide +kernel
  have relative : ∀ op, op = .isCurrent ∨ op = .isPrevious → Relative ctx true "Found In" op :=
    fun op named => ⟨named, fun _ => ⟨_, customField_iff.mpr rfl, rfl⟩⟩
  have issue : AsksFor ctx true m "Duplicate Of" "demo" 5 (.fieldValue "Duplicate Of" .is "#5") :=
    .entity (customField_iff.mpr rfl) rfl (by decide +kernel : _ = some ⟨none, 5⟩) rfl
      (by decide +kernel)
  have current : AsksFor ctx true m "Found In" "demo" 2 (.field "Found In" .isCurrent) :=
    .build (relative _ (.inl rfl)) rfl
  obtain ⟨asked, _⟩ := references_confused_iff ctx true m "Duplicate Of"
  obtain ⟨asked', unasked⟩ := references_confused_iff ctx true m "Found In"
  obtain ⟨q, read, matched⟩ := asked _ _ _ issue
  obtain ⟨q', read', matched'⟩ := asked' _ _ _ current
  obtain ⟨q'', read'', unmatched⟩ := unasked .isPrevious (relative _ (.inr rfl)) rfl
  refine ⟨duplicates, ⟨by simp [duplicates'], by simp [duplicates']⟩, ⟨q, read, ?_, ?_⟩,
    ⟨q', read', ?_, ?_⟩, q'', read'', unmatched own⟩
  · exact (matched own).1.mpr (by simp [duplicates])
  · exact (matched foreign).1.mpr (by simp [duplicates'])
  · exact (matched' own).1.mpr (by simp [builds])
  · exact (matched' foreign).1.mpr (by simp [builds'])

theorem references_confused :
    let build : Build := ⟨"demo", 2, ⟨"c2"⟩, some 1⟩
    let ctx : ReadContext := ⟨some "demo", Setting.demo, Repository.empty.resolver, ⟨0, 0⟩⟩
    let m : MatchContext := ⟨none, some build, Setting.demo, Repository.empty.relations, ⟨0, 0⟩⟩
    let issue : Issue := ⟨1, "demo", 1, "t", none, [], "Open", none, none, ⟨0, 0⟩, ⟨0, 0⟩, 0,
      [⟨"Duplicate Of", some "other#5", 0⟩, ⟨"Found In", some "other#2", 0⟩,
        ⟨"Found In", some "other#1", 0⟩]⟩
    let matched (text : String) :=
      (Query.read ctx (some text) true).map (·.isSatisfied m issue) = .ok true
    matched "\"Duplicate Of\" is \"#5\"" ∧ matched "\"Duplicate Of\" is \"demo#5\"" ∧
      "demo" ∉ issue.referredIn "Duplicate Of" 5 ∧
      matched "\"Found In\" is current" ∧ "demo" ∉ issue.referredIn "Found In" 2 ∧
      matched "\"Found In\" is previous" ∧ "demo" ∉ issue.referredIn "Found In" 1 := by
  decide +kernel

end Issue.Criterion

end TrackerQuery
