import TrackerQuery.Proofs.Leniency
import TrackerQuery.Proofs.Query.Blame

namespace TrackerQuery

open TrackerQuery.Text TrackerQuery.Time TrackerQuery.Token

structure FieldSpec.Trimmed (spec spec' : FieldSpec) : Prop where
  name : spec'.name = spec.name
  type : spec'.type = spec.type
  allowMultiple : spec'.allowMultiple = spec.allowMultiple
  choices : spec'.choices.Sublist spec.choices

-- Where a field goes, all fields of its name go.
structure Setting.Reduces (before after : Setting) : Prop where
  fields : ∃ gone : String → Bool, List.Forall₂ FieldSpec.Trimmed
    (before.fields.filter fun spec => !gone spec.name) after.fields
  states : after.states.Sublist before.states

theorem find?_of_trimmed {specs specs' : List FieldSpec}
    (h : List.Forall₂ FieldSpec.Trimmed specs specs') (name : String) :
    specs'.find? (·.name == name) = none ∨ ∃ spec spec', specs.find? (·.name == name) = some spec ∧
      specs'.find? (·.name == name) = some spec' ∧ spec.Trimmed spec' := by
  induction h with
  | nil => exact .inl rfl
  | @cons spec spec' specs specs' first _ ih =>
    by_cases named : spec.name = name
    · refine .inr ⟨spec, spec', ?_, ?_, first⟩
      · simp [named]
      · simp [first.name, named]
    · have named' : spec'.name ≠ name := first.name ▸ named
      simpa [List.find?_cons, named, named'] using ih

theorem Setting.Reduces.field? {before after : Setting} (h : before.Reduces after) (name : String) :
    after.field? name = none ∨ ∃ spec spec', before.field? name = some spec ∧
      after.field? name = some spec' ∧ spec.Trimmed spec' := by
  obtain ⟨gone, kept⟩ := h.fields
  cases lost : gone name with
  | true =>
    refine .inl (List.find?_eq_none.mpr fun spec' mem named => ?_)
    obtain ⟨spec, left, trimmed⟩ := LeafReader.exists_of_forall₂ kept.flip mem
    have stays := (List.mem_filter.mp left).2
    simp [← trimmed.name, beq_iff_eq.mp named, lost] at stays
  | false =>
    have same : (before.fields.filter fun spec => !gone spec.name).find? (·.name == name) =
        before.field? name := by
      rw [List.find?_filter, Setting.field?]
      congr 1
      funext spec
      by_cases named : spec.name = name <;> simp [named, lost]
    rw [← same]
    exact find?_of_trimmed kept name

namespace Issue

inductive Target.Remains : Option Target → Option Target → Prop where
  | builtin (b : Builtin) : Remains (some (.builtin b)) (some (.builtin b))
  | custom {spec spec' : FieldSpec} (name : spec'.name = spec.name) (type : spec'.type = spec.type) :
      Remains (some (.custom spec)) (some (.custom spec'))
  | gone (t : Option Target) : Remains t none

theorem remains_of_reduces {before after : Setting} (h : before.Reduces after) (name : String) :
    Target.Remains (Target.ofName? before name) (Target.ofName? after name) := by
  unfold Target.ofName?
  cases Builtin.ofName? name with
  | some b => exact .builtin b
  | none =>
    rcases h.field? name with none | ⟨spec, spec', found, found', trimmed⟩
    · rw [none]
      exact .gone _
    · rw [found, found']
      exact .custom trimmed.name trimmed.type

namespace Criterion

variable {ctx ctx' : ReadContext} {name content : String} {op : Operator} {k : Criterion} {w : Wording}

theorem anonymous_of_text (text : k.text = fieldText name op content) : k.needsLogin = false := by
  have quoted : k.text.toList.getLast? = some '"' := by
    rw [text]
    simp [fieldText, toList_quote, List.getLast?_cons, List.getLast?_append]
  cases k with
  | submittedByMe => exact absurd quoted (by decide +kernel)
  | fieldOperator field op' =>
    by_cases me : op' = .isMe
    · subst me
      simp [Criterion.text, Operator.text] at quoted
    · simp [needsLogin, me]
  | _ => rfl

-- Without a field of that name, a leaf is taken by its operator alone, in the words that it is given in.
theorem meaning_of_unknown (unknown : Target.ofName? ctx'.setting name = none)
    (now : ctx'.now = ctx.now) (read : meaning ctx false name op content = .ok k) :
    ∃ k', meaning ctx' false name op content = .ok k' ∧ k'.text = fieldText name op content := by
  cases op with
  | isBefore =>
    obtain ⟨date, literal, _⟩ := bind_ok_iff.mp read
    obtain ⟨rfl, _⟩ := dateLiteral_ok_iff.mp literal
    refine ⟨dateField name (.ofOperator .isBefore) date, ?_, rfl⟩
    simp only [meaning, unknown, readDated, now, literal, bind_of_ok]
  | isAfter =>
    obtain ⟨date, literal, _⟩ := bind_ok_iff.mp read
    obtain ⟨rfl, _⟩ := dateLiteral_ok_iff.mp literal
    refine ⟨dateField name (.ofOperator .isAfter) date, ?_, rfl⟩
    simp only [meaning, unknown, readDated, now, literal, bind_of_ok]
  | contains | isLessThan | isGreaterThan =>
    refine ⟨choiceField name content (-1) _, ?_, rfl⟩
    simp only [meaning, unknown]
    exact readChoice_lenient none
  | is =>
    refine ⟨stringField name content false, ?_, rfl⟩
    simp only [meaning, unknown]
    rfl
  | _ => cases read

theorem meaning_of_builtin {b : Builtin} (known : Target.ofName? ctx.setting name = some (.builtin b))
    (known' : Target.ofName? ctx'.setting name = some (.builtin b)) (now : ctx'.now = ctx.now) :
    meaning ctx' false name op content = meaning ctx false name op content := by
  cases op with
  | isBefore | isAfter => simp only [meaning, known, known', readDated, now]
  | is => cases b <;> simp only [meaning, known, known', readIs, Bool.false_and]
  | _ => simp only [meaning, known, known']

theorem meaning_of_custom {spec spec' : FieldSpec}
    (known : Target.ofName? ctx.setting name = some (.custom spec))
    (known' : Target.ofName? ctx'.setting name = some (.custom spec')) (named : spec'.name = spec.name)
    (type : spec'.type = spec.type) (now : ctx'.now = ctx.now)
    (read : meaning ctx false name op content = .ok k) :
    ∃ k', meaning ctx' false name op content = .ok k' ∧ k'.text = k.text := by
  cases op with
  | isBefore | isAfter =>
    simp only [meaning, known, known', readDated, now] at read ⊢
    exact ⟨k, read, rfl⟩
  | contains =>
    simp only [meaning, known, known', readContains, type, readChoice_lenient] at read ⊢
    exact ⟨k, read, rfl⟩
  | isLessThan | isGreaterThan =>
    simp only [meaning, known, known', readOrdered, type, readChoice_lenient] at read ⊢
    exact ⟨k, read, rfl⟩
  | is =>
    simp only [meaning, known, known', readIs] at read ⊢
    cases kind : spec.type with
    | issueChoice | buildChoice | pullRequestChoice =>
      simp only [readIsCustom, type, kind] at read ⊢
      obtain ⟨_, rfl⟩ := readReference_ok_iff.mp read
      exact ⟨_, readReference_lenient, by simp only [text, named]⟩
    | _ =>
      simp only [readIsCustom, type, kind, readChoice_lenient] at read ⊢
      exact ⟨k, read, rfl⟩
  | _ => cases read

theorem meaning_survives (reduces : ctx.setting.Reduces ctx'.setting) (now : ctx'.now = ctx.now)
    (read : meaning ctx false name op content = .ok k) (text : k.text = fieldText name op content) :
    ∃ k', meaning ctx' false name op content = .ok k' ∧ k'.text = k.text := by
  have remains := remains_of_reduces reduces name
  generalize known : Target.ofName? ctx.setting name = t at remains
  generalize known' : Target.ofName? ctx'.setting name = t' at remains
  cases remains with
  | builtin b => exact ⟨k, (meaning_of_builtin known known' now).trans read, rfl⟩
  | custom named type => exact meaning_of_custom known known' named type now read
  | gone t => exact text ▸ meaning_of_unknown known' now read

theorem wording_survives (reduces : ctx.setting.Reduces ctx'.setting) (now : ctx'.now = ctx.now)
    (read : (reader ctx true).readWording w = .ok k) (text : w.text = k.text) :
    ∃ k', (reader ctx' false).readWording w = .ok k' ∧ k'.text = k.text ∧
      k'.needsLogin = k.needsLogin := by
  cases w with
  | standalone op => exact ⟨k, read, rfl, rfl⟩
  | field name op =>
    have field : readField ctx true name op = .ok k := read
    refine ⟨k, ?_, rfl, rfl⟩
    show readField ctx' false name op = .ok k
    exact readField_ok_iff.mpr ⟨nofun, (readField_ok_iff.mp field).2⟩
  | fieldValue name op content =>
    have relaxed : readFieldValue ctx false name op content = .ok k.unresolved :=
      (reader_relaxes ctx).wording _ k read
    have unresolved : k.unresolved.text = k.text := by cases k <;> rfl
    obtain ⟨k', meant, same⟩ := meaning_survives reduces now (readFieldValue_ok_iff.mp relaxed).2
      (unresolved.trans text.symm)
    have same := same.trans unresolved
    refine ⟨k', ?_, same, ?_⟩
    · show readFieldValue ctx' false name op content = .ok k'
      exact readFieldValue_ok_iff.mpr ⟨nofun, meant⟩
    · rw [anonymous_of_text (same.trans text.symm), anonymous_of_text text.symm]
  | value op content =>
    rcases readValue_ok_iff.mp read with ⟨submitted, rfl⟩ | ⟨fixed, _, rfl⟩
    · exact ⟨_, readValue_ok_iff.mpr (.inl ⟨submitted, rfl⟩), rfl, rfl⟩
    · subst fixed
      exact ⟨_, readFixedInBuild_lenient, rfl, rfl⟩
  | between first second =>
    obtain ⟨_, rfl⟩ := readBetween_ok_iff.mp read
    exact ⟨_, readBetween_ok_iff.mpr ⟨nofun, rfl⟩, rfl, rfl⟩

theorem partner (reduces : ctx.setting.Reduces ctx'.setting) (now : ctx'.now = ctx.now)
    (k : Criterion) : ∃ k' : Criterion, k'.text = k.text ∧ k'.needsLogin = k.needsLogin ∧
      ((reader ctx true).Spelled k → (reader ctx' false).Spelled k') := by
  by_cases spelled : (reader ctx true).Spelled k
  · obtain ⟨w, grammatical, text, read⟩ := spelled
    obtain ⟨k', read', text', needsLogin⟩ := wording_survives reduces now read text
    exact ⟨k', text', needsLogin, fun _ => ⟨w, grammatical, text.trans text'.symm, read'⟩⟩
  · exact ⟨k, rfl, rfl, fun h => absurd h spelled⟩

end Criterion

namespace Query

-- When fields, states and choices are deleted, the text of a validated query is read without
-- validation in the setting that is left, as a query of the very same text.
theorem saved_queries_survive (ctx ctx' : ReadContext)
    (reduces : ctx.setting.Reduces ctx'.setting) (now : ctx'.now = ctx.now) (text : Option String)
    (q : Query) (read : Query.read ctx text true = .ok q) :
    ∃ q', Query.read ctx' (some q.text) false = .ok q' ∧ q'.text = q.text ∧ q'.sorts = q.sorts ∧
      q'.needsLogin = q.needsLogin := by
  choose f sameText sameLogin spelled using Criterion.partner reduces now
  have wellFormed := ofText?_wellFormed read
  have sameQuery : (q.mapLeaves f).text = q.text := TrackerQuery.Query.text_map sameText q
  refine ⟨q.mapLeaves f, ?_, sameQuery, rfl, ?_⟩
  · rw [← sameQuery]
    refine ofText_of_writes (writes_query ⟨?_, fun _ _ => rfl⟩)
    intro c' mem
    obtain ⟨c, asked, rfl⟩ := Option.map_eq_some_iff.mp mem
    exact (wellFormed.criteria c asked).map fun k readable => spelled k (spelled_of_readable readable)
  · exact TrackerQuery.Query.needsLogin_map sameLogin q

theorem saved_queries_survive_cut :
    let priority : FieldSpec := ⟨"Priority", .choice, false, ["Low", "High"]⟩
    let before : Setting := ⟨[⟨"Estimate", .number, false, []⟩, priority,
      ⟨"Assignee", .userChoice, false, []⟩, ⟨"Estimate", .text, true, []⟩], ["Open"]⟩
    let after : Setting := ⟨[{ priority with choices := ["High"] }], []⟩
    let ctx : ReadContext := ⟨none, before, Repository.empty.resolver, ⟨0, 0⟩⟩
    let ctx' : ReadContext := ⟨some "demo", after, Repository.empty.resolver, ⟨0, 0⟩⟩
    let text :=
      "not \"Estimate\" is \"+007\" and (\"Priority\" is \"Low\" or \"Assignee\" is me) order by \"Estimate\""
    before.Reduces after ∧ ∃ q q', Query.read ctx (some text) true = .ok q ∧
      Query.read ctx' (some q.text) false = .ok q' ∧ q'.text = q.text ∧ q'.needsLogin = true := by
  intro priority before after ctx ctx' text
  have reduces : before.Reduces after := by
    refine ⟨⟨fun name => name != "Priority", .cons ⟨rfl, rfl, rfl, ?_⟩ .nil⟩, List.nil_sublist _⟩
    exact .cons "Low" (.refl _)
  have read : Query.read ctx (some text) true =
      .ok ⟨some (.all [.negation (.leaf (.numericField "Estimate" .equal 7)),
        .any [.leaf (.choiceField "Priority" "Low" 0 .is), .leaf (.fieldOperator "Assignee" .isMe)]]),
        [⟨"Estimate", .descending⟩]⟩ := by
    decide +kernel
  obtain ⟨q', again, same, _, login⟩ := saved_queries_survive ctx ctx' reduces rfl _ _ read
  exact ⟨reduces, _, q', read, again, same, login.trans (by decide)⟩

end Query

end Issue

end TrackerQuery
