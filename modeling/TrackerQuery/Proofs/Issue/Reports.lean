import TrackerQuery.Proofs.Distinct
import TrackerQuery.Proofs.Issue.Upkeep
import TrackerQuery.Proofs.Query.Blame

namespace TrackerQuery.Issue

open TrackerQuery.Text

variable {ctx : ReadContext} {setting : Setting} {k : Criterion} {name content : String}
  {op : Operator} {spec : FieldSpec} {o : Objection} {e : Error} {w : Wording} {q : Query}

theorem checkField_refused (refused : checkField setting name op = .error (.rejected o)) :
    (Target.ofName? setting name = none ∧ o = .fieldNotFound name) ∨ o = .notApplicable name op := by
  unfold checkField at refused
  cases found : Target.ofName? setting name with
  | none =>
    rw [found] at refused
    cases refused
    exact .inl ⟨rfl, rfl⟩
  | some target =>
    simp only [found] at refused
    split at refused <;> cases refused
    exact .inr rfl

namespace Criterion

-- The reports on the leaf show the name or the value that the objection is about.
def Shows (setting : Setting) (k : Criterion) : Objection → Prop
  | .fieldNotFound name =>
    k.customField? = some name ∧ Query.isUndefinedField setting name = true
  | .undefinedValue name value =>
    (Builtin.ofName? name = some .state ∧ Query.undefinedState? setting k = some value) ∨
      (∃ spec, CustomField setting name spec ∧ spec.type = .choice) ∧
        Query.staleValue? setting k = some ⟨name, value⟩
  | _ => True

theorem found_refused {x : Option α} {objection : Objection}
    (refused : found true objection x = .error (.rejected o)) : o = objection := by
  cases x with
  | none =>
    cases refused
    rfl
  | some a => cases refused

theorem found_leaf_refused {x : Option α} {leaf : Option α → Criterion} {objection : Objection}
    (refused : (found true objection x >>= fun a => .ok (leaf a)) = .error (.rejected o)) :
    o = objection := by
  rcases bind_error_iff.mp refused with refused | ⟨_, _, never⟩
  · exact found_refused refused
  · cases never

theorem readReference_shows
    (refused : readReference ctx true spec content = .error (.rejected o)) : k.Shows setting o := by
  cases reference : Reference.read? content with
  | none =>
    simp only [readReference, reference] at refused
    obtain rfl := found_leaf_refused refused
    trivial
  | some reference' =>
    by_cases build : spec.type = .buildChoice
    · simp only [readReference, reference, build, beq_self_eq_true, if_true] at refused
      obtain rfl := found_leaf_refused refused
      trivial
    · simp [readReference, reference, build] at refused

theorem readOrdinal_refused
    (refused : readOrdinal true name (some spec) content = .error (.rejected o)) :
    spec.type = .choice ∧ content ∉ spec.choices ∧ o = .undefinedValue name content := by
  by_cases choice : spec.type = .choice
  · simp only [readOrdinal, choice, FieldSpec.ordinalOf, if_true, Bool.true_and,
      beq_self_eq_true] at refused
    cases position : spec.choices.idxOf? content with
    | none =>
      rw [position] at refused
      cases refused
      exact ⟨choice, List.idxOf?_eq_none_iff.mp position, rfl⟩
    | some i =>
      have known : ¬(i : Int) = -1 := by omega
      simp [position, known] at refused
  · simp [readOrdinal, choice] at refused

theorem readChoice_shows (named : CustomField setting name spec)
    (read : readChoice false name (some spec) op content = .ok k)
    (refused : readChoice true name (some spec) op content = .error (.rejected o)) :
    k.Shows setting o := by
  rw [readChoice_lenient] at read
  cases read
  rcases bind_error_iff.mp refused with refused | ⟨_, _, never⟩
  · obtain ⟨choice, undefined, rfl⟩ := readOrdinal_refused refused
    refine .inr ⟨⟨spec, named, choice⟩, ?_⟩
    simp [Query.staleValue?, named.first, choice, undefined]
  · cases never

theorem meaning_shows (read : meaning ctx false name op content = .ok k)
    (refused : meaning ctx true name op content = .error (.rejected o)) :
    k.Shows ctx.setting o := by
  cases values_of_meaning ctx name op with
  | choice spec named same =>
    rw [same] at read refused
    cases spec with
    | none => exact ok_or_error read refused
    | some spec => exact readChoice_shows (customField_iff.mpr (named spec rfl)) read refused
  | state named same =>
    rw [same] at read refused
    cases read
    by_cases known : ctx.setting.hasState content = true
    · simp [known] at refused
    · simp only [known, Bool.not_false, Bool.true_and, if_true] at refused
      cases refused
      refine .inl ⟨named, ?_⟩
      rw [Query.undefinedState?, if_neg known]
  | reference spec same =>
    rw [same] at refused
    exact readReference_shows refused
  | plain same _ =>
    rw [same] at refused
    exact ok_or_error read refused

theorem customField_of_unknown (unknown : Target.ofName? ctx.setting name = none)
    (read : meaning ctx false name op content = .ok k) : k.customField? = some name := by
  cases op with
  | isBefore | isAfter =>
    simp only [meaning, unknown, readDated, bind_ok_iff] at read
    obtain ⟨date, _, read⟩ := read
    cases read
    rfl
  | contains | is | isLessThan | isGreaterThan =>
    simp only [meaning, unknown] at read
    cases read
    rfl
  | _ => cases read

theorem undefined_of_unknown (unknown : Target.ofName? setting name = none) :
    Query.isUndefinedField setting name = true := by
  rw [Query.isUndefinedField, unknown]
  rfl

theorem readFieldValue_shows (read : readFieldValue ctx false name op content = .ok k)
    (refused : readFieldValue ctx true name op content = .error (.rejected o)) :
    k.Shows ctx.setting o := by
  have meant := (readFieldValue_ok_iff.mp read).2
  have checked : readFieldValue ctx true name op content =
      checkField ctx.setting name op >>= fun _ => meaning ctx true name op content := by
    cases op <;> rfl
  rw [checked] at refused
  rcases bind_error_iff.mp refused with refused | ⟨_, _, refused⟩
  · rcases checkField_refused refused with ⟨unknown, rfl⟩ | rfl
    · exact ⟨customField_of_unknown unknown meant, undefined_of_unknown unknown⟩
    · trivial
  · exact meaning_shows meant refused

theorem readField_shows (read : readField ctx false name op = .ok k)
    (refused : readField ctx true name op = .error (.rejected o)) : k.Shows ctx.setting o := by
  have checked : readField ctx true name op =
      checkField ctx.setting name op >>= fun _ => readField ctx false name op := by
    cases op <;> rfl
  rw [checked] at refused
  rcases bind_error_iff.mp refused with refused | ⟨_, _, refused⟩
  · rcases checkField_refused refused with ⟨unknown, rfl⟩ | rfl
    · obtain ⟨_, _, rfl⟩ := readField_ok_iff.mp read
      have custom := (ofName?_unknown_iff.mp unknown).1
      refine ⟨?_, undefined_of_unknown unknown⟩
      simp [custom, customField?]
    · trivial
  · exact ok_or_error read refused

theorem readValue_shows (refused : readValue ctx true op content = .error (.rejected o)) :
    k.Shows setting o := by
  cases op with
  | submittedBy => cases refused
  | fixedInBuild =>
    cases reference : Reference.read? content with
    | none =>
      simp only [readValue, reference] at refused
      obtain rfl := found_leaf_refused refused
      trivial
    | some reference' =>
      simp only [readValue, reference] at refused
      obtain rfl := found_leaf_refused refused
      trivial
  | _ => cases refused

theorem readBetween_shows {first second : Revision}
    (refused : readBetween ctx true first second = .error (.rejected o)) : k.Shows setting o := by
  rcases bind_error_iff.mp refused with refused | ⟨_, _, refused⟩
  · obtain rfl := found_refused refused
    trivial
  · rcases bind_error_iff.mp refused with refused | ⟨_, _, never⟩
    · obtain rfl := found_refused refused
      trivial
    · cases never

theorem shows_of_refused (read : (reader ctx false).readWording w = .ok k)
    (refused : (reader ctx true).readWording w = .error (.rejected o)) : k.Shows ctx.setting o := by
  cases w with
  | standalone op => exact ok_or_error read refused
  | field name op => exact readField_shows read refused
  | fieldValue name op content => exact readFieldValue_shows read refused
  | value op content => exact readValue_shows refused
  | between first second => exact readBetween_shows refused

end Criterion

theorem checkSort_refused (refused : Criterion.checkSort setting true name = .error (.rejected o)) :
    o = .notSortable name := by
  unfold Criterion.checkSort at refused
  split at refused
  · cases refused
  · split at refused
    · split at refused <;> cases refused
      rfl
    · cases refused
      rfl

namespace Query

namespace StaleValue

theorem lt_trans {a b c : StaleValue} (h : a < b) (h' : b < c) : a < c := by
  rcases h with below | ⟨same, below⟩
  · rcases h' with below' | ⟨same', _⟩
    · exact .inl (String.lt_trans below below')
    · exact .inl (same' ▸ below)
  · rcases h' with below' | ⟨same', below'⟩
    · exact .inl (same ▸ below')
    · exact .inr ⟨same.trans same', String.lt_trans below below'⟩

theorem eq_of_not_lt {a b : StaleValue} (h : ¬a < b) (h' : ¬b < a) : a = b := by
  obtain ⟨above, apart⟩ := not_or.mp h
  obtain ⟨above', apart'⟩ := not_or.mp h'
  have field : a.field = b.field := Std.Trichotomous.trichotomous _ _ above above'
  have value : a.value = b.value :=
    Std.Trichotomous.trichotomous _ _ (fun below => apart ⟨field, below⟩)
      fun below => apart' ⟨field.symm, below⟩
  cases a
  cases b
  cases field
  cases value
  rfl

instance : Std.Trichotomous (α := StaleValue) (· < ·) :=
  ⟨fun _ _ => eq_of_not_lt⟩

instance : Trans (α := StaleValue) (· < ·) (· < ·) (· < ·) :=
  ⟨lt_trans⟩

end StaleValue

theorem leaf_of_hasLeaf {text : Option String} (read : Query.read ctx text false = .ok q)
    (leaf : HasLeaf text w) : ∃ k ∈ q.leaves, (reader ctx false).readWording w = .ok k := by
  obtain ⟨c, found, k, below, meaning⟩ := LeafReader.leaf_of_text leaf read
  refine ⟨k, ?_, meaning⟩
  rw [leaves, found]
  exact below

theorem shows_of_refused {text : Option String} (read : Query.read ctx text false = .ok q)
    (refused : Query.read ctx text true = .error (.rejected o) ∨
      ∃ w, HasLeaf text w ∧ (reader ctx true).readWording w = .error (.rejected o))
    (leaf : (∀ name, o ≠ .notApplicable name .isNot) ∧ ∀ name, o ≠ .notSortable name) :
    ∃ k ∈ q.leaves, k.Shows ctx.setting o := by
  have worded : ∃ w, HasLeaf text w ∧ (reader ctx true).readWording w = .error (.rejected o) := by
    rcases refused with refused | worded
    · rcases LeafReader.hasLeaf_or_sortField read refused leaf.1 with worded | ⟨name, refused⟩
      · exact worded
      · exact absurd (checkSort_refused refused) (leaf.2 name)
    · exact worded
  obtain ⟨w, said, refused⟩ := worded
  obtain ⟨k, asked, meaning⟩ := leaf_of_hasLeaf read said
  exact ⟨k, asked, Criterion.shows_of_refused meaning refused⟩

-- A validated query has nothing to report. What validation does not find of what a leaf names is in
-- the report on the query that is read without, and the reports are ascending lists without repeats.
theorem reports_exact (ctx : ReadContext) (text : Option String) (q : Query) :
    (Query.read ctx text true = .ok q → q.undefinedFields ctx.setting = [] ∧
        q.undefinedStates ctx.setting = [] ∧ q.undefinedValues ctx.setting = []) ∧
      (Query.read ctx text false = .ok q → ∀ o,
        (Query.read ctx text true = .error (.rejected o) ∨
          ∃ w, HasLeaf text w ∧ (reader ctx true).readWording w = .error (.rejected o)) →
        (∀ name, o = .fieldNotFound name → name ∈ q.undefinedFields ctx.setting) ∧
          ∀ name value, o = .undefinedValue name value →
            (Builtin.ofName? name = some .state ∧ value ∈ q.undefinedStates ctx.setting) ∨
              (∃ spec, CustomField ctx.setting name spec ∧ spec.type = .choice) ∧
                ⟨name, value⟩ ∈ q.undefinedValues ctx.setting) ∧
      ∀ setting, (q.undefinedFields setting).Pairwise (· < ·) ∧
        (q.undefinedStates setting).Pairwise (· < ·) ∧
        (q.undefinedValues setting).Pairwise (· < ·) := by
  refine ⟨?_, ?_, ?_⟩
  · intro read
    have valid := valid_of_read read
    exact ⟨valid.undefinedFields, valid.undefinedStates, valid.undefinedValues⟩
  · intro read o refused
    constructor
    · rintro name rfl
      obtain ⟨k, asked, custom, undefined⟩ := shows_of_refused read refused ⟨nofun, nofun⟩
      refine mem_distinct.mpr (List.mem_filter.mpr ⟨?_, undefined⟩)
      exact List.mem_append_left _ (List.mem_filterMap.mpr ⟨k, asked, custom⟩)
    · rintro name value rfl
      obtain ⟨k, asked, shown⟩ := shows_of_refused read refused ⟨nofun, nofun⟩
      rcases shown with ⟨named, undefined⟩ | ⟨choice, stale⟩
      · exact .inl ⟨named, mem_distinct.mpr (List.mem_filterMap.mpr ⟨k, asked, undefined⟩)⟩
      · exact .inr ⟨choice, mem_distinct.mpr (List.mem_filterMap.mpr ⟨k, asked, stale⟩)⟩
  · intro setting
    exact ⟨distinct_ascending _, distinct_ascending _, distinct_ascending _⟩

theorem reports_exact_ghost :
    let ctx : ReadContext := ⟨none, Setting.demo, Repository.empty.resolver, ⟨0, 0⟩⟩
    (∃ q, Query.read ctx (some "\"Type\" is \"Bug\" order by \"Priority\"") true = .ok q ∧
        q.undefinedFields ctx.setting = [] ∧ q.undefinedStates ctx.setting = [] ∧
        q.undefinedValues ctx.setting = []) ∧
      (∃ q, Query.read ctx (some "not(\"Ghost\" is me) and \"Type\" is \"None\"") false = .ok q ∧
        "Ghost" ∈ q.undefinedFields ctx.setting) ∧
      (∃ q, Query.read ctx (some "not(\"status\" is not \"Gone\")") false = .ok q ∧
        "Gone" ∈ q.undefinedStates ctx.setting) ∧
      ∃ q, Query.read ctx (some "\"Priority\" is less than \"Nope\"") false = .ok q ∧
        ⟨"Priority", "Nope"⟩ ∈ q.undefinedValues ctx.setting := by
  intro ctx
  have valid : Query.read ctx (some "\"Type\" is \"Bug\" order by \"Priority\"") true =
      .ok ⟨some (.leaf (.choiceField "Type" "Bug" 0 .is)), [⟨"Priority", .descending⟩]⟩ := by
    decide +kernel
  have ghost : Query.read ctx (some "not(\"Ghost\" is me) and \"Type\" is \"None\"") false =
      .ok ⟨some (.all [.negation (.leaf (.fieldOperator "Ghost" .isMe)),
        .leaf (.choiceField "Type" "None" (-1) .is)]), []⟩ := by
    decide +kernel
  have gone : Query.read ctx (some "not(\"status\" is not \"Gone\")") false =
      .ok ⟨some (.negation (.negation (.leaf (.state "status" "Gone")))), []⟩ := by
    decide +kernel
  have nope : Query.read ctx (some "\"Priority\" is less than \"Nope\"") false =
      .ok ⟨some (.leaf (.choiceField "Priority" "Nope" (-1) .isLessThan)), []⟩ := by
    decide +kernel
  refine ⟨⟨_, valid, (reports_exact ctx _ _).1 valid⟩, ⟨_, ghost, ?_⟩, ⟨_, gone, ?_⟩, _, nope, ?_⟩
  · obtain ⟨field, _⟩ := (reports_exact ctx _ _).2.1 ghost (.fieldNotFound "Ghost")
      (.inl (by decide +kernel))
    exact field "Ghost" rfl
  · obtain ⟨_, value⟩ := (reports_exact ctx _ _).2.1 gone (.undefinedValue "status" "Gone")
      (.inl (by decide +kernel))
    rcases value "status" "Gone" rfl with ⟨_, state⟩ | ⟨⟨_, named, _⟩, _⟩
    · exact state
    · exact absurd rfl named.notAlias
  · obtain ⟨_, value⟩ := (reports_exact ctx _ _).2.1 nope (.undefinedValue "Priority" "Nope")
      (.inl (by decide +kernel))
    rcases value "Priority" "Nope" rfl with ⟨named, _⟩ | ⟨_, stale⟩
    · exact absurd named (by decide)
    · exact stale

end Query

end TrackerQuery.Issue
