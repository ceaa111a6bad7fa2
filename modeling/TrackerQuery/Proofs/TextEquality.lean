import TrackerQuery.Project.Criterion
import TrackerQuery.Proofs.Issue.Comparisons
import TrackerQuery.Proofs.Text.LetterCase

namespace TrackerQuery

open TrackerQuery.Text
open Sql (Condition)

def Issue.HoldsOnly (issue : Issue) (field text : String) : Prop :=
  ∃ ordinal, issue.fields.filter (·.name == field) = [⟨field, some text, ordinal⟩]

namespace Issue.Criterion

variable {ctx : MatchContext} {store : Store} {issue : Issue} {field text : String}

theorem any_of_holdsOnly (only : issue.HoldsOnly field text) :
    ∃ ordinal, ∀ p : FieldValue → Bool,
      (issue.fields.any fun v => v.name == field && p v) = p ⟨field, some text, ordinal⟩ := by
  obtain ⟨ordinal, single⟩ := only
  refine ⟨ordinal, fun p => ?_⟩
  rw [← List.any_filter, single, List.any_cons, List.any_nil, Bool.or_false]

theorem any_valuesOf (only : issue.HoldsOnly field text) (p : Option String → Bool) :
    (issue.valuesOf field).any (fun v => p v.value) = p (some text) := by
  obtain ⟨ordinal, each⟩ := any_of_holdsOnly only
  have entry := each fun v => v.value.isSome && p v.value
  simpa only [valuesOf, List.any_filter, Bool.and_assoc, Option.isSome_some, Bool.true_and] using entry

theorem textCondition_truth (keyed : store.Keyed) (stored : issue ∈ store.issues)
    (only : issue.HoldsOnly field text) (value : String) :
    (fieldCondition field (.equalsIgnoringCase (fieldColumn .value) value)).truth store.database
        issue.scope = some (lowerCase text == lowerCase value) := by
  obtain ⟨ordinal, each⟩ := any_of_holdsOnly only
  rw [fieldCondition_truth keyed stored, each, Condition.equalsIgnoringCase_truth value rfl]
  cases lowerCase text == lowerCase value <;> rfl

theorem lowerCase_true_iff : lowerCase text = "true" ↔ equalsIgnoringAsciiCase text "true" = true :=
  lowerCase_eq_iff (by decide) (by decide)

theorem isTrue_agrees_iff : (isTrue text = true ↔ lowerCase text = "true") ↔
    (isTrue text = true → trimmed text = text) := by
  have bare : equalsIgnoringAsciiCase text "true" = true → trimmed text = text :=
    trimmed_of_equals (by decide)
  rw [lowerCase_true_iff, isTrue]
  constructor
  · exact fun agree set => bare (agree.mp set)
  · intro unpadded
    constructor
    · intro set
      rwa [unpadded set] at set
    · intro equal
      rwa [bare equal]

theorem stringField_agrees (keyed : store.Keyed) (stored : issue ∈ store.issues)
    (only : issue.HoldsOnly field text) (value : String) :
    let leaf := stringField field value false
    (leaf.holds ctx issue = true ↔ equalsIgnoringAsciiCase text value = true) ∧
      ((leaf.condition ctx).truth store.database issue.scope = some true ↔
        lowerCase text = lowerCase value) := by
  intro leaf
  have held : leaf.holds ctx issue = equalsIgnoringAsciiCase text value :=
    any_valuesOf only fun held => equalsIgnoringAsciiCase (held.getD "") value
  have said : (leaf.condition ctx).truth store.database issue.scope =
      some (lowerCase text == lowerCase value) := textCondition_truth keyed stored only value
  rw [held, said, Option.some.injEq, beq_iff_eq]
  exact ⟨Iff.rfl, Iff.rfl⟩

theorem booleanField_agrees (keyed : store.Keyed) (stored : issue ∈ store.issues)
    (only : issue.HoldsOnly field text) (value : Bool) :
    let leaf := booleanField field value
    (leaf.holds ctx issue = true ↔ (leaf.condition ctx).truth store.database issue.scope = some true) ↔
      (isTrue text = true → trimmed text = text) := by
  intro leaf
  have set : lowerCase "true" = "true" := rfl
  have held : leaf.holds ctx issue = (isTrue text == value) :=
    congrArg (· == value) (any_valuesOf only fun held => held.any isTrue)
  have said : (leaf.condition ctx).truth store.database issue.scope =
      some ((lowerCase text == "true") == value) := by
    have truth := textCondition_truth keyed stored only "true"
    rw [set] at truth
    cases value with
    | true => exact truth.trans (by simp)
    | false =>
      have negated : leaf.condition ctx =
          .negation (fieldCondition field (.equalsIgnoringCase (fieldColumn .value) "true")) := rfl
      rw [negated, Condition.truth_negation, truth]
      simp
  rw [held, said, Option.some.injEq, ← isTrue_agrees_iff, ← beq_iff_eq (a := lowerCase text)]
  cases value <;> cases isTrue text <;> cases lowerCase text == "true" <;> simp

end Issue.Criterion

theorem Project.Criterion.name_agrees (ctx : MatchContext) (store : Store) (project : Project)
    (value : String) :
    let leaf := name value false
    (leaf.holds ctx project = true ↔ equalsIgnoringAsciiCase project.name value = true) ∧
      ((leaf.condition ctx).truth store.database project.scope = some true ↔
        lowerCase project.name = lowerCase value) := by
  intro leaf
  have said : (leaf.condition ctx).truth store.database project.scope =
      some (lowerCase project.name == lowerCase value) :=
    Condition.equalsIgnoringCase_truth value rfl
  rw [said, Option.some.injEq, beq_iff_eq]
  exact ⟨Iff.rfl, Iff.rfl⟩

-- A match and the condition agree on a text field and on the name of a project unless the texts differ
-- in the case of other letters than A to Z; the condition is then true where nothing matches. They agree
-- on a truth value unless there are blanks about it.
theorem text_equality_agrees_iff (ctx : MatchContext) {store : Store} (keyed : store.Keyed) :
    (∀ issue ∈ store.issues, ∀ field text, issue.HoldsOnly field text →
        (∀ value,
          let leaf := Issue.Criterion.stringField field value false
          let selected := (leaf.condition ctx).truth store.database issue.scope = some true
          (leaf.holds ctx issue = true → selected) ∧
            ((leaf.holds ctx issue = true ↔ selected) ↔ ¬DifferBeyondAscii text value)) ∧
          ∀ value,
            let leaf := Issue.Criterion.booleanField field value
            let selected := (leaf.condition ctx).truth store.database issue.scope = some true
            (leaf.holds ctx issue = true ↔ selected) ↔
              (Issue.Criterion.isTrue text = true → trimmed text = text)) ∧
      (∀ (project : Project) (value : String),
        let leaf := Project.Criterion.name value false
        let selected := (leaf.condition ctx).truth store.database project.scope = some true
        (leaf.holds ctx project = true → selected) ∧
          ((leaf.holds ctx project = true ↔ selected) ↔ ¬DifferBeyondAscii project.name value)) ∧
      ∀ a b, IsAscii a → IsAscii b → ¬DifferBeyondAscii a b := by
  refine ⟨fun issue stored field text only => ⟨fun value => ?_, fun value => ?_⟩,
    fun project value => ?_, fun a b first second => ?_⟩
  · obtain ⟨held, said⟩ := Issue.Criterion.stringField_agrees keyed stored only value
    exact equalities_agree held said
  · exact Issue.Criterion.booleanField_agrees keyed stored only value
  · obtain ⟨held, said⟩ := Project.Criterion.name_agrees ctx store project value
    exact equalities_agree held said
  · exact not_differ_of_ascii first second

theorem text_equality_agrees_iff_cafe :
    let issue : Issue := ⟨1, "demo", 1, "t", none, [], "Open", none, none, ⟨0, 0⟩, ⟨0, 0⟩, 0,
      [⟨"Environment", some "Café", 0⟩, ⟨"Regression", some "TRUE", 0⟩]⟩
    let project : Project := ⟨1, "Demo", none, [], ⟨0, 0⟩⟩
    let store : Store := ⟨[issue], [], [project], fun _ => none⟩
    let ctx : MatchContext := ⟨none, none, Setting.demo, Repository.empty.relations, ⟨0, 0⟩⟩
    let environment : Issue.Criterion := .stringField "Environment" "cAFé" false
    let regression : Issue.Criterion := .booleanField "Regression" true
    let name : Project.Criterion := .name "DEMO" false
    store.Keyed ∧ ¬DifferBeyondAscii "Café" "cAFé" ∧ ¬DifferBeyondAscii "Demo" "DEMO" ∧
      environment.holds ctx issue = true ∧
      (environment.condition ctx).truth store.database issue.scope = some true ∧
      (regression.condition ctx).truth store.database issue.scope = some true ∧
      (name.condition ctx).truth store.database project.scope = some true := by
  intro issue project store ctx environment regression name
  have keyed : store.Keyed := ⟨by decide, by decide, by decide⟩
  have stored : issue ∈ store.issues := List.mem_singleton_self _
  obtain ⟨issues, projects, ascii⟩ := text_equality_agrees_iff ctx keyed
  obtain ⟨texts, _⟩ := issues issue stored "Environment" "Café" ⟨0, by decide⟩
  obtain ⟨_, truths⟩ := issues issue stored "Regression" "TRUE" ⟨0, by decide⟩
  have held : environment.holds ctx issue = true := by decide +kernel
  have set : regression.holds ctx issue = true := by decide +kernel
  have named : name.holds ctx project = true := by decide +kernel
  have selected := (texts "cAFé").1 held
  have selected' := (projects project "DEMO").1 named
  refine ⟨keyed, ?_, ascii "Demo" "DEMO" ?_ ?_, held, selected, ?_, selected'⟩
  · exact (texts "cAFé").2.mp (iff_of_true held selected)
  · decide
  · decide
  · exact ((truths true).mpr fun _ => by decide +kernel).mp set

-- Each of the leaves is read from a query: a letter beyond ASCII in other case is selected where it does
-- not match, and a truth value with a blank before it matches where it is not selected.
theorem text_equality_disagrees :
    let read : ReadContext := ⟨none, Setting.demo, Repository.empty.resolver, ⟨0, 0⟩⟩
    let ctx : MatchContext := ⟨none, none, Setting.demo, Repository.empty.relations, ⟨0, 0⟩⟩
    let issue : Issue := ⟨1, "demo", 1, "t", none, [], "Open", none, none, ⟨0, 0⟩, ⟨0, 0⟩, 0,
      [⟨"Environment", some "café", 0⟩, ⟨"Regression", some " true", 0⟩]⟩
    let project : Project := ⟨1, "école", none, [], ⟨0, 0⟩⟩
    let store : Store := ⟨[issue], [], [project], fun _ => none⟩
    let environment : Issue.Criterion := .stringField "Environment" "CAFÉ" false
    let regression : Issue.Criterion := .booleanField "Regression" true
    let name : Project.Criterion := .name "ÉCOLE" false
    Issue.Query.read read (some "\"Environment\" is \"CAFÉ\"") true =
        .ok ⟨some (.leaf environment), []⟩ ∧
      environment.holds ctx issue = false ∧
      (environment.condition ctx).truth store.database issue.scope = some true ∧
      Issue.Query.read read (some "\"Regression\" is \"true\"") true =
        .ok ⟨some (.leaf regression), []⟩ ∧
      regression.holds ctx issue = true ∧
      (regression.condition ctx).truth store.database issue.scope = some false ∧
      Project.Query.read read (some "\"name\" is \"ÉCOLE\"") true = .ok ⟨some (.leaf name), []⟩ ∧
      name.holds ctx project = false ∧
      (name.condition ctx).truth store.database project.scope = some true := by
  decide +kernel

end TrackerQuery
