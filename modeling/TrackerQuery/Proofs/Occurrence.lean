import Mathlib.Data.List.Basic
import TrackerQuery.Issue.Reader
import TrackerQuery.Project.Criterion
import TrackerQuery.Proofs.Text.FinalSigma
import TrackerQuery.PullRequest.Criterion
import TrackerQuery.Repository

namespace TrackerQuery

open TrackerQuery.Text

-- The entity holds if one of its texts contains the value, and there is an entity for every text.
structure Searches (value : String) (texts : ε → List String) (holds : ε → Bool) : Prop where
  holds_eq : ∀ entity, holds entity = (texts entity).any (containsIgnoringCase · value)
  texts_eq : ∀ text, ∃ entity, texts entity = [text]

structure Finds (value : String) (texts : ε → List String) (holds : ε → Bool) : Prop where
  kept : ∀ entity (before after : String), before ++ value ++ after ∈ texts entity →
    KeepsSigmas before.toList value.toList after.toList → holds entity = true
  all_iff : (∀ entity (before after : String), before ++ value ++ after ∈ texts entity →
    holds entity = true) ↔ SelfContained value.toList

theorem Searches.finds {value : String} {texts : ε → List String} {holds : ε → Bool}
    (h : Searches value texts holds) : Finds value texts holds := by
  have held : ∀ {entity text}, text ∈ texts entity → containsIgnoringCase text value = true →
      holds entity = true := by
    intro entity text mem found
    rw [h.holds_eq]
    exact List.any_eq_true.mpr ⟨text, mem, found⟩
  constructor
  · exact fun entity before after mem keeps => held mem (contains_of_keeps keeps)
  · rw [← contains_everywhere_iff]
    constructor
    · intro all before after
      obtain ⟨entity, single⟩ := h.texts_eq (before ++ value ++ after)
      have holds := all entity before after (by rw [single]; exact List.mem_singleton_self _)
      rw [h.holds_eq, single] at holds
      simpa using holds
    · exact fun found entity before after mem => held mem (found before after)

inductive Issue.Criterion.Seeks (value : String) : Criterion → (Issue → List String) → Prop where
  | title : Seeks value (title value) fun issue => [issue.title]
  | description : Seeks value (description value) fun issue => issue.description.toList
  | comment : Seeks value (comment value) fun issue => issue.comments
  | field (name : String) : Seeks value (stringField name value true)
      fun issue => (issue.valuesOf name).filterMap (·.value)

inductive PullRequest.Criterion.Seeks (value : String) :
    Criterion → (PullRequest → List String) → Prop where
  | title : Seeks value (title value) fun request => [request.title]
  | description : Seeks value (description value) fun request => request.description.toList
  | comment : Seeks value (comment value) fun request => request.comments

inductive Project.Criterion.Seeks (value : String) : Criterion → (Project → List String) → Prop where
  | name : Seeks value (name value true) fun project => [project.name]
  | description : Seeks value (description value) fun project => project.description.toList

def Issue.saying (text field : String) : Issue :=
  ⟨0, "", 0, text, some text, [text], "", none, none, ⟨0, 0⟩, ⟨0, 0⟩, 0, [⟨field, some text, 0⟩]⟩

def PullRequest.saying (text : String) : PullRequest :=
  ⟨0, "", 0, text, some text, [text], .pending, none, "", "", ⟨0, 0⟩, ⟨0, 0⟩⟩

def Project.saying (text : String) : Project :=
  ⟨0, text, some text, [], ⟨0, 0⟩⟩

variable {ctx : MatchContext} {value : String}

theorem any_toList (text : Option String) (value : String) :
    text.any (containsIgnoringCase · value) = text.toList.any (containsIgnoringCase · value) := by
  cases text <;> simp

theorem any_values (issue : Issue) (name value : String) :
    ((issue.valuesOf name).any fun v => containsIgnoringCase (v.value.getD "") value) =
      ((issue.valuesOf name).filterMap (·.value)).any (containsIgnoringCase · value) := by
  rw [Issue.valuesOf, List.any_filterMap, List.any_filter, List.any_filter]
  refine congrArg issue.fields.any (funext fun v => ?_)
  cases v.value <;> simp

theorem Issue.Criterion.Seeks.searches {leaf : Criterion} {texts : Issue → List String}
    (h : Seeks value leaf texts) : Searches value texts fun issue => leaf.holds ctx issue := by
  constructor
  · intro issue
    cases h with
    | title => simp [holds]
    | description => exact any_toList issue.description value
    | comment => rfl
    | field name => simp [holds, any_values]
  · intro text
    cases h with
    | title | description | comment => exact ⟨.saying text "", rfl⟩
    | field name => exact ⟨.saying text name, by simp [saying, valuesOf]⟩

theorem PullRequest.Criterion.Seeks.searches {leaf : Criterion} {texts : PullRequest → List String}
    (h : Seeks value leaf texts) : Searches value texts fun request => leaf.holds ctx request := by
  constructor
  · intro request
    cases h with
    | title => simp [holds]
    | description => exact any_toList request.description value
    | comment => rfl
  · exact fun text => ⟨.saying text, by cases h <;> rfl⟩

theorem Project.Criterion.Seeks.searches {leaf : Criterion} {texts : Project → List String}
    (h : Seeks value leaf texts) : Searches value texts fun project => leaf.holds ctx project := by
  constructor
  · intro project
    cases h with
    | name => simp [holds]
    | description => exact any_toList project.description value
  · exact fun text => ⟨.saying text, by cases h <;> rfl⟩

-- An occurrence of a value is found where the value keeps its sigmas, and all of them are found just if
-- none of its sigmas is exposed.
theorem contains_finds_iff (ctx : MatchContext) (value : String) :
    (∀ before after : String, KeepsSigmas before.toList value.toList after.toList →
        containsIgnoringCase (before ++ value ++ after) value = true) ∧
      ((∀ before after : String, containsIgnoringCase (before ++ value ++ after) value = true) ↔
        SelfContained value.toList) ∧
      (∀ leaf texts, Issue.Criterion.Seeks value leaf texts →
        Finds value texts fun issue => leaf.holds ctx issue) ∧
      (∀ leaf texts, PullRequest.Criterion.Seeks value leaf texts →
        Finds value texts fun request => leaf.holds ctx request) ∧
      ∀ leaf texts, Project.Criterion.Seeks value leaf texts →
        Finds value texts fun project => leaf.holds ctx project :=
  ⟨fun _ _ => contains_of_keeps, contains_everywhere_iff, fun _ _ seeks => seeks.searches.finds,
    fun _ _ seeks => seeks.searches.finds, fun _ _ seeks => seeks.searches.finds⟩

set_option maxRecDepth 4096 in
theorem contains_finds_iff_road :
    let ctx : MatchContext := ⟨none, none, Setting.empty, Repository.empty.relations, ⟨0, 0⟩⟩
    let issue : Issue := .saying ("1 " ++ "ΟΔΟΣ" ++ ", 2") "Environment"
    KeepsSigmas "1 ".toList "ΟΔΟΣ".toList ", 2".toList ∧
      (Issue.Criterion.title "ΟΔΟΣ").holds ctx issue = true ∧
      (Issue.Criterion.stringField "Environment" "ΟΔΟΣ" true).holds ctx issue = true ∧
      SelfContained "ΟΣΟ".toList ∧
      (Project.Criterion.name "ΟΣΟ" true).holds ctx (.saying ("ΣΑΣ" ++ "ΟΣΟ" ++ "ΣΑΣ")) = true := by
  intro ctx issue
  have keeps : KeepsSigmas "1 ".toList "ΟΔΟΣ".toList ", 2".toList := by decide
  have contained : SelfContained "ΟΣΟ".toList := by decide
  obtain ⟨_, _, issues, _, _⟩ := contains_finds_iff ctx "ΟΔΟΣ"
  obtain ⟨_, _, _, _, projects⟩ := contains_finds_iff ctx "ΟΣΟ"
  refine ⟨keeps, ?_, ?_, contained, ?_⟩
  · exact (issues _ _ .title).kept issue _ _ (by simp [issue, Issue.saying]) keeps
  · refine (issues _ _ (.field "Environment")).kept issue _ _ ?_ keeps
    simp [issue, Issue.saying, Issue.valuesOf]
  · exact (projects _ _ .name).all_iff.mpr contained _ "ΣΑΣ" "ΣΑΣ" (List.mem_singleton_self _)

set_option maxRecDepth 4096 in
theorem contains_misses_literally :
    let ctx : MatchContext := ⟨none, none, Setting.demo, Repository.empty.relations, ⟨0, 0⟩⟩
    let issue : Issue := ⟨1, "demo", 1, "" ++ "ΟΔΟΣ" ++ "ΗΜΑ", none, ["Α" ++ "Σ" ++ ""], "Open", none, none,
      ⟨0, 0⟩, ⟨0, 0⟩, 0, []⟩
    containsIgnoringCase ("" ++ "ΟΔΟΣ" ++ "ΗΜΑ") "ΟΔΟΣ" = false ∧
      (Issue.Criterion.title "ΟΔΟΣ").holds ctx issue = false ∧
      (Issue.Criterion.comment "Σ").holds ctx issue = false ∧
      (Project.Criterion.name "ΟΔΟΣ" true).holds ctx (.saying ("" ++ "ΟΔΟΣ" ++ "ΗΜΑ")) = false := by
  intro ctx issue
  have road : containsIgnoringCase ("" ++ "ΟΔΟΣ" ++ "ΗΜΑ") "ΟΔΟΣ" = false := by decide
  have word : containsIgnoringCase ("Α" ++ "Σ" ++ "") "Σ" = false := by decide
  refine ⟨road, ?_, ?_, ?_⟩
  · exact road
  · rw [Issue.Criterion.holds, List.any_cons, word]
    rfl
  · exact road

end TrackerQuery
