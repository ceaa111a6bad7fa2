import Mathlib.Data.List.Basic
import TrackerQuery.Proofs.Issue.Choices

namespace TrackerQuery

def Issue.HasSingle (issue : Issue) (field text : String) : Prop :=
  ∃ v, issue.valuesOf field = [v] ∧ v.value = some text

theorem FieldSpec.ordinalOf_of_mem {spec : FieldSpec} (type : spec.type = .choice)
    (mem : value ∈ spec.choices) : spec.ordinalOf value = spec.choices.idxOf value := by
  obtain ⟨i, position⟩ := Option.isSome_iff_exists.mp (List.isSome_idxOf?.mpr mem)
  rw [ordinalOf, if_pos type, List.idxOf_eq_getD_idxOf?, position]
  rfl

theorem Comparison.existsUnique_holds (a b : Nat) : ∃! c : Comparison, c.holds a b = true := by
  rcases Nat.lt_trichotomy a b with less | equal | greater
  · refine ⟨.less, decide_eq_true less, fun c held => ?_⟩
    cases c with
    | less => rfl
    | equal | greater =>
      have := of_decide_eq_true held
      omega
  · refine ⟨.equal, decide_eq_true equal, fun c held => ?_⟩
    cases c with
    | equal => rfl
    | less | greater =>
      have := of_decide_eq_true held
      omega
  · refine ⟨.greater, decide_eq_true greater, fun c held => ?_⟩
    cases c with
    | greater => rfl
    | equal | less =>
      have := of_decide_eq_true held
      omega

namespace Issue.Criterion

variable {ctx : ReadContext} {m : MatchContext} {issue : Issue} {v : FieldValue} {spec : FieldSpec}
  {field value text : String} {ordinal : Int} {op : Operator}

theorem meaning_choice (named : CustomField ctx.setting field spec) (type : spec.type = .choice)
    (c : Comparison) (validate : Bool) : meaning ctx validate field c.numberOperator value =
      readChoice validate field (some spec) c.numberOperator value := by
  have found := customField_iff.mp named
  cases c with
  | equal => simp [meaning, Comparison.numberOperator, found, readIs, readIsCustom, type]
  | less | greater => simp [meaning, Comparison.numberOperator, found, readOrdered, type]

-- A choice is found when the query is read or when it is asked, and at the same position.
theorem read_comparison (named : CustomField ctx.setting field spec) (type : spec.type = .choice)
    (mem : value ∈ spec.choices) (c : Comparison) (validate : Bool) :
    ∃ ordinal, (reader ctx validate).readWording (.fieldValue field c.numberOperator value) =
        .ok (choiceField field value ordinal c.numberOperator) ∧
      choiceOrdinal ctx.setting field value ordinal = spec.choices.idxOf value := by
  have position := FieldSpec.ordinalOf_of_mem type mem
  have taken : (Target.custom spec).takes c.numberOperator = true := by
    cases c <;> simp [Target.takes, Comparison.numberOperator, type]
  have read : ∀ {ordinal}, readOrdinal validate field (some spec) value = .ok ordinal →
      (reader ctx validate).readWording (.fieldValue field c.numberOperator value) =
        .ok (choiceField field value ordinal c.numberOperator) := by
    intro ordinal looked
    refine readFieldValue_ok_iff.mpr ⟨fun _ => checkField_ok_iff.mpr ⟨_, customField_iff.mp named, taken⟩, ?_⟩
    rw [meaning_choice named type]
    exact readChoice_ok_iff.mpr ⟨ordinal, looked, rfl⟩
  cases validate with
  | true =>
    have known : (0 : Int) ≤ spec.choices.idxOf value := Int.natCast_nonneg _
    exact ⟨_, read (readOrdinal_ok_iff.mpr ⟨position, fun _ => known⟩), choiceOrdinal_of_nonneg known⟩
  | false =>
    refine ⟨-1, read (readOrdinal_lenient _), ?_⟩
    rw [choiceOrdinal_of_field named.first, position]

theorem storedOrdinal_of_mem (found : setting.field? field = some spec) (type : spec.type = .choice)
    (held : v.value = some text) (mem : text ∈ spec.choices) :
    storedOrdinal setting field v = spec.choices.idxOf text := by
  have known : (0 : Int) ≤ spec.choices.idxOf text := Int.natCast_nonneg _
  simp only [storedOrdinal, found, held, FieldSpec.ordinalOf_of_mem type mem, if_pos known]

theorem holds_comparison (found : m.setting.field? field = some spec) (type : spec.type = .choice)
    (single : issue.HasSingle field text) (known : text ∈ spec.choices)
    (position : choiceOrdinal m.setting field value ordinal = spec.choices.idxOf value)
    (c : Comparison) : (choiceField field value ordinal c.numberOperator).holds m issue =
      c.holds (spec.choices.idxOf text) (spec.choices.idxOf value) := by
  obtain ⟨v, only, held⟩ := single
  cases c with
  | equal =>
    have named : (choiceField field value ordinal .is).holds m issue = (text == value) := by
      simp [holds, ordering?, only, held]
    rw [Comparison.numberOperator, named, Comparison.holds, Bool.eq_iff_iff, beq_iff_eq,
      decide_eq_true_iff, List.idxOf_inj known]
  | less | greater =>
    have actual := storedOrdinal_of_mem found type held known
    simp [holds, ordering?, Comparison.numberOperator, only, position, actual, Comparison.holds]

theorem holds_unset (unset : issue.valuesOf field = []) (c : Comparison) :
    (choiceField field value ordinal c.numberOperator).holds m issue = false := by
  cases c <;> simp [holds, ordering?, Comparison.numberOperator, unset]

-- An issue whose field holds a choice matches one of the comparisons with a choice, the one that holds of
-- the first positions of the two. An issue whose field holds nothing matches none.
theorem choices_trichotomy (ctx : ReadContext) (m : MatchContext) (same : m.setting = ctx.setting)
    (named : CustomField ctx.setting field spec) (type : spec.type = .choice)
    (mem : value ∈ spec.choices) (validate : Comparison → Bool) :
    ∃ q : Comparison → Query,
      (∀ c, Query.read ctx (some (fieldText field c.numberOperator value)) (validate c) = .ok (q c)) ∧
      ∀ issue : Issue,
        (∀ text ∈ spec.choices, issue.HasSingle field text →
          (∃! c, (q c).isSatisfied m issue = true) ∧ ∀ c, (q c).isSatisfied m issue =
            c.holds (spec.choices.idxOf text) (spec.choices.idxOf value)) ∧
        (issue.valuesOf field = [] → ∀ c, (q c).isSatisfied m issue = false) := by
  have found : m.setting.field? field = some spec := same ▸ named.first
  choose ordinal read position using fun c => read_comparison named type mem c (validate c)
  refine ⟨fun c => ⟨some (.leaf (choiceField field value (ordinal c) c.numberOperator)), []⟩,
    fun c => ?_, fun issue => ⟨fun text known single => ?_, fun unset c => holds_unset unset c⟩⟩
  · have grammatical : (Wording.fieldValue field c.numberOperator value).Grammatical := by
      cases c <;> exact ⟨rfl, by decide⟩
    have written : Wording.text (.fieldValue field c.numberOperator value) =
        fieldText field c.numberOperator value := rfl
    rw [← written]
    exact ofText_wording grammatical (read c)
  · have compared : ∀ c, (choiceField field value (ordinal c) c.numberOperator).holds m issue =
        c.holds (spec.choices.idxOf text) (spec.choices.idxOf value) :=
      fun c => holds_comparison found type single known (same ▸ position c) c
    have unique := Comparison.existsUnique_holds (spec.choices.idxOf text) (spec.choices.idxOf value)
    simp only [← compared] at unique
    exact ⟨unique, compared⟩

theorem choices_trichotomy_repeated :
    let setting : Setting :=
      ⟨[⟨"Rank", .choice, false, ["a", "b", "c", "b"]⟩, ⟨"Rank", .text, false, []⟩], []⟩
    let ctx : ReadContext := ⟨none, setting, Repository.empty.resolver, ⟨0, 0⟩⟩
    let m : MatchContext := ⟨none, none, setting, Repository.empty.relations, ⟨0, 0⟩⟩
    let issue : Issue := ⟨1, "demo", 1, "t", none, [], "Open", none, none, ⟨0, 0⟩, ⟨0, 0⟩, 0,
      [⟨"Rank", none, 3⟩, ⟨"Rank", some "b", 9⟩]⟩
    issue.HasSingle "Rank" "b" ∧ ∃ q : Comparison → Query,
      (∀ c, Query.read ctx (some (fieldText "Rank" c.numberOperator "c")) (c == .less) = .ok (q c)) ∧
      (∃! c, (q c).isSatisfied m issue = true) ∧ (q .less).isSatisfied m issue = true := by
  intro setting ctx m issue
  have named : CustomField ctx.setting "Rank" ⟨"Rank", .choice, false, ["a", "b", "c", "b"]⟩ :=
    customField_iff.mpr rfl
  have choice : "c" ∈ ["a", "b", "c", "b"] := by decide
  have single : issue.HasSingle "Rank" "b" := ⟨_, rfl, rfl⟩
  obtain ⟨q, read, compared⟩ := choices_trichotomy ctx m rfl named rfl choice (· == .less)
  obtain ⟨unique, each⟩ := (compared issue).1 "b" (by decide) single
  exact ⟨single, q, read, unique, (each .less).trans (by decide)⟩

end Issue.Criterion

end TrackerQuery
