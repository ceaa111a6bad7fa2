import TrackerQuery.Proofs.Issue.Change
import TrackerQuery.Proofs.Issue.Upkeep
import TrackerQuery.Proofs.RoundTrip

namespace TrackerQuery

namespace Issue

namespace Criterion

variable {ctx : ReadContext} {k : Criterion} {name content : String} {op : Operator}

def withValue (value : String) : Criterion → Criterion
  | state field _ => state field value
  | choiceField field _ ordinal op => choiceField field value ordinal op
  | k => k

theorem withValue_of_other (other : k.value? = none) (value : String) : k.withValue value = k := by
  cases k <;> first | rfl | cases other

theorem meaning_withValue (read : meaning ctx false name op content = .ok k)
    (valued : k.value? ≠ none) (value : String) :
    meaning ctx false name op value = .ok (k.withValue value) := by
  cases values_of_meaning ctx name op with
  | choice spec _ same =>
    rw [same, readChoice_lenient] at read ⊢
    cases read
    rfl
  | state _ same =>
    rw [same] at read ⊢
    cases read
    rfl
  | reference spec same =>
    rw [same] at read
    obtain ⟨_, rfl⟩ := readReference_ok_iff.mp read
    exact absurd rfl valued
  | plain _ other => exact absurd (other content k read) valued

theorem readable_withValue (h : (reader ctx false).Readable k) (value : String) :
    (reader ctx false).Readable (k.withValue value) := by
  by_cases other : k.value? = none
  · rwa [withValue_of_other other]
  · obtain ⟨w, grammatical, read⟩ := h
    cases w with
    | standalone op => cases op <;> cases read <;> exact absurd rfl other
    | field name op =>
      have field : readField ctx false name op = .ok k := read
      obtain ⟨_, _, rfl⟩ := readField_ok_iff.mp field
      split at other <;> exact absurd rfl other
    | fieldValue name op content =>
      have fieldValue : readFieldValue ctx false name op content = .ok k := read
      obtain ⟨checked, meant⟩ := readFieldValue_ok_iff.mp fieldValue
      refine ⟨.fieldValue name op value, grammatical, ?_⟩
      exact readFieldValue_ok_iff.mpr ⟨checked, meaning_withValue meant other value⟩
    | value op content =>
      obtain ⟨_, rfl⟩ | ⟨_, _, rfl⟩ := readValue_ok_iff.mp read <;> exact absurd rfl other
    | between first second =>
      obtain ⟨_, rfl⟩ := readBetween_ok_iff.mp read
      exact absurd rfl other

theorem readable_renameStateOf (h : (reader ctx false).Readable k) (old new : String) :
    (reader ctx false).Readable (Query.renameStateOf old new k) := by
  cases k with
  | state field value => exact readable_withValue h (if value = old then new else value)
  | _ => exact h

theorem readable_renameChoice (h : (reader ctx false).Readable k) (field : String)
    (edit : Query.ChoiceEdit) : (reader ctx false).Readable (Query.renameChoice field edit k) := by
  cases k with
  | choiceField f value ordinal op =>
    exact readable_withValue h (if f = field then (edit.renames.lookup value).getD value else value)
  | _ => exact h

end Criterion

namespace Query

variable {ctx : ReadContext} {q q' : Query} {a : Change} {changes : List Change}

-- What is known of a query that was read without validating: its leaves are such as that makes them.
def Lenient (ctx : ReadContext) (q : Query) : Prop :=
  q.WellFormed (reader ctx false) (reader ctx false).Readable

theorem Lenient.read (h : q.Lenient ctx) : Query.read ctx (some q.text) false = .ok q := by
  obtain ⟨criteria, sorts⟩ := h
  refine ofText_of_writes (writes_query ⟨fun c mem => ?_, sorts⟩)
  exact (criteria c mem).imp fun _ => spelled_of_readable

theorem Lenient.mapLeaves {f : Criterion → Criterion} (h : q.Lenient ctx)
    (each : ∀ k, (reader ctx false).Readable k → (reader ctx false).Readable (f k)) :
    (q.mapLeaves f).Lenient ctx :=
  ⟨mapLeaves_wellFormed h.criteria each, h.sorts⟩

theorem Lenient.run? (h : q.Lenient ctx)
    (each : ∀ k, (reader ctx false).Readable k → (reader ctx false).Readable (a.exchange k))
    (kept : a.run? q = some q') : q'.Lenient ctx := by
  obtain ⟨left, survived, rfl⟩ := Option.map_eq_some_iff.mp kept
  unfold Outcome.kept? at survived
  obtain ⟨survived, same⟩ := Option.ite_none_left_eq_some.mp survived
  obtain rfl := Option.some.inj same
  have pruned := prune_wellFormed h.criteria (by simpa using survived)
  refine ⟨mapLeaves_wellFormed pruned fun k both => each k both.1, fun _ _ => rfl⟩

theorem Lenient.runAll? (h : q.Lenient ctx)
    (each : ∀ a ∈ changes, ∀ k, (reader ctx false).Readable k →
      (reader ctx false).Readable (a.exchange k))
    (kept : Change.runAll? changes q = some q') : q'.Lenient ctx := by
  induction changes generalizing q with
  | nil =>
    cases kept
    exact h
  | cons a changes ih =>
    obtain ⟨first, more⟩ := List.forall_mem_cons.mp each
    obtain ⟨next, went, rest⟩ := Option.bind_eq_some_iff.mp kept
    exact ih (h.run? first went) more rest

inductive Edit where
  | renameState (old new : String)
  | delete (deletion : Deletion)
  | editChoices (field : String) (edit : ChoiceEdit)
  | editAllChoices (edits : List (String × ChoiceEdit))

def Edit.apply : Edit → Query → Outcome
  | .renameState old new, q => ⟨false, q.renameState old new⟩
  | .delete deletion, q => deletion.apply q
  | .editChoices field edit, q => q.editChoices field edit
  | .editAllChoices edits, q => q.editAllChoices edits

theorem Lenient.edit (h : q.Lenient ctx) {e : Edit} (kept : (e.apply q).kept? = some q') :
    q'.Lenient ctx := by
  cases e with
  | renameState old new =>
    cases kept
    exact h.mapLeaves fun k readable => Criterion.readable_renameStateOf readable old new
  | delete deletion =>
    rw [Edit.apply, kept?_delete] at kept
    refine h.run? (fun k readable => ?_) kept
    cases deletion <;> exact readable
  | editChoices field edit =>
    rw [Edit.apply, kept?_editChoices] at kept
    exact h.run? (fun k readable => Criterion.readable_renameChoice readable field edit) kept
  | editAllChoices edits =>
    rw [Edit.apply, kept?_editAllChoices] at kept
    refine h.runAll? (fun a mem k readable => ?_) kept
    obtain ⟨entry, _, rfl⟩ := List.mem_map.mp mem
    exact Criterion.readable_renameChoice readable entry.1 entry.2

end Query

inductive Step where
  | read (text : Option String)
  | merge (first second : Nat)
  | edit (place : Nat) (edit : Query.Edit)

-- The queries of a session. A step reads one more, merges two that stand there, or has one go along with
-- an edit of the setting; a query that is to be discarded leaves its place empty.
abbrev Shelf : Type := List (Option Query)

namespace Shelf

variable {ctx : ReadContext} {shelf : Shelf} {q : Query}

def query? (shelf : Shelf) (place : Nat) : Option Query :=
  shelf[place]?.join

def step (ctx : ReadContext) (shelf : Shelf) : Step → Shelf
  | .read text => shelf ++ [(Query.read ctx text false).toOption]
  | .merge first second => shelf ++ [do
      let q ← shelf.query? first
      let q' ← shelf.query? second
      some (q.merge q')]
  | .edit place e => shelf.set place ((shelf.query? place).bind fun q => (e.apply q).kept?)

def run (ctx : ReadContext) (steps : List Step) : Shelf :=
  steps.foldl (step ctx) []

def Lenient (ctx : ReadContext) (shelf : Shelf) : Prop :=
  ∀ q, some q ∈ shelf → q.Lenient ctx

theorem mem_of_query? (h : shelf.query? place = some q) : some q ∈ shelf :=
  List.mem_of_getElem? (Option.join_eq_some_iff.mp h)

theorem Lenient.add (h : shelf.Lenient ctx) {new : Option Query}
    (each : ∀ q, new = some q → q.Lenient ctx) : Lenient ctx (shelf ++ [new]) := by
  intro q mem
  rcases List.mem_append.mp mem with before | last
  · exact h q before
  · exact each q (List.mem_singleton.mp last).symm

theorem Lenient.step (h : shelf.Lenient ctx) (s : Step) : (shelf.step ctx s).Lenient ctx := by
  cases s with
  | read text =>
    refine h.add fun q kept => ?_
    cases read : Query.read ctx text false with
    | error e => simp [read, Except.toOption] at kept
    | ok q' =>
      obtain rfl : q' = q := by simpa [read, Except.toOption] using kept
      exact ofText?_wellFormed read
  | merge first second =>
    refine h.add fun q merged => ?_
    obtain ⟨one, found, merged⟩ := Option.bind_eq_some_iff.mp merged
    obtain ⟨other, found', merged⟩ := Option.bind_eq_some_iff.mp merged
    cases merged
    exact (h one (mem_of_query? found)).merge (h other (mem_of_query? found'))
  | edit place e =>
    intro q mem
    rcases List.mem_or_eq_of_mem_set mem with before | new
    · exact h q before
    · obtain ⟨q', found, kept⟩ := Option.bind_eq_some_iff.mp new.symm
      exact (h q' (mem_of_query? found)).edit kept

theorem run_lenient (ctx : ReadContext) (steps : List Step) : (run ctx steps).Lenient ctx := by
  have each : ∀ (shelf : Shelf), shelf.Lenient ctx → (steps.foldl (step ctx) shelf).Lenient ctx := by
    induction steps with
    | nil => exact fun _ h => h
    | cons s steps ih => exact fun shelf h => ih _ (h.step s)
  exact each [] (fun _ mem => nomatch mem)

-- Whatever was read, merged and edited before, each query that is left is read from its own text.
theorem run_represents (ctx : ReadContext) (steps : List Step) (q : Query)
    (left : some q ∈ run ctx steps) : Query.read ctx (some q.text) false = .ok q :=
  (run_lenient ctx steps q left).read

theorem run_represents_merged :
    let ctx : ReadContext := ⟨none, Setting.demo, Repository.empty.resolver, ⟨0, 0⟩⟩
    let steps : List Step := [
      .read (some "\"Ghost\" is \"a\" and not(\"state\" is \"Gone\") order by \"Ghost\" asc"),
      .read (some "\"Priority\" is \"Urgent\" or \"Type\" is less than \"x\""),
      .merge 0 1, .edit 2 (.delete (.field "Ghost")), .edit 2 (.renameState "Gone" "Open"),
      .edit 2 (.editChoices "Priority" ⟨[("Urgent", "Nowhere")], []⟩),
      .edit 0 (.delete (.state "Gone"))]
    let q : Query := ⟨some (.all [.negation (.leaf (.state "state" "Open")),
      .any [.leaf (.choiceField "Priority" "Nowhere" (-1) .is),
        .leaf (.choiceField "Type" "x" (-1) .isLessThan)]]), []⟩
    some q ∈ run ctx steps ∧ Query.read ctx (some q.text) false = .ok q := by
  intro ctx steps q
  have left : some q ∈ run ctx steps := by decide +kernel
  exact ⟨left, run_represents ctx steps q left⟩

end Shelf

end Issue

end TrackerQuery
