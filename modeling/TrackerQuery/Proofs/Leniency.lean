import TrackerQuery.Issue.Upkeep
import TrackerQuery.Proofs.Issue.Typing
import TrackerQuery.Proofs.Query.Rewriting

namespace TrackerQuery

open TrackerQuery.Text TrackerQuery.Time

namespace LeafReader

-- What the strict reader takes, the lenient one takes for the leaf that `f` makes of it.
structure Relaxes (strict lenient : LeafReader κ) (f : κ → κ) : Prop where
  wording : ∀ w k, strict.readWording w = .ok k → lenient.readWording w = .ok (f k)
  sortField : ∀ name, strict.sortField name = .ok () → lenient.sortField name = .ok ()

namespace Relaxes

variable {κ : Type} {strict lenient : LeafReader κ} {f : κ → κ} {c : Criteria κ}

theorem located (h : strict.Relaxes lenient f) {w : Wording}
    (read : LeafReader.located place (strict.readWording w) = .ok c) :
    LeafReader.located place (lenient.readWording w) = .ok (c.map f) := by
  obtain ⟨k, meaning, rfl⟩ := located_ok_iff.mp read
  exact located_ok_iff.mpr ⟨f k, h.wording w k meaning, rfl⟩

theorem readFieldValue (h : strict.Relaxes lenient f) {name content : Tree.Literal}
    (read : strict.readFieldValue name op content = .ok c) :
    lenient.readFieldValue name op content = .ok (c.map f) := by
  rw [readFieldValue_ok_iff] at read ⊢
  obtain ⟨negated, k, meaning, rfl⟩ | ⟨direct, k, meaning, rfl⟩ := read
  · exact .inl ⟨negated, f k, h.wording (.fieldValue name.value .is content.value) k meaning, rfl⟩
  · exact .inr ⟨direct, f k, h.wording (.fieldValue name.value op content.value) k meaning, rfl⟩

theorem readAll {ns : List Tree.Node} {cs : List (Criteria κ)}
    (each : ∀ n ∈ ns, ∀ c, strict.read n = .ok c → lenient.read n = .ok (c.map f))
    (read : strict.readAll ns = .ok cs) : lenient.readAll ns = .ok (cs.map (Criteria.map f)) := by
  rw [readAll_ok_iff] at read ⊢
  induction read with
  | nil => exact .nil
  | cons first _ ih =>
    refine .cons (each _ List.mem_cons_self _ first) ?_
    exact ih fun n mem => each n (List.mem_cons_of_mem _ mem)

theorem read (h : strict.Relaxes lenient f) {n : Tree.Node} (shaped : n.Shaped)
    (read : strict.read n = .ok c) : lenient.read n = .ok (c.map f) := by
  induction shaped generalizing c with
  | any _ _ _ ih =>
    obtain ⟨cs, inner, rfl⟩ := map_ok_iff.mp read
    exact map_ok_iff.mpr ⟨_, readAll (fun n mem c => ih n mem) inner, (Criteria.map_any cs).symm⟩
  | all _ _ _ ih =>
    obtain ⟨cs, inner, rfl⟩ := map_ok_iff.mp read
    exact map_ok_iff.mpr ⟨_, readAll (fun n mem c => ih n mem) inner, (Criteria.map_all cs).symm⟩
  | negation _ _ ih =>
    obtain ⟨c, inner, rfl⟩ := map_ok_iff.mp read
    exact map_ok_iff.mpr ⟨_, ih inner, rfl⟩
  | group _ ih => exact ih read
  | fieldValue => exact h.readFieldValue read
  | @field name op => exact h.located (w := .field name.value op) read
  | @standalone op => exact h.located (w := .standalone op) read
  | @value op content => exact h.located (w := .value op content.value) read
  | @between first second => exact h.located (w := .between first.revision second.revision) read

theorem readSorts (h : strict.Relaxes lenient f) {os : List Tree.Order}
    (read : strict.readSorts os = .ok ss) : lenient.readSorts os = .ok ss := by
  rw [readSorts_ok_iff] at read ⊢
  refine read.imp fun o s first => ?_
  obtain ⟨⟨⟩, sortable, same⟩ := bind_ok_iff.mp first
  exact bind_ok_iff.mpr ⟨(), h.sortField _ sortable, same⟩

theorem ofText? (h : strict.Relaxes lenient f) {text : Option String}
    (read : Query.ofText? strict text = .ok q) :
    Query.ofText? lenient text = .ok { q with criteria := q.criteria.map (Criteria.map f) } := by
  cases text with
  | none =>
    cases read
    rfl
  | some text =>
    simp only [Query.ofText?, Query.ofText, Query.ofTree, Tree.ofText, bind_ok_iff] at read ⊢
    obtain ⟨t, ⟨ts, cut, parsed⟩, criteria, leaves, sorts, sorted, same⟩ := read
    cases same
    refine ⟨t, ⟨ts, cut, parsed⟩, criteria.map (Criteria.map f), ?_, sorts, h.readSorts sorted, rfl⟩
    cases Tree.ofTokens_sound parsed with
    | orders =>
      cases leaves
      rfl
    | criteria derived =>
      obtain ⟨c, read, rfl⟩ := map_ok_iff.mp leaves
      exact map_ok_iff.mpr ⟨c.map f, h.read (Tree.criteria_faithful derived).shaped read, rfl⟩

theorem ofText?_same (h : strict.Relaxes lenient id) {text : Option String}
    (read : Query.ofText? strict text = .ok q) : Query.ofText? lenient text = .ok q := by
  have leaves : q.criteria.map (Criteria.map id) = q.criteria := by
    cases q.criteria with
    | none => rfl
    | some c => exact congrArg some c.map_id
  have relaxed := h.ofText? read
  rwa [leaves] at relaxed

end Relaxes

end LeafReader

namespace Issue.Criterion

def unresolved : Criterion → Criterion
  | choiceField field value _ op => choiceField field value (-1) op
  | k => k

variable {ctx : ReadContext} {name content : String} {op : Operator} {k : Criterion}

theorem unresolved_of_other (other : k.value? = none) : k.unresolved = k := by
  cases k <;> first | rfl | cases other

theorem meaning_unresolved (read : meaning ctx true name op content = .ok k) :
    meaning ctx false name op content = .ok k.unresolved := by
  cases values_of_meaning ctx name op with
  | choice spec _ same =>
    rw [same] at read ⊢
    obtain ⟨_, _, rfl⟩ := readChoice_ok_iff.mp read
    exact readChoice_lenient spec
  | state _ same =>
    rw [same] at read ⊢
    split at read <;> cases read
    rfl
  | reference spec same =>
    rw [same] at read ⊢
    obtain ⟨_, rfl⟩ := readReference_ok_iff.mp read
    exact readReference_lenient
  | plain same other =>
    rw [same] at read
    rw [read, unresolved_of_other (other content k read)]

theorem choiceOrdinal_of_positioned {setting : Setting} (named : CustomField setting name spec)
    (position : Positioned spec value ordinal) :
    choiceOrdinal setting name value (-1) = choiceOrdinal setting name value ordinal := by
  unfold Positioned at position
  by_cases choice : spec.type = .choice
  · rw [if_pos choice] at position
    obtain ⟨i, found, rfl⟩ := position
    simp [choiceOrdinal, named.first, FieldSpec.ordinalOf, choice, found]
  · rw [if_neg choice] at position
    rw [position]

theorem holds_unresolved (h : k.WellTyped ctx) {m : MatchContext} (same : m.setting = ctx.setting)
    (issue : Issue) : k.unresolved.holds m issue = k.holds m issue := by
  cases h with
  | choice named _ position | containedChoice named _ _ position | orderedChoice named _ position =>
    simp only [unresolved, holds, same, choiceOrdinal_of_positioned named position]
  | _ => rfl

theorem condition_unresolved (h : k.WellTyped ctx) {m : MatchContext}
    (same : m.setting = ctx.setting) : k.unresolved.condition m = k.condition m := by
  cases h with
  | choice named _ position | containedChoice named _ _ position | orderedChoice named _ position =>
    simp only [unresolved, condition, same, choiceOrdinal_of_positioned named position]
  | _ => rfl

end Issue.Criterion

theorem Issue.reader_relaxes (ctx : ReadContext) :
    (reader ctx true).Relaxes (reader ctx false) Criterion.unresolved := by
  refine ⟨?_, fun _ _ => rfl⟩
  intro w k read
  cases w with
  | standalone op =>
    have standalone : Criterion.readStandalone op = .ok k := read
    cases op <;> cases standalone <;> rfl
  | field name op =>
    have field : Criterion.readField ctx true name op = .ok k := read
    obtain ⟨_, category, rfl⟩ := Criterion.readField_ok_iff.mp field
    show Criterion.readField ctx false name op = _
    refine Criterion.readField_ok_iff.mpr ⟨nofun, category, ?_⟩
    split <;> rfl
  | fieldValue name op content =>
    have fieldValue : Criterion.readFieldValue ctx true name op content = .ok k := read
    obtain ⟨_, meant⟩ := Criterion.readFieldValue_ok_iff.mp fieldValue
    show Criterion.readFieldValue ctx false name op content = _
    exact Criterion.readFieldValue_ok_iff.mpr ⟨nofun, Criterion.meaning_unresolved meant⟩
  | value op content =>
    obtain ⟨submitted, rfl⟩ | ⟨fixed, _, rfl⟩ := Criterion.readValue_ok_iff.mp read
    · exact Criterion.readValue_ok_iff.mpr (.inl ⟨submitted, rfl⟩)
    · exact Criterion.readValue_ok_iff.mpr (.inr ⟨fixed, nofun, rfl⟩)
  | between first second =>
    obtain ⟨_, rfl⟩ := Criterion.readBetween_ok_iff.mp read
    exact Criterion.readBetween_ok_iff.mpr ⟨nofun, rfl⟩

theorem Issue.unresolved_alike {ctx : ReadContext} {q : Query}
    (read : Query.read ctx text true = .ok q) :
    (q.mapLeaves Criterion.unresolved).Alike ctx.setting q := by
  refine TrackerQuery.Query.alike_map (read_wellTyped read).criteria ?_ ?_ ?_ ?_
  · intro k
    cases k <;> rfl
  · intro k
    cases k <;> rfl
  · intro m same issue k h
    exact Criterion.holds_unresolved h same issue
  · intro m same k h
    exact Criterion.condition_unresolved h same

theorem PullRequest.readValue_lenient {ctx : ReadContext} {k : Criterion}
    (read : Criterion.readValue ctx true op content = .ok k) :
    Criterion.readValue ctx false op content = .ok k := by
  unfold Criterion.readValue at read ⊢
  split at read
  · exact read
  · split at read
    · rename_i found
      simpa [found] using read
    · cases read
  · cases read

theorem pullRequest_reader_relaxes (ctx : ReadContext) :
    (PullRequest.reader ctx true).Relaxes (PullRequest.reader ctx false) id := by
  refine ⟨?_, fun _ _ => rfl⟩
  intro w k read
  cases w with
  | value op content => exact PullRequest.readValue_lenient read
  | _ => exact read

theorem project_reader_relaxes (ctx : ReadContext) :
    (Project.reader ctx true).Relaxes (Project.reader ctx false) id :=
  ⟨fun _ _ read => read, fun _ _ => rfl⟩

-- What a query is read as when validating, it is read as without, but for positions of choices that
-- are left open. No match and no row in the same setting tells the two apart.
theorem read_leniently (ctx : ReadContext) (text : Option String) :
    (∀ q, Issue.Query.read ctx text true = .ok q →
        ∃ q', Issue.Query.read ctx text false = .ok q' ∧ q'.Alike ctx.setting q ∧
          q' = q.mapLeaves Issue.Criterion.unresolved) ∧
      (∀ q, PullRequest.Query.read ctx text true = .ok q →
        ∃ q', PullRequest.Query.read ctx text false = .ok q' ∧ q'.Alike ctx.setting q ∧ q' = q) ∧
      ∀ q, Project.Query.read ctx text true = .ok q →
        ∃ q', Project.Query.read ctx text false = .ok q' ∧ q'.Alike ctx.setting q ∧ q' = q := by
  refine ⟨?_, ?_, ?_⟩
  · intro q read
    exact ⟨_, (Issue.reader_relaxes ctx).ofText? read, Issue.unresolved_alike read, rfl⟩
  · intro q read
    exact ⟨q, (pullRequest_reader_relaxes ctx).ofText?_same read, .refl q, rfl⟩
  · intro q read
    exact ⟨q, (project_reader_relaxes ctx).ofText?_same read, .refl q, rfl⟩

theorem read_leniently_priority :
    let ctx : ReadContext := ⟨none, Setting.demo, Repository.empty.resolver, ⟨0, 0⟩⟩
    let ordered := "\"Priority\" is greater than \"Normal\" order by \"Priority\""
    let dated := "\"update date\" is after \" today\" order by \"update date\""
    (∃ q q', Issue.Query.read ctx (some ordered) true = .ok q ∧
        Issue.Query.read ctx (some ordered) false = .ok q' ∧ q'.Alike ctx.setting q ∧ q' ≠ q) ∧
      (∃ q q', PullRequest.Query.read ctx (some dated) true = .ok q ∧
        PullRequest.Query.read ctx (some dated) false = .ok q' ∧ q'.Alike ctx.setting q) ∧
      ∃ q q', Project.Query.read ctx (some dated) true = .ok q ∧
        Project.Query.read ctx (some dated) false = .ok q' ∧ q'.Alike ctx.setting q := by
  intro ctx ordered dated
  have issue : Issue.Query.read ctx (some ordered) true =
      .ok ⟨some (.leaf (.choiceField "Priority" "Normal" 1 .isGreaterThan)),
        [⟨"Priority", .descending⟩]⟩ := by
    decide +kernel
  have request : PullRequest.Query.read ctx (some dated) true =
      .ok ⟨some (.leaf (.updateDate .greater ⟨" today", ⟨0, 0⟩⟩)), [⟨"update date", .descending⟩]⟩ := by
    decide +kernel
  have project : Project.Query.read ctx (some dated) true =
      .ok ⟨some (.leaf (.updateDate .greater ⟨" today", ⟨0, 0⟩⟩)), [⟨"update date", .descending⟩]⟩ := by
    decide +kernel
  obtain ⟨_, lenient, alike, rfl⟩ := (read_leniently ctx (some ordered)).1 _ issue
  obtain ⟨_, lenient', alike', rfl⟩ := (read_leniently ctx (some dated)).2.1 _ request
  obtain ⟨_, lenient'', alike'', rfl⟩ := (read_leniently ctx (some dated)).2.2 _ project
  exact ⟨⟨_, _, issue, lenient, alike, by decide⟩, ⟨_, _, request, lenient', alike'⟩,
    ⟨_, _, project, lenient'', alike''⟩⟩

end TrackerQuery
