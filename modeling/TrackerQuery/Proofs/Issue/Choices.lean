import TrackerQuery.Proofs.Issue.Upkeep

namespace TrackerQuery

namespace Issue.Query.ChoiceEdit

def renamed (edit : ChoiceEdit) (value : String) : String :=
  (edit.renames.lookup value).getD value

def applied (edit : ChoiceEdit) (choices : List String) : List String :=
  (choices.filter fun value => !edit.deletions.contains value).map edit.renamed

end Issue.Query.ChoiceEdit

open Issue.Query (ChoiceEdit)

def FieldSpec.edited (field : String) (edit : ChoiceEdit) (spec : FieldSpec) : FieldSpec :=
  if spec.name = field then { spec with choices := edit.applied spec.choices } else spec

def Setting.editChoices (field : String) (edit : ChoiceEdit) (s : Setting) : Setting :=
  { s with fields := s.fields.map (FieldSpec.edited field edit) }

@[simp] theorem FieldSpec.edited_name (field : String) (edit : ChoiceEdit) (spec : FieldSpec) :
    (spec.edited field edit).name = spec.name := by
  unfold edited
  split <;> rfl

@[simp] theorem FieldSpec.edited_type (field : String) (edit : ChoiceEdit) (spec : FieldSpec) :
    (spec.edited field edit).type = spec.type := by
  unfold edited
  split <;> rfl

@[simp] theorem FieldSpec.edited_allowMultiple (field : String) (edit : ChoiceEdit)
    (spec : FieldSpec) : (spec.edited field edit).allowMultiple = spec.allowMultiple := by
  unfold edited
  split <;> rfl

theorem Setting.field?_editChoices (field : String) (edit : ChoiceEdit) (s : Setting)
    (name : String) : (s.editChoices field edit).field? name =
      (s.field? name).map (FieldSpec.edited field edit) := by
  have same : ((·.name == name) ∘ FieldSpec.edited field edit) = (·.name == name) := by
    funext spec
    simp
  rw [field?, editChoices, List.find?_map, same, field?]

namespace Sql.Condition

theorem foldl_inj {join : Condition → Condition → Condition}
    (inj : ∀ {a b c d}, join a b = join c d → a = c ∧ b = d) {as bs : List Condition}
    (length : as.length = bs.length) (same : as.foldl join a = bs.foldl join b) :
    a = b ∧ as = bs := by
  induction as generalizing a b bs with
  | nil =>
    obtain rfl := List.length_eq_zero_iff.mp length.symm
    exact ⟨same, rfl⟩
  | cons c as ih =>
    cases bs with
    | nil => cases length
    | cons d bs =>
      rw [List.foldl_cons, List.foldl_cons] at same
      obtain ⟨first, rfl⟩ := ih (by simpa using length) same
      obtain ⟨rfl, rfl⟩ := inj first
      exact ⟨rfl, rfl⟩

theorem conjunction_inj {as bs : List Condition} (length : as.length = bs.length)
    (same : conjunction as = conjunction bs) : as = bs := by
  match as, bs, length with
  | [], [], _ => rfl
  | a :: as, b :: bs, length =>
    obtain ⟨rfl, rfl⟩ := foldl_inj both.inj (by simpa using length) same
    rfl

theorem disjunction_inj {as bs : List Condition} (length : as.length = bs.length)
    (same : disjunction as = disjunction bs) : as = bs := by
  match as, bs, length with
  | [], [], _ => rfl
  | a :: as, b :: bs, length =>
    obtain ⟨rfl, rfl⟩ := foldl_inj either.inj (by simpa using length) same
    rfl

end Sql.Condition

theorem Criteria.condition_map_inj [LeafKind κ ε] {f : κ → κ} {ctx : MatchContext} {c : Criteria κ}
    (same : (c.map f).condition ctx = c.condition ctx) :
    ∀ k ∈ c.leaves, LeafKind.condition ctx (f k) = LeafKind.condition ctx k := by
  have each : ∀ {cs : List (Criteria κ)},
      (∀ c ∈ cs, (c.map f).condition ctx = c.condition ctx →
        ∀ k ∈ c.leaves, LeafKind.condition ctx (f k) = LeafKind.condition ctx k) →
      (cs.map (map f)).map (condition ctx) = cs.map (condition ctx) →
      ∀ k ∈ (cs.map leaves).flatten, LeafKind.condition ctx (f k) = LeafKind.condition ctx k := by
    intro cs ih same k mem
    obtain ⟨_, listed, mem⟩ := List.mem_flatten.mp mem
    obtain ⟨c, child, rfl⟩ := List.mem_map.mp listed
    rw [List.map_map] at same
    exact ih c child (List.map_inj_left.mp same c child) k mem
  induction c using induction with
  | leaf k =>
    intro k' mem
    obtain rfl := List.mem_singleton.mp mem
    exact same
  | all cs ih =>
    rw [map_all] at same
    simp only [condition, fold_all] at same
    simp only [leaves, fold_all]
    exact each ih (Sql.Condition.conjunction_inj (by simp) same)
  | any cs ih =>
    rw [map_any] at same
    simp only [condition, fold_any] at same
    simp only [leaves, fold_any]
    exact each ih (Sql.Condition.disjunction_inj (by simp) same)
  | negation c ih => exact ih (Sql.Condition.negation.inj same)

namespace Issue.Criterion

def relocated (setting : Setting) : Criterion → Criterion
  | choiceField field value _ op => choiceField field value (choiceOrdinal setting field value (-1)) op
  | k => k

-- The position that the leaf compares with, if it compares positions, is the one in the setting.
def IsCurrent (setting : Setting) : Criterion → Prop
  | choiceField field value ordinal op =>
    (ordering? op).isSome = true → ordinal = choiceOrdinal setting field value (-1)
  | _ => True

variable {ctx : ReadContext} {setting : Setting} {k : Criterion} {name field value : String}
  {spec : FieldSpec} {edit : ChoiceEdit}

theorem relocated_text (k : Criterion) : (k.relocated setting).text = k.text := by
  cases k <;> rfl

theorem relocated_needsLogin (k : Criterion) : (k.relocated setting).needsLogin = k.needsLogin := by
  cases k <;> rfl

theorem holds_relocated (h : k.IsCurrent setting) (m : MatchContext) (issue : Issue) :
    (k.relocated setting).holds m issue = k.holds m issue := by
  cases k with
  | choiceField name value ordinal op =>
    cases ordering : ordering? op with
    | none => simp [relocated, holds, ordering]
    | some comparison => rw [h (by rw [ordering]; rfl), relocated]
  | _ => rfl

theorem condition_relocated (h : k.IsCurrent setting) (m : MatchContext) :
    (k.relocated setting).condition m = k.condition m := by
  cases k with
  | choiceField name value ordinal op =>
    cases ordering : ordering? op with
    | none => simp [relocated, condition, ordering]
    | some comparison => rw [h (by rw [ordering]; rfl), relocated]
  | _ => rfl

theorem choiceOrdinal_of_nonneg (known : 0 ≤ ordinal) :
    choiceOrdinal setting name value ordinal = ordinal :=
  if_pos known

theorem choiceOrdinal_of_field (found : setting.field? name = some spec) :
    choiceOrdinal setting name value (-1) = spec.ordinalOf value := by
  simp [choiceOrdinal, found]

theorem current_of_condition {m : MatchContext} (known : 0 ≤ ordinal)
    (known' : 0 ≤ choiceOrdinal m.setting name value (-1))
    (same : ((choiceField name value ordinal op).relocated m.setting).condition m =
      (choiceField name value ordinal op).condition m) :
    (choiceField name value ordinal op).IsCurrent m.setting := by
  intro compares
  obtain ⟨comparison, ordering⟩ := Option.isSome_iff_exists.mp compares
  simp only [relocated, condition, ordering, choiceOrdinal_of_nonneg known,
    choiceOrdinal_of_nonneg known', if_neg (Int.not_lt.mpr known),
    if_neg (Int.not_lt.mpr known')] at same
  simpa [fieldCondition, Sql.Condition.related, Sql.Condition.compareNumber] using same.symm

theorem positioned_choiceOrdinal (found : setting.field? name = some spec)
    (listed : spec.type = .choice → value ∈ spec.choices) :
    Positioned spec value (choiceOrdinal setting name value (-1)) := by
  rw [choiceOrdinal_of_field found, Positioned, FieldSpec.ordinalOf]
  by_cases choice : spec.type = .choice
  · rw [if_pos choice, if_pos choice]
    obtain ⟨i, position⟩ := Option.isSome_iff_exists.mp (List.isSome_idxOf?.mpr (listed choice))
    exact ⟨i, position, by rw [position]⟩
  · rw [if_neg choice, if_neg choice]

theorem nonneg_of_positioned (choice : spec.type = .choice) (h : Positioned spec value ordinal) :
    0 ≤ ordinal := by
  rw [Positioned, if_pos choice] at h
  obtain ⟨i, _, rfl⟩ := h
  exact Int.natCast_nonneg i

theorem renamed_mem (mem : value ∈ choices) (spared : value ∉ edit.deletions) :
    edit.renamed value ∈ edit.applied choices := by
  refine List.mem_map.mpr ⟨value, List.mem_filter.mpr ⟨mem, ?_⟩, rfl⟩
  simpa using spared

theorem edited_fits (simple : ∀ name value ordinal op, k ≠ .choiceField name value ordinal op) :
    k.Fits spec (spec.edited field edit) := by
  refine ⟨spec.edited_type .., spec.edited_allowMultiple .., ?_⟩
  intro name value ordinal op same
  exact absurd same (simple name value ordinal op)

theorem customField_edited (named : CustomField ctx.setting name spec) :
    CustomField (ctx.setting.editChoices field edit) name (spec.edited field edit) := by
  refine ⟨named.notAlias, named.notBuiltin, ?_⟩
  rw [Setting.field?_editChoices, named.first]
  rfl

def newValue (field : String) (edit : ChoiceEdit) (name value : String) : String :=
  if name = field then edit.renamed value else value

theorem renameChoice_choiceField : Query.renameChoice field edit (choiceField name value ordinal op) =
    choiceField name (newValue field edit name value) ordinal op := rfl

theorem newValue_positioned (named : CustomField ctx.setting name spec)
    (position : Positioned spec value ordinal)
    (spared : Query.choosesDeleted field edit (choiceField name value ordinal op) = false) :
    Positioned (spec.edited field edit) (newValue field edit name value)
      (choiceOrdinal (ctx.setting.editChoices field edit) name (newValue field edit name value) (-1)) := by
  refine positioned_choiceOrdinal (customField_edited named).first ?_
  intro choice
  have mem := mem_of_positioned (by simpa using choice) position
  unfold newValue FieldSpec.edited
  by_cases same : name = field
  · rw [if_pos same, if_pos ((name_of_spec named.first).trans same)]
    exact renamed_mem mem (by simpa [Query.choosesDeleted, same] using spared)
  · rw [if_neg same, if_neg (fun h => same ((name_of_spec named.first).symm.trans h))]
    exact mem

theorem wellTyped_of_edit (h : k.WellTyped ctx)
    (spared : Query.choosesDeleted field edit k = false) :
    ((Query.renameChoice field edit k).relocated (ctx.setting.editChoices field edit)).WellTyped
      { ctx with setting := ctx.setting.editChoices field edit } := by
  cases k with
  | choiceField name value ordinal op =>
    rw [renameChoice_choiceField]
    cases h with
    | choice named type position =>
      exact .choice (customField_edited named) (by simpa using type)
        (newValue_positioned named position spared)
    | containedChoice named type multiple position =>
      exact .containedChoice (customField_edited named) (by simpa using type)
        (by simpa using multiple) (newValue_positioned named position spared)
    | orderedChoice named type position ordered =>
      exact .orderedChoice (customField_edited named) (by simpa using type)
        (newValue_positioned named position spared) ordered
  | _ =>
    refine wellTyped_of_kept h ?_ (state_kept h)
    intro name spec _ found
    refine ⟨spec.edited field edit, ?_, edited_fits nofun⟩
    rw [Setting.field?_editChoices, found]
    rfl

-- A leaf that compares positions has one.
def IsResolved : Criterion → Prop
  | choiceField _ _ ordinal op => (ordering? op).isSome = true → 0 ≤ ordinal
  | _ => True

theorem resolved_of_wellTyped (h : k.WellTyped ctx) : k.IsResolved := by
  cases h with
  | choice | containedChoice => exact nofun
  | orderedChoice named type position _ => exact fun _ => nonneg_of_positioned type position
  | _ => trivial

theorem renameChoice_resolved (h : k.IsResolved) : (Query.renameChoice field edit k).IsResolved := by
  cases k with
  | choiceField => exact h
  | _ => trivial

theorem current_iff {m : MatchContext} (resolved : k.IsResolved)
    (resolved' : (k.relocated m.setting).IsResolved) :
    k.IsCurrent m.setting ↔ (k.relocated m.setting).condition m = k.condition m := by
  refine ⟨fun current => condition_relocated current m, fun same => ?_⟩
  cases k with
  | choiceField name value ordinal op =>
    exact fun compares => current_of_condition (resolved compares) (resolved' compares) same compares
  | _ => trivial

end Issue.Criterion

namespace Issue.Query

open Criterion (relocated)

variable {ctx : ReadContext} {q : Query} {field : String} {edit : ChoiceEdit}

theorem editChoices_kept (kept : (q.editChoices field edit).discard = false) :
    (q.prune (choosesDeleted field edit)).discard = false ∧
      (q.editChoices field edit).query =
        (q.prune (choosesDeleted field edit)).query.mapLeaves (renameChoice field edit) := by
  unfold editChoices at kept ⊢
  by_cases lost : (q.prune (choosesDeleted field edit)).discard = true
  · simp [lost] at kept
  · exact ⟨by simpa using lost, by simp [lost]⟩

theorem editChoices_criteria (h : q.Valid ctx)
    (kept : (q.editChoices field edit).discard = false) :
    ∀ c ∈ (q.editChoices field edit).query.criteria, c.WellFormed fun k =>
      (k.relocated (ctx.setting.editChoices field edit)).WellTyped
        { ctx with setting := ctx.setting.editChoices field edit } ∧ k.IsResolved := by
  obtain ⟨spared, same⟩ := editChoices_kept kept
  rw [same]
  refine mapLeaves_wellFormed (prune_wellFormed h.criteria spared) ?_
  intro k both
  obtain ⟨typed, spared⟩ := both
  exact ⟨Criterion.wellTyped_of_edit typed spared,
    Criterion.renameChoice_resolved (Criterion.resolved_of_wellTyped typed)⟩

theorem editChoices_sorts (h : q.Valid ctx) (kept : (q.editChoices field edit).discard = false) :
    ∀ s ∈ (q.editChoices field edit).query.sorts,
      Sortable (ctx.setting.editChoices field edit) s.field := by
  rw [(editChoices_kept kept).2]
  intro s mem
  have listed : s ∈ q.sorts := by rwa [← prune_sorts (choosesDeleted field edit) q]
  rcases h.sorts s listed with builtin | ⟨spec, found, ordered⟩
  · exact .inl builtin
  · refine .inr ⟨spec.edited field edit, ?_, by simpa using ordered⟩
    rw [Setting.field?_editChoices, found]
    rfl

theorem alike_of_current {live : Query} {setting : Setting}
    (h : ∀ c ∈ live.criteria, c.WellFormed (Criterion.IsCurrent setting)) :
    (live.mapLeaves (relocated setting)).Alike setting live := by
  refine TrackerQuery.Query.alike_map h Criterion.relocated_text Criterion.relocated_needsLogin ?_ ?_
  · intro m _ issue k current
    exact Criterion.holds_relocated current m issue
  · intro m _ k current
    exact Criterion.condition_relocated current m

theorem current_of_alike {live : Query} {setting : Setting}
    (resolved : ∀ k ∈ live.leaves, k.IsResolved ∧ (k.relocated setting).IsResolved)
    (alike : (live.mapLeaves (relocated setting)).Alike setting live) :
    ∀ k ∈ live.leaves, k.IsCurrent setting := by
  intro k mem
  let nothing : Relations := ⟨fun _ _ _ => [], fun _ => [], fun _ _ => []⟩
  let m : MatchContext := ⟨none, none, setting, nothing, ⟨0, 0⟩⟩
  obtain ⟨resolved, resolved'⟩ := resolved k mem
  refine (Criterion.current_iff (m := m) resolved resolved').mpr ?_
  have same := congrArg Sql.Select.condition (alike.select m rfl)
  obtain ⟨criteria, sorts⟩ := live
  cases criteria with
  | none => simp [leaves] at mem
  | some c => exact Criteria.condition_map_inj same k mem

theorem editChoices_read (h : q.Valid ctx) (kept : (q.editChoices field edit).discard = false) :
    Query.read { ctx with setting := ctx.setting.editChoices field edit }
        (some (q.editChoices field edit).query.text) true =
      .ok ((q.editChoices field edit).query.mapLeaves
        (relocated (ctx.setting.editChoices field edit))) := by
  let setting := ctx.setting.editChoices field edit
  let live := (q.editChoices field edit).query
  have criteria := mapLeaves_wellFormed (editChoices_criteria h kept) fun k both => both.1
  have fresh : (live.mapLeaves (relocated setting)).Valid { ctx with setting } :=
    ⟨criteria, editChoices_sorts h kept⟩
  have same : (live.mapLeaves (relocated setting)).text = live.text :=
    TrackerQuery.Query.text_map Criterion.relocated_text live
  exact same ▸ fresh.read

-- Whatever the edit does to positions, the query and what its text is read as say the same just if
-- the leaves that compare positions kept the right ones.
theorem editChoices_alike_iff {text : Option String} (read : Query.read ctx text true = .ok q)
    (kept : (q.editChoices field edit).discard = false) :
    let setting := ctx.setting.editChoices field edit
    let live := (q.editChoices field edit).query
    ∃ p, Query.read { ctx with setting } (some live.text) true = .ok p ∧
      p = live.mapLeaves (relocated setting) ∧
      (p.Alike setting live ↔ ∀ k ∈ live.leaves, k.IsCurrent setting) := by
  intro setting live
  have valid := valid_of_read read
  have criteria := editChoices_criteria valid kept
  refine ⟨_, editChoices_read valid kept, rfl, ?_, ?_⟩
  · refine current_of_alike (leaf_of_wellFormed fun c mem => (criteria c mem).imp fun k both => ?_)
    exact ⟨both.2, Criterion.resolved_of_wellTyped both.1⟩
  · intro current
    refine alike_of_current fun c mem => (criteria c mem).of_leaves fun k leaf => current k ?_
    rwa [leaves, mem]

theorem editChoices_alike_renamed :
    let ctx : ReadContext := ⟨none, Setting.demo, Repository.empty.resolver, ⟨0, 0⟩⟩
    let edit : ChoiceEdit := ⟨[("Normal", "Medium")], []⟩
    let setting := ctx.setting.editChoices "Priority" edit
    ∃ q p, Query.read ctx (some "\"Priority\" is greater than \"Normal\"") true = .ok q ∧
      (q.editChoices "Priority" edit).discard = false ∧
      (q.editChoices "Priority" edit).query.text = "\"Priority\" is greater than \"Medium\"" ∧
      Query.read { ctx with setting } (some (q.editChoices "Priority" edit).query.text) true = .ok p ∧
      p.Alike setting (q.editChoices "Priority" edit).query := by
  intro ctx edit setting
  let q : Query := ⟨some (.leaf (.choiceField "Priority" "Normal" 1 .isGreaterThan)), []⟩
  have read : Query.read ctx (some "\"Priority\" is greater than \"Normal\"") true = .ok q := by
    decide +kernel
  have kept : (q.editChoices "Priority" edit).discard = false := by decide
  obtain ⟨p, reread, _, agreement⟩ := editChoices_alike_iff read kept
  refine ⟨q, p, read, kept, by decide +kernel, reread, agreement.mpr ?_⟩
  intro k mem
  obtain rfl := List.mem_singleton.mp mem
  intro _
  decide +kernel

-- A choice before the one that is compared with is deleted. It leaves a position behind that is the
-- one of another choice now, and the query asks for issues above that.
theorem editChoices_stale :
    let ctx : ReadContext := ⟨none, Setting.demo, Repository.empty.resolver, ⟨0, 0⟩⟩
    let edit : ChoiceEdit := ⟨[], ["Low"]⟩
    let setting := ctx.setting.editChoices "Priority" edit
    ∃ q, Query.read ctx (some "\"Priority\" is greater than \"Normal\"") true = .ok q ∧
      (q.editChoices "Priority" edit).discard = false ∧
      let live := (q.editChoices "Priority" edit).query
      ¬ ∃ p, Query.read { ctx with setting } (some live.text) true = .ok p ∧
        ∀ m : MatchContext, m.setting = setting →
          (∀ issue : Issue, live.isSatisfied m issue = p.isSatisfied m issue) ∧
            live.select m = p.select m := by
  intro ctx edit setting
  let q : Query := ⟨some (.leaf (.choiceField "Priority" "Normal" 1 .isGreaterThan)), []⟩
  let fresh : Query := ⟨some (.leaf (.choiceField "Priority" "Normal" 0 .isGreaterThan)), []⟩
  have read : Query.read ctx (some "\"Priority\" is greater than \"Normal\"") true = .ok q := by
    decide +kernel
  refine ⟨q, read, by decide, ?_⟩
  intro live agrees
  obtain ⟨p, reread, agree⟩ := agrees
  have reread' : Query.read { ctx with setting } (some live.text) true = .ok fresh := by
    decide +kernel
  obtain rfl : fresh = p := Except.ok.inj (reread'.symm.trans reread)
  let m : MatchContext := ⟨none, none, setting, Repository.empty.relations, ⟨0, 0⟩⟩
  let high : Issue := ⟨1, "demo", 1, "t", none, [], "Open", none, none, ⟨0, 0⟩, ⟨0, 0⟩, 0,
    [⟨"Priority", some "High", 1⟩]⟩
  have apart : live.isSatisfied m high ≠ fresh.isSatisfied m high := by decide +kernel
  exact apart ((agree m rfl).1 high)

end Issue.Query

end TrackerQuery
