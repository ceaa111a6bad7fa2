import Mathlib.Data.List.Find
import TrackerQuery.Issue.Undefined
import TrackerQuery.Issue.Upkeep
import TrackerQuery.Proofs.Issue.Typing
import TrackerQuery.Proofs.Query.Rewriting

namespace TrackerQuery

def replaced (old new name : String) : String :=
  if name = old then new else name

theorem replaced_inj {old new name name' : String} (apart : name ≠ new) (apart' : name' ≠ new) :
    replaced old new name = replaced old new name' ↔ name = name' := by
  unfold replaced
  by_cases same : name = old
  · by_cases same' : name' = old
    · simp [same, same']
    · rw [if_pos same, if_neg same']
      exact ⟨fun h => absurd h.symm apart', fun h => absurd (h.symm.trans same) same'⟩
  · by_cases same' : name' = old
    · rw [if_neg same, if_pos same']
      exact ⟨fun h => absurd h apart, fun h => absurd (h.trans same') same⟩
    · rw [if_neg same, if_neg same']

theorem replaced_beq {old new name name' : String} (apart : name ≠ new) (apart' : name' ≠ new) :
    (replaced old new name == replaced old new name') = (name == name') := by
  rw [Bool.eq_iff_iff, beq_iff_eq, beq_iff_eq]
  exact replaced_inj apart apart'

def FieldSpec.renamed (old new : String) (spec : FieldSpec) : FieldSpec :=
  if spec.name = old then { spec with name := new } else spec

namespace Setting

def renameField (old new : String) (s : Setting) : Setting :=
  { s with fields := s.fields.map (FieldSpec.renamed old new) }

def withoutField (name : String) (s : Setting) : Setting :=
  { s with fields := s.fields.filter (·.name != name) }

def renameState (old new : String) (s : Setting) : Setting :=
  { s with states := s.states.map fun state => if state = old then new else state }

def withoutState (name : String) (s : Setting) : Setting :=
  { s with states := s.states.filter (· != name) }

variable {s : Setting} {name old new : String} {spec : FieldSpec}

theorem field?_renameField (old : String) (fresh : ∀ spec ∈ s.fields, spec.name ≠ new)
    (apart : name ≠ new) : (s.renameField old new).field? (replaced old new name) =
      (s.field? name).map (FieldSpec.renamed old new) := by
  unfold field? renameField
  rw [List.find?_map]
  refine congrArg _ (List.find?_congr fun spec mem => ?_)
  have renamed : (spec.renamed old new).name = replaced old new spec.name := by
    unfold FieldSpec.renamed replaced
    by_cases same : spec.name = old
    · rw [if_pos same, if_pos same]
    · rw [if_neg same, if_neg same]
  rw [Function.comp, renamed]
  exact replaced_beq (fresh spec mem) apart

theorem field?_renameField_new (fresh : s.field? new = none) (found : s.field? old = some spec) :
    (s.renameField old new).field? new = some { spec with name := new } := by
  have apart : old ≠ new := by
    intro same
    simp [same, fresh] at found
  have renamed := s.field?_renameField old (by simpa [field?] using fresh) apart
  have named : spec.name = old := Issue.name_of_spec found
  rwa [replaced, if_pos rfl, found, Option.map_some, FieldSpec.renamed, if_pos named] at renamed

theorem field?_renameField_other (fresh : s.field? new = none) (other : name ≠ old)
    (other' : name ≠ new) : (s.renameField old new).field? name = s.field? name := by
  have renamed := s.field?_renameField old (by simpa [field?] using fresh) other'
  rw [replaced, if_neg other] at renamed
  rw [renamed]
  cases found : s.field? name with
  | none => rfl
  | some spec =>
    have named : spec.name ≠ old := by rwa [Issue.name_of_spec found]
    rw [Option.map_some, FieldSpec.renamed, if_neg named]

theorem field?_withoutField (other : name ≠ old) :
    (s.withoutField old).field? name = s.field? name := by
  simp only [field?, withoutField, List.find?_filter]
  congr 1
  funext spec
  by_cases same : spec.name = name
  · simp [same, other]
  · simp [same]

end Setting

namespace Issue

open Criterion (WellTyped)

def Sortable (setting : Setting) (name : String) : Prop :=
  (Builtin.ofSortName? name).isSome = true ∨ ∃ spec, setting.field? name = some spec ∧
    (spec.type = .choice ∨ spec.type = .date ∨ spec.type = .number)

structure Query.Valid (ctx : ReadContext) (q : Query) : Prop where
  criteria : ∀ c ∈ q.criteria, c.WellFormed (WellTyped ctx)
  sorts : ∀ s ∈ q.sorts, Sortable ctx.setting s.field

-- A saved query is to be read from its own text, and to name nothing that is not defined.
structure Query.Upheld (ctx : ReadContext) (q : Query) : Prop where
  read : Query.read ctx (some q.text) true = .ok q
  fields : q.undefinedFields ctx.setting = []
  states : q.undefinedStates ctx.setting = []
  values : q.undefinedValues ctx.setting = []

variable {ctx : ReadContext} {setting : Setting} {q : Query} {k : Criterion}
  {name field old new : String} {spec : FieldSpec}

theorem checkSort_ok_iff : Criterion.checkSort setting true name = .ok () ↔ Sortable setting name := by
  unfold Criterion.checkSort Sortable
  by_cases builtin : (Builtin.ofSortName? name).isSome = true
  · simp [builtin]
  · cases found : setting.field? name with
    | none => simp [builtin]
    | some spec => cases type : spec.type <;> simp [builtin, type]

theorem valid_of_read {text : Option String} (read : Query.read ctx text true = .ok q) :
    q.Valid ctx := by
  have wellFormed := read_wellTyped read
  exact ⟨wellFormed.criteria, fun s mem => checkSort_ok_iff.mp (wellFormed.sorts s mem)⟩

theorem Query.Valid.read (h : q.Valid ctx) : Query.read ctx (some q.text) true = .ok q := by
  have spelled : ∀ k, WellTyped ctx k → (reader ctx true).Spelled k :=
    fun k typed => spelled_of_readable (Criterion.readable_iff.mpr typed)
  exact ofText_of_writes (writes_query ⟨fun c mem => (h.criteria c mem).imp spelled,
    fun s mem => checkSort_ok_iff.mpr (h.sorts s mem)⟩)

namespace Criterion

theorem field_of_custom (h : k.WellTyped ctx) (custom : k.customField? = some name) :
    ∃ spec, CustomField ctx.setting name spec := by
  cases h <;> cases custom <;> exact ⟨_, ‹_›⟩

theorem withField_of_custom (custom : k.customField? = some name) : k.withField name = k := by
  cases k <;> cases custom <;> rfl

theorem withField_of_builtin (builtin : k.customField? = none) : k.withField name = k := by
  cases k <;> cases builtin <;> rfl

-- A field can take the place of another under the leaf.
structure Fits (k : Criterion) (spec spec' : FieldSpec) : Prop where
  type : spec'.type = spec.type
  multiple : spec'.allowMultiple = spec.allowMultiple
  choices : ∀ name value ordinal op, k = .choiceField name value ordinal op →
    spec'.choices = spec.choices

theorem Fits.refl (k : Criterion) (spec : FieldSpec) : k.Fits spec spec :=
  ⟨rfl, rfl, fun _ _ _ _ _ => rfl⟩

theorem Fits.position {spec' : FieldSpec}
    (h : (Criterion.choiceField name value ordinal op).Fits spec spec')
    (position : Positioned spec value ordinal) : Positioned spec' value ordinal := by
  rwa [Positioned, h.type, h.choices _ _ _ _ rfl]

theorem wellTyped_withField (h : k.WellTyped ctx)
    (field : ∀ name spec, k.customField? = some name → CustomField ctx.setting name spec →
      ∃ spec', CustomField setting new spec' ∧ k.Fits spec spec')
    (state : ∀ name value, k = .state name value → value ∈ setting.states) :
    (k.withField new).WellTyped { ctx with setting } := by
  cases h with
  | submittedByMe => exact .submittedByMe
  | fixedInCurrentBuild => exact .fixedInCurrentBuild
  | submittedBy => exact .submittedBy
  | fixedInBuild read known => exact .fixedInBuild read known
  | fixedBetween known known' => exact .fixedBetween known known'
  | title => exact .title
  | description => exact .description
  | comment => exact .comment
  | state named => exact .state named (state _ _ rfl)
  | milestone => exact .milestone
  | voteCount fits => exact .voteCount fits
  | commentCount fits => exact .commentCount fits
  | number fits => exact .number fits
  | submitDate ordered meant => exact .submitDate ordered meant
  | updateDate ordered meant => exact .updateDate ordered meant
  | dateField named type ordered meant =>
    obtain ⟨spec', named', fits⟩ := field _ _ rfl named
    exact .dateField named' (fits.type.trans type) ordered meant
  | stringField named type =>
    obtain ⟨spec', named', fits⟩ := field _ _ rfl named
    exact .stringField named' (fits.type.trans type)
  | choice named type position =>
    obtain ⟨spec', named', fits⟩ := field _ _ rfl named
    exact .choice named' (by rwa [fits.type]) (fits.position position)
  | containedChoice named type multiple position =>
    obtain ⟨spec', named', fits⟩ := field _ _ rfl named
    exact .containedChoice named' (by rwa [fits.type]) (fits.multiple.trans multiple)
      (fits.position position)
  | orderedChoice named type position ordered =>
    obtain ⟨spec', named', fits⟩ := field _ _ rfl named
    exact .orderedChoice named' (fits.type.trans type) (fits.position position) ordered
  | numericField named type inRange =>
    obtain ⟨spec', named', fits⟩ := field _ _ rfl named
    exact .numericField named' (fits.type.trans type) inRange
  | booleanField named type =>
    obtain ⟨spec', named', fits⟩ := field _ _ rfl named
    exact .booleanField named' (fits.type.trans type)
  | referenceField named type read =>
    obtain ⟨spec', named', fits⟩ := field _ _ rfl named
    exact .referenceField named' (by rwa [fits.type]) read
  | buildField named type read known =>
    obtain ⟨spec', named', fits⟩ := field _ _ rfl named
    exact .buildField named' (fits.type.trans type) read known
  | emptyField named =>
    obtain ⟨spec', named', fits⟩ := field _ _ rfl named
    exact .emptyField named'
  | userField named type =>
    obtain ⟨spec', named', fits⟩ := field _ _ rfl named
    exact .userField named' (fits.type.trans type)
  | relativeBuildField named type relative =>
    obtain ⟨spec', named', fits⟩ := field _ _ rfl named
    exact .relativeBuildField named' (fits.type.trans type) relative

theorem wellTyped_of_kept (h : k.WellTyped ctx)
    (field : ∀ name spec, k.customField? = some name → ctx.setting.field? name = some spec →
      ∃ spec', setting.field? name = some spec' ∧ k.Fits spec spec')
    (state : ∀ name value, k = .state name value → value ∈ setting.states) :
    k.WellTyped { ctx with setting } := by
  cases custom : k.customField? with
  | none =>
    have same : k.withField "" = k := withField_of_builtin custom
    rw [← same]
    exact wellTyped_withField h (by simp [custom]) state
  | some name =>
    rw [← withField_of_custom custom]
    refine wellTyped_withField h ?_ state
    intro name' spec custom' named
    obtain rfl : name = name' := Option.some.inj (custom.symm.trans custom')
    obtain ⟨spec', found, fits⟩ := field name spec custom named.first
    exact ⟨spec', ⟨named.notAlias, named.notBuiltin, found⟩, fits⟩

theorem wellTyped_of_state (h : (Criterion.state name value).WellTyped ctx) :
    (name = "state" ∨ name = "status") ∧ value ∈ ctx.setting.states := by
  cases h with
  | state named defined => exact ⟨named, defined⟩

theorem state_kept (h : k.WellTyped ctx) : ∀ name value, k = .state name value →
    value ∈ ctx.setting.states := by
  intro name value same
  exact (wellTyped_of_state (same ▸ h)).2

theorem positioned_of_choice (h : (Criterion.choiceField name value ordinal op).WellTyped ctx) :
    ∃ spec, CustomField ctx.setting name spec ∧ Positioned spec value ordinal := by
  cases h with
  | choice named _ position | containedChoice named _ _ position | orderedChoice named _ position =>
    exact ⟨_, named, position⟩

end Criterion

theorem mem_of_positioned (choice : spec.type = .choice) (h : Positioned spec value ordinal) :
    value ∈ spec.choices := by
  rw [Positioned, if_pos choice] at h
  obtain ⟨i, found, _⟩ := h
  exact List.isSome_idxOf?.mp (by rw [found]; rfl)

namespace Query

theorem leaf_of_wellFormed {P : Criterion → Prop} (h : ∀ c ∈ q.criteria, c.WellFormed P) :
    ∀ k ∈ q.leaves, P k := by
  intro k mem
  obtain ⟨criteria, sorts⟩ := q
  cases criteria with
  | none => simp [leaves] at mem
  | some c => exact (h c rfl).leaves k mem

theorem Valid.leaf (h : q.Valid ctx) : ∀ k ∈ q.leaves, k.WellTyped ctx :=
  leaf_of_wellFormed h.criteria

theorem Valid.undefinedFields (h : q.Valid ctx) : q.undefinedFields ctx.setting = [] := by
  have defined : ∀ {name spec}, ctx.setting.field? name = some spec →
      isUndefinedField ctx.setting name = false := by
    intro name spec found
    cases builtin : Builtin.ofName? name <;>
      simp [isUndefinedField, Target.ofName?, builtin, found]
  have none : ((q.leaves.filterMap Criterion.customField? ++
      (q.sorts.map (·.field)).filter fun f => (Builtin.ofSortName? f).isNone).filter
        (isUndefinedField ctx.setting)) = [] := by
    rw [List.filter_eq_nil_iff]
    intro name mem
    rcases List.mem_append.mp mem with asked | sorted
    · obtain ⟨k, mem, custom⟩ := List.mem_filterMap.mp asked
      obtain ⟨spec, named⟩ := Criterion.field_of_custom (h.leaf k mem) custom
      simp [defined named.first]
    · obtain ⟨sorted, other⟩ := List.mem_filter.mp sorted
      obtain ⟨s, listed, rfl⟩ := List.mem_map.mp sorted
      rcases h.sorts s listed with builtin | ⟨spec, found, _⟩
      · cases found : Builtin.ofSortName? s.field <;> simp [found] at builtin other
      · simp [defined found]
  rw [Query.undefinedFields, none]
  rfl

theorem Valid.undefinedStates (h : q.Valid ctx) : q.undefinedStates ctx.setting = [] := by
  have none : q.leaves.filterMap (undefinedState? ctx.setting) = [] := by
    rw [List.filterMap_eq_nil_iff]
    intro k mem
    have typed := h.leaf k mem
    cases k with
    | state name value =>
      have defined := (Criterion.wellTyped_of_state typed).2
      simp [undefinedState?, Setting.hasState, defined]
    | _ => rfl
  rw [Query.undefinedStates, none]
  rfl

theorem Valid.undefinedValues (h : q.Valid ctx) : q.undefinedValues ctx.setting = [] := by
  have none : q.leaves.filterMap (staleValue? ctx.setting) = [] := by
    rw [List.filterMap_eq_nil_iff]
    intro k mem
    have typed := h.leaf k mem
    cases k with
    | choiceField name value ordinal op =>
      obtain ⟨spec, named, position⟩ := Criterion.positioned_of_choice typed
      by_cases choice : spec.type = .choice
      · simp [staleValue?, named.first, mem_of_positioned choice position]
      · simp [staleValue?, named.first, choice]
    | _ => rfl
  rw [Query.undefinedValues, none]
  rfl

theorem Valid.upheld (h : q.Valid ctx) : q.Upheld ctx :=
  ⟨h.read, h.undefinedFields, h.undefinedStates, h.undefinedValues⟩

theorem mapLeaves_wellFormed {f : Criterion → Criterion} {P Q : Criterion → Prop}
    (h : ∀ c ∈ q.criteria, c.WellFormed P) (leaf : ∀ k, P k → Q (f k)) :
    ∀ c ∈ (q.mapLeaves f).criteria, c.WellFormed Q := by
  intro c mem
  obtain ⟨c, found, rfl⟩ := Option.map_eq_some_iff.mp mem
  exact (h c found).map leaf

theorem prune_wellFormed {doomed : Criterion → Bool} {P : Criterion → Prop}
    (h : ∀ c ∈ q.criteria, c.WellFormed P) (kept : (q.prune doomed).discard = false) :
    ∀ c ∈ (q.prune doomed).query.criteria, c.WellFormed fun k => P k ∧ doomed k = false := by
  obtain ⟨criteria, sorts⟩ := q
  cases criteria with
  | none => simp [prune]
  | some c =>
    intro left mem
    obtain rfl := Option.some.inj mem
    exact (h c rfl).prune kept

theorem prune_sorts (doomed : Criterion → Bool) (q : Query) :
    (q.prune doomed).query.sorts = q.sorts := by
  obtain ⟨criteria, sorts⟩ := q
  cases criteria <;> rfl

theorem Valid.renameField (h : q.Valid ctx) (custom : ∀ b : Builtin, old ≠ b.name)
    (free : Builtin.ofName? new = none) (fresh : ctx.setting.field? new = none) :
    (q.renameField old new).Valid { ctx with setting := ctx.setting.renameField old new } := by
  have other : ∀ {name spec}, ctx.setting.field? name = some spec → name ≠ new := by
    intro name spec found same
    simp [same, fresh] at found
  refine ⟨mapLeaves_wellFormed h.criteria ?_, ?_⟩
  · intro k typed
    unfold renameFieldOf
    by_cases named : k.customField? = some old
    · rw [if_pos named]
      refine Criterion.wellTyped_withField typed ?_ (Criterion.state_kept typed)
      intro name spec named' custom
      obtain rfl : old = name := Option.some.inj (named.symm.trans named')
      obtain ⟨notAlias, notBuiltin⟩ := ofName?_none_iff.mp free
      have found := Setting.field?_renameField_new fresh custom.first
      exact ⟨_, ⟨notAlias, notBuiltin, found⟩, rfl, rfl, fun _ _ _ _ _ => rfl⟩
    · rw [if_neg named]
      refine Criterion.wellTyped_of_kept typed ?_ (Criterion.state_kept typed)
      intro name spec named' found
      have apart : name ≠ old := by
        intro same
        exact named (same ▸ named')
      have other' := other found
      exact ⟨spec, (Setting.field?_renameField_other fresh apart other').trans found, .refl k spec⟩
  · intro s mem
    obtain ⟨s, listed, rfl⟩ := List.mem_map.mp mem
    by_cases same : s.field = old
    · rw [if_pos same]
      rcases h.sorts s listed with builtin | ⟨spec, found, ordered⟩
      · obtain ⟨b, found⟩ := Option.isSome_iff_exists.mp builtin
        have named := List.find?_some (p := fun (b : Builtin) => b.name == s.field) found
        exact absurd (same ▸ (beq_iff_eq.mp named).symm) (custom b)
      · exact .inr ⟨_, Setting.field?_renameField_new fresh (same ▸ found), ordered⟩
    · rw [if_neg same]
      rcases h.sorts s listed with builtin | ⟨spec, found, ordered⟩
      · exact .inl builtin
      · have other' := other found
        exact .inr ⟨spec, (Setting.field?_renameField_other fresh same other').trans found, ordered⟩

theorem Valid.deleteField (h : q.Valid ctx) (kept : (q.deleteField field).discard = false) :
    (q.deleteField field).query.Valid { ctx with setting := ctx.setting.withoutField field } := by
  let rest : Query := { q with sorts := q.sorts.filter fun s => s.field != field }
  constructor
  · intro c mem
    refine (prune_wellFormed (q := rest) h.criteria kept c mem).imp fun k both => ?_
    obtain ⟨typed, spared⟩ := both
    refine Criterion.wellTyped_of_kept typed ?_ (Criterion.state_kept typed)
    intro name spec named found
    have apart : name ≠ field := by
      intro same
      simp [named, same] at spared
    exact ⟨spec, (Setting.field?_withoutField apart).trans found, .refl k spec⟩
  · intro s mem
    rw [Query.deleteField, prune_sorts] at mem
    obtain ⟨listed, apart⟩ := List.mem_filter.mp mem
    rcases h.sorts s listed with builtin | ⟨spec, found, ordered⟩
    · exact .inl builtin
    · have apart : s.field ≠ field := by simpa using apart
      exact .inr ⟨spec, (Setting.field?_withoutField apart).trans found, ordered⟩

theorem Valid.renameState (h : q.Valid ctx) :
    (q.renameState old new).Valid { ctx with setting := ctx.setting.renameState old new } := by
  refine ⟨mapLeaves_wellFormed h.criteria ?_, h.sorts⟩
  intro k typed
  cases k with
  | state name value =>
    obtain ⟨named, defined⟩ := Criterion.wellTyped_of_state typed
    exact .state named (List.mem_map.mpr ⟨value, defined, rfl⟩)
  | _ => exact Criterion.wellTyped_of_kept typed (fun _ _ _ found => ⟨_, found, .refl _ _⟩) nofun

theorem Valid.deleteState (h : q.Valid ctx) (kept : (q.deleteState name).discard = false) :
    (q.deleteState name).query.Valid { ctx with setting := ctx.setting.withoutState name } := by
  constructor
  · intro c mem
    refine (prune_wellFormed h.criteria kept c mem).imp fun k both => ?_
    obtain ⟨typed, spared⟩ := both
    refine Criterion.wellTyped_of_kept typed (fun _ _ _ found => ⟨_, found, .refl _ _⟩) ?_
    intro field value same
    subst same
    refine List.mem_filter.mpr ⟨(Criterion.wellTyped_of_state typed).2, ?_⟩
    simpa [isState] using spared
  · rw [Query.deleteState, prune_sorts]
    exact h.sorts

end Query

-- Fields and states may be renamed and deleted: a query that is not to be discarded stays valid.
theorem edits_upheld {text : Option String} (read : Query.read ctx text true = .ok q) :
    (∀ old new, (∀ b : Builtin, old ≠ b.name) → Builtin.ofName? new = none →
        ctx.setting.field? new = none →
        (q.renameField old new).Upheld { ctx with setting := ctx.setting.renameField old new }) ∧
      (∀ field, (q.deleteField field).discard = false →
        (q.deleteField field).query.Upheld { ctx with setting := ctx.setting.withoutField field }) ∧
      (∀ old new,
        (q.renameState old new).Upheld { ctx with setting := ctx.setting.renameState old new }) ∧
      ∀ state, (q.deleteState state).discard = false →
        (q.deleteState state).query.Upheld { ctx with setting := ctx.setting.withoutState state } := by
  have valid := valid_of_read read
  refine ⟨?_, ?_, ?_, ?_⟩
  · intro old new custom free fresh
    exact (valid.renameField custom free fresh).upheld
  · intro field kept
    exact (valid.deleteField kept).upheld
  · intro old new
    exact valid.renameState.upheld
  · intro state kept
    exact (valid.deleteState kept).upheld

theorem edits_upheld_priority :
    let ctx : ReadContext := ⟨none, Setting.demo, Repository.empty.resolver, ⟨0, 0⟩⟩
    let text := "\"Priority\" is \"High\" and not(\"status\" is \"Open\") order by \"Priority\" asc"
    ∃ q, Query.read ctx (some text) true = .ok q ∧
      (q.renameField "Priority" "Urgency").Upheld
        { ctx with setting := ctx.setting.renameField "Priority" "Urgency" } ∧
      (q.deleteField "Priority").query.Upheld
        { ctx with setting := ctx.setting.withoutField "Priority" } ∧
      (q.deleteField "Priority").query.text = "not(\"status\" is \"Open\")" ∧
      (q.renameState "Open" "New").Upheld
        { ctx with setting := ctx.setting.renameState "Open" "New" } ∧
      (q.deleteState "Closed").query.Upheld
        { ctx with setting := ctx.setting.withoutState "Closed" } := by
  intro ctx text
  have read : Query.read ctx (some text) true =
      .ok ⟨some (.all [.leaf (.choiceField "Priority" "High" 2 .is),
        .negation (.leaf (.state "status" "Open"))]), [⟨"Priority", .ascending⟩]⟩ := by
    decide +kernel
  have custom : ∀ b : Builtin, "Priority" ≠ b.name := by
    intro b
    cases b <;> decide
  obtain ⟨renamedField, deletedField, renamedState, deletedState⟩ := edits_upheld read
  exact ⟨_, read, renamedField _ _ custom (by decide) (by decide), deletedField _ (by decide),
    by decide +kernel, renamedState _ _, deletedState _ (by decide)⟩

end Issue

end TrackerQuery
