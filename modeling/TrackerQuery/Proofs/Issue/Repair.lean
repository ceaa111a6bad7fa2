import Mathlib.Data.List.Forall2
import TrackerQuery.Issue.Undefined
import TrackerQuery.Proofs.Distinct
import TrackerQuery.Proofs.Issue.Change
import TrackerQuery.Proofs.Issue.Reports

namespace TrackerQuery.Issue.Query

inductive Change.Outlives : List Change → Criterion → Criterion → Prop where
  | nil {k : Criterion} : Outlives [] k k
  | cons {a : Change} {changes : List Change} {k k' : Criterion} (spared : a.dooms k = false)
      (more : Outlives changes (a.exchange k) k') : Outlives (a :: changes) k k'

-- A leaf as the edits leave it. One on a choice of an edited field keeps its value or has the value
-- that the edit has in its place, which is not looked up again.
inductive Settled (edits : List (String × ChoiceEdit)) : Criterion → Criterion → Prop where
  | same {field value : String} {edit : ChoiceEdit} {ordinal : Int} {op : Operator}
      (listed : (field, edit) ∈ edits) (spared : value ∉ edit.deletions)
      (unnamed : edit.renames.lookup value = none) :
      Settled edits (.choiceField field value ordinal op) (.choiceField field value ordinal op)
  | renamed {field old new : String} {edit : ChoiceEdit} {ordinal : Int} {op : Operator}
      (listed : (field, edit) ∈ edits) (spared : old ∉ edit.deletions)
      (named : edit.renames.lookup old = some new) :
      Settled edits (.choiceField field old ordinal op) (.choiceField field new ordinal op)
  | other {k : Criterion}
      (unedited : ∀ field value ordinal op, k = .choiceField field value ordinal op →
        field ∉ edits.map Prod.fst) : Settled edits k k

structure Repairs (setting : Setting) (q : Query) (edits : List (String × ChoiceEdit)) : Prop where
  keyed : (edits.map Prod.fst).Nodup
  covers : ∀ stale ∈ q.undefinedValues setting, ∃ edit, (stale.field, edit) ∈ edits ∧
    (stale.value ∈ edit.deletions ∨ ∃ new, edit.renames.lookup stale.value = some new)
  targets : ∀ field edit spec old new, (field, edit) ∈ edits → setting.field? field = some spec →
    spec.type = .choice → edit.renames.lookup old = some new → new ∈ spec.choices

variable {q q' : Query} {k k' : Criterion} {setting : Setting} {stale : StaleValue}
  {edits : List (String × ChoiceEdit)} {a : Change} {changes : List Change}

namespace Change

theorem leaves_of_run? (run : a.run? q = some q') :
    ∃ survivors : List Criterion, survivors.Sublist q.leaves ∧
      (∀ k ∈ survivors, a.dooms k = false) ∧ q'.leaves = survivors.map a.exchange := by
  unfold leaves
  rcases (run?_cases run).2 with ⟨none, none'⟩ | ⟨c, d, found, kept, found'⟩
  · rw [none, none']
    exact ⟨[], .slnil, nofun, rfl⟩
  · obtain ⟨sublist, spared⟩ := Criteria.leaves_kept? kept
    rw [found, found']
    exact ⟨d.leaves, sublist, spared, Criteria.leaves_map a.exchange d⟩

theorem leaves_of_runAll? (run : runAll? changes q = some q') :
    ∃ survivors : List Criterion, survivors.Sublist q.leaves ∧
      List.Forall₂ (Outlives changes) survivors q'.leaves := by
  induction changes generalizing q with
  | nil =>
    obtain rfl := Option.some.inj run
    exact ⟨q.leaves, .refl _, List.forall₂_same.mpr fun _ _ => .nil⟩
  | cons a changes ih =>
    obtain ⟨between, first, more⟩ := Option.bind_eq_some_iff.mp run
    obtain ⟨left, sublist, spared, same⟩ := leaves_of_run? first
    obtain ⟨left', sublist', outlive⟩ := ih more
    rw [same] at sublist'
    obtain ⟨survivors, among, rfl⟩ := List.sublist_map_iff.mp sublist'
    rw [List.forall₂_map_left_iff] at outlive
    have each : ∀ k ∈ survivors, a.dooms k = false := fun k mem => spared k (among.subset mem)
    exact ⟨survivors, among.trans sublist,
      ((List.forall₂_and_left _ _).mpr ⟨each, outlive⟩).imp fun _ _ both => .cons both.1 both.2⟩

theorem sorts_of_runAll? (run : runAll? changes q = some q')
    (spares : ∀ a ∈ changes, ∀ s, a.spares s = true) : q'.sorts = q.sorts := by
  induction changes generalizing q with
  | nil =>
    obtain rfl := Option.some.inj run
    rfl
  | cons a changes ih =>
    obtain ⟨here, later⟩ := List.forall_mem_cons.mp spares
    obtain ⟨between, first, more⟩ := Option.bind_eq_some_iff.mp run
    rw [ih more later, (run?_cases first).1]
    exact List.filter_eq_self.mpr fun s _ => here s

end Change

theorem renameChoice_of_other {field : String} {edit : ChoiceEdit}
    (other : ∀ f value ordinal op, k = .choiceField f value ordinal op → f ≠ field) :
    renameChoice field edit k = k := by
  cases k with
  | choiceField f value ordinal op =>
    rw [renameChoice, if_neg (other f value ordinal op rfl)]
  | _ => rfl

theorem Settled.eq_of_unedited (h : Settled edits k k')
    (unedited : ∀ field value ordinal op, k = .choiceField field value ordinal op →
      field ∉ edits.map Prod.fst) : k' = k := by
  cases h with
  | same => rfl
  | renamed listed => exact absurd (List.mem_map_of_mem listed) (unedited _ _ _ _ rfl)
  | other => rfl

theorem Settled.cons (h : Settled edits k k') (entry : String × ChoiceEdit)
    (other : ∀ field value ordinal op, k = .choiceField field value ordinal op → field ≠ entry.1) :
    Settled (entry :: edits) k k' := by
  cases h with
  | same listed spared unnamed => exact .same (List.mem_cons_of_mem _ listed) spared unnamed
  | renamed listed spared named => exact .renamed (List.mem_cons_of_mem _ listed) spared named
  | other unedited =>
    refine .other fun field value ordinal op same => ?_
    exact List.not_mem_cons_of_ne_of_not_mem (other _ _ _ _ same) (unedited _ _ _ _ same)

-- After the edit of its field, none of the later ones gets at the leaf.
theorem settled_of_entry {field value : String} {edit : ChoiceEdit} {ordinal : Int} {op : Operator}
    (once : field ∉ edits.map Prod.fst) (spared : value ∉ edit.deletions)
    (later : Settled edits (renameChoice field edit (.choiceField field value ordinal op)) k') :
    Settled ((field, edit) :: edits) (.choiceField field value ordinal op) k' := by
  obtain rfl := later.eq_of_unedited fun f _ _ _ touched => by
    obtain ⟨rfl, _⟩ := Criterion.choiceField.inj touched
    exact once
  cases found : edit.renames.lookup value with
  | none => simpa [renameChoice, found] using Settled.same List.mem_cons_self spared found
  | some new => simpa [renameChoice, found] using Settled.renamed List.mem_cons_self spared found

theorem settled_of_outlives (keyed : (edits.map Prod.fst).Nodup)
    (h : Change.Outlives (edits.map fun entry => choiceChange entry.1 entry.2) k k') :
    Settled edits k k' := by
  induction edits generalizing k with
  | nil =>
    cases h
    exact .other fun _ _ _ _ _ => List.not_mem_nil
  | cons entry edits ih =>
    obtain ⟨field, edit⟩ := entry
    obtain ⟨once, keyed⟩ := List.nodup_cons.mp keyed
    cases h with
    | cons spared more =>
      have later : Settled edits (renameChoice field edit k) k' := ih keyed more
      by_cases chosen : ∃ value ordinal op, k = .choiceField field value ordinal op
      · obtain ⟨value, ordinal, op, rfl⟩ := chosen
        exact settled_of_entry once (by simpa [choiceChange, choosesDeleted] using spared) later
      · have other : ∀ f value ordinal op, k = .choiceField f value ordinal op → f ≠ field := by
          rintro f value ordinal op rfl rfl
          exact chosen ⟨value, ordinal, op, rfl⟩
        rw [renameChoice_of_other other] at later
        exact later.cons (field, edit) other

theorem staleValue?_eq_some_iff : staleValue? setting k = some stale ↔
    ∃ spec ordinal op, k = .choiceField stale.field stale.value ordinal op ∧
      setting.field? stale.field = some spec ∧ spec.type = .choice ∧ stale.value ∉ spec.choices := by
  constructor
  · intro shown
    cases k with
    | choiceField field value ordinal op =>
      cases found : setting.field? field with
      | none => simp [staleValue?, found] at shown
      | some spec =>
        simp only [staleValue?, found, Option.ite_none_right_eq_some, Option.some.injEq] at shown
        obtain ⟨missing, rfl⟩ := shown
        exact ⟨spec, ordinal, op, rfl, found, by simpa using missing⟩
    | _ => cases shown
  · rintro ⟨spec, ordinal, op, rfl, found, choice, missing⟩
    simp [staleValue?, found, choice, missing]

theorem mem_undefinedValues : stale ∈ q.undefinedValues setting ↔
    ∃ k ∈ q.leaves, staleValue? setting k = some stale :=
  mem_distinct.trans List.mem_filterMap

theorem Repairs.entry_unique {field : String} {edit edit' : ChoiceEdit}
    (h : q.Repairs setting edits) (listed : (field, edit) ∈ edits) (listed' : (field, edit') ∈ edits) :
    edit = edit' :=
  congrArg Prod.snd (List.inj_on_of_nodup_map h.keyed listed listed' rfl)

theorem Repairs.staleValue?_eq_none (h : q.Repairs setting edits) (asked : k ∈ q.leaves)
    (settled : Settled edits k k') : staleValue? setting k' = none := by
  refine Option.eq_none_iff_forall_ne_some.mpr fun stale shown => ?_
  obtain ⟨spec, ordinal, op, rfl, found, choice, missing⟩ := staleValue?_eq_some_iff.mp shown
  cases settled with
  | same listed spared unnamed =>
    obtain ⟨edit, listed', edited⟩ := h.covers stale (mem_undefinedValues.mpr ⟨_, asked, shown⟩)
    obtain rfl := h.entry_unique listed listed'
    rcases edited with deleted | ⟨new, named⟩
    · exact spared deleted
    · rw [unnamed] at named
      cases named
  | renamed listed _ named => exact missing (h.targets _ _ _ _ _ listed found choice named)
  | other unedited =>
    obtain ⟨edit, listed, _⟩ := h.covers stale (mem_undefinedValues.mpr ⟨_, asked, shown⟩)
    exact unedited _ _ _ _ rfl (List.mem_map_of_mem listed)

-- Edits that delete or rename all stale values, and rename to choices only, leave none where they do
-- not discard the query. Of its leaves some are left, in their order, each settled by the one edit of
-- its field; the sorts stay.
theorem edits_repair (setting : Setting) (q : Query) (edits : List (String × ChoiceEdit))
    (repairs : q.Repairs setting edits) (kept : (q.editAllChoices edits).discard = false) :
    let left := (q.editAllChoices edits).query
    left.undefinedValues setting = [] ∧ left.sorts = q.sorts ∧
      ∃ survivors : List Criterion, survivors.Sublist q.leaves ∧
        List.Forall₂ (Settled edits) survivors left.leaves := by
  intro left
  have run : Change.runAll? (edits.map fun entry => choiceChange entry.1 entry.2) q = some left := by
    rw [← kept?_editAllChoices, Outcome.kept?, kept]
    rfl
  obtain ⟨survivors, sublist, outlive⟩ := Change.leaves_of_runAll? run
  have settled : List.Forall₂ (Settled edits) survivors left.leaves :=
    outlive.imp fun _ _ => settled_of_outlives repairs.keyed
  refine ⟨?_, Change.sorts_of_runAll? run ?_, survivors, sublist, settled⟩
  · refine List.eq_nil_iff_forall_not_mem.mpr fun stale mem => ?_
    obtain ⟨k', remains, shown⟩ := mem_undefinedValues.mp mem
    obtain ⟨k, survives, settled⟩ := LeafReader.exists_of_forall₂ settled.flip remains
    rw [repairs.staleValue?_eq_none (sublist.subset survives) settled] at shown
    cases shown
  · intro a mem s
    obtain ⟨entry, _, rfl⟩ := List.mem_map.mp mem
    rfl

theorem edits_repair_traded :
    let priority (value : String) (ordinal : Int) : Criteria Criterion :=
      .leaf (.choiceField "Priority" value ordinal .is)
    let rest : List (Criteria Criterion) :=
      [.leaf (.choiceField "Labels" "ui" 0 .contains), .leaf (.state "state" "Open")]
    let ghost : Criteria Criterion := .negation (.leaf (.choiceField "Type" "Ghost" (-1) .is))
    let q : Query :=
      ⟨some (.all (.any [priority "Urgent" (-1), .negation (.all [priority "High" 2, priority "Low" 0])] ::
        ghost :: rest)), [⟨"Type", .ascending⟩]⟩
    let edits : List (String × ChoiceEdit) :=
      [("Priority", ⟨[("Urgent", "High"), ("High", "Low"), ("Low", "High")], []⟩),
        ("Type", ⟨[("Ghost", "Task")], ["Ghost"]⟩)]
    let left : Query :=
      ⟨some (.all (.any [priority "High" (-1), .negation (.all [priority "Low" 2, priority "High" 0])] ::
        rest)), [⟨"Type", .ascending⟩]⟩
    q.undefinedValues Setting.demo = [⟨"Priority", "Urgent"⟩, ⟨"Type", "Ghost"⟩] ∧
      q.Repairs Setting.demo edits ∧ (q.editAllChoices edits).discard = false ∧
      (q.editAllChoices edits).query = left ∧ left.undefinedValues Setting.demo = [] ∧
      ∃ survivors : List Criterion, survivors.Sublist q.leaves ∧
        List.Forall₂ (Settled edits) survivors left.leaves := by
  intro priority rest ghost q edits left
  have stale : q.undefinedValues Setting.demo = [⟨"Priority", "Urgent"⟩, ⟨"Type", "Ghost"⟩] := by decide
  have kept : (q.editAllChoices edits).discard = false := by decide
  have result : (q.editAllChoices edits).query = left := by decide
  have repairs : q.Repairs Setting.demo edits := by
    refine ⟨by decide, ?_, ?_⟩
    · intro value mem
      rw [stale] at mem
      rcases List.mem_pair.mp mem with rfl | rfl
      · exact ⟨_, .head _, .inr ⟨"High", by decide⟩⟩
      · exact ⟨_, .tail _ (.head _), .inl (by decide)⟩
    · intro field edit spec old new listed found _ named
      have choices : ∀ entry ∈ edits, ∀ spec ∈ Setting.demo.field? entry.1,
          ∀ rename ∈ entry.2.renames, rename.2 ∈ spec.choices := by decide
      obtain ⟨before, after, same, _⟩ := List.lookup_eq_some_iff.mp named
      have mem : (old, new) ∈ edit.renames := same ▸ List.mem_append_right before (.head after)
      exact choices _ listed _ found _ mem
  obtain ⟨defined, _, settled⟩ := edits_repair Setting.demo q edits repairs kept
  rw [result] at defined settled
  exact ⟨stale, repairs, kept, result, defined, settled⟩

end TrackerQuery.Issue.Query
