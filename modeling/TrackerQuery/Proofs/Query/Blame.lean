import TrackerQuery.Proofs.Query.Leaves
import TrackerQuery.Proofs.Query.Writing

namespace TrackerQuery

open TrackerQuery.Tree

-- The node has a leaf of that wording; `is not` is worded as the `is` that it negates.
inductive Tree.Node.HasLeaf : Node → Wording → Prop where
  | any {ns n w} (mem : n ∈ ns) (h : HasLeaf n w) : HasLeaf (any ns) w
  | all {ns n w} (mem : n ∈ ns) (h : HasLeaf n w) : HasLeaf (all ns) w
  | negation {n w} (h : HasLeaf n w) : HasLeaf (negation n) w
  | group {n w} (h : HasLeaf n w) : HasLeaf (group n) w
  | standalone (op : Operator) (s : Span) : HasLeaf (standalone op s) (.standalone op)
  | field (field : Literal) (op : Operator) : HasLeaf (.field field op) (.field field.value op)
  | isNot (field value : Literal) :
      HasLeaf (fieldValue field .isNot value) (.fieldValue field.value .is value.value)
  | fieldValue {op : Operator} (field value : Literal) (direct : op ≠ .isNot) :
      HasLeaf (fieldValue field op value) (.fieldValue field.value op value.value)
  | value (op : Operator) (value : Literal) : HasLeaf (.value op value) (.value op value.value)
  | between (first second : Endpoint) :
      HasLeaf (between first second) (.between first.revision second.revision)

def HasLeaf (text : Option String) (w : Wording) : Prop :=
  ∃ s t n, text = some s ∧ Tree.ofText s = .ok t ∧ t.criteria = some n ∧ n.HasLeaf w

namespace LeafReader

variable {κ : Type} {r strict lenient : LeafReader κ} {n : Node} {ns : List Node} {c : Criteria κ}
  {w : Wording} {o : Objection} {place : Span} {t : Tree} {text : Option String} {q : Query κ}

theorem exists_of_forall₂ {R : α → β → Prop} {as : List α} {bs : List β} (h : List.Forall₂ R as bs)
    (mem : a ∈ as) : ∃ b ∈ bs, R a b := by
  induction h with
  | nil => cases mem
  | cons first _ ih =>
    rcases List.mem_cons.mp mem with rfl | mem
    · exact ⟨_, List.mem_cons_self, first⟩
    · obtain ⟨b, mem, related⟩ := ih mem
      exact ⟨b, List.mem_cons_of_mem _ mem, related⟩

theorem leaf_of_located {x : Except Error κ} (read : located place x = .ok c) :
    ∃ k ∈ c.leaves, x = .ok k := by
  obtain ⟨k, meaning, rfl⟩ := located_ok_iff.mp read
  exact ⟨k, List.mem_singleton_self k, meaning⟩

theorem leaf_of_hasLeaf (leaf : n.HasLeaf w) (read : r.read n = .ok c) :
    ∃ k ∈ c.leaves, r.readWording w = .ok k := by
  induction leaf generalizing c with
  | any mem _ ih =>
    obtain ⟨cs, each, rfl⟩ := map_ok_iff.mp read
    obtain ⟨d, child, read⟩ := exists_of_forall₂ (readAll_ok_iff.mp each) mem
    obtain ⟨k, below, meaning⟩ := ih read
    exact ⟨k, Criteria.mem_leaves_any.mpr ⟨d, child, below⟩, meaning⟩
  | all mem _ ih =>
    obtain ⟨cs, each, rfl⟩ := map_ok_iff.mp read
    obtain ⟨d, child, read⟩ := exists_of_forall₂ (readAll_ok_iff.mp each) mem
    obtain ⟨k, below, meaning⟩ := ih read
    exact ⟨k, Criteria.mem_leaves_all.mpr ⟨d, child, below⟩, meaning⟩
  | negation _ ih =>
    obtain ⟨d, inner, rfl⟩ := map_ok_iff.mp read
    obtain ⟨k, below, meaning⟩ := ih inner
    exact ⟨k, below, meaning⟩
  | group _ ih => exact ih read
  | standalone | field | value | between => exact leaf_of_located read
  | isNot field value =>
    obtain ⟨_, k, meaning, rfl⟩ | ⟨direct, _⟩ := readFieldValue_ok_iff.mp read
    · exact ⟨k, List.mem_singleton_self k, meaning⟩
    · exact absurd rfl direct
  | fieldValue field value direct =>
    obtain ⟨negated, _⟩ | ⟨_, k, meaning, rfl⟩ := readFieldValue_ok_iff.mp read
    · exact absurd negated direct
    · exact ⟨k, List.mem_singleton_self k, meaning⟩

-- What a query fails with where one of its leaves fails: a place is added, and `is not` may be named
-- for `is`.
def Passes (e e' : Error) : Prop :=
  ∃ place, e' = e.locatedAt place ∨ ∃ name, e' = (e.ofNegated name).locatedAt place

theorem passes_of_located {x : Except Error κ} (refused : located place x = .error e') :
    ∃ e, x = .error e ∧ Passes e e' := by
  cases x with
  | ok k => cases refused
  | error e => exact ⟨e, rfl, place, .inl (Except.error.inj refused).symm⟩

theorem hasLeaf_of_fieldValue {field value : Literal}
    (refused : r.readFieldValue field op value = .error e') :
    ∃ w e, (Node.fieldValue field op value).HasLeaf w ∧ r.readWording w = .error e ∧
      Passes e e' := by
  unfold readFieldValue at refused
  by_cases negated : op = .isNot
  · subst negated
    rw [if_pos rfl] at refused
    cases meaning : r.fieldValue field.value .is value.value with
    | ok k => simp [meaning] at refused
    | error e =>
      rw [meaning] at refused
      exact ⟨_, e, .isNot field value, meaning, field.span, .inr ⟨_, (Except.error.inj refused).symm⟩⟩
  · rw [if_neg negated] at refused
    cases meaning : r.fieldValue field.value op value.value with
    | ok k => simp [meaning] at refused
    | error e =>
      rw [meaning] at refused
      exact ⟨_, e, .fieldValue field value negated, meaning, field.span,
        .inl (Except.error.inj refused).symm⟩

theorem hasLeaf_of_refused (shaped : n.Shaped) (refused : r.read n = .error e') :
    ∃ w e, n.HasLeaf w ∧ r.readWording w = .error e ∧ Passes e e' := by
  induction shaped with
  | any _ _ _ ih =>
    have inner := map_error_iff.mp refused
    obtain ⟨m, child, refused⟩ := each_error (f := r.read) rfl (fun _ _ => rfl) inner
    obtain ⟨w, e, leaf, refused⟩ := ih m child refused
    exact ⟨w, e, .any child leaf, refused⟩
  | all _ _ _ ih =>
    have inner := map_error_iff.mp refused
    obtain ⟨m, child, refused⟩ := each_error (f := r.read) rfl (fun _ _ => rfl) inner
    obtain ⟨w, e, leaf, refused⟩ := ih m child refused
    exact ⟨w, e, .all child leaf, refused⟩
  | negation _ _ ih =>
    obtain ⟨w, e, leaf, refused⟩ := ih (map_error_iff.mp refused)
    exact ⟨w, e, .negation leaf, refused⟩
  | group _ ih =>
    obtain ⟨w, e, leaf, refused⟩ := ih refused
    exact ⟨w, e, .group leaf, refused⟩
  | fieldValue => exact hasLeaf_of_fieldValue refused
  | field =>
    obtain ⟨e, refused⟩ := passes_of_located refused
    exact ⟨_, e, .field _ _, refused⟩
  | standalone =>
    obtain ⟨e, refused⟩ := passes_of_located refused
    exact ⟨_, e, .standalone _ _, refused⟩
  | value =>
    obtain ⟨e, refused⟩ := passes_of_located refused
    exact ⟨_, e, .value _ _, refused⟩
  | between =>
    obtain ⟨e, refused⟩ := passes_of_located refused
    exact ⟨_, e, .between _ _, refused⟩

theorem locatedAt_rejected {e : Error} (h : e.locatedAt place = .rejected o) : e = .rejected o := by
  cases e with
  | rejected o' => exact h
  | malformed fault place' => cases place' <;> cases h

theorem rejected_of_passes {e : Error} (h : Passes e (.rejected o))
    (other : ∀ name, o ≠ .notApplicable name .isNot) : e = .rejected o := by
  obtain ⟨place, same | ⟨name, same⟩⟩ := h
  · exact locatedAt_rejected same.symm
  · have same := locatedAt_rejected same.symm
    unfold Error.ofNegated at same
    split at same
    · cases same
      exact absurd rfl (other name)
    · exact same

theorem sortField_of_refused {order : Order} (refused : r.readSort order = .error e) :
    r.sortField order.field.value = .error e := by
  rcases bind_error_iff.mp refused with refused | ⟨_, _, never⟩
  · exact refused
  · cases never

theorem leaf_of_text (leaf : HasLeaf text w) (read : Query.ofText? r text = .ok q) :
    ∃ c, q.criteria = some c ∧ ∃ k ∈ c.leaves, r.readWording w = .ok k := by
  obtain ⟨s, t, n, rfl, parsed, found, leaf⟩ := leaf
  simp only [Query.ofText?, Query.ofText, parsed, bind_of_ok, Query.ofTree, found, readCriteria,
    bind_ok_iff, map_ok_iff] at read
  obtain ⟨_, ⟨c, read, rfl⟩, sorts, _, same⟩ := read
  cases same
  exact ⟨c, rfl, leaf_of_hasLeaf leaf read⟩

theorem shaped_of_parsed {s : String} (parsed : Tree.ofText s = .ok t) (found : t.criteria = some n) :
    n.Shaped := by
  obtain ⟨ts, _, derivable⟩ := bind_ok_iff.mp parsed
  cases ofTokens_sound derivable with
  | orders => cases found
  | criteria derived =>
    cases found
    exact (criteria_faithful derived).shaped

-- Reading stops at a text that is no query, at one of its leaves or at a field to sort by.
theorem origin_of_refused (refused : Query.ofText? r text = .error e') :
    (∃ s, text = some s ∧ ∀ t, Tree.ofText s ≠ .ok t) ∨
      (∃ w e, HasLeaf text w ∧ r.readWording w = .error e ∧ Passes e e') ∨
        ∃ name, r.sortField name = .error e' := by
  cases text with
  | none => cases refused
  | some s =>
    rcases bind_error_iff.mp refused with refused | ⟨t, parsed, refused⟩
    · exact .inl ⟨s, rfl, fun t parsed => ok_or_error parsed refused⟩
    · rcases bind_error_iff.mp refused with criteria | ⟨_, _, refused⟩
      · cases found : t.criteria with
        | none => simp [found, readCriteria] at criteria
        | some n =>
          rw [found] at criteria
          obtain ⟨w, e, leaf, refused⟩ :=
            hasLeaf_of_refused (shaped_of_parsed parsed found) (map_error_iff.mp criteria)
          exact .inr (.inl ⟨w, e, ⟨s, t, n, rfl, parsed, found, leaf⟩, refused⟩)
      · rcases bind_error_iff.mp refused with sorts | ⟨_, _, never⟩
        · obtain ⟨order, _, refused⟩ := each_error (f := r.readSort) rfl (fun _ _ => rfl) sorts
          exact .inr (.inr ⟨_, sortField_of_refused refused⟩)
        · cases never

theorem parses_of_read (read : Query.ofText? r text = .ok q) :
    ¬∃ s, text = some s ∧ ∀ t, Tree.ofText s ≠ .ok t := by
  rintro ⟨s, rfl, unparsed⟩
  obtain ⟨t, parsed, _⟩ := bind_ok_iff.mp read
  exact unparsed t parsed

theorem hasLeaf_or_sortField (read : Query.ofText? lenient text = .ok q)
    (refused : Query.ofText? strict text = .error (.rejected o))
    (other : ∀ name, o ≠ .notApplicable name .isNot) :
    (∃ w, HasLeaf text w ∧ strict.readWording w = .error (.rejected o)) ∨
      ∃ name, strict.sortField name = .error (.rejected o) := by
  rcases origin_of_refused refused with unparsed | ⟨w, e, leaf, refused, passes⟩ | sort
  · exact absurd unparsed (parses_of_read read)
  · rw [rejected_of_passes passes other] at refused
    exact .inl ⟨w, leaf, refused⟩
  · exact .inr sort

theorem grammatical_of_hasLeaf (shaped : n.Shaped) (leaf : n.HasLeaf w) : w.Grammatical := by
  induction leaf with
  | any mem _ ih =>
    cases shaped with
    | any _ _ each => exact ih (each _ mem)
  | all mem _ ih =>
    cases shaped with
    | all _ _ each => exact ih (each _ mem)
  | negation _ ih =>
    cases shaped with
    | negation _ child => exact ih child
  | group _ ih =>
    cases shaped with
    | group child => exact ih child
  | isNot => exact ⟨rfl, by decide⟩
  | fieldValue _ _ direct =>
    cases shaped with
    | fieldValue category => exact ⟨category, direct⟩
  | field =>
    cases shaped with
    | field category => exact category
  | standalone =>
    cases shaped with
    | standalone category => exact category
  | value =>
    cases shaped with
    | value category => exact category
  | between => trivial

theorem grammatical_of_text (leaf : HasLeaf text w) : w.Grammatical := by
  obtain ⟨s, t, n, _, parsed, found, leaf⟩ := leaf
  exact grammatical_of_hasLeaf (shaped_of_parsed parsed found) leaf

theorem ofText?_refused_iff (sortable : ∀ name, r.sortField name = .ok ()) :
    (∃ e, Query.ofText? r text = .error e) ↔ (∃ s, text = some s ∧ ∀ t, Tree.ofText s ≠ .ok t) ∨
      ∃ w, HasLeaf text w ∧ ∃ e, r.readWording w = .error e := by
  constructor
  · intro h
    obtain ⟨e', refused⟩ := h
    rcases origin_of_refused refused with unparsed | ⟨w, e, leaf, refused, _⟩ | ⟨name, refused⟩
    · exact .inl unparsed
    · exact .inr ⟨w, leaf, e, refused⟩
    · exact ok_or_error (sortable name) refused
  · intro h
    cases read : Query.ofText? r text with
    | error e => exact ⟨e, rfl⟩
    | ok q =>
      rcases h with unparsed | ⟨w, leaf, e, refused⟩
      · exact absurd unparsed (parses_of_read read)
      · obtain ⟨_, _, k, _, meaning⟩ := leaf_of_text leaf read
        exact ok_or_error meaning refused

end LeafReader

end TrackerQuery
