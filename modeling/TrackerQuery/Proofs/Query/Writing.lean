import TrackerQuery.Proofs.Query.Wording
import TrackerQuery.Proofs.Tree.Recognition

namespace TrackerQuery

open TrackerQuery.Text TrackerQuery.Token TrackerQuery.Tree

inductive Criteria.WellFormed (P : κ → Prop) : Criteria κ → Prop where
  | leaf {k} (h : P k) : WellFormed P (leaf k)
  | all {cs} (h : 2 ≤ cs.length) (hs : ∀ c ∈ cs, WellFormed P c) : WellFormed P (all cs)
  | any {cs} (h : 2 ≤ cs.length) (hs : ∀ c ∈ cs, WellFormed P c) : WellFormed P (any cs)
  | negation {c} (h : WellFormed P c) : WellFormed P (negation c)

theorem Criteria.WellFormed.imp {P Q : κ → Prop} {c : Criteria κ} (h : c.WellFormed P)
    (leaf : ∀ k, P k → Q k) : c.WellFormed Q := by
  induction h with
  | leaf h => exact .leaf (leaf _ h)
  | all two _ ih => exact .all two ih
  | any two _ ih => exact .any two ih
  | negation _ ih => exact .negation ih

namespace LeafReader

def Readable (r : LeafReader κ) (k : κ) : Prop :=
  ∃ w : Wording, w.Grammatical ∧ r.readWording w = .ok k

-- The text of the leaf is read as the leaf.
def Spelled [LeafKind κ ε] (r : LeafReader κ) (k : κ) : Prop :=
  ∃ w : Wording, w.Grammatical ∧ w.text = LeafKind.text k ∧ r.readWording w = .ok k

variable {κ : Type} {r : LeafReader κ}

theorem each_ok_iff {f : α → Except Error β} {g : List α → Except Error (List β)}
    (nil : g [] = .ok [])
    (cons : ∀ a as, g (a :: as) = f a >>= fun b => g as >>= fun bs => .ok (b :: bs))
    {as : List α} {bs : List β} : g as = .ok bs ↔ List.Forall₂ (fun a b => f a = .ok b) as bs := by
  induction as generalizing bs with
  | nil =>
    rw [nil, List.forall₂_nil_left_iff, Except.ok.injEq]
    exact eq_comm
  | cons a as ih =>
    simp only [cons, bind_ok_iff, List.forall₂_cons_left_iff, ih, Except.ok.injEq]
    constructor
    · intro h
      obtain ⟨b, first, bs, more, rfl⟩ := h
      exact ⟨b, bs, first, more, rfl⟩
    · intro h
      obtain ⟨b, bs, first, more, rfl⟩ := h
      exact ⟨b, first, bs, more, rfl⟩

theorem each_error {f : α → Except Error β} {g : List α → Except Error (List β)} (nil : g [] = .ok [])
    (cons : ∀ a as, g (a :: as) = f a >>= fun b => g as >>= fun bs => .ok (b :: bs))
    {as : List α} (failed : g as = .error e) : ∃ a ∈ as, f a = .error e := by
  induction as with
  | nil => simp [nil] at failed
  | cons a as ih =>
    rw [cons] at failed
    rcases bind_error_iff.mp failed with first | ⟨b, _, failed⟩
    · exact ⟨a, List.mem_cons_self, first⟩
    · rcases bind_error_iff.mp failed with more | ⟨bs, _, never⟩
      · obtain ⟨a, mem, failed⟩ := ih more
        exact ⟨a, List.mem_cons_of_mem _ mem, failed⟩
      · cases never

theorem readAll_ok_iff : readAll r ns = .ok cs ↔ List.Forall₂ (fun n c => r.read n = .ok c) ns cs :=
  each_ok_iff (f := r.read) (g := readAll r) rfl fun _ _ => rfl

theorem readSorts_ok_iff :
    r.readSorts os = .ok ss ↔ List.Forall₂ (fun o s => r.readSort o = .ok s) os ss :=
  each_ok_iff (f := r.readSort) (g := r.readSorts) rfl fun _ _ => rfl

theorem located_ok_iff : located place x = .ok c ↔ ∃ k, x = .ok k ∧ c = .leaf k := by
  cases x <;> simp [located, eq_comm]

theorem readable_of_located {w : Wording} (grammatical : w.Grammatical)
    (read : located place (r.readWording w) = .ok c) : c.WellFormed r.Readable := by
  obtain ⟨k, meaning, rfl⟩ := located_ok_iff.mp read
  exact .leaf ⟨w, grammatical, meaning⟩

theorem each_wellFormed {P : κ → Prop} {ns : List Node}
    (read : List.Forall₂ (fun n c => r.read n = .ok c) ns cs)
    (each : ∀ n ∈ ns, ∀ c, r.read n = .ok c → c.WellFormed P) : ∀ c ∈ cs, c.WellFormed P := by
  induction read with
  | nil => simp
  | cons first _ ih =>
    intro c mem
    rcases List.mem_cons.mp mem with rfl | mem
    · exact each _ List.mem_cons_self _ first
    · exact ih (fun n mem => each n (List.mem_cons_of_mem _ mem)) c mem

theorem readFieldValue_ok_iff {name content : Literal} :
    r.readFieldValue name op content = .ok c ↔
      (op = .isNot ∧ ∃ k, r.fieldValue name.value .is content.value = .ok k ∧
          c = .negation (.leaf k)) ∨
        (op ≠ .isNot ∧ ∃ k, r.fieldValue name.value op content.value = .ok k ∧ c = .leaf k) := by
  unfold readFieldValue
  by_cases negated : op = .isNot
  · cases r.fieldValue name.value .is content.value <;> simp [negated, eq_comm]
  · cases r.fieldValue name.value op content.value <;> simp [negated, eq_comm]

theorem readFieldValue_wellFormed {name content : Literal} (category : op.category = .fieldValue)
    (read : r.readFieldValue name op content = .ok c) : c.WellFormed r.Readable := by
  obtain ⟨_, k, meaning, rfl⟩ | ⟨direct, k, meaning, rfl⟩ := readFieldValue_ok_iff.mp read
  · exact .negation (.leaf ⟨.fieldValue name.value .is content.value, ⟨rfl, by decide⟩, meaning⟩)
  · exact .leaf ⟨.fieldValue name.value op content.value, ⟨category, direct⟩, meaning⟩

theorem read_wellFormed (shaped : n.Shaped) (read : r.read n = .ok c) : c.WellFormed r.Readable := by
  induction shaped generalizing c with
  | @any ns two _ _ ih =>
    obtain ⟨cs, each, rfl⟩ := map_ok_iff.mp read
    have each := readAll_ok_iff.mp each
    exact .any (each.length_eq ▸ two) (each_wellFormed each fun n mem c => ih n mem)
  | @all ns two _ _ ih =>
    obtain ⟨cs, each, rfl⟩ := map_ok_iff.mp read
    have each := readAll_ok_iff.mp each
    exact .all (each.length_eq ▸ two) (each_wellFormed each fun n mem c => ih n mem)
  | negation _ _ ih =>
    obtain ⟨c, inner, rfl⟩ := map_ok_iff.mp read
    exact .negation (ih inner)
  | group _ ih => exact ih read
  | fieldValue category => exact readFieldValue_wellFormed category read
  | @field field op category => exact readable_of_located (w := .field field.value op) category read
  | @standalone op s category => exact readable_of_located (w := .standalone op) category read
  | @value op value category => exact readable_of_located (w := .value op value.value) category read
  | @between first second =>
    exact readable_of_located (w := .between first.revision second.revision) trivial read

end LeafReader

variable {κ ε : Type} [LeafKind κ ε] {r : LeafReader κ}

structure Query.WellFormed (r : LeafReader κ) (P : κ → Prop) (q : Query κ) : Prop where
  criteria : ∀ c ∈ q.criteria, c.WellFormed P
  sorts : ∀ s ∈ q.sorts, r.sortField s.field = .ok ()

theorem Query.WellFormed.merge {P : κ → Prop} {q q' : Query κ} (h : q.WellFormed r P)
    (h' : q'.WellFormed r P) : (q.merge q').WellFormed r P := by
  obtain ⟨criteria, sorts⟩ := h
  obtain ⟨criteria', sorts'⟩ := h'
  refine ⟨?_, fun s mem => (List.mem_append.mp mem).elim (sorts s) (sorts' s)⟩
  obtain ⟨c, _⟩ := q
  obtain ⟨c', _⟩ := q'
  cases c with
  | none => cases c' <;> exact criteria'
  | some c =>
    cases c' with
    | none => exact criteria
    | some c' =>
      intro both mem
      obtain rfl := Option.some.inj mem
      refine .all (by simp) ?_
      simpa using And.intro (criteria c rfl) (criteria' c' rfl)

theorem readSorts_sortable (read : List.Forall₂ (fun o s => r.readSort o = .ok s) os ss) :
    ∀ s ∈ ss, r.sortField s.field = .ok () := by
  induction read with
  | nil => simp
  | cons first _ ih =>
    intro s mem
    rcases List.mem_cons.mp mem with rfl | mem
    · obtain ⟨⟨⟩, sortable, same⟩ := bind_ok_iff.mp first
      cases same
      exact sortable
    · exact ih s mem

theorem ofTree_wellFormed (derived : Grammar.Query ts t) (read : Query.ofTree r t = .ok q) :
    q.WellFormed r r.Readable := by
  simp only [Query.ofTree, bind_ok_iff] at read
  obtain ⟨criteria, leaves, sorts, sorted, same⟩ := read
  cases same
  refine ⟨?_, readSorts_sortable (LeafReader.readSorts_ok_iff.mp sorted)⟩
  cases derived with
  | orders => cases leaves; simp
  | criteria h =>
    obtain ⟨c, read, rfl⟩ := map_ok_iff.mp leaves
    simpa using LeafReader.read_wellFormed (criteria_faithful h).shaped read

theorem ofText_wellFormed (read : Query.ofText r text = .ok q) : q.WellFormed r r.Readable := by
  simp only [Query.ofText, Tree.ofText, bind_ok_iff] at read
  obtain ⟨t, ⟨ts, _, parsed⟩, read⟩ := read
  exact ofTree_wellFormed (ofTokens_sound parsed) read

theorem ofText?_wellFormed (read : Query.ofText? r text = .ok q) : q.WellFormed r r.Readable := by
  cases text with
  | none =>
    cases read
    exact ⟨by simp [Query.empty], by simp [Query.empty]⟩
  | some text => exact ofText_wellFormed read

theorem writes_chain {derived : List Token → α → Prop} {meant : β → α → Prop} {text : β → String}
    {kind : Token.Kind} {word : String} (keyword : Keyword kind word) (bs : List β)
    (nonempty : bs ≠ []) (each : ∀ b ∈ bs, Writes (text b).toList derived (meant b)) :
    Writes (joined (" " ++ word ++ " ") (bs.map text)).toList (Grammar.Chain kind derived)
      fun as => List.Forall₂ (fun a b => meant b a) as bs := by
  induction bs with
  | nil => exact absurd rfl nonempty
  | cons b bs ih =>
    obtain ⟨kinds, cut, derivable⟩ := each b List.mem_cons_self
    cases bs with
    | nil =>
      refine ⟨kinds, cut, ?_⟩
      intro ts same
      obtain ⟨a, h, meaning⟩ := derivable ts same
      exact ⟨[a], .one h, .cons meaning .nil⟩
    | cons b' bs =>
      obtain ⟨kinds', cut', derivable'⟩ := ih (by simp) fun b mem => each b (List.mem_cons_of_mem _ mem)
      refine ⟨kinds ++ kind :: kinds', ?_, ?_⟩
      · intro rest clear
        have chars : (joined (" " ++ word ++ " ") ((b :: b' :: bs).map text)).toList =
            (text b).toList ++ ((' ' :: (word.toList ++ [' '])) ++
              (joined (" " ++ word ++ " ") ((b' :: bs).map text)).toList) := by
          simp [joined]
        rw [chars]
        exact (cut _ clear_blank).append ((cuts_separator keyword).append (cut' rest clear))
      · intro ts same
        obtain ⟨us, vs, rfl, front, back⟩ := List.map_eq_append_iff.mp same
        obtain ⟨⟨_, s⟩, ws, rfl, rfl, others⟩ := List.map_eq_cons_iff.mp back
        obtain ⟨a, h, meaning⟩ := derivable us front
        obtain ⟨as, hs, meanings⟩ := derivable' ws others
        exact ⟨a :: as, .more s h hs, .cons meaning meanings⟩

namespace Criteria

def operandText (c : Criteria κ) : String :=
  if c.isComposite then "(" ++ c.text ++ ")" else c.text

theorem operandTexts_eq_map (cs : List (Criteria κ)) : operandTexts cs = cs.map operandText := by
  induction cs with
  | nil => rfl
  | cons c cs ih => rw [operandTexts, ih]; rfl

end Criteria

theorem Writes.imp {cs : List Char} {derived : List Token → α → Prop}
    {derived' : List Token → β → Prop} {meant : α → Prop} {meant' : β → Prop}
    (h : Writes cs derived meant) (f : α → β)
    (each : ∀ ts a, derived ts a → meant a → derived' ts (f a) ∧ meant' (f a)) :
    Writes cs derived' meant' := by
  obtain ⟨kinds, cut, derivable⟩ := h
  refine ⟨kinds, cut, ?_⟩
  intro ts same
  obtain ⟨a, h, meaning⟩ := derivable ts same
  exact ⟨f a, each ts a h meaning⟩

-- What stands in parentheses need only be cut in front of the closing one.
theorem writes_enclosed {cs : List Char} {kinds : List Token.Kind}
    (cut : ∀ rest, Cuts cs (')' :: rest) kinds)
    (derivable : ∀ ts, ts.map (·.kind) = kinds → ∃ n, Grammar.Criteria ts n ∧ r.read n = .ok c) :
    Writes ('(' :: (cs ++ [')'])) Grammar.Operand fun n => r.read n = .ok c := by
  refine ⟨.opening :: (kinds ++ [.closing]), ?_, ?_⟩
  · intro rest _
    exact cuts_opening.append ((cut rest).append cuts_closing)
  · intro ts same
    obtain ⟨⟨_, s⟩, us, rfl, rfl, inner⟩ := List.map_eq_cons_iff.mp same
    obtain ⟨vs, ws, rfl, front, back⟩ := List.map_eq_append_iff.mp inner
    obtain ⟨⟨_, s'⟩, none, rfl, rfl, last⟩ := List.map_eq_cons_iff.mp back
    obtain rfl := List.map_eq_nil_iff.mp last
    obtain ⟨n, h, meaning⟩ := derivable vs front
    exact ⟨_, .group s s' h, meaning⟩

theorem writes_group {cs : List Char} (h : Writes cs Grammar.Criteria fun n => r.read n = .ok c) :
    Writes ('(' :: (cs ++ [')'])) Grammar.Operand fun n => r.read n = .ok c := by
  obtain ⟨kinds, cut, derivable⟩ := h
  refine writes_enclosed (fun rest => cut _ ?_) derivable
  have other : isWordChar ')' = false := by decide
  simp [Clear, other]

theorem writes_negation {cs : List Char} (h : Writes cs Grammar.Operand fun n => r.read n = .ok c)
    (opens : ∀ rest, Clear (cs ++ rest)) :
    Writes ("not".toList ++ cs) Grammar.Operand fun n => r.read n = .ok (.negation c) := by
  obtain ⟨kinds, cut, derivable⟩ := h
  refine ⟨.not :: kinds, ?_, ?_⟩
  · intro rest clear
    exact (cuts_keyword not_keyword (opens rest)).append (cut rest clear)
  · intro ts same
    obtain ⟨⟨_, s⟩, us, rfl, rfl, inner⟩ := List.map_eq_cons_iff.mp same
    obtain ⟨n, h, meaning⟩ := derivable us inner
    exact ⟨_, .negation s h, by simp [LeafReader.read, meaning, Except.map]⟩

theorem writes_operand (h : Writes c.text.toList Grammar.Criteria fun n => r.read n = .ok c)
    (alone : c.isComposite = false →
      Writes c.text.toList Grammar.Operand fun n => r.read n = .ok c) :
    Writes c.operandText.toList Grammar.Operand fun n => r.read n = .ok c := by
  unfold Criteria.operandText
  by_cases composite : c.isComposite = true
  · rw [if_pos composite]
    have chars : ("(" ++ c.text ++ ")").toList = '(' :: (c.text.toList ++ [')']) := by simp
    rw [chars]
    exact writes_group h
  · rw [if_neg composite]
    exact alone (by simpa using composite)

theorem chain_imp {kind : Token.Kind} {item item' : List Token → α → Prop}
    (h : Grammar.Chain kind item ts as) (each : ∀ {ts a}, item ts a → item' ts a) :
    Grammar.Chain kind item' ts as := by
  induction h with
  | one h => exact .one (each h)
  | more s h _ ih => exact .more s (each h) ih

theorem conjunction_one (h : Grammar.Operand ts n) : Grammar.Conjunction ts n :=
  .all (.one h)

theorem criteria_one (h : Grammar.Conjunction ts n) : Grammar.Criteria ts n :=
  .any (.one h)

theorem join_of_two (two : 2 ≤ ns.length) : Node.join node ns = node ns := by
  match ns, two with
  | _ :: _ :: _, _ => rfl

theorem writes_criteria {c : Criteria κ} (h : c.WellFormed r.Spelled) :
    (Writes c.text.toList Grammar.Criteria fun n => r.read n = .ok c) ∧
      (c.isComposite = false → Writes c.text.toList Grammar.Operand fun n => r.read n = .ok c) := by
  have whole : ∀ {c : Criteria κ}, (Writes c.text.toList Grammar.Operand fun n => r.read n = .ok c) →
      Writes c.text.toList Grammar.Criteria fun n => r.read n = .ok c := by
    intro c h
    exact h.imp id fun _ _ derived meaning => ⟨criteria_one (conjunction_one derived), meaning⟩
  induction h with
  | @leaf k spelled =>
    obtain ⟨w, grammatical, same, read⟩ := spelled
    have leaf := writes_wording grammatical read
    rw [same] at leaf
    exact ⟨whole leaf, fun _ => leaf⟩
  | @all cs two _ ih =>
    refine ⟨?_, fun alone => by simp [Criteria.isComposite] at alone⟩
    have chain := writes_chain and_keyword cs (by intro empty; simp [empty] at two)
      fun c mem => writes_operand (ih c mem).1 (ih c mem).2
    rw [Criteria.text, Criteria.operandTexts_eq_map]
    refine chain.imp (Node.join .all) ?_
    intro ts ns derived meaning
    refine ⟨criteria_one (.all derived), ?_⟩
    rw [join_of_two (meaning.length_eq ▸ two)]
    simp [LeafReader.read, LeafReader.readAll_ok_iff.mpr meaning, Except.map]
  | @any cs two _ ih =>
    refine ⟨?_, fun alone => by simp [Criteria.isComposite] at alone⟩
    have chain := writes_chain or_keyword cs (by intro empty; simp [empty] at two)
      fun c mem => writes_operand (ih c mem).1 (ih c mem).2
    rw [Criteria.text, Criteria.operandTexts_eq_map]
    refine chain.imp (Node.join .any) ?_
    intro ts ns derived meaning
    refine ⟨.any (chain_imp derived conjunction_one), ?_⟩
    rw [join_of_two (meaning.length_eq ▸ two)]
    simp [LeafReader.read, LeafReader.readAll_ok_iff.mpr meaning, Except.map]
  | @negation c _ ih =>
    have chars : (Criteria.negation c).text.toList =
        "not".toList ++ '(' :: (c.text.toList ++ [')']) := by
      simp [Criteria.text]
    have negated : Writes (Criteria.negation c).text.toList Grammar.Operand
        fun n => r.read n = .ok (.negation c) := by
      rw [chars]
      exact writes_negation (writes_group ih.1) fun rest => by
        have other : isWordChar '(' = false := by decide
        simp [Clear, other]
    exact ⟨whole negated, fun _ => negated⟩

theorem writes_entry {kind : Token.Kind} {word : String} {ascending : Bool}
    (keyword : Keyword kind word)
    (entry : ∀ {name} s, Grammar.Entry [Literal.token name, ⟨kind, s⟩] ⟨name, some ascending⟩)
    (name : String) :
    Writes (quote name ++ " " ++ word).toList Grammar.Entry
      fun o => o.field.value = name ∧ o.ascending = some ascending := by
  have chars : (quote name ++ " " ++ word).toList = (quote name).toList ++ ([' '] ++ word.toList) := by
    simp
  refine ⟨[.quoted (escape name), kind], ?_, ?_⟩
  · intro rest clear
    rw [chars]
    exact (cuts_quote name).append (cuts_space.append (cuts_keyword keyword clear))
  · intro ts same
    match ts, same with
    | [⟨_, s⟩, ⟨_, s'⟩], rfl =>
      exact ⟨_, @entry (writtenLiteral name s) s', writtenLiteral_value name s, rfl⟩

theorem writes_sort {s : SortKey} (sortable : r.sortField s.field = .ok ()) :
    Writes s.text.toList Grammar.Entry fun o => r.readSort o = .ok s := by
  obtain ⟨name, direction⟩ := s
  cases direction with
  | ascending =>
    refine (writes_entry direction_keyword.1 .ascending name).imp id ?_
    intro ts o derived h
    refine ⟨derived, ?_⟩
    obtain ⟨rfl, up⟩ := h
    simp [LeafReader.readSort, up, sortable]
  | descending =>
    refine (writes_entry direction_keyword.2 .descending name).imp id ?_
    intro ts o derived h
    refine ⟨derived, ?_⟩
    obtain ⟨rfl, down⟩ := h
    simp [LeafReader.readSort, down, sortable]

theorem writes_sorts {ss : List SortKey} (nonempty : ss ≠ [])
    (sortable : ∀ s ∈ ss, r.sortField s.field = .ok ()) :
    Writes ("order by".toList ++ ' ' :: (joined " and " (ss.map SortKey.text)).toList) Grammar.Orders
      fun os => r.readSorts os = .ok ss := by
  obtain ⟨kinds, cut, derivable⟩ :=
    writes_chain and_keyword ss nonempty fun s mem => writes_sort (sortable s mem)
  refine ⟨.orderBy :: kinds, ?_, ?_⟩
  · intro rest clear
    exact (cuts_keyword orderBy_keyword clear_blank).append (cuts_space.append (cut rest clear))
  · intro ts same
    obtain ⟨⟨_, s⟩, us, rfl, rfl, entries⟩ := List.map_eq_cons_iff.mp same
    obtain ⟨os, h, meaning⟩ := derivable us entries
    refine ⟨os, ?_, LeafReader.readSorts_ok_iff.mpr meaning⟩
    simpa using Grammar.Orders.clause s h .nil

theorem Writes.both {cs ds : List Char} {derived : List Token → α → Prop}
    {derived' : List Token → β → Prop} {meant : α → Prop} {meant' : β → Prop}
    (h : Writes cs derived meant) (h' : Writes ds derived' meant') :
    Writes (cs ++ ' ' :: ds)
      (fun ts (p : α × β) => ∃ us vs, ts = us ++ vs ∧ derived us p.1 ∧ derived' vs p.2)
      fun p => meant p.1 ∧ meant' p.2 := by
  obtain ⟨kinds, cut, derivable⟩ := h
  obtain ⟨kinds', cut', derivable'⟩ := h'
  refine ⟨kinds ++ kinds', ?_, ?_⟩
  · intro rest clear
    exact (cut _ clear_blank).append (cuts_space.append (cut' rest clear))
  · intro ts same
    obtain ⟨us, vs, rfl, front, back⟩ := List.map_eq_append_iff.mp same
    obtain ⟨a, first, meaning⟩ := derivable us front
    obtain ⟨b, second, meaning'⟩ := derivable' vs back
    exact ⟨(a, b), ⟨us, vs, rfl, first, second⟩, meaning, meaning'⟩

theorem writes_query {q : Query κ} (h : q.WellFormed r r.Spelled) :
    Writes q.text.toList Grammar.Query fun t => Query.ofTree r t = .ok q := by
  obtain ⟨criteria, sorts⟩ := q
  obtain ⟨wellFormed, sortable⟩ := h
  cases sorts with
  | nil =>
    cases criteria with
    | none =>
      refine ⟨[], fun rest _ => cuts_nil, ?_⟩
      intro ts same
      rw [List.map_eq_nil_iff.mp same]
      exact ⟨_, .orders .nil, rfl⟩
    | some c =>
      refine (writes_criteria (wellFormed c rfl)).1.imp (fun n => ⟨some n, []⟩) ?_
      intro ts n derived meaning
      constructor
      · simpa using Grammar.Query.criteria derived .nil
      · simp [Query.ofTree, LeafReader.readCriteria, LeafReader.readSorts, meaning, Except.map]
  | cons s ss =>
    have sorted := writes_sorts (List.cons_ne_nil s ss) sortable
    cases criteria with
    | none =>
      have chars : (Query.mk (none : Option (Criteria κ)) (s :: ss)).text.toList = "order by".toList
          ++ ' ' :: (joined " and " ((s :: ss).map SortKey.text)).toList := by simp [Query.text]
      rw [chars]
      refine sorted.imp (fun os => ⟨none, os⟩) ?_
      intro ts os derived meaning
      refine ⟨.orders derived, ?_⟩
      simp [Query.ofTree, LeafReader.readCriteria, meaning]
    | some c =>
      have chars : (Query.mk (some c) (s :: ss)).text.toList = c.text.toList ++ ' ' ::
          ("order by".toList ++ ' ' :: (joined " and " ((s :: ss).map SortKey.text)).toList) := by
        simp [Query.text]
      rw [chars]
      refine ((writes_criteria (wellFormed c rfl)).1.both sorted).imp (fun p => ⟨some p.1, p.2⟩) ?_
      intro ts p derived meant
      obtain ⟨us, vs, rfl, first, second⟩ := derived
      obtain ⟨meaning, meaning'⟩ := meant
      refine ⟨.criteria first second, ?_⟩
      simp [Query.ofTree, LeafReader.readCriteria, meaning, meaning', Except.map]

theorem ofText_of_writes {text : String}
    (h : Writes text.toList Grammar.Query fun t => Query.ofTree r t = .ok q) :
    Query.ofText r text = .ok q := by
  obtain ⟨kinds, cut, derivable⟩ := h
  obtain ⟨ts, same, cutting⟩ := tokenize_of_cuts (cut [] rfl)
  obtain ⟨t, derived, meaning⟩ := derivable ts same
  simp [Query.ofText, Tree.ofText, cutting, ofTokens_complete derived, meaning]

theorem ofText_wording {w : Wording} {k : κ} (grammatical : w.Grammatical)
    (read : r.readWording w = .ok k) : Query.ofText r w.text = .ok ⟨some (.leaf k), []⟩ := by
  refine ofText_of_writes ((writes_wording grammatical read).imp (fun n => ⟨some n, []⟩) ?_)
  intro ts n derived meaning
  constructor
  · simpa using Grammar.Query.criteria (criteria_one (conjunction_one derived)) .nil
  · simp [Query.ofTree, LeafReader.readCriteria, LeafReader.readSorts, meaning, Except.map]

@[simp] theorem Query.isSatisfied_leaf (ctx : MatchContext) (entity : ε) (k : κ) (sorts : List SortKey) :
    Query.isSatisfied ctx entity ⟨some (.leaf k), sorts⟩ = LeafKind.holds ctx entity k := rfl

-- The text of what was read is read as the same, as soon as that holds of each leaf.
theorem ofText?_text (stable : ∀ k, r.Readable k → r.Spelled k)
    (read : Query.ofText? r text = .ok q) : Query.ofText? r (some q.text) = .ok q := by
  obtain ⟨criteria, sorts⟩ := ofText?_wellFormed read
  exact ofText_of_writes (writes_query ⟨fun c mem => (criteria c mem).imp stable, sorts⟩)

end TrackerQuery
