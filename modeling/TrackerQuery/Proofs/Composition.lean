import TrackerQuery.Proofs.RoundTrip
import TrackerQuery.Proofs.Token.Enclosing

namespace TrackerQuery

open TrackerQuery.Text TrackerQuery.Token TrackerQuery.Tree

def enclosed (text : String) : String :=
  "(" ++ text ++ ")"

-- Texts that are read one by one are read together, and the merged query asks for what both ask for.
structure Query.Composes [LeafKind κ ε] (read : Option String → Except Error (Query κ)) : Prop where
  conjunction : ∀ a b c d, read (some a) = .ok ⟨some c, []⟩ → read (some b) = .ok ⟨some d, []⟩ →
    read (some (enclosed a ++ " and " ++ enclosed b)) = .ok (merge ⟨some c, []⟩ ⟨some d, []⟩) ∧
      merge ⟨some c, []⟩ ⟨some d, []⟩ = ⟨some (.all [c, d]), []⟩
  disjunction : ∀ a b c d, read (some a) = .ok ⟨some c, []⟩ → read (some b) = .ok ⟨some d, []⟩ →
    read (some (enclosed a ++ " or " ++ enclosed b)) = .ok ⟨some (.any [c, d]), []⟩
  negation : ∀ a c, read (some a) = .ok ⟨some c, []⟩ →
    read (some ("not " ++ enclosed a)) = .ok ⟨some (.negation c), []⟩
  merged : ∀ a b q q', read a = .ok q → read b = .ok q' →
    read (some (q.merge q').text) = .ok (q.merge q') ∧
      (q.merge q').sorts = q.sorts ++ q'.sorts ∧
      ∀ m entity, (q.merge q').isSatisfied m entity = true ↔
        q.isSatisfied m entity = true ∧ q'.isSatisfied m entity = true
  empty : ∀ q : Query κ, empty.merge q = q ∧ q.merge empty = q

-- Whatever one node is read as, the other one is.
def LeafReader.Follows (r : LeafReader κ) (n m : Node) : Prop :=
  ∀ c, r.read n = .ok c → r.read m = .ok c

-- The same is derived from all tokens of the same kinds, as far as `same` can tell.
def Retold (derived : List Token → α → Prop) (same : α → α → Prop) (ts : List Token) (a : α) : Prop :=
  ∀ us, us.map (·.kind) = ts.map (·.kind) → ∃ b, derived us b ∧ same a b

variable {κ ε : Type} [LeafKind κ ε] {r : LeafReader κ} {ts : List Token} {n : Node}

theorem cons_of_kinds {us : List Token} {kind : Token.Kind} {kinds : List Token.Kind}
    (h : us.map (·.kind) = kind :: kinds) :
    ∃ s vs, us = ⟨kind, s⟩ :: vs ∧ vs.map (·.kind) = kinds := by
  obtain ⟨⟨_, s⟩, vs, rfl, rfl, rest⟩ := List.map_eq_cons_iff.mp h
  exact ⟨s, vs, rfl, rest⟩

theorem retold_chain {derived : List Token → α → Prop} {same : α → α → Prop}
    {separator : Token.Kind} {as : List α} (h : Grammar.Chain separator (Retold derived same) ts as) :
    Retold (Grammar.Chain separator derived) (List.Forall₂ same) ts as := by
  induction h with
  | one item =>
    intro us kinds
    obtain ⟨b, h, like⟩ := item us kinds
    exact ⟨[b], .one h, .cons like .nil⟩
  | more s item _ ih =>
    intro us kinds
    rw [List.map_append, List.map_cons] at kinds
    obtain ⟨first, rest, rfl, front, back⟩ := List.map_eq_append_iff.mp kinds
    obtain ⟨s', others, rfl, more⟩ := cons_of_kinds back
    obtain ⟨b, h, like⟩ := item first front
    obtain ⟨bs, hs, likes⟩ := ih others more
    exact ⟨b :: bs, .more s' h hs, .cons like likes⟩

namespace LeafReader

theorem follows_located {place place' : Span} {x : Except Error κ} {c : Criteria κ}
    (read : located place x = .ok c) : located place' x = .ok c := by
  rw [located_ok_iff] at read ⊢
  exact read

theorem retold_leaf (h : Grammar.Leaf ts n) : Retold Grammar.Leaf r.Follows ts n := by
  intro us kinds
  cases h with
  | @fieldValue field op value s category =>
    obtain ⟨s₁, _, rfl, rest₁⟩ := cons_of_kinds kinds
    obtain ⟨s₂, _, rfl, rest₂⟩ := cons_of_kinds rest₁
    obtain ⟨s₃, _, rfl, rest₃⟩ := cons_of_kinds rest₂
    obtain rfl := List.map_eq_nil_iff.mp rest₃
    refine ⟨_, @Grammar.Leaf.fieldValue ⟨field.raw, s₁⟩ op ⟨value.raw, s₃⟩ s₂ category, ?_⟩
    intro c read
    have meant := readFieldValue_ok_iff.mp read
    exact readFieldValue_ok_iff.mpr meant
  | @field field op s category =>
    obtain ⟨s₁, _, rfl, rest₁⟩ := cons_of_kinds kinds
    obtain ⟨s₂, _, rfl, rest₂⟩ := cons_of_kinds rest₁
    obtain rfl := List.map_eq_nil_iff.mp rest₂
    exact ⟨_, @Grammar.Leaf.field ⟨field.raw, s₁⟩ op s₂ category, fun _ => follows_located⟩
  | standalone s category =>
    obtain ⟨s₁, _, rfl, rest₁⟩ := cons_of_kinds kinds
    obtain rfl := List.map_eq_nil_iff.mp rest₁
    exact ⟨_, .standalone s₁ category, fun _ => follows_located⟩
  | @value op value s category =>
    obtain ⟨s₁, _, rfl, rest₁⟩ := cons_of_kinds kinds
    obtain ⟨s₂, _, rfl, rest₂⟩ := cons_of_kinds rest₁
    obtain rfl := List.map_eq_nil_iff.mp rest₂
    exact ⟨_, @Grammar.Leaf.value op ⟨value.raw, s₂⟩ s₁ category, fun _ => follows_located⟩
  | between s s' first second =>
    cases first with
    | @named kind value =>
      cases second with
      | @named kind' value' =>
        obtain ⟨s₁, _, rfl, rest₁⟩ := cons_of_kinds kinds
        obtain ⟨s₂, _, rfl, rest₂⟩ := cons_of_kinds rest₁
        obtain ⟨s₃, _, rfl, rest₃⟩ := cons_of_kinds rest₂
        obtain ⟨s₄, _, rfl, rest₄⟩ := cons_of_kinds rest₃
        obtain ⟨s₅, _, rfl, rest₅⟩ := cons_of_kinds rest₄
        obtain ⟨s₆, _, rfl, rest₆⟩ := cons_of_kinds rest₅
        obtain rfl := List.map_eq_nil_iff.mp rest₆
        have start := @Grammar.Endpoint.named kind ⟨value.raw, s₃⟩ s₂
        have stop := @Grammar.Endpoint.named kind' ⟨value'.raw, s₆⟩ s₅
        exact ⟨_, .between s₁ s₄ start stop, fun _ => follows_located⟩

theorem follows_join {node : List Node → Node} {ns ms : List Node}
    (each : List.Forall₂ r.Follows ns ms)
    (whole : r.Follows (node ns) (node ms)) : r.Follows (Node.join node ns) (Node.join node ms) := by
  match each with
  | .nil => exact whole
  | .cons first .nil => exact first
  | .cons _ (.cons _ _) => exact whole

theorem follows_readAll {ns ms : List Node} {cs : List (Criteria κ)}
    (each : List.Forall₂ r.Follows ns ms) (read : r.readAll ns = .ok cs) : r.readAll ms = .ok cs := by
  rw [readAll_ok_iff] at read ⊢
  induction each generalizing cs with
  | nil => exact read
  | cons first _ ih =>
    cases read with
    | cons head tail => exact .cons (first _ head) (ih tail)

theorem retold_criteria (h : Grammar.Criteria ts n) : Retold Grammar.Criteria r.Follows ts n := by
  refine Grammar.induction (Retold Grammar.Criteria r.Follows) (Retold Grammar.Conjunction r.Follows)
    (Retold Grammar.Operand r.Follows) ?any ?all ?negation ?group ?leaf h
  · intro ts ns chain us kinds
    obtain ⟨ms, derived, each⟩ := retold_chain chain us kinds
    refine ⟨_, .any derived, follows_join each fun c read => ?_⟩
    obtain ⟨cs, inner, rfl⟩ := map_ok_iff.mp read
    exact map_ok_iff.mpr ⟨cs, follows_readAll each inner, rfl⟩
  · intro ts ns chain us kinds
    obtain ⟨ms, derived, each⟩ := retold_chain chain us kinds
    refine ⟨_, .all derived, follows_join each fun c read => ?_⟩
    obtain ⟨cs, inner, rfl⟩ := map_ok_iff.mp read
    exact map_ok_iff.mpr ⟨cs, follows_readAll each inner, rfl⟩
  · intro ts n s child us kinds
    obtain ⟨s', others, rfl, rest⟩ := cons_of_kinds kinds
    obtain ⟨m, derived, follows⟩ := child others rest
    refine ⟨_, .negation s' derived, fun c read => ?_⟩
    obtain ⟨c, inner, rfl⟩ := map_ok_iff.mp read
    exact map_ok_iff.mpr ⟨c, follows c inner, rfl⟩
  · intro ts n s s' child us kinds
    rw [List.map_cons, List.map_append, List.map_singleton] at kinds
    obtain ⟨t, inner, rfl, rest⟩ := cons_of_kinds kinds
    obtain ⟨vs, last, rfl, front, back⟩ := List.map_eq_append_iff.mp rest
    obtain ⟨t', none, rfl, nothing⟩ := cons_of_kinds back
    obtain rfl := List.map_eq_nil_iff.mp nothing
    obtain ⟨m, derived, follows⟩ := child vs front
    exact ⟨_, .group t t' derived, follows⟩
  · intro ts n leaf us kinds
    obtain ⟨m, derived, follows⟩ := retold_leaf leaf us kinds
    exact ⟨m, .leaf derived, follows⟩

end LeafReader

theorem orders_of_unsorted (h : Grammar.Orders ts []) : ts = [] := by
  generalize none : [] = os at h
  cases h with
  | nil => rfl
  | clause s entries more =>
    cases entries <;> cases none

theorem criteria_of_read {text : String} (read : Query.ofText r text = .ok ⟨some c, []⟩) :
    ∃ ts n, tokenize text = .ok ts ∧ Grammar.Criteria ts n ∧ r.read n = .ok c := by
  simp only [Query.ofText, Query.ofTree, Tree.ofText, bind_ok_iff] at read
  obtain ⟨t, ⟨ts, cut, parsed⟩, criteria, leaves, sorts, sorted, same⟩ := read
  cases same
  rw [LeafReader.readSorts_ok_iff] at sorted
  cases ofTokens_sound parsed with
  | orders => cases leaves
  | @criteria ts us n os derived orders =>
    cases sorted
    obtain rfl := orders_of_unsorted orders
    obtain ⟨_, read, same⟩ := map_ok_iff.mp leaves
    cases same
    exact ⟨ts, n, by rwa [List.append_nil] at cut, derived, read⟩

theorem toList_enclosed (text : String) :
    (enclosed text).toList = '(' :: (text.toList ++ [')']) := by
  simp [enclosed]

theorem writes_read {text : String} (read : Query.ofText r text = .ok ⟨some c, []⟩) :
    Writes (enclosed text).toList Grammar.Operand fun n => r.read n = .ok c := by
  obtain ⟨ts, n, cut, derived, meaning⟩ := criteria_of_read read
  rw [toList_enclosed]
  refine writes_enclosed (fun rest => (tokenize_iff.mp cut).cuts apart_closing) ?_
  intro us kinds
  obtain ⟨m, derived', follows⟩ := LeafReader.retold_criteria derived us kinds
  exact ⟨m, derived', follows c meaning⟩

theorem ofText_of_criteria {text : String}
    (h : Writes text.toList Grammar.Criteria fun n => r.read n = .ok c) :
    Query.ofText r text = .ok ⟨some c, []⟩ := by
  refine ofText_of_writes (h.imp (fun n => ⟨some n, []⟩) ?_)
  intro ts n derived meaning
  constructor
  · simpa using Grammar.Query.criteria derived .nil
  · simp [Query.ofTree, LeafReader.readCriteria, LeafReader.readSorts, meaning, Except.map]

theorem ofText_pair {a b word : String} {kind : Token.Kind} (keyword : Keyword kind word)
    {node : List Node → Node} {make : List (Criteria κ) → Criteria κ}
    (derives : ∀ {ts ns}, Grammar.Chain kind Grammar.Operand ts ns →
      Grammar.Criteria ts (Node.join node ns))
    (means : ∀ {ns cs}, r.readAll ns = .ok cs → r.read (node ns) = .ok (make cs))
    (read : Query.ofText r a = .ok ⟨some c, []⟩) (read' : Query.ofText r b = .ok ⟨some d, []⟩) :
    Query.ofText r (enclosed a ++ (" " ++ word ++ " ") ++ enclosed b) =
      .ok ⟨some (make [c, d]), []⟩ := by
  have parts : ∀ p ∈ [(a, c), (b, d)], Writes (enclosed p.1).toList Grammar.Operand
      fun n => r.read n = .ok p.2 := by
    simp [writes_read read, writes_read read']
  have chain := writes_chain keyword [(a, c), (b, d)] (by simp) parts
  refine ofText_of_criteria (chain.imp (Node.join node) ?_)
  intro ts ns derived meaning
  refine ⟨derives derived, ?_⟩
  rw [join_of_two (by simp [meaning.length_eq])]
  have each : List.Forall₂ (fun n c => r.read n = .ok c) ns ([(a, c), (b, d)].map Prod.snd) :=
    List.forall₂_map_right_iff.mpr meaning
  exact means (LeafReader.readAll_ok_iff.mpr each)

theorem ofText_negation {a : String} (read : Query.ofText r a = .ok ⟨some c, []⟩) :
    Query.ofText r ("not " ++ enclosed a) = .ok ⟨some (.negation c), []⟩ := by
  obtain ⟨kinds, cut, derivable⟩ := writes_read read
  have spaced : Writes (' ' :: (enclosed a).toList) Grammar.Operand fun n => r.read n = .ok c :=
    ⟨kinds, fun rest clear => cuts_space.append (cut rest clear), derivable⟩
  have chars : ("not " ++ enclosed a).toList = "not".toList ++ ' ' :: (enclosed a).toList := by simp
  refine ofText_of_criteria (chars ▸ ?_)
  refine (writes_negation spaced fun rest => clear_blank).imp id ?_
  intro ts n derived meaning
  exact ⟨criteria_one (conjunction_one derived), meaning⟩

namespace Query

theorem isSatisfied_merge (q q' : Query κ) (m : MatchContext) (entity : ε) :
    (q.merge q').isSatisfied m entity = true ↔
      q.isSatisfied m entity = true ∧ q'.isSatisfied m entity = true := by
  obtain ⟨c, _⟩ := q
  obtain ⟨c', _⟩ := q'
  cases c <;> cases c' <;> simp [merge, isSatisfied, Criteria.isSatisfied]

theorem empty_merge (q : Query κ) : empty.merge q = q := by
  obtain ⟨c, _⟩ := q
  cases c <;> rfl

theorem merge_empty (q : Query κ) : q.merge empty = q := by
  obtain ⟨c, ss⟩ := q
  cases c <;> simp [merge, empty]

theorem composes (stable : ∀ k, r.Readable k → r.Spelled k) : Composes (ofText? r) where
  conjunction a b c d read read' := by
    refine ⟨?_, rfl⟩
    refine ofText_pair and_keyword (fun derived => criteria_one (.all derived)) ?_ read read'
    intro ns cs inner
    exact map_ok_iff.mpr ⟨cs, inner, rfl⟩
  disjunction a b c d read read' := by
    refine ofText_pair or_keyword (fun derived => .any (chain_imp derived conjunction_one)) ?_ read
      read'
    intro ns cs inner
    exact map_ok_iff.mpr ⟨cs, inner, rfl⟩
  negation a c read := ofText_negation read
  merged a b q q' read read' := by
    refine ⟨?_, rfl, isSatisfied_merge q q'⟩
    have whole := (ofText?_wellFormed read).merge (ofText?_wellFormed read')
    exact ofText_of_writes (writes_query ⟨fun c mem => (whole.criteria c mem).imp stable, whole.sorts⟩)
  empty q := ⟨empty_merge q, merge_empty q⟩

end Query

theorem queries_compose (ctx : ReadContext) (validate : Bool) :
    Query.Composes (Issue.Query.read ctx · validate) ∧
      Query.Composes (PullRequest.Query.read ctx · validate) ∧
      Query.Composes (Project.Query.read ctx · validate) :=
  ⟨Query.composes fun _ => Issue.spelled_of_readable,
    Query.composes fun _ => PullRequest.spelled_of_readable,
    Query.composes fun _ => Project.spelled_of_readable⟩

theorem queries_compose_chain :
    let ctx : ReadContext := ⟨none, Setting.demo, Repository.empty.resolver, ⟨0, 0⟩⟩
    let a := "\"title\" contains \")\" or submitted by me"
    let b := "\"State\" is not \"5\" "
    ∃ c d, Issue.Query.read ctx (some a) false = .ok ⟨some c, []⟩ ∧
      Issue.Query.read ctx (some b) false = .ok ⟨some d, []⟩ ∧
      Issue.Query.read ctx (some (enclosed a ++ " and " ++ enclosed b)) false =
        .ok (Query.merge ⟨some c, []⟩ ⟨some d, []⟩) := by
  intro ctx a b
  have first : Issue.Query.read ctx (some a) false =
      .ok ⟨some (.any [.leaf (.title ")"), .leaf .submittedByMe]), []⟩ := by
    decide +kernel
  have second : Issue.Query.read ctx (some b) false =
      .ok ⟨some (.negation (.leaf (.stringField "State" "5" false))), []⟩ := by
    decide +kernel
  obtain ⟨issues, _⟩ := queries_compose ctx false
  exact ⟨_, _, first, second, (issues.conjunction a b _ _ first second).1⟩

end TrackerQuery
