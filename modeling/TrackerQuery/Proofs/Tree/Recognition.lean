import TrackerQuery.Proofs.Tree.Derivation

namespace TrackerQuery.Tree

theorem Spell.append (h : Spell ts ms) (h' : Spell us ns) : Spell (ts ++ us) (ms ++ ns) :=
  List.rel_append h h'

theorem spell_exact (t : Token) : Spell [t] [.ofToken t] :=
  .cons ⟨rfl, by simp [Mark.ofToken]⟩ .nil

theorem spell_keyword (kind : Token.Kind) (s : Span) : Spell [⟨kind, s⟩] [.keyword kind] :=
  .cons ⟨rfl, by simp [Mark.keyword]⟩ .nil

theorem endpoint_spell (h : Grammar.Endpoint ts e) : Spell ts e.marks := by
  cases h with
  | @named kind value s => exact (spell_keyword _ s).append (spell_exact value.token)

theorem leaf_spell (h : Grammar.Leaf ts n) : Spell ts n.marks := by
  cases h with
  | @fieldValue field op value s _ =>
    exact (spell_exact field.token).append ((spell_keyword _ s).append (spell_exact value.token))
  | @field field op s _ => exact (spell_exact field.token).append (spell_keyword _ s)
  | @standalone op s _ => exact spell_exact ⟨.operator op, s⟩
  | @value op value s _ => exact (spell_keyword _ s).append (spell_exact value.token)
  | between s s' h h' =>
    exact (spell_keyword _ s).append
      ((endpoint_spell h).append ((spell_keyword _ s').append (endpoint_spell h')))

theorem chain_spell (h : Grammar.Chain separator item ts ns)
    (each : ∀ {ts n}, item ts n → Spell ts n.marks) : Spell ts (separatedMarks separator ns) := by
  induction h with
  | one h => exact each h
  | @more ts us n ns s h hs ih =>
    have rest := (spell_keyword separator s).append ih
    cases hs with
    | one _ => exact (each h).append rest
    | more _ _ _ => exact (each h).append rest

theorem chain_forall {P : α → Prop} (h : Grammar.Chain separator item ts as)
    (each : ∀ {ts a}, item ts a → P a) : ∀ a ∈ as, P a := by
  induction h with
  | one h => simpa using each h
  | more s h hs ih =>
    intro a mem
    rcases List.mem_cons.mp mem with rfl | mem
    · exact each h
    · exact ih a mem

theorem join_cases {P : Node → Prop} (h : Grammar.Chain separator item ts ns)
    (one : ∀ n, ns = [n] → P n) (more : 2 ≤ ns.length → P (node ns)) : P (Node.join node ns) := by
  cases h with
  | one h => exact one _ rfl
  | more s h hs => cases hs <;> exact more (by simp)

structure Faithful (strength : Nat) (ts : List Token) (n : Node) : Prop where
  strength : strength ≤ n.strength
  shaped : n.Shaped
  spell : Spell ts n.marks

theorem leaf_faithful (h : Grammar.Leaf ts n) : Faithful 2 ts n := by
  refine ⟨?_, ?_, leaf_spell h⟩
  · cases h <;> exact Nat.le_refl _
  · cases h with
    | fieldValue s category => exact .fieldValue category
    | field s category => exact .field category
    | standalone s category => exact .standalone category
    | value s category => exact .value category
    | between s s' h h' => exact .between

theorem criteria_faithful (h : Grammar.Criteria ts n) : Faithful 0 ts n := by
  refine Grammar.induction (Faithful 0) (Faithful 1) (Faithful 2) ?any ?all ?negation ?group
    leaf_faithful h
  case any =>
    intro ts ns chain
    have spell := chain_spell chain Faithful.spell
    refine join_cases chain ?_ fun two => ⟨Nat.zero_le _, .any two ?_ ?_, spell⟩
    · intro n alone
      subst alone
      exact ⟨Nat.zero_le _, chain_forall chain Faithful.shaped n (by simp), spell⟩
    · exact chain_forall chain Faithful.strength
    · exact chain_forall chain Faithful.shaped
  case all =>
    intro ts ns chain
    have spell := chain_spell chain Faithful.spell
    refine join_cases chain ?_ fun two => ⟨Nat.le_refl _, .all two ?_ ?_, spell⟩
    · intro n alone
      subst alone
      have strong := chain_forall chain Faithful.strength n (by simp)
      exact ⟨Nat.le_of_succ_le strong, chain_forall chain Faithful.shaped n (by simp), spell⟩
    · exact chain_forall chain Faithful.strength
    · exact chain_forall chain Faithful.shaped
  case negation =>
    intro ts n s h
    exact ⟨Nat.le_refl _, .negation h.strength h.shaped, (spell_keyword _ s).append h.spell⟩
  case group =>
    intro ts n s s' h
    exact ⟨Nat.le_refl _, .group h.shaped,
      (spell_keyword _ s).append (h.spell.append (spell_keyword _ s'))⟩

end TrackerQuery.Tree

namespace TrackerQuery

def Token.isQuoted (t : Token) : Bool :=
  match t.kind with
  | .quoted _ => true
  | _ => false

namespace Tree

theorem entry_quoted (h : Grammar.Entry ts o) : ts.filter Token.isQuoted = [o.field.token] := by
  cases h <;> rfl

theorem entries_quoted (h : Grammar.Chain .and Grammar.Entry ts os) :
    ts.filter Token.isQuoted = os.map (·.field.token) := by
  induction h with
  | one h => simpa using entry_quoted h
  | more s h hs ih =>
    rw [List.filter_append, entry_quoted h, List.filter_cons_of_neg (by simp [Token.isQuoted]), ih]
    rfl

theorem orders_quoted (h : Grammar.Orders ts os) :
    ts.filter Token.isQuoted = os.map (·.field.token) := by
  induction h with
  | nil => rfl
  | clause s h hs ih =>
    rw [List.filter_cons_of_neg (by simp [Token.isQuoted]), List.filter_append, entries_quoted h, ih,
      List.map_append]

def criteriaMarks (t : Tree) : List Mark :=
  t.criteria.elim [] Node.marks

-- What the tree says of the tokens that it was derived from.
structure Describes (ts : List Token) (t : Tree) : Prop where
  criteria : ∃ us vs, ts = us ++ vs ∧ Spell us t.criteriaMarks ∧ Grammar.Orders vs t.orders ∧
    vs.filter Token.isQuoted = t.orders.map (·.field.token)
  shaped : ∀ n ∈ t.criteria, n.Shaped

theorem query_describes (h : Grammar.Query ts t) : Describes ts t := by
  cases h with
  | @orders ts os h =>
    exact ⟨⟨[], ts, rfl, .nil, h, orders_quoted h⟩, by simp⟩
  | @criteria us vs n os h hs =>
    have node := criteria_faithful h
    exact ⟨⟨us, vs, rfl, node.spell, hs, orders_quoted hs⟩, by simpa using node.shaped⟩

theorem query_unique (h : Grammar.Query ts t) (h' : Grammar.Query ts u) : u = t :=
  Except.ok.inj ((ofTokens_complete h').symm.trans (ofTokens_complete h))

theorem ofTokens_exact (ts : List Token) (t : Tree) :
    (ofTokens ts = .ok t ↔ Grammar.Query ts t) ∧
      (Grammar.Query ts t → (∀ u, Grammar.Query ts u → u = t) ∧ Describes ts t) :=
  ⟨⟨ofTokens_sound, ofTokens_complete⟩,
    fun h => ⟨fun _ h' => query_unique h h', query_describes h⟩⟩

theorem ofTokens_exact_nested :
    let ts : List Token := [⟨.not, ⟨0, 3⟩⟩, ⟨.opening, ⟨4, 5⟩⟩, ⟨.operator .isOpen, ⟨5, 9⟩⟩, ⟨.or, ⟨10, 12⟩⟩,
      ⟨.quoted "f", ⟨13, 16⟩⟩, ⟨.operator .isEmpty, ⟨17, 25⟩⟩, ⟨.closing, ⟨25, 26⟩⟩, ⟨.and, ⟨27, 30⟩⟩,
      ⟨.operator .fixedBetween, ⟨31, 44⟩⟩, ⟨.revision .tag, ⟨45, 48⟩⟩, ⟨.quoted "a", ⟨49, 52⟩⟩,
      ⟨.and, ⟨53, 56⟩⟩, ⟨.revision .build, ⟨57, 62⟩⟩, ⟨.quoted "b", ⟨63, 66⟩⟩,
      ⟨.orderBy, ⟨67, 75⟩⟩, ⟨.quoted "f", ⟨76, 79⟩⟩]
    let t : Tree := ⟨some (.all [
      .negation (.group (.any [.standalone .isOpen ⟨5, 9⟩, .field ⟨"f", ⟨13, 16⟩⟩ .isEmpty])),
      .between ⟨.tag, ⟨"a", ⟨49, 52⟩⟩⟩ ⟨.build, ⟨"b", ⟨63, 66⟩⟩⟩]), [⟨⟨"f", ⟨76, 79⟩⟩, none⟩]⟩
    Grammar.Query ts t ∧ (∀ u, Grammar.Query ts u → u = t) ∧ Describes ts t := by
  intro ts t
  have derived : Grammar.Query ts t := (ofTokens_exact ts t).1.mp rfl
  exact ⟨derived, (ofTokens_exact ts t).2 derived⟩

end Tree

end TrackerQuery
