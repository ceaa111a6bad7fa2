import TrackerQuery.Proofs.Outcome
import TrackerQuery.Proofs.Tree.Grammar

namespace TrackerQuery.Tree

def Sound (r : Reader α) (derived : List Token → α → Prop) : Prop :=
  ∀ ts a rest, r ts = .ok (a, rest) → ∃ us, ts = us ++ rest ∧ derived us a

-- Completeness asks for a count of at least the tokens of the phrase, and for a rest that the phrase
-- cannot go on with: `stops` are the kinds that must not come next. Soundness holds for any count.
def Complete (stops : List Token.Kind) (n : Nat) (r : Reader α)
    (derived : List Token → α → Prop) : Prop :=
  ∀ us a rest, derived us a → us.length ≤ n → (∀ t ∈ rest.head?, t.kind ∉ stops) →
    r (us ++ rest) = .ok (a, rest)

theorem readLiteral_ok_iff : readLiteral x ts = .ok (l, rest) ↔ ts = l.token :: rest := by
  cases ts with
  | nil => simp [readLiteral]
  | cons t ts =>
    obtain ⟨kind, span⟩ := t
    obtain ⟨raw, place⟩ := l
    cases kind <;> simp [readLiteral, Literal.token, and_assoc]

@[simp] theorem readLiteral_token (l : Literal) :
    readLiteral x (l.token :: rest) = .ok (l, rest) :=
  readLiteral_ok_iff.mpr rfl

theorem readKind_ok_iff : readKind kind x ts = .ok (u, rest) ↔ ∃ s, ts = ⟨kind, s⟩ :: rest := by
  cases ts with
  | nil => simp [readKind]
  | cons t ts =>
    obtain ⟨found, span⟩ := t
    by_cases same : found = kind
    · subst same
      simp [readKind]
    · simp [readKind, same]

theorem readEndpoint_ok_iff :
    readEndpoint ts = .ok (e, rest) ↔ ∃ us, ts = us ++ rest ∧ Grammar.Endpoint us e := by
  constructor
  · intro read
    cases ts with
    | nil => simp [readEndpoint] at read
    | cons t ts =>
      obtain ⟨kind, s⟩ := t
      cases kind with
      | revision kind =>
        simp only [readEndpoint, bind_ok_iff] at read
        obtain ⟨⟨value, ts⟩, literal, same⟩ := read
        cases same
        rw [readLiteral_ok_iff] at literal
        subst literal
        exact ⟨_, rfl, .named s⟩
      | _ => simp [readEndpoint] at read
  · intro h
    obtain ⟨us, rfl, ⟨s⟩⟩ := h
    simp [readEndpoint]

theorem readEndpoint_append (h : Grammar.Endpoint us e) (rest : List Token) :
    readEndpoint (us ++ rest) = .ok (e, rest) :=
  readEndpoint_ok_iff.mpr ⟨us, rfl, h⟩

theorem chain_sound (item : Sound r derived) :
    Sound (chain separator r n) (Grammar.Chain separator derived) := by
  induction n with
  | zero =>
    intro ts as rest read
    simp only [chain, bind_ok_iff] at read
    obtain ⟨⟨a, ts'⟩, first, same⟩ := read
    cases same
    obtain ⟨us, rfl, h⟩ := item _ _ _ first
    exact ⟨us, rfl, .one h⟩
  | succ n ih =>
    intro ts as rest read
    simp only [chain, bind_ok_iff] at read
    obtain ⟨⟨a, ts'⟩, first, read⟩ := read
    obtain ⟨us, rfl, h⟩ := item _ _ _ first
    dsimp only at read
    split at read
    · cases read
      exact ⟨us, rfl, .one h⟩
    · rename_i t more
      split at read
      · rename_i same
        simp only [bind_ok_iff] at read
        obtain ⟨⟨bs, rest'⟩, others, eq⟩ := read
        cases eq
        obtain ⟨vs, rfl, hs⟩ := ih _ _ _ others
        obtain ⟨kind, s⟩ := t
        subst same
        exact ⟨us ++ ⟨kind, s⟩ :: vs, by simp, .more s h hs⟩
      · cases read
        exact ⟨us, rfl, .one h⟩

theorem chain_complete (item : Complete stops m r derived) (apart : separator ∉ stops)
    (enough : m ≤ n) :
    Complete (separator :: stops) m (chain separator r n) (Grammar.Chain separator derived) := by
  intro us as rest h
  induction h generalizing n m with
  | @one us a h =>
    intro fits ends
    have first : r (us ++ rest) = .ok (a, rest) :=
      item _ _ _ h fits fun t ht => fun mem => ends t ht (List.mem_cons_of_mem _ mem)
    cases n with
    | zero => rw [chain, first, bind_of_ok]
    | succ n =>
      rw [chain, first, bind_of_ok]
      cases rest with
      | nil => rfl
      | cons t rest =>
        have other : t.kind ≠ separator := fun same => ends t rfl (same ▸ List.mem_cons_self)
        simp only [if_neg other]
  | @more us vs a as s h hs ih =>
    intro fits ends
    rw [List.length_append, List.length_cons] at fits
    have first : r (us ++ (⟨separator, s⟩ :: (vs ++ rest))) = .ok (a, ⟨separator, s⟩ :: (vs ++ rest)) :=
      item _ _ _ h (by omega) (by simpa using apart)
    obtain ⟨n, rfl⟩ : ∃ k, n = k + 1 := ⟨n - 1, by omega⟩
    have others : chain separator r n (vs ++ rest) = .ok (as, rest) :=
      ih (m := m - 1) (fun us a rest h fits => item us a rest h (by omega)) (by omega) (by omega) ends
    simp [chain, first, others]

def conjunctionOf (operand : Reader Node) (n : Nat) : Reader Node := fun ts => do
  let (children, ts) ← chain .and operand n ts
  .ok (Node.join .all children, ts)

theorem criteriaOf_eq (operand : Reader Node) (n : Nat) (ts : List Token) :
    criteriaOf operand n ts = chain .or (conjunctionOf operand n) n ts >>= fun p =>
      .ok (Node.join .any p.1, p.2) :=
  rfl

theorem conjunction_sound (item : Sound r Grammar.Operand) :
    Sound (conjunctionOf r n) Grammar.Conjunction := by
  intro ts node rest read
  simp only [conjunctionOf, bind_ok_iff] at read
  obtain ⟨⟨children, ts'⟩, chained, same⟩ := read
  cases same
  obtain ⟨us, rfl, h⟩ := chain_sound item _ _ _ chained
  exact ⟨us, rfl, .all h⟩

theorem criteriaOf_sound (item : Sound r Grammar.Operand) :
    Sound (criteriaOf r n) Grammar.Criteria := by
  intro ts node rest read
  simp only [criteriaOf_eq, bind_ok_iff] at read
  obtain ⟨⟨children, ts'⟩, chained, same⟩ := read
  cases same
  obtain ⟨us, rfl, h⟩ := chain_sound (conjunction_sound item) _ _ _ chained
  exact ⟨us, rfl, .any h⟩

theorem conjunction_complete (item : Complete [] m r Grammar.Operand) (enough : m ≤ n) :
    Complete [.and] m (conjunctionOf r n) Grammar.Conjunction := by
  intro us node rest h fits ends
  cases h with
  | all h =>
    have chained := chain_complete item (by simp) enough _ _ rest h fits ends
    simp [conjunctionOf, chained]

theorem criteriaOf_complete (item : Complete [] m r Grammar.Operand) (enough : m ≤ n) :
    Complete [.or, .and] m (criteriaOf r n) Grammar.Criteria := by
  intro us node rest h fits ends
  cases h with
  | any h =>
    have chained := chain_complete (conjunction_complete item enough) (by simp) enough
      _ _ rest h fits ends
    simp [criteriaOf_eq, chained]

theorem readFieldTail_sound (read : readFieldTail field ts = .ok (node, rest)) :
    ∃ us, ts = us ++ rest ∧ Grammar.Leaf (field.token :: us) node := by
  cases ts with
  | nil => simp [readFieldTail] at read
  | cons t ts =>
    obtain ⟨kind, s⟩ := t
    cases kind with
    | operator op =>
      cases category : op.category with
      | fieldValue =>
        simp only [readFieldTail, category, bind_ok_iff] at read
        obtain ⟨⟨value, ts⟩, literal, same⟩ := read
        cases same
        rw [readLiteral_ok_iff] at literal
        subst literal
        exact ⟨[⟨.operator op, s⟩, value.token], rfl, .fieldValue s category⟩
      | field =>
        simp only [readFieldTail, category] at read
        cases read
        exact ⟨[⟨.operator op, s⟩], rfl, .field s category⟩
      | _ => simp [readFieldTail, category] at read
    | _ => simp [readFieldTail] at read

theorem operand_field (l : Literal) : operand (n + 1) (l.token :: ts) = readFieldTail l ts := rfl

theorem range_iff {op : Operator} : op.category = .range ↔ op = .fixedBetween := by
  cases op <;> decide

theorem operand_sound : Sound (operand n) Grammar.Operand := by
  induction n with
  | zero =>
    intro ts node rest read
    cases ts <;> simp [operand] at read
  | succ n ih =>
    intro ts node rest read
    cases ts with
    | nil => simp [operand] at read
    | cons t ts =>
      obtain ⟨kind, s⟩ := t
      cases kind with
      | not =>
        simp only [operand, bind_ok_iff] at read
        obtain ⟨⟨child, ts'⟩, inner, same⟩ := read
        cases same
        obtain ⟨us, rfl, h⟩ := ih _ _ _ inner
        exact ⟨⟨.not, s⟩ :: us, rfl, .negation s h⟩
      | opening =>
        simp only [operand, bind_ok_iff] at read
        obtain ⟨⟨child, ts'⟩, inner, ⟨_, ts''⟩, closed, same⟩ := read
        cases same
        obtain ⟨us, rfl, h⟩ := criteriaOf_sound ih _ _ _ inner
        obtain ⟨s', rfl⟩ := readKind_ok_iff.mp closed
        exact ⟨⟨.opening, s⟩ :: (us ++ [⟨.closing, s'⟩]), by simp, .group s s' h⟩
      | quoted raw =>
        obtain ⟨us, rfl, h⟩ := readFieldTail_sound (by simpa only [operand] using read)
        exact ⟨_, rfl, .leaf h⟩
      | operator op =>
        cases category : op.category with
        | standalone =>
          simp only [operand, category] at read
          cases read
          exact ⟨[⟨.operator op, s⟩], rfl, .leaf (.standalone s category)⟩
        | value =>
          simp only [operand, category, bind_ok_iff] at read
          obtain ⟨⟨value, ts'⟩, literal, same⟩ := read
          cases same
          rw [readLiteral_ok_iff] at literal
          subst literal
          exact ⟨[⟨.operator op, s⟩, value.token], rfl, .leaf (.value s category)⟩
        | range =>
          simp only [operand, category, bind_ok_iff] at read
          obtain ⟨⟨first, ts₁⟩, start, ⟨_, ts₂⟩, between, ⟨second, ts₃⟩, stop, same⟩ := read
          cases same
          obtain ⟨us, rfl, h⟩ := readEndpoint_ok_iff.mp start
          obtain ⟨s', rfl⟩ := readKind_ok_iff.mp between
          obtain ⟨vs, rfl, h'⟩ := readEndpoint_ok_iff.mp stop
          cases range_iff.mp category
          exact ⟨⟨.operator .fixedBetween, s⟩ :: (us ++ ⟨.and, s'⟩ :: vs), by simp,
            .leaf (.between s s' h h')⟩
        | _ => simp [operand, category] at read
      | _ => simp [operand] at read

theorem leaf_complete : Complete [] (n + 1) (operand (n + 1)) Grammar.Leaf := by
  intro us node rest h _ _
  cases h with
  | fieldValue s category =>
    simp only [List.cons_append, List.nil_append, operand_field, readFieldTail, category,
      readLiteral_token, bind_of_ok]
  | field s category =>
    simp only [List.cons_append, List.nil_append, operand_field, readFieldTail, category]
  | standalone s category => simp [operand, category]
  | value s category =>
    simp only [List.cons_append, List.nil_append, operand, category, readLiteral_token, bind_of_ok]
  | @between us vs first second s s' h h' =>
    have start := readEndpoint_append h (⟨.and, s'⟩ :: (vs ++ rest))
    have between : readKind .and .and (⟨.and, s'⟩ :: (vs ++ rest)) = .ok ((), vs ++ rest) :=
      readKind_ok_iff.mpr ⟨s', rfl⟩
    have stop := readEndpoint_append h' rest
    simp only [List.cons_append, List.append_assoc, operand, Operator.category, start, between,
      stop, bind_of_ok]

theorem operand_complete : Complete [] n (operand n) Grammar.Operand := by
  induction n with
  | zero =>
    intro us node rest h fits
    cases h with
    | leaf h => cases h <;> simp at fits
    | _ => simp at fits
  | succ n ih =>
    intro us node rest h fits ends
    cases h with
    | @negation us child s h =>
      have inner : operand n (us ++ rest) = .ok (child, rest) :=
        ih _ _ rest h (by simpa using fits) ends
      simp [operand, inner]
    | @group us child s s' h =>
      rw [List.length_cons, List.length_append] at fits
      have item : Complete [] us.length (operand n) Grammar.Operand :=
        fun vs a rest h shorter ends => ih vs a rest h (by omega) ends
      have bound : us.length ≤ (us ++ ⟨.closing, s'⟩ :: rest).length := by simp
      have inner := criteriaOf_complete item bound us child (⟨.closing, s'⟩ :: rest) h
        (Nat.le_refl _) (by simp)
      have closed : readKind .closing .closing (⟨.closing, s'⟩ :: rest) = .ok ((), rest) :=
        readKind_ok_iff.mpr ⟨s', rfl⟩
      simp only [List.cons_append, List.nil_append, List.append_assoc, operand, inner, closed,
        bind_of_ok]
    | leaf h => exact leaf_complete us node rest h fits ends

theorem readOrder_sound : Sound readOrder Grammar.Entry := by
  intro ts o rest read
  simp only [readOrder, bind_ok_iff] at read
  obtain ⟨⟨field, ts⟩, literal, read⟩ := read
  rw [readLiteral_ok_iff] at literal
  subst literal
  cases ts with
  | nil =>
    cases read
    exact ⟨_, rfl, .plain⟩
  | cons t ts =>
    obtain ⟨kind, s⟩ := t
    cases kind with
    | asc =>
      cases read
      exact ⟨[field.token, ⟨.asc, s⟩], rfl, .ascending s⟩
    | desc =>
      cases read
      exact ⟨[field.token, ⟨.desc, s⟩], rfl, .descending s⟩
    | _ =>
      cases read
      exact ⟨[field.token], rfl, .plain⟩

theorem readOrder_complete : Complete [.asc, .desc] n readOrder Grammar.Entry := by
  intro us o rest h _ ends
  cases h with
  | plain =>
    cases rest with
    | nil => simp [readOrder]
    | cons t rest =>
      have free := ends t rfl
      obtain ⟨kind, s⟩ := t
      cases kind <;> simp [readOrder] at free ⊢
  | ascending s => simp [readOrder]
  | descending s => simp [readOrder]

theorem readOrders_sound (read : readOrders n ts = .ok os) : Grammar.Orders ts os := by
  induction n generalizing ts os with
  | zero =>
    cases ts with
    | nil => cases read; exact .nil
    | cons t ts => simp [readOrders] at read
  | succ n ih =>
    cases ts with
    | nil => cases read; exact .nil
    | cons t ts =>
      simp only [readOrders] at read
      split at read
      · rename_i clause
        simp only [bind_ok_iff] at read
        obtain ⟨⟨entries, rest⟩, chained, more, others, same⟩ := read
        cases same
        obtain ⟨us, rfl, h⟩ := chain_sound readOrder_sound _ _ _ chained
        obtain ⟨kind, s⟩ := t
        subst clause
        exact .clause s h (ih others)
      · cases read

theorem orders_head (h : Grammar.Orders ts os) : ∀ t ∈ ts.head?, t.kind = .orderBy := by
  cases h <;> simp

theorem readOrders_complete (h : Grammar.Orders ts os) (fits : ts.length ≤ n) :
    readOrders n ts = .ok os := by
  induction h generalizing n with
  | nil => cases n <;> rfl
  | @clause us vs entries more s h hs ih =>
    rw [List.length_cons, List.length_append] at fits
    obtain ⟨n, rfl⟩ : ∃ k, n = k + 1 := ⟨n - 1, by omega⟩
    have bound : us.length ≤ (us ++ vs).length := by simp
    have apart : .and ∉ [Token.Kind.asc, .desc] := by decide
    have chained := chain_complete readOrder_complete apart bound us entries vs h (Nat.le_refl _)
      (fun t first => by simp [orders_head hs t first])
    have others := ih (n := n) (by omega)
    simp only [readOrders, if_pos, chained, bind_of_ok, others]

theorem chain_head {item : List Token → α → Prop} {P : Token → Prop}
    (first : ∀ {ts a}, item ts a → ∃ t us, ts = t :: us ∧ P t)
    (h : Grammar.Chain separator item ts as) : ∃ t us, ts = t :: us ∧ P t := by
  cases h with
  | one h => exact first h
  | more s h hs =>
    obtain ⟨t, us, rfl, ht⟩ := first h
    exact ⟨t, _, rfl, ht⟩

theorem criteria_head (h : Grammar.Criteria ts n) :
    ∃ t us, ts = t :: us ∧ t.kind ≠ .orderBy := by
  have operand_head : ∀ {ts n}, Grammar.Operand ts n → ∃ t us, ts = t :: us ∧ t.kind ≠ .orderBy := by
    intro ts n h
    cases h with
    | leaf h => cases h <;> exact ⟨_, _, rfl, by simp [Literal.token]⟩
    | _ => exact ⟨_, _, rfl, by simp⟩
  have conjunction_head : ∀ {ts n}, Grammar.Conjunction ts n →
      ∃ t us, ts = t :: us ∧ t.kind ≠ .orderBy := by
    intro ts n h
    obtain ⟨h⟩ := h
    exact chain_head operand_head h
  obtain ⟨h⟩ := h
  exact chain_head conjunction_head h

theorem ofTokens_sound (read : ofTokens ts = .ok t) : Grammar.Query ts t := by
  simp only [ofTokens, bind_ok_iff] at read
  obtain ⟨⟨criteria, rest⟩, leading, os, ordered, same⟩ := read
  cases same
  have orders := readOrders_sound ordered
  cases ts with
  | nil => cases leading; exact .orders orders
  | cons t ts =>
    simp only [readCriteria] at leading
    split at leading
    · cases leading; exact .orders orders
    · simp only [bind_ok_iff] at leading
      obtain ⟨⟨node, rest'⟩, read, same⟩ := leading
      cases same
      obtain ⟨us, whole, h⟩ := criteriaOf_sound operand_sound _ _ _ read
      rw [whole]
      exact .criteria h orders

theorem ofTokens_complete (h : Grammar.Query ts t) : ofTokens ts = .ok t := by
  cases h with
  | @orders ts os h =>
    have ordered := readOrders_complete h (Nat.le_refl _)
    cases ts with
    | nil => simp only [ofTokens, readCriteria, bind_of_ok, ordered]
    | cons t ts =>
      have clause := orders_head h t rfl
      simp only [ofTokens, readCriteria, if_pos clause, bind_of_ok, ordered]
  | @criteria us vs n os h hs =>
    have ordered := readOrders_complete hs (Nat.le_refl _)
    have item : Complete [] us.length (operand (us ++ vs).length) Grammar.Operand :=
      fun ws a rest h fits ends => operand_complete ws a rest h (by simp; omega) ends
    have read := criteriaOf_complete item (n := (us ++ vs).length) (by simp) us n vs h
      (Nat.le_refl _) (fun t first => by simp [orders_head hs t first])
    obtain ⟨t, us, rfl, other⟩ := criteria_head h
    rw [List.cons_append] at read ⊢
    simp only [ofTokens, readCriteria, if_neg other, read, bind_of_ok, ordered]

end TrackerQuery.Tree
