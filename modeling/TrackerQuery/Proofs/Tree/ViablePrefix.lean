import TrackerQuery.Proofs.Tree.Derivation

namespace TrackerQuery.Tree

inductive Stage where
  | start
  | operand
  | tail
  | value
  | firstKind | firstName | separator | secondKind
  | complete
  | sortField | direction | sorted
deriving DecidableEq

-- How many parentheses are open, and what the grammar asks for next. Every place can be led to an end, so
-- the tokens up to it start some query, and a token without a `step` ends them all.
structure Place where
  depth : Nat
  stage : Stage
deriving DecidableEq

namespace Place

def stepOperand (d : Nat) : Token.Kind → Option Place
  | .not => some ⟨d, .operand⟩
  | .opening => some ⟨d + 1, .operand⟩
  | .quoted _ => some ⟨d, .tail⟩
  | .operator op =>
    match op.category with
    | .standalone => some ⟨d, .complete⟩
    | .value => some ⟨d, .value⟩
    | .range => some ⟨d, .firstKind⟩
    | _ => none
  | _ => none

def step : Place → Token.Kind → Option Place
  | ⟨d, .start⟩, kind => if kind = .orderBy then some ⟨d, .sortField⟩ else stepOperand d kind
  | ⟨d, .operand⟩, kind => stepOperand d kind
  | ⟨d, .tail⟩, .operator op =>
    match op.category with
    | .fieldValue => some ⟨d, .value⟩
    | .field => some ⟨d, .complete⟩
    | _ => none
  | ⟨d, .value⟩, .quoted _ => some ⟨d, .complete⟩
  | ⟨d, .firstKind⟩, .revision _ => some ⟨d, .firstName⟩
  | ⟨d, .firstName⟩, .quoted _ => some ⟨d, .separator⟩
  | ⟨d, .separator⟩, .and => some ⟨d, .secondKind⟩
  | ⟨d, .secondKind⟩, .revision _ => some ⟨d, .value⟩
  | ⟨d, .complete⟩, .and | ⟨d, .complete⟩, .or => some ⟨d, .operand⟩
  | ⟨d + 1, .complete⟩, .closing => some ⟨d, .complete⟩
  | ⟨0, .complete⟩, .orderBy => some ⟨0, .sortField⟩
  | ⟨d, .sortField⟩, .quoted _ => some ⟨d, .direction⟩
  | ⟨d, .direction⟩, .asc | ⟨d, .direction⟩, .desc => some ⟨d, .sorted⟩
  | ⟨d, .direction⟩, .and | ⟨d, .direction⟩, .orderBy => some ⟨d, .sortField⟩
  | ⟨d, .sorted⟩, .and | ⟨d, .sorted⟩, .orderBy => some ⟨d, .sortField⟩
  | _, _ => none

section

variable {d : Nat} {stage : Stage} {kind : Token.Kind}

theorem step_literal (asked : stage = .value ∨ stage = .firstName ∨ stage = .sortField)
    (other : ∀ raw, kind ≠ .quoted raw) : step ⟨d, stage⟩ kind = none := by
  rcases asked with rfl | rfl | rfl
  all_goals
    cases kind with
    | quoted raw => exact absurd rfl (other raw)
    | _ => rfl

theorem step_revision (asked : stage = .firstKind ∨ stage = .secondKind)
    (other : ∀ revision, kind ≠ .revision revision) : step ⟨d, stage⟩ kind = none := by
  rcases asked with rfl | rfl
  all_goals
    cases kind with
    | revision revision => exact absurd rfl (other revision)
    | _ => rfl

theorem step_separator (other : kind ≠ .and) : step ⟨d, .separator⟩ kind = none := by
  cases kind with
  | and => contradiction
  | _ => rfl

theorem step_sorted (others : kind ≠ .and ∧ kind ≠ .orderBy) : step ⟨d, .sorted⟩ kind = none := by
  cases kind with
  | and => exact absurd rfl others.1
  | orderBy => exact absurd rfl others.2
  | _ => rfl

theorem step_direction (others : kind ≠ .asc ∧ kind ≠ .desc) :
    step ⟨d, .direction⟩ kind = step ⟨d, .sorted⟩ kind := by
  cases kind with
  | asc => exact absurd rfl others.1
  | desc => exact absurd rfl others.2
  | _ => rfl

theorem step_complete (others : kind ≠ .and ∧ kind ≠ .or)
    (last : if d = 0 then kind ≠ .orderBy else kind ≠ .closing) :
    step ⟨d, .complete⟩ kind = none := by
  cases d with
  | zero =>
    cases kind with
    | and => exact absurd rfl others.1
    | or => exact absurd rfl others.2
    | orderBy => exact absurd rfl last
    | _ => rfl
  | succ d =>
    cases kind with
    | and => exact absurd rfl others.1
    | or => exact absurd rfl others.2
    | closing => exact absurd rfl last
    | _ => rfl

theorem step_tail (op : Operator) : step ⟨d, .tail⟩ (.operator op) =
    match op.category with
    | .fieldValue => some ⟨d, .value⟩
    | .field => some ⟨d, .complete⟩
    | _ => none := rfl

theorem step_operand (op : Operator) : step ⟨d, .operand⟩ (.operator op) =
    match op.category with
    | .standalone => some ⟨d, .complete⟩
    | .value => some ⟨d, .value⟩
    | .range => some ⟨d, .firstKind⟩
    | _ => none := rfl

end

def run : Place → List Token → Option Place
  | p, [] => some p
  | p, t :: ts => (p.step t.kind).bind (run · ts)

def final : Place → Bool
  | ⟨_, .start⟩ | ⟨0, .complete⟩ | ⟨_, .direction⟩ | ⟨_, .sorted⟩ => true
  | _ => false

theorem run_append (p : Place) (ts us : List Token) :
    p.run (ts ++ us) = (p.run ts).bind (run · us) := by
  induction ts generalizing p with
  | nil => rfl
  | cons t ts ih =>
    rw [List.cons_append, run, run, Option.bind_assoc]
    exact congrArg (Option.bind _) (funext fun q => ih q)

def anywhere (kind : Token.Kind) : Token :=
  ⟨kind, ⟨0, 0⟩⟩

theorem complete_finishes (d : Nat) : ∃ ts q, run ⟨d, .complete⟩ ts = some q ∧ q.final = true := by
  induction d with
  | zero => exact ⟨[], _, rfl, rfl⟩
  | succ d ih =>
    obtain ⟨ts, q, ran, last⟩ := ih
    exact ⟨anywhere .closing :: ts, q, ran, last⟩

theorem finishes_after (kinds : List Token.Kind)
    (first : run p (kinds.map anywhere) = some ⟨d, .complete⟩) :
    ∃ ts q, run p ts = some q ∧ q.final = true := by
  obtain ⟨ts, q, ran, last⟩ := complete_finishes d
  refine ⟨kinds.map anywhere ++ ts, q, ?_, last⟩
  rw [run_append, first]
  exact ran

theorem finishes (p : Place) : ∃ ts q, run p ts = some q ∧ q.final = true := by
  obtain ⟨d, stage⟩ := p
  cases stage with
  | start | direction | sorted => exact ⟨[], _, rfl, rfl⟩
  | operand => exact finishes_after [.operator .submittedByMe] rfl
  | tail => exact finishes_after [.operator .isEmpty] rfl
  | value => exact finishes_after [.quoted ""] rfl
  | firstKind =>
    exact finishes_after [.revision .tag, .quoted "", .and, .revision .tag, .quoted ""] rfl
  | firstName => exact finishes_after [.quoted "", .and, .revision .tag, .quoted ""] rfl
  | separator => exact finishes_after [.and, .revision .tag, .quoted ""] rfl
  | secondKind => exact finishes_after [.revision .tag, .quoted ""] rfl
  | complete => exact complete_finishes d
  | sortField => exact ⟨[anywhere (.quoted "")], _, rfl, rfl⟩

end Place

-- A reader that stands at `p` before `rest` has to fail with `e`.
def Stuck (p : Place) : List Token → Error → Prop
  | [], e => (∃ x, e = endOfInput x) ∧ p.final = false
  | t :: _, e => (∃ x, e = unexpected x t) ∧ p.step t.kind = none

-- What a reader makes of `ts` from `p` on leads along the steps: to an end, or to where it is stuck.
def Follows (p : Place) (ends : Place → Option Token.Kind → Prop) (ts : List Token) :
    Except Error (α × List Token) → Prop
  | .ok (_, rest) =>
    ∃ us q, ts = us ++ rest ∧ p.run us = some q ∧ ends q (rest.head?.map (·.kind))
  | .error e => ∃ us rest q, ts = us ++ rest ∧ p.run us = some q ∧ Stuck q rest e

variable {p q : Place} {ends ends' : Place → Option Token.Kind → Prop} {ts : List Token}

theorem follows_ok {a : α} (h : ends p (ts.head?.map (·.kind))) : Follows p ends ts (.ok (a, ts)) :=
  ⟨[], p, rfl, rfl, h⟩

theorem follows_error (h : Stuck p ts e) :
    Follows p ends ts (.error e : Except Error (α × List Token)) :=
  ⟨[], ts, p, rfl, rfl, h⟩

theorem follows_step {x : Except Error (α × List Token)} (step : p.step t.kind = some q)
    (h : Follows q ends ts x) : Follows p ends (t :: ts) x := by
  match x with
  | .ok (a, rest) =>
    obtain ⟨us, r, rfl, ran, last⟩ := h
    exact ⟨t :: us, r, rfl, by rw [Place.run, step]; exact ran, last⟩
  | .error e =>
    obtain ⟨us, rest, r, rfl, ran, stuck⟩ := h
    exact ⟨t :: us, rest, r, rfl, by rw [Place.run, step]; exact ran, stuck⟩

theorem follows_bind {x : Except Error (α × List Token)}
    {f : α × List Token → Except Error (β × List Token)} (h : Follows p ends ts x)
    (next : ∀ a rest q, (rest.length < ts.length ∨ rest = ts ∧ q = p) →
      ends q (rest.head?.map (·.kind)) → Follows q ends' rest (f (a, rest))) :
    Follows p ends' ts (x >>= f) := by
  match x with
  | .error e => exact h
  | .ok (a, rest) =>
    obtain ⟨us, q, rfl, ran, last⟩ := h
    have progress : rest.length < (us ++ rest).length ∨ rest = us ++ rest ∧ q = p := by
      cases us with
      | nil => exact .inr ⟨rfl, (Option.some.inj ran).symm⟩
      | cons u us => exact .inl (by rw [List.length_append, List.length_cons]; omega)
    have after := next a rest q progress last
    rw [bind_of_ok]
    match f (a, rest), after with
    | .ok (b, rest'), ⟨vs, r, same, ran', last'⟩ =>
      exact ⟨us ++ vs, r, by rw [same, List.append_assoc], by rw [Place.run_append, ran]; exact ran',
        last'⟩
    | .error e, ⟨vs, rest', r, same, ran', stuck⟩ =>
      exact ⟨us ++ vs, rest', r, by rw [same, List.append_assoc],
        by rw [Place.run_append, ran]; exact ran', stuck⟩

def At (p : Place) : Place → Option Token.Kind → Prop :=
  fun q _ => q = p

theorem follows_at {x : Except Error (α × List Token)}
    {f : α × List Token → Except Error (β × List Token)} (h : Follows p (At q) ts x)
    (next : ∀ a rest, rest.length ≤ ts.length → Follows q ends' rest (f (a, rest))) :
    Follows p ends' ts (x >>= f) := by
  apply follows_bind h
  intro a rest r progress last
  cases last
  refine next a rest ?_
  rcases progress with shorter | ⟨rfl, _⟩
  · exact Nat.le_of_lt shorter
  · exact Nat.le_refl _

theorem readLiteral_follows (quoted : ∀ raw, p.step (.quoted raw) = some q)
    (others : ∀ kind, (∀ raw, kind ≠ .quoted raw) → p.step kind = none) (more : p.final = false) :
    Follows p (At q) ts (readLiteral x ts) := by
  cases ts with
  | nil => exact follows_error ⟨⟨x, rfl⟩, more⟩
  | cons t ts =>
    obtain ⟨kind, s⟩ := t
    cases kind with
    | quoted raw => exact follows_step (quoted raw) (follows_ok rfl)
    | _ => exact follows_error ⟨⟨x, rfl⟩, others _ (by simp)⟩

theorem readKind_follows (step : p.step kind = some q)
    (others : ∀ k, ts.head?.map (·.kind) = some k → k ≠ kind → p.step k = none)
    (more : p.final = false) : Follows p (At q) ts (readKind kind x ts) := by
  cases ts with
  | nil => exact follows_error ⟨⟨x, rfl⟩, more⟩
  | cons t ts =>
    by_cases same : t.kind = kind
    · rw [readKind, if_pos same]
      exact follows_step (by rw [same]; exact step) (follows_ok rfl)
    · rw [readKind, if_neg same]
      exact follows_error ⟨⟨x, rfl⟩, others _ rfl same⟩

theorem readEndpoint_follows (revision : ∀ kind, p.step (.revision kind) = some q)
    (others : ∀ kind, (∀ k, kind ≠ .revision k) → p.step kind = none) (more : p.final = false)
    (name : ∀ ts, Follows q (At r) ts (readLiteral .quotedRevision ts)) :
    Follows p (At r) ts (readEndpoint ts) := by
  cases ts with
  | nil => exact follows_error ⟨⟨_, rfl⟩, more⟩
  | cons t ts =>
    obtain ⟨kind, s⟩ := t
    cases kind with
    | revision kind =>
      exact follows_step (revision kind) (follows_at (name ts) fun _ _ _ => follows_ok rfl)
    | _ => exact follows_error ⟨⟨_, rfl⟩, others _ (by simp)⟩

theorem value_follows (d : Nat) (ts : List Token) :
    Follows ⟨d, .value⟩ (At ⟨d, .complete⟩) ts (readLiteral x ts) :=
  readLiteral_follows (fun _ => rfl) (fun _ => Place.step_literal (.inl rfl)) rfl

theorem readFieldTail_follows (d : Nat) (field : Literal) :
    Follows ⟨d, .tail⟩ (At ⟨d, .complete⟩) ts (readFieldTail field ts) := by
  cases ts with
  | nil => exact follows_error ⟨⟨_, rfl⟩, rfl⟩
  | cons t ts =>
    obtain ⟨kind, s⟩ := t
    cases kind with
    | operator op =>
      cases category : op.category with
      | fieldValue =>
        simp only [readFieldTail, category]
        refine follows_step (q := ⟨d, .value⟩) (by rw [Place.step_tail, category]) ?_
        exact follows_at (value_follows d ts) fun _ _ _ => follows_ok rfl
      | field =>
        simp only [readFieldTail, category]
        exact follows_step (by rw [Place.step_tail, category]) (follows_ok rfl)
      | _ =>
        simp only [readFieldTail, category]
        exact follows_error ⟨⟨_, rfl⟩, by rw [Place.step_tail, category]⟩
    | _ => exact follows_error ⟨⟨_, rfl⟩, rfl⟩

theorem shorter_of_apart (apart : ∀ next, ¬ ends p next)
    (progress : rest.length < ts.length ∨ rest = ts ∧ q = p) (last : ends q next) :
    rest.length < ts.length := by
  rcases progress with shorter | ⟨rfl, rfl⟩
  · exact shorter
  · exact absurd last (apart _)

-- A chain returns to its start over each separator, and goes on as long as there is one.
theorem chain_follows {r : Reader α} (item : ∀ ts, ts.length ≤ m → Follows p ends ts (r ts))
    (back : ∀ q next, ends q next → q.step separator = some p) (apart : ∀ next, ¬ ends p next)
    (fits : ts.length ≤ m) (enough : ts.length ≤ n) :
    Follows p (fun q next => ends q next ∧ next ≠ some separator) ts (chain separator r n ts) := by
  induction n generalizing ts with
  | zero =>
    apply follows_bind (item _ fits)
    intro a rest q progress last
    have shorter := shorter_of_apart apart progress last
    omega
  | succ n ih =>
    apply follows_bind (item _ fits)
    intro a rest q progress last
    have shorter := shorter_of_apart apart progress last
    cases rest with
    | nil => exact follows_ok ⟨last, by simp⟩
    | cons t rest =>
      rw [List.length_cons] at shorter
      by_cases same : t.kind = separator
      · simp only [if_pos same]
        refine follows_step (q := p) (by rw [same]; exact back q _ last) ?_
        apply follows_bind (ih (by omega) (by omega))
        intro as rest q _ last
        exact follows_ok last
      · simp only [if_neg same]
        exact follows_ok ⟨last, by simpa using same⟩

def Completes (d : Nat) (separators : List Token.Kind) : Place → Option Token.Kind → Prop :=
  fun q next => q = ⟨d, .complete⟩ ∧ ∀ kind ∈ next, kind ∉ separators

theorem criteriaOf_follows {r : Reader Node} (d : Nat)
    (item : ∀ ts, ts.length ≤ m → Follows ⟨d, .operand⟩ (At ⟨d, .complete⟩) ts (r ts))
    (fits : ts.length ≤ m) (enough : m ≤ n) :
    Follows ⟨d, .operand⟩ (Completes d [.and, .or]) ts (criteriaOf r n ts) := by
  have conjunction : ∀ us, us.length ≤ m →
      Follows ⟨d, .operand⟩ (Completes d [.and]) us (conjunctionOf r n us) := by
    intro us short
    have back : ∀ q next, At ⟨d, .complete⟩ q next → q.step .and = some ⟨d, .operand⟩ := by
      intro q next last
      rw [last]
      rfl
    have chained := chain_follows item back (by simp [At]) short (Nat.le_trans short enough)
    refine follows_bind chained fun children rest q _ last => follows_ok ⟨last.1, ?_⟩
    intro kind next mem
    exact last.2 (List.mem_singleton.mp mem ▸ next)
  have back : ∀ q next, Completes d [.and] q next → q.step .or = some ⟨d, .operand⟩ := by
    intro q next last
    rw [last.1]
    rfl
  have chained := chain_follows conjunction back (by simp [Completes]) fits (Nat.le_trans fits enough)
  refine follows_bind chained fun children rest q _ last => follows_ok ⟨last.1.1, ?_⟩
  intro kind next mem
  rcases List.mem_cons.mp mem with rfl | mem
  · exact last.1.2 _ next (List.mem_singleton_self _)
  · exact last.2 (List.mem_singleton.mp mem ▸ next)

theorem operator_follows (d : Nat) (op : Operator) (s : Span) :
    Follows ⟨d, .operand⟩ (At ⟨d, .complete⟩) (⟨.operator op, s⟩ :: ts)
      (operand (n + 1) (⟨.operator op, s⟩ :: ts)) := by
  cases category : op.category with
  | standalone =>
    simp only [operand, category]
    exact follows_step (by rw [Place.step_operand, category]) (follows_ok rfl)
  | value =>
    simp only [operand, category]
    refine follows_step (q := ⟨d, .value⟩) (by rw [Place.step_operand, category]) ?_
    exact follows_at (value_follows d ts) fun _ _ _ => follows_ok rfl
  | range =>
    simp only [operand, category]
    refine follows_step (q := ⟨d, .firstKind⟩) (by rw [Place.step_operand, category]) ?_
    have start : Follows ⟨d, .firstKind⟩ (At ⟨d, .separator⟩) ts (readEndpoint ts) :=
      readEndpoint_follows (q := ⟨d, .firstName⟩) (fun _ => rfl)
        (fun _ => Place.step_revision (.inl rfl)) rfl fun _ =>
          readLiteral_follows (fun _ => rfl) (fun _ => Place.step_literal (.inr (.inl rfl))) rfl
    apply follows_at start
    intro first us _
    have between : Follows ⟨d, .separator⟩ (At ⟨d, .secondKind⟩) us (readKind .and .and us) :=
      readKind_follows rfl (fun _ _ => Place.step_separator) rfl
    apply follows_at between
    intro _ us _
    have stop : Follows ⟨d, .secondKind⟩ (At ⟨d, .complete⟩) us (readEndpoint us) :=
      readEndpoint_follows (q := ⟨d, .value⟩) (fun _ => rfl)
        (fun _ => Place.step_revision (.inr rfl)) rfl (value_follows d)
    exact follows_at stop fun _ _ _ => follows_ok rfl
  | _ =>
    simp only [operand, category]
    exact follows_error ⟨⟨_, rfl⟩, by rw [Place.step_operand, category]⟩

theorem operand_follows (d n : Nat) (fits : ts.length ≤ n) :
    Follows ⟨d, .operand⟩ (At ⟨d, .complete⟩) ts (operand n ts) := by
  induction n generalizing d ts with
  | zero =>
    obtain rfl := List.eq_nil_of_length_eq_zero (Nat.le_zero.mp fits)
    exact follows_error ⟨⟨_, rfl⟩, rfl⟩
  | succ n ih =>
    cases ts with
    | nil => exact follows_error ⟨⟨_, rfl⟩, rfl⟩
    | cons t ts =>
      have short : ts.length ≤ n := by simpa using fits
      obtain ⟨kind, s⟩ := t
      cases kind with
      | not =>
        refine follows_step (q := ⟨d, .operand⟩) rfl ?_
        exact follows_at (ih d short) fun _ _ _ => follows_ok rfl
      | opening =>
        refine follows_step (q := ⟨d + 1, .operand⟩) rfl ?_
        have inner := criteriaOf_follows (n := ts.length) (d + 1)
          (fun us shorter => ih (d + 1) (Nat.le_trans shorter short)) (Nat.le_refl _) (Nat.le_refl _)
        apply follows_bind inner
        intro child us q _ last
        obtain ⟨rfl, free⟩ := last
        -- What could also stand here are the two separators, and those have been looked for.
        have closed : Follows ⟨d + 1, .complete⟩ (At ⟨d, .complete⟩) us
            (readKind .closing .closing us) := by
          refine readKind_follows rfl (fun kind next other => ?_) rfl
          exact Place.step_complete (by simpa using free kind next) other
        exact follows_at closed fun _ _ _ => follows_ok rfl
      | quoted raw => exact follows_step (q := ⟨d, .tail⟩) rfl (readFieldTail_follows d _)
      | operator op => exact operator_follows d op s
      | _ => exact follows_error ⟨⟨_, rfl⟩, rfl⟩

def Sorts (d : Nat) : Place → Option Token.Kind → Prop :=
  fun q next => q = ⟨d, .direction⟩ ∧ (∀ kind ∈ next, kind ≠ .asc ∧ kind ≠ .desc) ∨ q = ⟨d, .sorted⟩

theorem readOrder_follows (d : Nat) :
    Follows ⟨d, .sortField⟩ (Sorts d) ts (readOrder ts) := by
  have field : Follows ⟨d, .sortField⟩ (At ⟨d, .direction⟩) ts (readLiteral .quotedField ts) :=
    readLiteral_follows (fun _ => rfl) (fun _ => Place.step_literal (.inr (.inr rfl))) rfl
  apply follows_at field
  intro field us _
  cases us with
  | nil => exact follows_ok (.inl ⟨rfl, by simp⟩)
  | cons t us =>
    obtain ⟨kind, s⟩ := t
    cases kind with
    | asc | desc => exact follows_step (q := ⟨d, .sorted⟩) rfl (follows_ok (.inr rfl))
    | _ => exact follows_ok (.inl ⟨rfl, by simp⟩)

def Clauses (d : Nat) : Place → Option Token.Kind → Prop :=
  fun q next => q.final = true ∧ q.step .orderBy = some ⟨d, .sortField⟩ ∧
    ∀ kind ∈ next, kind ≠ .orderBy → q.step kind = none

theorem clauses_of_sorts (h : Sorts d q next) (last : next ≠ some .and) : Clauses d q next := by
  have ended : ∀ kind ∈ next, kind ≠ .orderBy → Place.step ⟨d, .sorted⟩ kind = none := by
    intro kind here other
    refine Place.step_sorted ⟨?_, other⟩
    rintro rfl
    exact last here
  rcases h with ⟨rfl, free⟩ | rfl
  · refine ⟨rfl, rfl, fun kind here other => ?_⟩
    exact (Place.step_direction (free kind here)).trans (ended kind here other)
  · exact ⟨rfl, rfl, ended⟩

theorem clauses_of_completes (h : Completes 0 [.and, .or] q next) : Clauses 0 q next := by
  obtain ⟨rfl, free⟩ := h
  refine ⟨rfl, rfl, fun kind here other => ?_⟩
  exact Place.step_complete (by simpa using free kind here) other

def Ends (p : Place) (ts : List Token) (x : Except Error α) : Prop :=
  Follows p (fun q next => q.final = true ∧ next = none) ts (x.map fun a => (a, ([] : List Token)))

theorem ends_bind {x : Except Error (α × List Token)} {f : α × List Token → Except Error β}
    (h : Follows p ends ts x)
    (next : ∀ a rest q, (rest.length < ts.length ∨ rest = ts ∧ q = p) →
      ends q (rest.head?.map (·.kind)) → Ends q rest (f (a, rest))) : Ends p ts (x >>= f) := by
  rw [Ends, map_bind]
  exact follows_bind h next

theorem ends_map {x : Except Error α} (f : α → β) (h : Ends p ts x) :
    Ends p ts (x >>= fun a => .ok (f a)) := by
  cases x with
  | error e => exact h
  | ok a => exact h

theorem readOrders_ends (h : Clauses d p (ts.head?.map (·.kind))) (fits : ts.length ≤ n) :
    Ends p ts (readOrders n ts) := by
  induction n generalizing p ts with
  | zero =>
    obtain rfl := List.eq_nil_of_length_eq_zero (Nat.le_zero.mp fits)
    exact follows_ok ⟨h.1, rfl⟩
  | succ n ih =>
    cases ts with
    | nil => exact follows_ok ⟨h.1, rfl⟩
    | cons t ts =>
      obtain ⟨final, clause, others⟩ := h
      by_cases same : t.kind = .orderBy
      · have short : ts.length ≤ n := by simpa using fits
        have back : ∀ q next, Sorts d q next → q.step .and = some ⟨d, .sortField⟩ := by
          intro q next sorted
          rcases sorted with ⟨rfl, _⟩ | rfl <;> rfl
        have chained := chain_follows (fun us _ => readOrder_follows d) back (by simp [Sorts])
          (Nat.le_refl ts.length) (Nat.le_refl ts.length)
        rw [readOrders, if_pos same]
        refine follows_step (q := ⟨d, .sortField⟩) (by rw [same]; exact clause) ?_
        refine ends_bind chained fun entries rest q progress last => ends_map _ (ih ?_ ?_)
        · exact clauses_of_sorts last.1 last.2
        · rcases progress with shorter | ⟨rfl, _⟩ <;> omega
      · rw [readOrders, if_neg same]
        exact follows_error ⟨⟨_, rfl⟩, others _ rfl same⟩

def Place.first : Place :=
  ⟨0, .start⟩

theorem follows_first {x : Except Error (α × List Token)} (other : t.kind ≠ .orderBy)
    (h : Follows ⟨0, .operand⟩ (Completes 0 seps) (t :: ts) x) :
    Follows .first (Completes 0 seps) (t :: ts) x := by
  have step : Place.first.step t.kind = Place.step ⟨0, .operand⟩ t.kind := if_neg other
  have ran : ∀ {us rest q}, t :: ts = us ++ rest → us ≠ [] →
      Place.run ⟨0, .operand⟩ us = some q → Place.first.run us = some q := by
    intro us rest q whole taken ran
    cases us with
    | nil => contradiction
    | cons u us =>
      cases whole
      rw [Place.run, step]
      exact ran
  match x, h with
  | .ok (a, rest), ⟨us, q, whole, reached, last⟩ =>
    have taken : us ≠ [] := by
      intro nothing
      subst nothing
      cases reached
      cases last.1
    exact ⟨us, q, whole, ran whole taken reached, last⟩
  | .error e, ⟨us, rest, q, whole, reached, stuck⟩ =>
    cases us with
    | nil =>
      cases whole
      cases reached
      exact ⟨[], t :: ts, .first, rfl, rfl, stuck.1, step.trans stuck.2⟩
    | cons u us => exact ⟨u :: us, rest, q, whole, ran whole (by simp) reached, stuck⟩

theorem ofTokens_ends (ts : List Token) : Ends .first ts (ofTokens ts) := by
  have orders : ∀ {p : Place} {rest : List Token} (criteria : Option Node),
      Clauses 0 p (rest.head?.map (·.kind)) →
        Ends p rest (readOrders rest.length rest >>= fun os => .ok (Tree.mk criteria os)) :=
    fun criteria h => ends_map _ (readOrders_ends h (Nat.le_refl _))
  cases ts with
  | nil => exact orders none ⟨rfl, rfl, by simp⟩
  | cons t ts =>
    rw [ofTokens, readCriteria]
    by_cases same : t.kind = .orderBy
    · rw [if_pos same]
      refine orders none ⟨rfl, rfl, fun kind here other => ?_⟩
      cases here
      contradiction
    · rw [if_neg same]
      have read := follows_first same (criteriaOf_follows 0 (fun us short => operand_follows 0 _ short)
        (Nat.le_refl (t :: ts).length) (Nat.le_refl (t :: ts).length))
      have criteria := follows_bind (f := fun p => .ok (some p.1, p.2)) read
        fun node rest q _ last => follows_ok last
      exact ends_bind criteria fun criteria rest q _ last =>
        orders criteria (clauses_of_completes last)

def Accepted (ts : List Token) : Prop :=
  ∃ t, ofTokens ts = .ok t

theorem accepted_iff : Accepted ts ↔ ∃ q, Place.first.run ts = some q ∧ q.final = true := by
  have followed := ofTokens_ends ts
  constructor
  · intro accepted
    obtain ⟨t, read⟩ := accepted
    rw [read] at followed
    obtain ⟨us, q, whole, ran, final, _⟩ := followed
    rw [List.append_nil] at whole
    exact ⟨q, whole ▸ ran, final⟩
  · intro accepting
    obtain ⟨q, ran, final⟩ := accepting
    match read : ofTokens ts, followed with
    | .ok t, _ => exact ⟨t, read⟩
    | .error e, ⟨us, rest, r, whole, reached, stuck⟩ =>
      rw [whole, Place.run_append, reached] at ran
      cases rest with
      | nil =>
        cases ran
        simp [stuck.2] at final
      | cons t rest => simp [Place.run, stuck.2] at ran

-- The fault of a token list is its first token that no query goes on with, or else its end.
theorem ofTokens_first_fault (h : ofTokens ts = .error e) :
    (∃ us t rest, ts = us ++ t :: rest ∧ e.span = some t.span ∧ (∃ x, e = unexpected x t) ∧
        (∃ vs, Accepted (us ++ vs)) ∧ ∀ vs, ¬ Accepted (us ++ t :: vs)) ∨
      (e.span = none ∧ (∃ x, e = endOfInput x) ∧ ¬ Accepted ts ∧
        ∃ t vs, Accepted (ts ++ t :: vs)) := by
  have followed := ofTokens_ends ts
  rw [h] at followed
  obtain ⟨us, rest, q, rfl, ran, stuck⟩ := followed
  obtain ⟨vs, r, finished, final⟩ := q.finishes
  have viable : Accepted (us ++ vs) :=
    accepted_iff.mpr ⟨r, by rw [Place.run_append, ran]; exact finished, final⟩
  cases rest with
  | cons t rest =>
    obtain ⟨⟨x, rfl⟩, step⟩ := stuck
    refine .inl ⟨us, t, rest, rfl, rfl, ⟨x, rfl⟩, ⟨vs, viable⟩, fun ws accepted => ?_⟩
    obtain ⟨r, ran', _⟩ := accepted_iff.mp accepted
    simp [Place.run_append, ran, Place.run, step] at ran'
  | nil =>
    obtain ⟨⟨x, rfl⟩, notFinal⟩ := stuck
    rw [List.append_nil] at h ⊢
    refine .inr ⟨rfl, ⟨x, rfl⟩, fun ⟨t, read⟩ => by simp [h] at read, ?_⟩
    cases vs with
    | nil =>
      cases finished
      simp [notFinal] at final
    | cons t vs => exact ⟨t, vs, viable⟩

theorem ofTokens_first_fault_or :
    let ts : List Token := [⟨.operator .fixedBetween, ⟨0, 13⟩⟩, ⟨.revision .tag, ⟨14, 17⟩⟩,
      ⟨.quoted "a", ⟨18, 21⟩⟩, ⟨.or, ⟨22, 24⟩⟩]
    let e := unexpected .and ⟨.or, ⟨22, 24⟩⟩
    ofTokens ts = .error e ∧ ∃ us t rest, ts = us ++ t :: rest ∧ e.span = some t.span ∧
      (∃ x, e = unexpected x t) ∧ (∃ vs, Accepted (us ++ vs)) ∧ ∀ vs, ¬ Accepted (us ++ t :: vs) := by
  intro ts e
  have h : ofTokens ts = .error e := rfl
  refine ⟨h, (ofTokens_first_fault h).resolve_right ?_⟩
  intro h
  cases h.1

end TrackerQuery.Tree
