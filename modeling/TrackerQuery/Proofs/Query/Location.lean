import TrackerQuery.Proofs.Query.Blame
import TrackerQuery.Proofs.Token.Tiling
import TrackerQuery.Proofs.Tree.ViablePrefix

namespace TrackerQuery

open TrackerQuery.Text TrackerQuery.Token TrackerQuery.Tree

def Span.Covers (s : Span) (start : Nat) (text : List Char) : Prop :=
  ∃ before word after, text = before ++ (word ++ after) ∧ word ≠ [] ∧
    s = ⟨start + bytes before, start + bytes before + bytes word⟩

inductive Tree.Node.Within (m : Node) : Node → Prop where
  | here : Within m m
  | any {ns n} (mem : n ∈ ns) (h : Within m n) : Within m (any ns)
  | all {ns n} (mem : n ∈ ns) (h : Within m n) : Within m (all ns)
  | negation {n} (h : Within m n) : Within m (negation n)
  | group {n} (h : Within m n) : Within m (group n)

def Error.IsRejection (e : Error) : Prop :=
  ∃ o, e = .rejected o

def Error.IsBare (op : Operator) (e : Error) : Prop :=
  e.IsRejection ∨ e = .unsupported op

structure LeafReader.Placeless (r : LeafReader κ) : Prop where
  standalone : ∀ op, FailsWith (Error.IsBare op) (r.standalone op)
  field : ∀ name op, FailsWith (Error.IsBare op) (r.field name op)
  fieldValue : ∀ name op content, op.category = .fieldValue → op ≠ .isNot →
    FailsWith Error.IsRejection (r.fieldValue name op content)
  value : ∀ op content, FailsWith (Error.IsBare op) (r.value op content)
  between : ∀ first second, FailsWith (Error.IsBare .fixedBetween) (r.between first second)
  sortField : ∀ name, FailsWith Error.IsRejection (r.sortField name)

-- The leaf of the tree of `ts`, derived from the tokens `us` among them, that reading stops at.
structure Offends (r : LeafReader κ) (e : Error) (ts us : List Token) (leaf : Node) : Prop where
  tokens : us <:+: ts
  derived : Grammar.Leaf us leaf
  within : ∃ t n, Tree.ofTokens ts = .ok t ∧ t.criteria = some n ∧ leaf.Within n
  refused : r.read leaf = .error e

structure Located (r : LeafReader κ) (text : String) (e : Error) : Prop where
  inside : ∀ s, e.span = some s → s.Covers 0 text.toList
  absent : ∀ fault, e = .malformed fault none → ∃ ts x t more, tokenize text = .ok ts ∧
    fault = .endOfInput x ∧ Tree.ofTokens ts = .error e ∧ Accepted (ts ++ t :: more)
  operator : ∀ op place, e = .malformed (.unexpectedOperator op) place →
    ∃ ts us leaf, tokenize text = .ok ts ∧ Offends r e ts us leaf ∧
      (∃ t ∈ us, place = some t.span) ∧ ∃ t ∈ us, t.kind = .operator op
  parses : e.IsRejection → ∃ t, Tree.ofText text = .ok t

variable {κ : Type} {r : LeafReader κ} {a cs : List Char} {start : Nat} {s place : Span} {c : Char}
  {e : Error} {op : Operator} {ts us : List Token} {text : String} {n m leaf : Node}
  {ns : List Node} {t : Tree}

theorem Span.Covers.behind (h : s.Covers (start + bytes a) cs) : s.Covers start (a ++ cs) := by
  obtain ⟨before, word, after, rfl, nonempty, rfl⟩ := h
  refine ⟨a ++ before, word, after, (List.append_assoc ..).symm, nonempty, ?_⟩
  rw [bytes_append, Nat.add_assoc]

theorem covers_front (start : Nat) {word : List Char} (nonempty : word ≠ []) (after : List Char) :
    Span.Covers ⟨start, start + bytes word⟩ start (word ++ after) :=
  ⟨[], word, after, rfl, nonempty, rfl⟩

def CutFault (start : Nat) (cs : List Char) (e : Error) : Prop :=
  ∃ fault s, e = .malformed fault (some s) ∧ s.Covers start cs ∧
    ∀ op, fault ≠ .unexpectedOperator op

theorem isWordChar_of_isLetter (letter : isLetter c = true) : isWordChar c = true := by
  simp [isWordChar, letter]

theorem Lexeme.read_fault (failed : Lexeme.read start c cs = .error e) :
    CutFault start (c :: cs) e := by
  unfold Lexeme.read at failed
  split at failed
  · cases failed
  · cases failed
  · split at failed <;> cases failed
    refine ⟨_, _, rfl, ?_, by simp⟩
    simpa using covers_front start (List.cons_ne_nil '"' cs) []
  · split at failed
    · rename_i letter
      split at failed <;> cases failed
      refine ⟨_, _, rfl, ?_, by simp⟩
      have word : (c :: cs).takeWhile isWordChar ≠ [] := by
        rw [List.takeWhile_cons_of_pos (isWordChar_of_isLetter letter)]
        exact List.cons_ne_nil _ _
      have front := covers_front start word ((c :: cs).dropWhile isWordChar)
      rwa [List.takeWhile_append_dropWhile] at front
    · cases failed
      refine ⟨_, _, rfl, ?_, by simp⟩
      simpa using covers_front start (List.cons_ne_nil c []) cs

theorem CutFault.behind (h : CutFault (start + bytes a) cs e) : CutFault start (a ++ cs) e := by
  obtain ⟨fault, s, rfl, covered, other⟩ := h
  exact ⟨fault, s, rfl, covered.behind, other⟩

theorem scanFrom_fault (failed : (scanFrom start cs).fault = some e) : CutFault start cs e := by
  induction start, cs using scanFrom.induct with
  | case1 start =>
    rw [scanFrom] at failed
    cases failed
  | case2 start c cs blank ih =>
    rw [scanFrom_blank blank] at failed
    have shift : start + c.utf8Size = start + bytes [c] := by simp
    rw [shift] at ih failed
    exact (ih failed).behind
  | case3 start c cs solid e' stopped =>
    rw [scanFrom_error (by simpa using solid) stopped] at failed
    cases failed
    exact Lexeme.read_fault stopped
  | case4 start c cs solid l read stop =>
    rename_i ih
    rw [scanFrom_lexeme (by simpa using solid) read] at failed
    rw [← (Lexeme.append_of_read read).1]
    exact (ih failed).behind

theorem tokenize_fault (failed : tokenize text = .error e) : CutFault 0 text.toList e := by
  unfold tokenize at failed
  split at failed
  · cases failed
  · rename_i tokens e' whole
    cases failed
    refine scanFrom_fault ?_
    rw [← scan, whole]

theorem token_covers (cut : tokenize text = .ok ts) {t : Token} (mem : t ∈ ts) :
    t.span.Covers 0 text.toList := by
  have tiling := (tokenize_iff.mp cut).tiling
  obtain ⟨before, l, whole, _, _, rfl⟩ := tiling.lexeme t mem
  refine ⟨before, l.text, l.rest, whole, ?_, rfl⟩
  intro nothing
  have nonempty := tiling.nonempty _ mem
  simp [nothing] at nonempty

-- Parsing stops at a token, or after the last one where more tokens could have led to a query.
theorem ofTokens_fault (failed : Tree.ofTokens ts = .error e) :
    (∃ x, ∃ t ∈ ts, e = unexpected x t) ∨
      ∃ x t more, e = endOfInput x ∧ Accepted (ts ++ t :: more) := by
  have followed := ofTokens_ends ts
  rw [failed] at followed
  obtain ⟨us, rest, p, rfl, ran, stuck⟩ := followed
  cases rest with
  | cons t rest =>
    obtain ⟨⟨x, rfl⟩, _⟩ := stuck
    exact .inl ⟨x, t, by simp, rfl⟩
  | nil =>
    obtain ⟨⟨x, rfl⟩, unfinished⟩ := stuck
    obtain ⟨vs, q, finished, final⟩ := p.finishes
    cases vs with
    | nil =>
      cases finished
      simp [unfinished] at final
    | cons t vs =>
      refine .inr ⟨x, t, vs, rfl, accepted_iff.mpr ⟨q, ?_, final⟩⟩
      rw [List.append_nil, Place.run_append, ran]
      exact finished

namespace LeafReader

theorem located_bare {x : Except Error κ} (bare : FailsWith (Error.IsBare op) x)
    (refused : located place x = .error e) :
    e.IsRejection ∨ e = .malformed (.unexpectedOperator op) (some place) := by
  cases x with
  | ok k => cases refused
  | error e' =>
    cases refused
    rcases bare e' rfl with ⟨o, rfl⟩ | rfl
    · exact .inl ⟨o, rfl⟩
    · exact .inr rfl

theorem readFieldValue_bare (placeless : r.Placeless) {name content : Literal}
    (category : op.category = .fieldValue)
    (refused : r.readFieldValue name op content = .error e) : e.IsRejection := by
  unfold readFieldValue at refused
  split at refused
  · split at refused
    · cases refused
    · rename_i e' failed
      cases refused
      obtain ⟨o, rfl⟩ := placeless.fieldValue _ _ _ rfl (by decide) e' failed
      unfold Error.ofNegated
      split <;> exact ⟨_, rfl⟩
  · rename_i direct
    split at refused
    · cases refused
    · rename_i e' failed
      cases refused
      obtain ⟨o, rfl⟩ := placeless.fieldValue _ _ _ category direct e' failed
      exact ⟨o, rfl⟩

theorem leaf_located (placeless : r.Placeless) (derived : Grammar.Leaf us leaf)
    (refused : r.read leaf = .error e) :
    e.IsRejection ∨ ∃ op, ∃ t ∈ us, e = .malformed (.unexpectedOperator op) (some t.span) ∧
      ∃ t ∈ us, t.kind = .operator op := by
  cases derived with
  | fieldValue s category => exact .inl (readFieldValue_bare placeless category refused)
  | @field name op s _ =>
    refine (located_bare (placeless.field _ _) refused).imp_right fun same => ?_
    exact ⟨op, name.token, by simp, same, ⟨.operator op, s⟩, by simp, rfl⟩
  | @standalone op s _ =>
    refine (located_bare (placeless.standalone _) refused).imp_right fun same => ?_
    exact ⟨op, ⟨.operator op, s⟩, by simp, same, ⟨.operator op, s⟩, by simp, rfl⟩
  | @value op content s _ =>
    refine (located_bare (placeless.value _ _) refused).imp_right fun same => ?_
    exact ⟨op, content.token, by simp, same, ⟨.operator op, s⟩, by simp, rfl⟩
  | @between vs ws first second s s' h h' =>
    refine (located_bare (placeless.between _ _) refused).imp_right fun same => ?_
    obtain ⟨s''⟩ := h
    exact ⟨.fixedBetween, Literal.token _, by simp, same, ⟨.operator .fixedBetween, s⟩, by simp, rfl⟩

-- If the node is refused, it is for a leaf of it, which was derived from some of its tokens.
def Stops (r : LeafReader κ) (e : Error) (ts : List Token) (n : Node) : Prop :=
  r.read n = .error e → ∃ us leaf, us <:+: ts ∧ Grammar.Leaf us leaf ∧ leaf.Within n ∧
    r.read leaf = .error e

theorem Stops.lift (h : Stops r e ts n) (tokens : ts <:+: us)
    (refused : r.read m = .error e → r.read n = .error e)
    (inside : ∀ {leaf : Node}, leaf.Within n → leaf.Within m) : Stops r e us m := by
  intro failed
  obtain ⟨vs, leaf, part, derived, within, failed⟩ := h (refused failed)
  exact ⟨vs, leaf, part.trans tokens, derived, inside within, failed⟩

theorem chain_stops {separator : Token.Kind} {node : List Node → Node}
    (chain : Grammar.Chain separator (Stops r e) ts ns)
    (refused : r.read (node ns) = .error e → ∃ n ∈ ns, r.read n = .error e)
    (inside : ∀ {leaf n : Node}, n ∈ ns → leaf.Within n → leaf.Within (node ns)) :
    Stops r e ts (Node.join node ns) := by
  have child : ∀ n ∈ ns, Stops r e ts n := by
    clear refused inside
    induction chain with
    | one h => simpa using h
    | @more ts us n ns s h _ ih =>
      intro n' mem
      rcases List.mem_cons.mp mem with rfl | mem
      · exact h.lift (List.prefix_append ..).isInfix id id
      · have after : us <:+: ts ++ ⟨separator, s⟩ :: us :=
          ((List.suffix_cons ..).trans (List.suffix_append ..)).isInfix
        exact (ih n' mem).lift after id id
  refine join_cases chain ?_ fun _ failed => ?_
  · intro n alone
    exact child n (by simp [alone])
  · obtain ⟨n, mem, below⟩ := refused failed
    exact (child n mem).lift (List.infix_refl ts) (fun _ => below) (inside mem) failed

theorem criteria_stops (derived : Grammar.Criteria ts n) : Stops r e ts n := by
  refine Grammar.induction (Stops r e) (Stops r e) (Stops r e) ?any ?all ?negation ?group ?leaf
    derived
  case any =>
    intro ts ns chain
    refine chain_stops chain (fun failed => ?_) .any
    exact each_error (f := r.read) rfl (fun _ _ => rfl) (map_error_iff.mp failed)
  case all =>
    intro ts ns chain
    refine chain_stops chain (fun failed => ?_) .all
    exact each_error (f := r.read) rfl (fun _ _ => rfl) (map_error_iff.mp failed)
  case negation =>
    intro ts n s h
    exact h.lift (List.suffix_cons ..).isInfix map_error_iff.mp .negation
  case group =>
    intro ts n s s' h
    have inner : ts <:+: ⟨.opening, s⟩ :: (ts ++ [⟨.closing, s'⟩]) :=
      (List.prefix_append ..).isInfix.trans (List.suffix_cons ..).isInfix
    exact h.lift inner id .group
  case leaf =>
    intro ts n derived failed
    exact ⟨ts, n, List.infix_refl ts, derived, .here, failed⟩

theorem ofTree_stops (parsed : Tree.ofTokens ts = .ok t)
    (refused : Query.ofTree r t = .error e) :
    (∃ us leaf, Offends r e ts us leaf) ∨ ∃ name, r.sortField name = .error e := by
  rcases bind_error_iff.mp refused with refused | ⟨_, _, refused⟩
  · cases ofTokens_sound parsed with
    | orders => cases refused
    | @criteria ts ws n os derived _ =>
      obtain ⟨us, leaf, tokens, derived, within, failed⟩ :=
        criteria_stops derived (map_error_iff.mp refused)
      have part : us <:+: ts ++ ws := tokens.trans (List.prefix_append ..).isInfix
      exact .inl ⟨us, leaf, part, derived, ⟨_, n, parsed, rfl, within⟩, failed⟩
  · rcases bind_error_iff.mp refused with refused | ⟨_, _, never⟩
    · obtain ⟨order, _, refused⟩ := each_error (f := r.readSort) rfl (fun _ _ => rfl) refused
      exact .inr ⟨_, sortField_of_refused refused⟩
    · cases never

end LeafReader

namespace Located

variable {fault : SyntaxFault}

theorem of_place (covered : s.Covers 0 text.toList) (other : ∀ op, fault ≠ .unexpectedOperator op) :
    Located r text (.malformed fault (some s)) where
  inside s' same := by
    cases same
    exact covered
  absent fault' never := nomatch never
  operator op place same := by
    cases same
    exact absurd rfl (other op)
  parses never := nomatch never

theorem of_end {x : Expected} (cut : tokenize text = .ok ts)
    (failed : Tree.ofTokens ts = .error (endOfInput x)) {more : List Token} {t : Token}
    (accepted : Accepted (ts ++ t :: more)) : Located r text (endOfInput x) where
  inside s' never := nomatch never
  absent fault' same := by
    cases same
    exact ⟨ts, x, t, more, cut, rfl, failed, accepted⟩
  operator op place never := nomatch never
  parses never := nomatch never

theorem of_rejection (parsed : Tree.ofText text = .ok t) (rejection : e.IsRejection) :
    Located r text e := by
  obtain ⟨o, rfl⟩ := rejection
  exact ⟨nofun, nofun, nofun, fun _ => ⟨t, parsed⟩⟩

theorem of_operator (cut : tokenize text = .ok ts) (offends : Offends r e ts us leaf) {t t' : Token}
    (mem : t ∈ us) (same : e = .malformed (.unexpectedOperator op) (some t.span)) (mem' : t' ∈ us)
    (kind : t'.kind = .operator op) : Located r text e where
  inside s' place := by
    subst same
    cases place
    exact token_covers cut (offends.tokens.subset mem)
  absent fault' same' := by
    rw [same] at same'
    cases same'
  operator op' place same' := by
    rw [same] at same'
    cases same'
    exact ⟨ts, us, leaf, cut, offends, ⟨t, mem, rfl⟩, t', mem', kind⟩
  parses rejection := by
    obtain ⟨o, never⟩ := rejection
    rw [same] at never
    cases never

end Located

theorem LeafReader.Placeless.located (placeless : r.Placeless)
    (refused : Query.ofText r text = .error e) : Located r text e := by
  rcases bind_error_iff.mp refused with refused | ⟨t, parsed, refused⟩
  · rcases bind_error_iff.mp refused with failed | ⟨ts, cut, failed⟩
    · obtain ⟨fault, s, rfl, covered, other⟩ := tokenize_fault failed
      exact .of_place covered other
    · rcases ofTokens_fault failed with ⟨x, t, mem, rfl⟩ | ⟨x, t, more, rfl, accepted⟩
      · exact .of_place (token_covers cut mem) (by simp)
      · exact .of_end cut failed accepted
  · obtain ⟨ts, cut, derivable⟩ := bind_ok_iff.mp parsed
    rcases LeafReader.ofTree_stops derivable refused with ⟨us, leaf, offends⟩ | ⟨name, refused⟩
    · rcases LeafReader.leaf_located placeless offends.derived offends.refused with
        rejection | ⟨op, t', mem, same, u, mem', kind⟩
      · exact .of_rejection parsed rejection
      · exact .of_operator cut offends mem same mem' kind
    · exact .of_rejection parsed (placeless.sortField name e refused)

theorem LeafReader.Placeless.located? (placeless : r.Placeless) {text : Option String}
    (refused : Query.ofText? r text = .error e) : ∃ s, text = some s ∧ Located r s e := by
  cases text with
  | none => cases refused
  | some s => exact ⟨s, rfl, placeless.located refused⟩

end TrackerQuery
