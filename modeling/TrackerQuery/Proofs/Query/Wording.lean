import TrackerQuery.Proofs.Token.Cutting
import TrackerQuery.Proofs.Tree.Derivation
import TrackerQuery.Query.Reading

namespace TrackerQuery

open TrackerQuery.Text TrackerQuery.Token TrackerQuery.Tree

-- The text is cut into tokens of which some phrase that is `meant` is derived, wherever they stand.
def Writes (cs : List Char) (derived : List Token → α → Prop) (meant : α → Prop) : Prop :=
  ∃ kinds, (∀ rest, Clear rest → Cuts cs rest kinds) ∧
    ∀ ts, ts.map (·.kind) = kinds → ∃ a, derived ts a ∧ meant a

inductive Wording where
  | standalone (op : Operator)
  | field (field : String) (op : Operator)
  | fieldValue (field : String) (op : Operator) (value : String)
  | value (op : Operator) (value : String)
  | between (first second : Revision)

namespace Wording

def text : Wording → String
  | standalone op => op.text
  | field name op => quote name ++ " " ++ op.text
  | fieldValue name op content => fieldText name op content
  | value op content => operatorText op content
  | between first second =>
    Operator.text .fixedBetween ++ " " ++ first.kind.text ++ " " ++ quote first.value
      ++ " and " ++ second.kind.text ++ " " ++ quote second.value

-- `is not` is no leaf but the negation of one.
def Grammatical : Wording → Prop
  | standalone op => op.category = .standalone
  | field _ op => op.category = .field
  | fieldValue _ op _ => op.category = .fieldValue ∧ op ≠ .isNot
  | value op _ => op.category = .value
  | between _ _ => True

end Wording

def LeafReader.readWording (r : LeafReader κ) : Wording → Except Error κ
  | .standalone op => r.standalone op
  | .field name op => r.field name op
  | .fieldValue name op value => r.fieldValue name op value
  | .value op value => r.value op value
  | .between first second => r.between first second

variable {κ : Type} {r : LeafReader κ} {k : κ} {rest : List Char} {ts : List Token}

theorem cuts_space : Cuts [' '] rest [] :=
  cuts_blank (by decide)

theorem clear_blank : Clear (' ' :: rest) := by
  simp [Clear, not_isWordChar_space]

theorem clear_value (value : String) : Clear (trimStart (' ' :: ((quote value).toList ++ rest))) := by
  have blank : isBlank ' ' = true := by decide
  have solid : isBlank '"' = false := by decide
  simp [toList_quote, trimStart, blank, solid, Clear, not_isWordChar_quote]

theorem cuts_before_value {kind : Token.Kind} {word : String} (phrase : IsPhrase kind word)
    (value : String) :
    Cuts (word.toList ++ ' ' :: (quote value).toList) rest [kind, .quoted (escape value)] :=
  (cuts_kind phrase clear_blank (.inl (clear_value value))).append
    (cuts_space.append (cuts_quote value))

theorem cuts_separator {kind : Token.Kind} {word : String} (keyword : Keyword kind word) :
    Cuts (' ' :: (word.toList ++ [' '])) rest [kind] :=
  cuts_space.append ((cuts_keyword keyword clear_blank).append cuts_space)

def writtenLiteral (value : String) (s : Span) : Literal :=
  ⟨escape value, s⟩

@[simp] theorem writtenLiteral_value (value : String) (s : Span) :
    (writtenLiteral value s).value = value :=
  unescape_escape value

theorem writes_standalone (category : op.category = .standalone) (meaning : r.standalone op = .ok k) :
    Writes op.text.toList Grammar.Operand fun n => r.read n = .ok (.leaf k) := by
  refine ⟨[.operator op], ?_, ?_⟩
  · intro rest clear
    exact cuts_keyword (operator_keyword (by simp [category])) clear
  · intro ts same
    match ts, same with
    | [⟨_, s⟩], rfl =>
      refine ⟨_, .leaf (.standalone s category), ?_⟩
      simp [LeafReader.read, LeafReader.located, meaning]

theorem writes_field (category : op.category = .field) (meaning : r.field name op = .ok k) :
    Writes (quote name ++ " " ++ op.text).toList Grammar.Operand
      fun n => r.read n = .ok (.leaf k) := by
  have chars : (quote name ++ " " ++ op.text).toList =
      (quote name).toList ++ ([' '] ++ op.text.toList) := by simp
  refine ⟨[.quoted (escape name), .operator op], ?_, ?_⟩
  · intro rest clear
    rw [chars]
    refine (cuts_quote name).append (cuts_space.append ?_)
    exact cuts_keyword (operator_keyword (by simp [category])) clear
  · intro ts same
    match ts, same with
    | [⟨_, s⟩, ⟨_, s'⟩], rfl =>
      refine ⟨_, .leaf (@Grammar.Leaf.field (writtenLiteral name s) op s' category), ?_⟩
      simp [LeafReader.read, LeafReader.located, meaning]

theorem writes_fieldValue (category : op.category = .fieldValue) (direct : op ≠ .isNot)
    (meaning : r.fieldValue name op content = .ok k) :
    Writes (fieldText name op content).toList Grammar.Operand
      fun n => r.read n = .ok (.leaf k) := by
  have chars : (fieldText name op content).toList =
      (quote name).toList ++ ([' '] ++ (op.text.toList ++ ' ' :: (quote content).toList)) := by
    simp [fieldText]
  refine ⟨[.quoted (escape name), .operator op, .quoted (escape content)], ?_, ?_⟩
  · intro rest clear
    rw [chars]
    refine (cuts_quote name).append (cuts_space.append ?_)
    exact cuts_before_value (operator_phrase op) content
  · intro ts same
    match ts, same with
    | [⟨_, s⟩, ⟨_, s'⟩, ⟨_, s''⟩], rfl =>
      refine ⟨_, .leaf (@Grammar.Leaf.fieldValue (writtenLiteral name s) op
        (writtenLiteral content s'') s' category), ?_⟩
      simp [LeafReader.read, LeafReader.readFieldValue, direct, meaning]

theorem writes_value (category : op.category = .value) (meaning : r.value op content = .ok k) :
    Writes (operatorText op content).toList Grammar.Operand
      fun n => r.read n = .ok (.leaf k) := by
  have chars : (operatorText op content).toList =
      op.text.toList ++ ' ' :: (quote content).toList := by simp [operatorText]
  refine ⟨[.operator op, .quoted (escape content)], ?_, ?_⟩
  · intro rest clear
    rw [chars]
    exact cuts_before_value (operator_phrase op) content
  · intro ts same
    match ts, same with
    | [⟨_, s⟩, ⟨_, s'⟩], rfl =>
      refine ⟨_, .leaf (@Grammar.Leaf.value op (writtenLiteral content s') s category), ?_⟩
      simp [LeafReader.read, LeafReader.located, meaning]

theorem writes_between (meaning : r.between first second = .ok k) :
    Writes (Wording.between first second).text.toList Grammar.Operand
      fun n => r.read n = .ok (.leaf k) := by
  have chars : (Wording.between first second).text.toList =
      Operator.fixedBetween.text.toList ++ ([' '] ++
        ((first.kind.text.toList ++ ' ' :: (quote first.value).toList) ++
          ((' ' :: ("and".toList ++ [' '])) ++
            (second.kind.text.toList ++ ' ' :: (quote second.value).toList)))) := by
    simp [Wording.text]
  refine ⟨[.operator .fixedBetween, .revision first.kind, .quoted (escape first.value), .and,
    .revision second.kind, .quoted (escape second.value)], ?_, ?_⟩
  · intro rest clear
    rw [chars]
    refine Cuts.append (cuts_keyword (operator_keyword (by decide)) clear_blank) ?_
    refine cuts_space.append ((cuts_before_value (revision_phrase first.kind) first.value).append ?_)
    refine (cuts_separator and_keyword).append ?_
    exact cuts_before_value (revision_phrase second.kind) second.value
  · intro ts same
    match ts, same with
    | [⟨_, s⟩, ⟨_, s₁⟩, ⟨_, l₁⟩, ⟨_, s'⟩, ⟨_, s₂⟩, ⟨_, l₂⟩], rfl =>
      have start := @Grammar.Endpoint.named first.kind (writtenLiteral first.value l₁) s₁
      have stop := @Grammar.Endpoint.named second.kind (writtenLiteral second.value l₂) s₂
      refine ⟨_, .leaf (.between s s' start stop), ?_⟩
      simp [LeafReader.read, LeafReader.located, Endpoint.revision, meaning]

theorem writes_wording {w : Wording} (grammatical : w.Grammatical) (read : r.readWording w = .ok k) :
    Writes w.text.toList Grammar.Operand fun n => r.read n = .ok (.leaf k) := by
  cases w with
  | standalone op => exact writes_standalone grammatical read
  | field name op => exact writes_field grammatical read
  | fieldValue name op content => exact writes_fieldValue grammatical.1 grammatical.2 read
  | value op content => exact writes_value grammatical read
  | between first second => exact writes_between read

end TrackerQuery
