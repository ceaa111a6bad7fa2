import Mathlib.Data.List.Forall2
import TrackerQuery.Tree.Reading

namespace TrackerQuery.Tree

def Literal.token (l : Literal) : Token :=
  ⟨.quoted l.raw, l.span⟩

-- query     := criteria? order*
-- criteria  := and ("or" and)*
-- and       := not ("and" not)*
-- not       := "not" not | "(" criteria ")"
--            | Quoted fieldValueOp Quoted | Quoted fieldOp | zeroOperandOp | valueOp Quoted
--            | "fixed between" revision "and" revision
-- revision  := ("branch" | "tag" | "commit" | "build") Quoted
-- order     := "order by" Quoted ("asc" | "desc")? ("and" Quoted ("asc" | "desc")?)*
namespace Grammar

inductive Chain {α : Type} (separator : Token.Kind) (item : List Token → α → Prop) :
    List Token → List α → Prop where
  | one {ts a} (h : item ts a) : Chain separator item ts [a]
  | more {ts us a as} (s : Span) (h : item ts a) (hs : Chain separator item us as) :
      Chain separator item (ts ++ ⟨separator, s⟩ :: us) (a :: as)

inductive Endpoint : List Token → Tree.Endpoint → Prop where
  | named {kind value} (s : Span) : Endpoint [⟨.revision kind, s⟩, Literal.token value] ⟨kind, value⟩

inductive Leaf : List Token → Node → Prop where
  | fieldValue {field op value} (s : Span) (h : Operator.category op = .fieldValue) :
      Leaf [Literal.token field, ⟨.operator op, s⟩, Literal.token value] (.fieldValue field op value)
  | field {field op} (s : Span) (h : Operator.category op = .field) :
      Leaf [Literal.token field, ⟨.operator op, s⟩] (.field field op)
  | standalone {op} (s : Span) (h : Operator.category op = .standalone) :
      Leaf [⟨.operator op, s⟩] (.standalone op s)
  | value {op value} (s : Span) (h : Operator.category op = .value) :
      Leaf [⟨.operator op, s⟩, Literal.token value] (.value op value)
  | between {ts us first second} (s s' : Span) (h : Endpoint ts first) (h' : Endpoint us second) :
      Leaf (⟨.operator .fixedBetween, s⟩ :: (ts ++ ⟨.and, s'⟩ :: us)) (.between first second)

mutual

inductive Criteria : List Token → Node → Prop where
  | any {ts ns} (h : Chain .or Conjunction ts ns) : Criteria ts (Node.join .any ns)

inductive Conjunction : List Token → Node → Prop where
  | all {ts ns} (h : Chain .and Operand ts ns) : Conjunction ts (Node.join .all ns)

inductive Operand : List Token → Node → Prop where
  | negation {ts n} (s : Span) (h : Operand ts n) : Operand (⟨.not, s⟩ :: ts) (.negation n)
  | group {ts n} (s s' : Span) (h : Criteria ts n) :
      Operand (⟨.opening, s⟩ :: (ts ++ [⟨.closing, s'⟩])) (.group n)
  | leaf {ts n} (h : Leaf ts n) : Operand ts n

end

inductive Entry : List Token → Order → Prop where
  | plain {field} : Entry [Literal.token field] ⟨field, none⟩
  | ascending {field} (s : Span) : Entry [Literal.token field, ⟨.asc, s⟩] ⟨field, some true⟩
  | descending {field} (s : Span) : Entry [Literal.token field, ⟨.desc, s⟩] ⟨field, some false⟩

inductive Orders : List Token → List Order → Prop where
  | nil : Orders [] []
  | clause {ts us os more} (s : Span) (h : Chain .and Entry ts os) (hs : Orders us more) :
      Orders (⟨.orderBy, s⟩ :: (ts ++ us)) (os ++ more)

inductive Query : List Token → Tree → Prop where
  | orders {ts os} (h : Orders ts os) : Query ts ⟨none, os⟩
  | criteria {ts us n os} (h : Criteria ts n) (hs : Orders us os) : Query (ts ++ us) ⟨some n, os⟩

theorem induction (criteria conjunction operand : List Token → Node → Prop)
    (any : ∀ {ts ns}, Chain .or conjunction ts ns → criteria ts (Node.join .any ns))
    (all : ∀ {ts ns}, Chain .and operand ts ns → conjunction ts (Node.join .all ns))
    (negation : ∀ {ts n} s, operand ts n → operand (⟨.not, s⟩ :: ts) (.negation n))
    (group : ∀ {ts n} s s', criteria ts n →
      operand (⟨.opening, s⟩ :: (ts ++ [⟨.closing, s'⟩])) (.group n))
    (leaf : ∀ {ts n}, Leaf ts n → operand ts n) {ts : List Token} {n : Node}
    (h : Criteria ts n) : criteria ts n :=
  Criteria.rec (motive_1 := fun ts n _ => criteria ts n) (motive_2 := fun ts n _ => conjunction ts n)
    (motive_3 := fun ts n _ => operand ts n)
    (motive_4 := fun ts ns _ => Chain .or conjunction ts ns)
    (motive_5 := fun ts ns _ => Chain .and operand ts ns)
    (fun _ => any) (fun _ => all) (fun s _ => negation s) (fun s s' _ => group s s') leaf
    (fun _ => .one) (fun s _ _ => .more s) (fun _ => .one) (fun s _ _ => .more s) h

end Grammar

def Node.strength : Node → Nat
  | any _ => 0
  | all _ => 1
  | _ => 2

-- Chains have two children at least; what is below a node holds together more tightly than a chain
-- does, and at least as tightly as a negation.
inductive Node.Shaped : Node → Prop where
  | any {ns} (h : 2 ≤ ns.length) (hn : ∀ n ∈ ns, 0 < strength n) (hs : ∀ n ∈ ns, Shaped n) :
      Shaped (any ns)
  | all {ns} (h : 2 ≤ ns.length) (hn : ∀ n ∈ ns, 1 < strength n) (hs : ∀ n ∈ ns, Shaped n) :
      Shaped (all ns)
  | negation {n} (hn : 1 < strength n) (h : Shaped n) : Shaped (negation n)
  | group {n} (h : Shaped n) : Shaped (group n)
  | fieldValue {field op value} (h : Operator.category op = .fieldValue) :
      Shaped (fieldValue field op value)
  | field {field op} (h : Operator.category op = .field) : Shaped (Node.field field op)
  | standalone {op s} (h : Operator.category op = .standalone) : Shaped (standalone op s)
  | value {op value} (h : Operator.category op = .value) : Shaped (Node.value op value)
  | between {first second} : Shaped (between first second)

-- What a node says of a token: its kind and, unless only a keyword is kept, its place.
structure Mark where
  kind : Token.Kind
  span : Option Span

def Mark.Fits (m : Mark) (t : Token) : Prop :=
  t.kind = m.kind ∧ ∀ s ∈ m.span, t.span = s

def Mark.keyword (kind : Token.Kind) : Mark :=
  ⟨kind, none⟩

def Mark.ofToken (t : Token) : Mark :=
  ⟨t.kind, some t.span⟩

def Endpoint.marks (e : Endpoint) : List Mark :=
  [.keyword (.revision e.kind), .ofToken e.value.token]

mutual

def Node.marks : Node → List Mark
  | .any children => separatedMarks .or children
  | .all children => separatedMarks .and children
  | .negation child => .keyword .not :: child.marks
  | .group child => .keyword .opening :: (child.marks ++ [.keyword .closing])
  | .standalone op span => [.ofToken ⟨.operator op, span⟩]
  | .field field op => [.ofToken field.token, .keyword (.operator op)]
  | .fieldValue field op value =>
    [.ofToken field.token, .keyword (.operator op), .ofToken value.token]
  | .value op value => [.keyword (.operator op), .ofToken value.token]
  | .between first second =>
    .keyword (.operator .fixedBetween) :: (first.marks ++ .keyword .and :: second.marks)

def separatedMarks (separator : Token.Kind) : List Node → List Mark
  | [] => []
  | [n] => n.marks
  | n :: m :: ns => n.marks ++ .keyword separator :: separatedMarks separator (m :: ns)

end

def Spell (ts : List Token) (marks : List Mark) : Prop :=
  List.Forall₂ Mark.Fits marks ts

end TrackerQuery.Tree
