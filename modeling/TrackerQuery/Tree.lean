import TrackerQuery.Text.Quoted
import TrackerQuery.Token

namespace TrackerQuery

namespace Tree

structure Literal where
  raw : String
  span : Span
deriving DecidableEq, Repr

def Literal.value (l : Literal) : String :=
  Text.unescape l.raw

structure Endpoint where
  kind : RevisionKind
  value : Literal
deriving DecidableEq, Repr

structure Order where
  field : Literal
  ascending : Option Bool
deriving DecidableEq, Repr

-- Parentheses keep a node of their own, so `a and (b and c)` stays apart from `a and b and c`.
inductive Node where
  | any (children : List Node)
  | all (children : List Node)
  | negation (child : Node)
  | group (child : Node)
  | standalone (op : Operator) (span : Span)
  | field (field : Literal) (op : Operator)
  | fieldValue (field : Literal) (op : Operator) (value : Literal)
  | value (op : Operator) (value : Literal)
  | between (first second : Endpoint)
deriving Repr

end Tree

structure Tree where
  criteria : Option Tree.Node
  orders : List Tree.Order

end TrackerQuery
