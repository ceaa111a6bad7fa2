import TrackerQuery.Operator

namespace TrackerQuery

-- Bytes from `start` up to `stop`, `stop` not included.
structure Span where
  start : Nat
  stop : Nat
deriving DecidableEq, Repr

inductive Token.Kind where
  | and | or | not
  | orderBy | asc | desc
  | operator (op : Operator)
  | revision (kind : RevisionKind)
  | quoted (raw : String)
  | opening | closing
deriving DecidableEq, Repr

structure Token where
  kind : Token.Kind
  span : Span
deriving DecidableEq, Repr

def Token.Kind.description : Token.Kind → String
  | and => "'and'"
  | or => "'or'"
  | not => "'not'"
  | orderBy => "'order by'"
  | asc => "'asc'"
  | desc => "'desc'"
  | operator op => "operator '" ++ op.text ++ "'"
  | revision kind => "'" ++ kind.text ++ "'"
  | quoted raw => "\"" ++ raw ++ "\""
  | opening => "'('"
  | closing => "')'"

end TrackerQuery
