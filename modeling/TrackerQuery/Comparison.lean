import TrackerQuery.Operator

namespace TrackerQuery

inductive Comparison where
  | equal | less | greater
deriving DecidableEq, Repr

namespace Comparison

def ofOperator : Operator → Comparison
  | .isLessThan | .isBefore => less
  | .isGreaterThan | .isAfter => greater
  | _ => equal

def numberOperator : Comparison → Operator
  | equal => .is
  | less => .isLessThan
  | greater => .isGreaterThan

-- How a comparison of dates is written; dates are never compared for equality.
def dateOperator : Comparison → Operator
  | less => .isBefore
  | equal | greater => .isAfter

def sign : Comparison → String
  | equal => "="
  | less => "<"
  | greater => ">"

def holds [DecidableEq α] [LT α] [DecidableLT α] (c : Comparison) (actual expected : α) : Bool :=
  match c with
  | equal => actual = expected
  | less => actual < expected
  | greater => expected < actual

end Comparison

end TrackerQuery
