import TrackerQuery.Operator
import TrackerQuery.Setting

namespace TrackerQuery.Issue

inductive Builtin where
  | title | description | comment | state | voteCount | commentCount | number | milestone
  | submitDate | updateDate
deriving DecidableEq, Repr

namespace Builtin

def name : Builtin → String
  | title => "title"
  | description => "description"
  | comment => "comment"
  | state => "state"
  | voteCount => "vote count"
  | commentCount => "comment count"
  | number => "number"
  | milestone => "milestone"
  | submitDate => "submit date"
  | updateDate => "update date"

def all : List Builtin := [
  title, description, comment, state, voteCount, commentCount, number, milestone,
  submitDate, updateDate]

def ofName? (s : String) : Option Builtin :=
  if s == "status" then some state else all.find? (·.name == s)

theorem ofName?_name (b : Builtin) : ofName? b.name = some b := by
  cases b <;> rfl

def isText : Builtin → Bool
  | title | description | comment => true
  | _ => false

def isNumber : Builtin → Bool
  | voteCount | commentCount | number => true
  | _ => false

def isDate : Builtin → Bool
  | submitDate | updateDate => true
  | _ => false

def sortable : List Builtin :=
  [number, submitDate, updateDate, voteCount, commentCount]

-- The sortable field of that very name; the alias of the state is no such name.
def ofSortName? (s : String) : Option Builtin :=
  sortable.find? (·.name == s)

end Builtin

-- What a field name means. A name that means a builtin field never means a custom one.
inductive Target where
  | builtin (b : Builtin)
  | custom (spec : FieldSpec)
deriving DecidableEq, Repr

namespace Target

def ofName? (setting : Setting) (name : String) : Option Target :=
  match Builtin.ofName? name with
  | some b => some (builtin b)
  | none => (setting.field? name).map custom

def takes : Target → Operator → Bool
  | builtin b, .isEmpty => b == .milestone
  | custom _, .isEmpty => true
  | custom spec, .isMe => spec.type == .userChoice
  | custom spec, .isCurrent | custom spec, .isPrevious => spec.type == .buildChoice
  | builtin b, .isBefore | builtin b, .isAfter => b.isDate
  | custom spec, .isBefore | custom spec, .isAfter => spec.type == .date
  | builtin b, .contains => b.isText
  | custom spec, .contains => spec.type == .text || (spec.allowMultiple && spec.type.isChoiceLike)
  | builtin b, .is | builtin b, .isNot => b == .state || b == .milestone || b.isNumber
  | custom spec, .is | custom spec, .isNot => spec.type != .date
  | builtin b, .isLessThan | builtin b, .isGreaterThan => b.isNumber
  | custom spec, .isLessThan | custom spec, .isGreaterThan =>
    spec.type == .number || spec.type == .choice
  | _, _ => false

end Target

end TrackerQuery.Issue
