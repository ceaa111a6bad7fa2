import TrackerQuery.Token

namespace TrackerQuery

inductive Expected where
  | criteria | fieldOperator | quotedValue | quotedField | quotedRevision | revisionKind
  | and | closing
  | continuation
deriving DecidableEq, Repr

-- `unexpectedOperator` is for an operator that the grammar takes where it stands, but that has no meaning
-- for the kind of entity.
inductive SyntaxFault where
  | unexpectedCharacter (c : Char) (position : Nat)
  | unrecognizedWord (word : String) (position : Nat)
  | unterminatedQuote (position : Nat)
  | unexpectedToken (expected : Expected) (found : Token.Kind)
  | endOfInput (expected : Expected)
  | unexpectedOperator (op : Operator)
deriving DecidableEq, Repr

inductive Objection where
  | notApplicable (field : String) (op : Operator)
  | fieldNotFound (field : String)
  | undefinedValue (field value : String)
  | invalidNumber (text : String)
  | unrecognizedDate (text : String)
  | invalidReference (text : String)
  | invalidBuild (text : String)
  | buildNotFound (text : String)
  | commitNotFound (text : String)
  | revisionNotFound (kind : RevisionKind) (value : String)
  | notSortable (field : String)
deriving DecidableEq, Repr

inductive Error where
  | malformed (fault : SyntaxFault) (span : Option Span)
  | rejected (objection : Objection)
deriving DecidableEq, Repr

def Expected.text : Expected → String
  | criteria => "criteria"
  | fieldOperator => "field operator"
  | quotedValue => "quoted value"
  | quotedField => "quoted field name"
  | quotedRevision => "quoted revision"
  | revisionKind => "'branch', 'tag', 'commit' or 'build'"
  | and => "'and'"
  | closing => "')'"
  | continuation => "'and', 'or' or 'order by'"

def SyntaxFault.message : SyntaxFault → String
  | unexpectedCharacter c position =>
    "Unexpected character '" ++ c.toString ++ "' at position " ++ position.repr
  | unrecognizedWord word position =>
    "Unrecognized word '" ++ word ++ "' at position " ++ position.repr
  | unterminatedQuote position =>
    "Unterminated quoted literal starting at position " ++ position.repr
  | unexpectedToken expected found =>
    "Expected " ++ expected.text ++ ", found " ++ found.description
  | endOfInput expected => "Expected " ++ expected.text ++ ", but reached end of input"
  | unexpectedOperator op => "Unexpected operator: " ++ op.text

def Objection.message : Objection → String
  | notApplicable field op =>
    "Field '" ++ field ++ "' is not applicable for operator '" ++ op.text ++ "'"
  | fieldNotFound field => "Field not found: " ++ field
  | undefinedValue field value => "Value '" ++ value ++ "' is not defined for field '" ++ field ++ "'"
  | invalidNumber text => "Invalid number: " ++ text
  | unrecognizedDate text => "Unrecognized date: " ++ text
  | invalidReference text => "Invalid reference: " ++ text
  | invalidBuild text => "Invalid build: " ++ text
  | buildNotFound text => "Unable to find build: " ++ text
  | commitNotFound text => "Unable to find commit: " ++ text
  | revisionNotFound kind value => "Unable to find " ++ kind.text ++ " " ++ value
  | notSortable field => "Can not order by field: " ++ field

namespace Error

def message : Error → String
  | malformed fault _ => "Malformed query syntax: " ++ fault.message
  | rejected objection => objection.message

def span : Error → Option Span
  | malformed _ span => span
  | rejected _ => none

def locatedAt (place : Span) : Error → Error
  | malformed fault none => malformed fault (some place)
  | e => e

def unsupported (op : Operator) : Error :=
  malformed (.unexpectedOperator op) none

end Error

end TrackerQuery
