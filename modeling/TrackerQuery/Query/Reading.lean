import TrackerQuery.Query
import TrackerQuery.Tree.Reading

namespace TrackerQuery

structure LeafReader (κ : Type) where
  standalone : Operator → Except Error κ
  field : String → Operator → Except Error κ
  fieldValue : String → Operator → String → Except Error κ
  value : Operator → String → Except Error κ
  between : Revision → Revision → Except Error κ
  sortField : String → Except Error Unit

def Tree.Endpoint.revision (e : Tree.Endpoint) : Revision :=
  ⟨e.kind, e.value.value⟩

-- A field that refuses `is` refuses `is not` in the same way.
def Error.ofNegated (field : String) (e : Error) : Error :=
  if e = .rejected (.notApplicable field .is) then .rejected (.notApplicable field .isNot) else e

namespace LeafReader

def readFieldValue (r : LeafReader κ) (field : Tree.Literal) (op : Operator)
    (value : Tree.Literal) : Except Error (Criteria κ) :=
  if op = .isNot then
    match r.fieldValue field.value .is value.value with
    | .ok k => .ok (.negation (.leaf k))
    | .error e => .error ((e.ofNegated field.value).locatedAt field.span)
  else
    match r.fieldValue field.value op value.value with
    | .ok k => .ok (.leaf k)
    | .error e => .error (e.locatedAt field.span)

def located (place : Span) : Except Error κ → Except Error (Criteria κ)
  | .ok k => .ok (.leaf k)
  | .error e => .error (e.locatedAt place)

mutual

def read (r : LeafReader κ) : Tree.Node → Except Error (Criteria κ)
  | .any children => (readAll r children).map .any
  | .all children => (readAll r children).map .all
  | .negation child => (read r child).map .negation
  | .group child => read r child
  | .standalone op span => located span (r.standalone op)
  | .field field op => located field.span (r.field field.value op)
  | .fieldValue field op value => r.readFieldValue field op value
  | .value op value => located value.span (r.value op value.value)
  | .between first second => located first.value.span (r.between first.revision second.revision)

def readAll (r : LeafReader κ) : List Tree.Node → Except Error (List (Criteria κ))
  | [] => .ok []
  | n :: ns => do
    let c ← read r n
    let cs ← readAll r ns
    .ok (c :: cs)

end

def readSort (r : LeafReader κ) (order : Tree.Order) : Except Error SortKey := do
  r.sortField order.field.value
  .ok ⟨order.field.value, if order.ascending = some true then .ascending else .descending⟩

def readSorts (r : LeafReader κ) : List Tree.Order → Except Error (List SortKey)
  | [] => .ok []
  | o :: os => do
    let s ← r.readSort o
    let ss ← readSorts r os
    .ok (s :: ss)

def readCriteria (r : LeafReader κ) : Option Tree.Node → Except Error (Option (Criteria κ))
  | none => .ok none
  | some node => (r.read node).map some

end LeafReader

namespace Query

def ofTree (r : LeafReader κ) (tree : Tree) : Except Error (Query κ) := do
  let criteria ← r.readCriteria tree.criteria
  let sorts ← r.readSorts tree.orders
  .ok ⟨criteria, sorts⟩

def ofText (r : LeafReader κ) (text : String) : Except Error (Query κ) := do
  ofTree r (← Tree.ofText text)

def ofText? (r : LeafReader κ) : Option String → Except Error (Query κ)
  | none => .ok empty
  | some text => ofText r text

end Query

def fieldText (field : String) (op : Operator) (value : String) : String :=
  Text.quote field ++ " " ++ op.text ++ " " ++ Text.quote value

def operatorText (op : Operator) (value : String) : String :=
  op.text ++ " " ++ Text.quote value

def readNumber (text : String) : Except Error Int :=
  match Text.readInt? (Text.trim text.toList) with
  | some n => .ok n
  | none => .error (.rejected (.invalidNumber text))

-- Numbers of entities may be written with leading number signs, which errors do not name.
def readEntityNumber (text : String) : Except Error Int :=
  readNumber (String.ofList ((Text.trim text.toList).dropWhile (· == '#')))

end TrackerQuery
