import TrackerQuery.Error
import TrackerQuery.Token.Scan
import TrackerQuery.Tree

namespace TrackerQuery.Tree

abbrev Reader (α : Type) : Type :=
  List Token → Except Error (α × List Token)

def unexpected (expected : Expected) (t : Token) : Error :=
  .malformed (.unexpectedToken expected t.kind) (some t.span)

def endOfInput (expected : Expected) : Error :=
  .malformed (.endOfInput expected) none

def readKind (kind : Token.Kind) (expected : Expected) : Reader Unit
  | [] => .error (endOfInput expected)
  | t :: ts => if t.kind = kind then .ok ((), ts) else .error (unexpected expected t)

def readLiteral (expected : Expected) : Reader Literal
  | [] => .error (endOfInput expected)
  | t :: ts =>
    match t.kind with
    | .quoted raw => .ok (⟨raw, t.span⟩, ts)
    | _ => .error (unexpected expected t)

def readEndpoint : Reader Endpoint
  | [] => .error (endOfInput .revisionKind)
  | t :: ts =>
    match t.kind with
    | .revision kind => do
      let (value, ts) ← readLiteral .quotedRevision ts
      .ok (⟨kind, value⟩, ts)
    | _ => .error (unexpected .revisionKind t)

-- At most `n` more items after the first, each after a `separator`. The count bounds nesting and length,
-- and the number of tokens is always enough.
def chain (separator : Token.Kind) (item : Reader α) : Nat → Reader (List α)
  | 0, ts => do
    let (a, ts) ← item ts
    .ok ([a], ts)
  | n + 1, ts => do
    let (a, ts) ← item ts
    match ts with
    | [] => .ok ([a], [])
    | t :: rest =>
      if t.kind = separator then
        let (more, rest) ← chain separator item n rest
        .ok (a :: more, rest)
      else .ok ([a], t :: rest)

def Node.join (node : List Node → Node) : List Node → Node
  | [child] => child
  | children => node children

def criteriaOf (operand : Reader Node) (n : Nat) : Reader Node := fun ts => do
  let conjunction : Reader Node := fun ts => do
    let (children, ts) ← chain .and operand n ts
    .ok (Node.join .all children, ts)
  let (children, ts) ← chain .or conjunction n ts
  .ok (Node.join .any children, ts)

def readFieldTail (field : Literal) : Reader Node
  | [] => .error (endOfInput .fieldOperator)
  | t :: ts =>
    match t.kind with
    | .operator op =>
      match op.category with
      | .fieldValue => do
        let (value, ts) ← readLiteral .quotedValue ts
        .ok (.fieldValue field op value, ts)
      | .field => .ok (.field field op, ts)
      | _ => .error (unexpected .fieldOperator t)
    | _ => .error (unexpected .fieldOperator t)

def operand : Nat → Reader Node
  | _, [] => .error (endOfInput .criteria)
  | 0, t :: _ => .error (unexpected .criteria t)
  | n + 1, t :: ts =>
    match t.kind with
    | .not => do
      let (child, ts) ← operand n ts
      .ok (.negation child, ts)
    | .opening => do
      let (child, ts) ← criteriaOf (operand n) ts.length ts
      let (_, ts) ← readKind .closing .closing ts
      .ok (.group child, ts)
    | .quoted raw => readFieldTail ⟨raw, t.span⟩ ts
    | .operator op =>
      match op.category with
      | .standalone => .ok (.standalone op t.span, ts)
      | .value => do
        let (value, ts) ← readLiteral .quotedValue ts
        .ok (.value op value, ts)
      | .range => do
        let (first, ts) ← readEndpoint ts
        let (_, ts) ← readKind .and .and ts
        let (second, ts) ← readEndpoint ts
        .ok (.between first second, ts)
      | _ => .error (unexpected .criteria t)
    | _ => .error (unexpected .criteria t)

def readCriteria : Reader (Option Node)
  | [] => .ok (none, [])
  | t :: ts =>
    if t.kind = .orderBy then .ok (none, t :: ts)
    else do
      let n := (t :: ts).length
      let (node, rest) ← criteriaOf (operand n) n (t :: ts)
      .ok (some node, rest)

def readOrder : Reader Order := fun ts => do
  let (field, ts) ← readLiteral .quotedField ts
  match ts with
  | [] => .ok (⟨field, none⟩, [])
  | t :: rest =>
    match t.kind with
    | .asc => .ok (⟨field, some true⟩, rest)
    | .desc => .ok (⟨field, some false⟩, rest)
    | _ => .ok (⟨field, none⟩, t :: rest)

def readOrders : Nat → List Token → Except Error (List Order)
  | _, [] => .ok []
  | 0, t :: _ => .error (unexpected .continuation t)
  | n + 1, t :: ts =>
    if t.kind = .orderBy then do
      let (entries, ts) ← chain .and readOrder ts.length ts
      let more ← readOrders n ts
      .ok (entries ++ more)
    else .error (unexpected .continuation t)

def ofTokens (ts : List Token) : Except Error Tree := do
  let (criteria, rest) ← readCriteria ts
  let orders ← readOrders rest.length rest
  .ok ⟨criteria, orders⟩

def ofText (text : String) : Except Error Tree := do
  ofTokens (← Token.tokenize text)

end TrackerQuery.Tree
