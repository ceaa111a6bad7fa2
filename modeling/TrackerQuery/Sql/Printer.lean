import TrackerQuery.Sql.Condition

namespace TrackerQuery.Sql

def escapeChar : Char → List Char
  | '\\' => ['\\', '\\']
  | '"' => ['\\', '"']
  | '\'' => ['\\', '\'']
  | '\x00' => ['\\', '0']
  | '\x08' => ['\\', 'b']
  | '\t' => ['\\', 't']
  | '\x1a' => ['\\', 'z']
  | '\n' => ['\\', 'n']
  | '\r' => ['\\', 'r']
  | c => [c]

def stringText (s : String) : String :=
  let cs := s.toList.flatMap escapeChar
  (if cs.contains '\\' then "E'" else "'") ++ String.ofList cs ++ "'"

def instantText (t : Time.Instant) : String :=
  "'" ++ t.dateText ++ " " ++ t.clockText ++ "." ++ Text.padded 6 (t.fraction / 1000) ++ " +00:00'"

def Value.sql : Value → String
  | text s => stringText s
  | number n => toString n
  | instant t => instantText t

def Table.sql (t : Table) : String :=
  "\"" ++ t.name ++ "\""

def Column.sql (c : Column) : String :=
  c.table.sql ++ ".\"" ++ c.name.text ++ "\""

def Term.sql : Term → String
  | column c => c.sql
  | lower c => "LOWER(" ++ c.sql ++ ")"
  | timestamp c => "CAST(" ++ c.sql ++ " AS timestamptz)"

def numbersText : List Int → String
  | [] => ""
  | [n] => toString n
  | n :: ns => toString n ++ ", " ++ numbersText ns

namespace Condition

def isBoth : Condition → Bool
  | both _ _ => true
  | _ => false

def isEither : Condition → Bool
  | either _ _ => true
  | _ => false

-- An operand of a connective stands in parentheses if it is a connective itself, except that a chain of
-- one connective that groups to the left needs none.
def isConnective : Condition → Bool
  | both _ _ | either _ _ | negation _ => true
  | _ => false

def parenthesized (needed : Bool) (s : String) : String :=
  if needed then "(" ++ s ++ ")" else s

def sql : Condition → String
  | constant true => "TRUE"
  | constant false => "FALSE"
  | compare term op value => term.sql ++ " " ++ op.sign ++ " " ++ value.sql
  | like column pattern =>
    "LOWER(" ++ column.sql ++ ") LIKE " ++ stringText pattern ++ " ESCAPE E'\\\\'"
  | isNull column => column.sql ++ " IS NULL"
  | isNotNull column => column.sql ++ " IS NOT NULL"
  | oneOf column numbers => column.sql ++ " IN (" ++ numbersText numbers ++ ")"
  | among column key condition =>
    column.sql ++ " IN (SELECT " ++ key.sql ++ " FROM " ++ key.table.sql ++ " WHERE "
      ++ condition.sql ++ ")"
  | notAmong column key condition =>
    column.sql ++ " NOT IN (SELECT " ++ key.sql ++ " FROM " ++ key.table.sql ++ " WHERE "
      ++ condition.sql ++ ")"
  | negation c => "NOT " ++ parenthesized c.isConnective c.sql
  | both a b =>
    parenthesized (a.isConnective && !a.isBoth) a.sql ++ " AND "
      ++ parenthesized b.isConnective b.sql
  | either a b =>
    parenthesized (a.isConnective && !a.isEither) a.sql ++ " OR "
      ++ parenthesized b.isConnective b.sql

end Condition

def ordersText (table : Table) : List (ColumnName × Bool) → String
  | [] => ""
  | [o] => Column.sql ⟨table, o.1⟩ ++ if o.2 then " ASC" else " DESC"
  | o :: os => Column.sql ⟨table, o.1⟩ ++ (if o.2 then " ASC, " else " DESC, ") ++ ordersText table os

def Select.sql (s : Select) : String :=
  "SELECT * FROM " ++ s.table.sql ++ " WHERE " ++ s.condition.sql
    ++ if s.orders.isEmpty then "" else " ORDER BY " ++ ordersText s.table s.orders

end TrackerQuery.Sql
