import TrackerQuery.Proofs.Distinct
import TrackerQuery.Proofs.Sql.Pattern
import Mathlib.Data.List.Nodup

namespace TrackerQuery

namespace Sql

open TrackerQuery.Text TrackerQuery.Time

abbrev Row := ColumnName → Option Value

structure Database where
  rows : Table → List Row
  instant? : String → Option Instant

abbrev Scope := Column → Option Value

def Scope.enter (scope : Scope) (table : Table) (row : Row) : Scope :=
  fun c => if c.table = table then row c.name else scope c

def Row.scope (table : Table) (row : Row) : Scope :=
  Scope.enter (fun _ => none) table row

def conj : Option Bool → Option Bool → Option Bool
  | some false, _ => some false
  | some true, b => b
  | none, some false => some false
  | none, _ => none

def disj : Option Bool → Option Bool → Option Bool
  | some true, _ => some true
  | some false, b => b
  | none, some true => some true
  | none, _ => none

-- Values of different kinds do not compare.
def Value.compare (op : Comparison) : Value → Value → Option Bool
  | text a, text b => some (op.holds a b)
  | number a, number b => some (op.holds a b)
  | instant a, instant b => some (op.holds a b)
  | _, _ => none

def Value.text? : Value → Option String
  | text s => some s
  | _ => none

def Term.value (db : Database) (scope : Scope) : Term → Option Value
  | column c => scope c
  | lower c => ((scope c).bind Value.text?).map fun s => .text (lowerCase s)
  | timestamp c => (((scope c).bind Value.text?).bind db.instant?).map .instant

def isAmong (v : Option Value) (values : List (Option Value)) : Option Bool :=
  values.foldr
    (fun w found => disj (v.bind fun a => w.bind fun b => a.compare .equal b) found) (some false)

namespace Condition

def truth (db : Database) : Scope → Condition → Option Bool
  | _, constant b => some b
  | scope, compare term op value => (term.value db scope).bind (Value.compare op · value)
  | scope, like column pattern =>
    ((scope column).bind Value.text?).bind fun s => isLike pattern (lowerCase s)
  | scope, isNull column => some (scope column).isNone
  | scope, isNotNull column => some (scope column).isSome
  | scope, oneOf column numbers => isAmong (scope column) (numbers.map fun n => some (.number n))
  | scope, among column key condition =>
    isAmong (scope column)
      (((db.rows key.table).filter fun row =>
        truth db (scope.enter key.table row) condition == some true).map fun row => row key.name)
  | scope, notAmong column key condition =>
    (isAmong (scope column)
      (((db.rows key.table).filter fun row =>
        truth db (scope.enter key.table row) condition == some true).map fun row => row key.name)).map
      (!·)
  | scope, negation c => (truth db scope c).map (!·)
  | scope, both a b => conj (truth db scope a) (truth db scope b)
  | scope, either a b => disj (truth db scope a) (truth db scope b)

section

variable {db : Database} {scope : Scope} {a b c : Condition} {column key : Column}

@[simp] theorem truth_constant (v : Bool) : (constant v).truth db scope = some v := rfl

theorem truth_like (pattern : String) : (like column pattern).truth db scope =
    ((scope column).bind Value.text?).bind fun s => isLike pattern (lowerCase s) := rfl

theorem truth_isNull : (isNull column).truth db scope = some (scope column).isNone := rfl

theorem truth_oneOf (numbers : List Int) : (oneOf column numbers).truth db scope =
    isAmong (scope column) (numbers.map fun n => some (.number n)) := rfl

theorem truth_among : (among column key c).truth db scope = isAmong (scope column)
    (((db.rows key.table).filter fun row =>
      c.truth db (scope.enter key.table row) == some true).map fun row => row key.name) := rfl

theorem truth_negation : (negation c).truth db scope = (c.truth db scope).map (!·) := rfl

theorem truth_both : (both a b).truth db scope = conj (a.truth db scope) (b.truth db scope) := rfl

end

end Condition

-- Only the rows of which the condition is true are selected, as in a subquery.
def Select.truth (db : Database) (row : Row) (s : Select) : Option Bool :=
  s.condition.truth db (row.scope s.table)

section

variable {a b : Option Bool}

theorem conj_eq_true : conj a b = some true ↔ a = some true ∧ b = some true := by
  rcases a with _ | _ | _ <;> rcases b with _ | _ | _ <;> simp [conj]

theorem conj_eq_false : conj a b = some false ↔ a = some false ∨ b = some false := by
  rcases a with _ | _ | _ <;> rcases b with _ | _ | _ <;> simp [conj]

theorem disj_eq_true : disj a b = some true ↔ a = some true ∨ b = some true := by
  rcases a with _ | _ | _ <;> rcases b with _ | _ | _ <;> simp [disj]

theorem disj_eq_false : disj a b = some false ↔ a = some false ∧ b = some false := by
  rcases a with _ | _ | _ <;> rcases b with _ | _ | _ <;> simp [disj]

@[simp] theorem conj_some (a b : Bool) : conj (some a) (some b) = some (a && b) := by
  cases a <;> rfl

@[simp] theorem disj_some (a b : Bool) : disj (some a) (some b) = some (a || b) := by
  cases a <;> rfl

end

-- Numbers are told apart, so the question is decided where only numbers are listed.
theorem isAmong_number {n : Int} {values : List (Option Value)}
    (numbers : ∀ v ∈ values, ∃ m, v = some (.number m)) :
    isAmong (some (.number n)) values = some (decide (some (.number n) ∈ values)) := by
  induction values with
  | nil => rfl
  | cons v values ih =>
    obtain ⟨⟨m, rfl⟩, more⟩ := List.forall_mem_cons.mp numbers
    have compared : Value.compare .equal (.number n) (.number m) = some (decide (n = m)) := rfl
    rw [isAmong, List.foldr_cons, ← isAmong, ih more, Option.bind_some, Option.bind_some, compared,
      disj_some]
    simp

namespace Condition

variable {db : Database} {scope : Scope} {c : Condition} {cs : List Condition}

theorem foldl_forall {join : Condition → Condition → Condition} {p : Condition → Prop}
    (joined : ∀ a b, p (join a b) ↔ p a ∧ p b) : p (cs.foldl join c) ↔ ∀ d ∈ c :: cs, p d := by
  induction cs generalizing c with
  | nil => simp
  | cons d cs ih =>
    rw [List.foldl_cons, ih]
    simp [joined, and_assoc]

theorem foldl_exists {join : Condition → Condition → Condition} {p : Condition → Prop}
    (joined : ∀ a b, p (join a b) ↔ p a ∨ p b) : p (cs.foldl join c) ↔ ∃ d ∈ c :: cs, p d := by
  induction cs generalizing c with
  | nil => simp
  | cons d cs ih =>
    rw [List.foldl_cons, ih]
    simp [joined, or_assoc]

theorem conjunction_true : (conjunction cs).truth db scope = some true ↔
    ∀ c ∈ cs, c.truth db scope = some true := by
  cases cs with
  | nil => simp [conjunction]
  | cons c cs =>
    exact foldl_forall (p := fun c => c.truth db scope = some true) fun _ _ => conj_eq_true

theorem conjunction_false : (conjunction cs).truth db scope = some false ↔
    ∃ c ∈ cs, c.truth db scope = some false := by
  cases cs with
  | nil => simp [conjunction]
  | cons c cs =>
    exact foldl_exists (p := fun c => c.truth db scope = some false) fun _ _ => conj_eq_false

theorem disjunction_true : (disjunction cs).truth db scope = some true ↔
    ∃ c ∈ cs, c.truth db scope = some true := by
  cases cs with
  | nil => simp [disjunction]
  | cons c cs =>
    exact foldl_exists (p := fun c => c.truth db scope = some true) fun _ _ => disj_eq_true

theorem disjunction_false : (disjunction cs).truth db scope = some false ↔
    ∀ c ∈ cs, c.truth db scope = some false := by
  cases cs with
  | nil => simp [disjunction]
  | cons c cs =>
    exact foldl_forall (p := fun c => c.truth db scope = some false) fun _ _ => disj_eq_false

theorem negation_truth {b : Bool} : (negation c).truth db scope = some b ↔
    c.truth db scope = some !b := by
  rw [truth_negation]
  cases c.truth db scope with
  | none => simp
  | some v => cases v <;> cases b <;> simp

theorem both_truth {a b : Condition} {x y : Bool} (first : a.truth db scope = some x)
    (second : b.truth db scope = some y) : (both a b).truth db scope = some (x && y) := by
  rw [truth_both, first, second, conj_some]

theorem compare_column_truth (column : Column) (op : Comparison) (value : Value) :
    (compare (.column column) op value).truth db scope =
      (scope column).bind (Value.compare op · value) := rfl

theorem equals_truth {column : Column} {text : String} (value : String)
    (found : scope column = some (.text text)) :
    (equals column value).truth db scope = some (text == value) := by
  rw [equals, compare_column_truth, found]
  rfl

theorem containsIgnoringCase_truth {column : Column} {text : String} (value : String)
    (found : scope column = some (.text text)) :
    (containsIgnoringCase column value).truth db scope =
      some (Text.containsIgnoringCase text value) := by
  have like : isLike (containsPattern value) (lowerCase text) =
      some (Text.containsIgnoringCase text value) := isLike_within _ _
  simp [containsIgnoringCase, truth_like, found, Value.text?, like]

theorem equalsIgnoringCase_truth {column : Column} {text : String} (value : String)
    (found : scope column = some (.text text)) :
    (equalsIgnoringCase column value).truth db scope = some (lowerCase text == lowerCase value) := by
  have lowered : (Term.lower column).value db scope = some (.text (lowerCase text)) := by
    rw [Term.value, found]
    rfl
  change ((Term.lower column).value db scope).bind _ = _
  rw [lowered]
  rfl

theorem equals_nullable {column : Column} {text? : Option String} (value : String)
    (found : scope column = text?.map .text) :
    (equals column value).truth db scope =
      if text?.isNone then none else some (text? == some value) := by
  cases text? with
  | none => rw [equals, compare_column_truth, found]; rfl
  | some text => exact equals_truth value found

theorem containsIgnoringCase_nullable {column : Column} {text? : Option String} (value : String)
    (found : scope column = text?.map .text) :
    (containsIgnoringCase column value).truth db scope =
      if text?.isNone then none else some (text?.any (Text.containsIgnoringCase · value)) := by
  cases text? with
  | none => rw [containsIgnoringCase, truth_like, found]; rfl
  | some text =>
    rw [containsIgnoringCase_truth value found]
    simp

theorem equalsActing_truth (user : Option String) {column : Column} {text? : Option String}
    (found : scope column = text?.map .text) :
    Condition.truth db scope (match user with
      | some user => equals column user
      | none => constant false) =
      if user.isSome && text?.isNone then none else some (user.any fun user => text? == some user) := by
  cases user with
  | none => rfl
  | some user => exact equals_nullable user found

theorem compareNumber_truth {column : Column} {n : Int} (op : Comparison) (value : Int)
    (found : scope column = some (.number n)) :
    (compareNumber column op value).truth db scope = some (op.holds n value) := by
  rw [compareNumber, compare_column_truth, found]
  rfl

theorem compareInstant_truth {column : Column} {t : Instant} (op : Comparison) (value : Instant)
    (found : scope column = some (.instant t)) :
    (compareInstant column op value).truth db scope = some (op.holds t value) := by
  rw [compareInstant, compare_column_truth, found]
  rfl

theorem inNumbers_truth {column : Column} {n : Int} (numbers : List Int)
    (found : scope column = some (.number n)) :
    (inNumbers column numbers).truth db scope = some (numbers.contains n) := by
  rw [inNumbers]
  cases numbers with
  | nil => rfl
  | cons m ms =>
    rw [List.isEmpty_cons, if_neg Bool.false_ne_true, truth_oneOf, found, isAmong_number (by simp)]
    simp [mem_distinct]

theorem inProject_truth {column : Column} {own : String} {c : Condition} {b : Bool}
    (project : Option String) (found : scope column = some (.text own))
    (said : c.truth db scope = some b) :
    Condition.truth db scope (match project with
      | some project => both (equals column project) c
      | none => c) = some (project.all (own == ·) && b) := by
  cases project with
  | none => exact said
  | some project => exact both_truth (equals_truth project found) said

-- Where the rows of a side table belong to things with different ids, a row of the owner asks of its
-- own side rows only.
theorem related_truth (things : List α) (id : α → Int) (parts : α → List β)
    (partRow : Int → β → Row) {thing : α} {owner : Table} {key : Column} {condition : Condition}
    (rows : db.rows key.table = things.flatMap fun x => (parts x).map (partRow (id x)))
    (keyed : ∀ n part, partRow n part key.name = some (.number n))
    (distinct : (things.map id).Nodup) (stored : thing ∈ things)
    (own : scope ⟨owner, .id⟩ = some (.number (id thing))) :
    (related owner key condition).truth db scope = some ((parts thing).any fun part =>
      condition.truth db (scope.enter key.table (partRow (id thing) part)) == some true) := by
  rw [related, truth_among, own, isAmong_number]
  · congr 1
    rw [Bool.eq_iff_iff, decide_eq_true_iff, List.any_eq_true, rows]
    simp only [List.mem_map, List.mem_filter, List.mem_flatMap]
    constructor
    · rintro ⟨_, ⟨⟨other, mem, part, listed, rfl⟩, true⟩, same⟩
      rw [keyed, Option.some.injEq, Value.number.injEq] at same
      obtain rfl := List.inj_on_of_nodup_map distinct mem stored same
      exact ⟨part, listed, true⟩
    · rintro ⟨part, listed, true⟩
      exact ⟨_, ⟨⟨thing, stored, part, listed, rfl⟩, true⟩, keyed _ _⟩
  · intro v mem
    simp only [rows, List.mem_map, List.mem_filter, List.mem_flatMap] at mem
    obtain ⟨_, ⟨⟨other, _, part, _, rfl⟩, _⟩, rfl⟩ := mem
    exact ⟨id other, keyed _ _⟩

end Condition

end Sql

end TrackerQuery
