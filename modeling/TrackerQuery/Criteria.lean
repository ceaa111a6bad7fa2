import TrackerQuery.Context
import TrackerQuery.Sql.Condition

namespace TrackerQuery

inductive Criteria (κ : Type) where
  | leaf (k : κ)
  | all (children : List (Criteria κ))
  | any (children : List (Criteria κ))
  | negation (child : Criteria κ)
deriving Repr

-- What an entity of type `ε` supplies of its leaves. All the rest is said here once, for trees of any
-- kind; evaluation, the user test and the condition go through a tree by `fold`.
class LeafKind (κ : Type) (ε : outParam Type) where
  holds : MatchContext → ε → κ → Bool
  needsLogin : κ → Bool
  condition : MatchContext → κ → Sql.Condition
  text : κ → String
  table : Sql.Table
  sortColumn : String → Option Sql.ColumnName

def joined (separator : String) : List String → String
  | [] => ""
  | [s] => s
  | s :: t :: more => s ++ separator ++ joined separator (t :: more)

namespace Criteria

mutual

def fold (leaf : κ → β) (all any : List β → β) (negation : β → β) : Criteria κ → β
  | .leaf k => leaf k
  | .all children => all (foldList leaf all any negation children)
  | .any children => any (foldList leaf all any negation children)
  | .negation child => negation (fold leaf all any negation child)

def foldList (leaf : κ → β) (all any : List β → β) (negation : β → β) : List (Criteria κ) → List β
  | [] => []
  | c :: cs => fold leaf all any negation c :: foldList leaf all any negation cs

end

@[simp] theorem foldList_eq_map (leaf : κ → β) (all any : List β → β) (negation : β → β)
    (cs : List (Criteria κ)) :
    foldList leaf all any negation cs = cs.map (fold leaf all any negation) := by
  induction cs with
  | nil => rfl
  | cons c cs ih => exact congrArg (fold leaf all any negation c :: ·) ih

section

variable (leaf : κ → β) (all any : List β → β) (negation : β → β)

@[simp] theorem fold_leaf (k : κ) : fold leaf all any negation (.leaf k) = leaf k := rfl

@[simp] theorem fold_all (cs : List (Criteria κ)) :
    fold leaf all any negation (.all cs) = all (cs.map (fold leaf all any negation)) :=
  congrArg all (foldList_eq_map leaf all any negation cs)

@[simp] theorem fold_any (cs : List (Criteria κ)) :
    fold leaf all any negation (.any cs) = any (cs.map (fold leaf all any negation)) :=
  congrArg any (foldList_eq_map leaf all any negation cs)

@[simp] theorem fold_negation (c : Criteria κ) :
    fold leaf all any negation (.negation c) = negation (fold leaf all any negation c) := rfl

end

theorem induction {motive : Criteria κ → Prop} (leaf : ∀ k, motive (.leaf k))
    (all : ∀ cs, (∀ c ∈ cs, motive c) → motive (.all cs))
    (any : ∀ cs, (∀ c ∈ cs, motive c) → motive (.any cs))
    (negation : ∀ c, motive c → motive (.negation c)) (c : Criteria κ) : motive c :=
  Criteria.rec (motive_1 := motive) (motive_2 := fun cs => ∀ c ∈ cs, motive c)
    leaf all any negation (fun _ h => by simp at h)
    (fun _ _ hc hcs c h => (List.mem_cons.1 h).elim (fun e => e ▸ hc) (hcs c)) c

mutual

def decEq [DecidableEq κ] : (a b : Criteria κ) → Decidable (a = b)
  | .leaf a, .leaf b => decidable_of_iff (a = b) (by simp)
  | .all as, .all bs => have := decEqList as bs; decidable_of_iff (as = bs) (by simp)
  | .any as, .any bs => have := decEqList as bs; decidable_of_iff (as = bs) (by simp)
  | .negation a, .negation b => have := decEq a b; decidable_of_iff (a = b) (by simp)
  | .leaf _, .all _ | .leaf _, .any _ | .leaf _, .negation _
  | .all _, .leaf _ | .all _, .any _ | .all _, .negation _
  | .any _, .leaf _ | .any _, .all _ | .any _, .negation _
  | .negation _, .leaf _ | .negation _, .all _ | .negation _, .any _ => isFalse nofun

def decEqList [DecidableEq κ] : (as bs : List (Criteria κ)) → Decidable (as = bs)
  | [], [] => isTrue rfl
  | a :: as, b :: bs =>
    have := decEq a b
    have := decEqList as bs
    decidable_of_iff (a = b ∧ as = bs) (by simp)
  | [], _ :: _ | _ :: _, [] => isFalse nofun

end

instance [DecidableEq κ] : DecidableEq (Criteria κ) := decEq

section

variable {κ ε : Type} [LeafKind κ ε]

def isSatisfied (ctx : MatchContext) (entity : ε) : Criteria κ → Bool :=
  fold (LeafKind.holds ctx entity) (·.all id) (·.any id) (!·)

def needsLogin : Criteria κ → Bool :=
  fold LeafKind.needsLogin (·.any id) (·.any id) id

def condition (ctx : MatchContext) : Criteria κ → Sql.Condition :=
  fold (LeafKind.condition ctx) .conjunction .disjunction .negation

def isComposite : Criteria κ → Bool
  | .all _ | .any _ => true
  | _ => false

mutual

def text : Criteria κ → String
  | .leaf k => LeafKind.text k
  | .all children => joined " and " (operandTexts children)
  | .any children => joined " or " (operandTexts children)
  | .negation child => "not(" ++ text child ++ ")"

def operandTexts : List (Criteria κ) → List String
  | [] => []
  | c :: cs => (if c.isComposite then "(" ++ text c ++ ")" else text c) :: operandTexts cs

end

end

def leaves : Criteria κ → List κ :=
  fold ([·]) List.flatten List.flatten id

def map (f : κ → κ) : Criteria κ → Criteria κ :=
  fold (leaf ∘ f) all any negation

structure Pruned (κ : Type) where
  lost : Bool
  left : Criteria κ

mutual

-- Takes out the doomed leaves. An `all` loses the children that have to go, and a last survivor takes
-- its place; an `any` and a negation go with any child that goes. The tree that is left of one that
-- goes keeps what happened up to then.
def prune (doomed : κ → Bool) : Criteria κ → Pruned κ
  | .leaf k => ⟨doomed k, .leaf k⟩
  | .all children =>
    match survivors doomed children with
    | [] => ⟨true, .all []⟩
    | [child] => ⟨false, child⟩
    | children => ⟨false, .all children⟩
  | .any children =>
    let (lost, children) := pruneUntilLost doomed children
    ⟨lost, .any children⟩
  | .negation child =>
    let pruned := prune doomed child
    ⟨pruned.lost, .negation pruned.left⟩

def survivors (doomed : κ → Bool) : List (Criteria κ) → List (Criteria κ)
  | [] => []
  | c :: cs =>
    let pruned := prune doomed c
    if pruned.lost then survivors doomed cs else pruned.left :: survivors doomed cs

def pruneUntilLost (doomed : κ → Bool) : List (Criteria κ) → Bool × List (Criteria κ)
  | [] => (false, [])
  | c :: cs =>
    let pruned := prune doomed c
    if pruned.lost then (true, pruned.left :: cs)
    else
      let (lost, more) := pruneUntilLost doomed cs
      (lost, pruned.left :: more)

end

end Criteria

end TrackerQuery
