import TrackerQuery.Sql.Condition
import Mathlib.Data.List.Infix

namespace TrackerQuery.Sql

open TrackerQuery.Text

inductive PatternItem where
  | anyRun
  | anyOne
  | exactly (c : Char)
deriving DecidableEq, Repr

namespace PatternItem

def ofChars? : List Char → Option (List PatternItem)
  | [] => some []
  | ['\\'] => none
  | '\\' :: c :: cs => (ofChars? cs).map (exactly c :: ·)
  | c :: cs =>
    (ofChars? cs).map ((if c == '%' then anyRun else if c == '_' then anyOne else exactly c) :: ·)

def fit : List PatternItem → List Char → Bool
  | [], cs => cs.isEmpty
  | anyRun :: items, cs => cs.tails.any (fit items)
  | anyOne :: items, cs =>
    match cs with
    | [] => false
    | _ :: cs => fit items cs
  | exactly c :: items, cs =>
    match cs with
    | [] => false
    | d :: cs => c == d && fit items cs

end PatternItem

-- Nothing is said of a text where the pattern is none.
def isLike (pattern text : String) : Option Bool :=
  (PatternItem.ofChars? pattern.toList).map (PatternItem.fit · text.toList)

namespace PatternItem

variable {c : Char} {cs word : List Char} {items : List PatternItem}

theorem ofChars?_escaped (c : Char) (cs : List Char) :
    ofChars? ('\\' :: c :: cs) = (ofChars? cs).map (exactly c :: ·) := rfl

theorem ofChars?_percent (cs : List Char) : ofChars? ('%' :: cs) = (ofChars? cs).map (anyRun :: ·) := by
  cases cs <;> rfl

theorem ofChars?_plain (plain : c ≠ '%' ∧ c ≠ '_' ∧ c ≠ '\\') :
    ofChars? (c :: cs) = (ofChars? cs).map (exactly c :: ·) := by
  obtain ⟨percent, underscore, backslash⟩ := plain
  cases cs <;> simp [ofChars?, percent, underscore, backslash]

theorem ofChars?_escapeLike (word cs : List Char) :
    ofChars? (Condition.escapeLike word ++ cs) =
      (ofChars? cs).map (word.map exactly ++ ·) := by
  induction word with
  | nil => simp [Condition.escapeLike]
  | cons c word ih =>
    by_cases special : c = '%' ∨ c = '_' ∨ c = '\\'
    · have escaped : Condition.escapeLike (c :: word) = '\\' :: c :: Condition.escapeLike word := by
        rcases special with rfl | rfl | rfl <;> rfl
      rw [escaped, List.cons_append, List.cons_append, ofChars?_escaped, ih, Option.map_map]
      rfl
    · simp only [not_or] at special
      have plain : Condition.escapeLike (c :: word) = c :: Condition.escapeLike word := by
        simp [Condition.escapeLike, special]
      rw [plain, List.cons_append, ofChars?_plain special, ih, Option.map_map]
      rfl

theorem fit_anyRun : fit (anyRun :: items) cs = cs.tails.any (fit items) := rfl

theorem fit_exactly_cons (c d : Char) :
    fit (exactly c :: items) (d :: cs) = (c == d && fit items cs) := rfl

theorem fit_exactly : fit (word.map exactly ++ items) cs = true ↔
    ∃ rest, cs = word ++ rest ∧ fit items rest = true := by
  induction word generalizing cs with
  | nil => simp
  | cons c word ih =>
    cases cs with
    | nil =>
      have none : fit (exactly c :: (word.map exactly ++ items)) [] = false := rfl
      simp [none]
    | cons d cs =>
      simp only [List.map_cons, List.cons_append, fit_exactly_cons, Bool.and_eq_true, beq_iff_eq, ih,
        List.cons.injEq]
      constructor
      · rintro ⟨rfl, rest, rfl, fits⟩
        exact ⟨rest, ⟨rfl, rfl⟩, fits⟩
      · rintro ⟨rest, ⟨rfl, rfl⟩, fits⟩
        exact ⟨rfl, rest, rfl, fits⟩

theorem fit_anyRun_all : fit [anyRun] cs = true := by
  rw [fit_anyRun, List.any_eq_true]
  exact ⟨[], (List.mem_tails _ _).mpr List.nil_suffix, rfl⟩

theorem fit_within : fit (anyRun :: (word.map exactly ++ [anyRun])) cs = true ↔ word <:+: cs := by
  rw [fit_anyRun, List.any_eq_true]
  simp only [List.mem_tails, fit_exactly]
  constructor
  · rintro ⟨_, ⟨front, rfl⟩, rest, rfl, _⟩
    exact ⟨front, rest, by simp⟩
  · rintro ⟨front, rest, rfl⟩
    exact ⟨word ++ rest, ⟨front, by simp⟩, rest, rfl, fit_anyRun_all⟩

end PatternItem

theorem isLike_within (word : List Char) (text : String) :
    isLike ("%" ++ String.ofList (Condition.escapeLike word) ++ "%") text =
      some (occursIn word text.toList) := by
  have items : PatternItem.ofChars? ("%" ++ String.ofList (Condition.escapeLike word) ++ "%").toList =
      some (.anyRun :: (word.map .exactly ++ [.anyRun])) := by
    have chars : ("%" ++ String.ofList (Condition.escapeLike word) ++ "%").toList =
        '%' :: (Condition.escapeLike word ++ ['%']) := by simp
    rw [chars, PatternItem.ofChars?_percent, PatternItem.ofChars?_escapeLike]
    rfl
  rw [isLike, items, Option.map_some]
  congr 1
  rw [Bool.eq_iff_iff, PatternItem.fit_within, occursIn_iff]

example : isLike "%100\\%%" "at 100% now" = some true ∧ isLike "%100\\%%" "at 1000" = some false := by
  decide

end TrackerQuery.Sql
