import Mathlib.Logic.Basic
import TrackerQuery.Distinct

namespace TrackerQuery

variable {α : Type} [LT α] [DecidableLT α] [Std.Trichotomous (α := α) (· < ·)] {a b : α}
  {as bs : List α}

theorem mem_insertDistinct : a ∈ insertDistinct b bs ↔ a = b ∨ a ∈ bs := by
  induction bs with
  | nil => simp [insertDistinct]
  | cons c bs ih =>
    rw [insertDistinct]
    by_cases below : b < c
    · simp [below]
    · by_cases above : c < b
      · simp only [below, above, if_true, if_false, List.mem_cons, ih]
        exact or_left_comm
      · obtain rfl := Std.Trichotomous.trichotomous b c below above
        simp [below]

theorem mem_distinct : a ∈ distinct as ↔ a ∈ as := by
  induction as with
  | nil => simp [distinct]
  | cons b as ih =>
    rw [distinct, List.foldr_cons, mem_insertDistinct, List.mem_cons]
    exact or_congr_right ih

variable [Trans (α := α) (· < ·) (· < ·) (· < ·)]

theorem insertDistinct_ascending (h : bs.Pairwise (· < ·)) :
    (insertDistinct b bs).Pairwise (· < ·) := by
  induction bs with
  | nil => exact List.pairwise_singleton _ b
  | cons c bs ih =>
    obtain ⟨least, more⟩ := List.pairwise_cons.mp h
    rw [insertDistinct]
    by_cases below : b < c
    · rw [if_pos below]
      refine List.pairwise_cons.mpr ⟨?_, h⟩
      intro d mem
      rcases List.mem_cons.mp mem with rfl | mem
      · exact below
      · exact Std.lt_trans below (least d mem)
    · rw [if_neg below]
      by_cases above : c < b
      · rw [if_pos above]
        refine List.pairwise_cons.mpr ⟨?_, ih more⟩
        intro d mem
        rcases mem_insertDistinct.mp mem with rfl | mem
        · exact above
        · exact least d mem
      · rwa [if_neg above]

theorem distinct_ascending (as : List α) : (distinct as).Pairwise (· < ·) := by
  induction as with
  | nil => exact .nil
  | cons a as ih => exact insertDistinct_ascending ih

end TrackerQuery
