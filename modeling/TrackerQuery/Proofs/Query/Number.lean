import TrackerQuery.Proofs.Outcome
import TrackerQuery.Query.Reading

namespace TrackerQuery

open TrackerQuery.Text

theorem not_isBlank_of_isDigit {c : Char} (digit : c.isDigit = true) : isBlank c = false := by
  have range : 48 ≤ c.toNat ∧ c.toNat ≤ 57 := by
    simpa [Char.isDigit, Char.le_def, UInt32.le_iff_toNat_le] using digit
  simp [isBlank, inRanges, blankRanges]
  omega

theorem trim_of_solid {cs : List Char} (solid : ∀ c ∈ cs, isBlank c = false) : trim cs = cs := by
  have start : ∀ {cs : List Char}, (∀ c ∈ cs, isBlank c = false) → cs.dropWhile isBlank = cs := by
    intro cs solid
    cases cs with
    | nil => rfl
    | cons c cs => simp [solid c List.mem_cons_self]
  rw [trim, trimStart, start solid, trimEnd, start (by simpa using solid), List.reverse_reverse]

theorem toList_toString (n : Int) :
    (toString n).toList =
      if 0 ≤ n then Nat.toDigits 10 n.toNat else '-' :: Nat.toDigits 10 (-n).toNat := by
  rw [Int.toString_eq_repr, Int.repr_eq_if]
  split
  · rw [Nat.toList_repr]
  · simp [Nat.toList_repr]

theorem isDigit_of_mem_toDigits (mem : c ∈ Nat.toDigits 10 n) : c.isDigit = true :=
  Nat.isDigit_of_mem_toDigits (by decide) (by decide) mem

theorem readInt?_toString {n : Int} (fits : fits64 n = true) :
    readInt? (toString n).toList = some n := by
  rw [toList_toString]
  by_cases positive : 0 ≤ n
  · rw [if_pos positive]
    have same : ((n.toNat : Nat) : Int) = n := Int.toNat_of_nonneg positive
    have digit : ∀ c cs, Nat.toDigits 10 n.toNat = c :: cs → c.isDigit = true :=
      fun c cs whole => isDigit_of_mem_toDigits (n := n.toNat) (by rw [whole]; exact List.mem_cons_self)
    unfold readInt?
    split
    · exact absurd (digit _ _ ‹_›) (by decide)
    · exact absurd (digit _ _ ‹_›) (by decide)
    · simp [readDigits?_toDigits, same, fits]
  · rw [if_neg positive]
    have same : -(((-n).toNat : Nat) : Int) = n := by omega
    rw [readInt?, readDigits?_toDigits]
    show Option.filter fits64 (some (-(((-n).toNat : Nat) : Int))) = some n
    rw [same]
    simp [fits]

theorem solid_of_isDigit {c : Char} (digit : c.isDigit = true) : isBlank c = false ∧ c ≠ '#' := by
  refine ⟨not_isBlank_of_isDigit digit, ?_⟩
  rintro rfl
  cases digit

theorem solid_toString (n : Int) : ∀ c ∈ (toString n).toList, isBlank c = false ∧ c ≠ '#' := by
  intro c mem
  rw [toList_toString] at mem
  split at mem
  · exact solid_of_isDigit (isDigit_of_mem_toDigits mem)
  · rcases List.mem_cons.mp mem with rfl | mem
    · exact ⟨by decide, by decide⟩
    · exact solid_of_isDigit (isDigit_of_mem_toDigits mem)

theorem fits_of_readNumber (read : readNumber text = .ok n) : fits64 n = true := by
  unfold readNumber at read
  split at read
  · rename_i found
    cases read
    exact fits64_of_readInt? found
  · cases read

theorem readNumber_toString {n : Int} (fits : fits64 n = true) :
    readNumber (toString n) = .ok n := by
  rw [readNumber, trim_of_solid fun c mem => (solid_toString n c mem).1, readInt?_toString fits]

theorem unmarked {cs : List Char} (others : ∀ c ∈ cs, c ≠ '#') : cs.dropWhile (· == '#') = cs := by
  cases cs with
  | nil => rfl
  | cons c cs => simp [others c List.mem_cons_self]

theorem readEntityNumber_toString {n : Int} (fits : fits64 n = true) :
    readEntityNumber (toString n) = .ok n := by
  rw [readEntityNumber, trim_of_solid fun c mem => (solid_toString n c mem).1,
    unmarked fun c mem => (solid_toString n c mem).2, String.ofList_toList, readNumber_toString fits]

theorem readNumber_again {leaf : Int → α} (read : (readNumber text).map leaf = .ok a) :
    ∃ n, leaf n = a ∧ (readNumber (toString n)).map leaf = .ok a := by
  obtain ⟨n, number, rfl⟩ := map_ok_iff.mp read
  exact ⟨n, rfl, by rw [readNumber_toString (fits_of_readNumber number)]; rfl⟩

theorem readEntityNumber_again {leaf : Int → α} (read : (readEntityNumber text).map leaf = .ok a) :
    ∃ n, leaf n = a ∧ (readEntityNumber (toString n)).map leaf = .ok a := by
  obtain ⟨n, number, rfl⟩ := map_ok_iff.mp read
  exact ⟨n, rfl, by rw [readEntityNumber_toString (fits_of_readNumber number)]; rfl⟩

end TrackerQuery
