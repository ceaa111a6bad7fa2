import TrackerQuery.Proofs.Query.Number

namespace TrackerQuery

open TrackerQuery.Text

inductive Numeral : List Char → Int → Prop where
  | plain {cs} (nonempty : cs ≠ []) (digits : ∀ c ∈ cs, c.isDigit = true) :
      Numeral cs (Nat.ofDigitChars 10 cs 0)
  | positive {cs} (nonempty : cs ≠ []) (digits : ∀ c ∈ cs, c.isDigit = true) :
      Numeral ('+' :: cs) (Nat.ofDigitChars 10 cs 0)
  | negative {cs} (nonempty : cs ≠ []) (digits : ∀ c ∈ cs, c.isDigit = true) :
      Numeral ('-' :: cs) (-Nat.ofDigitChars 10 cs 0)

def Blanks (cs : List Char) : Prop :=
  ∀ c ∈ cs, isBlank c = true

-- The text is a number of 64 bits.
def IsNumber (cs : List Char) (n : Int) : Prop :=
  (-9223372036854775808 ≤ n ∧ n ≤ 9223372036854775807) ∧ ∃ before numeral after,
    Blanks before ∧ Blanks after ∧ Numeral numeral n ∧ cs = before ++ (numeral ++ after)

def IsEntityNumber (cs : List Char) (n : Int) : Prop :=
  ∃ before marks number, Blanks before ∧ (∀ c ∈ marks, c = '#') ∧ IsNumber number n ∧
    cs = before ++ (marks ++ number)

theorem blanks_nil : Blanks [] := by
  intro c mem
  cases mem

variable {cs ds before after : List Char} {n : Int} {text : String}

theorem readDigits?_iff {m : Nat} : readDigits? cs = some m ↔
    (cs ≠ [] ∧ ∀ c ∈ cs, c.isDigit = true) ∧ Nat.ofDigitChars 10 cs 0 = m := by
  have tested : (cs.isEmpty || !cs.all Char.isDigit) = false ↔ cs ≠ [] ∧ ∀ c ∈ cs, c.isDigit = true := by
    simp
  rw [← tested, readDigits?]
  cases cs.isEmpty || !cs.all Char.isDigit <;> simp

theorem readInt?_iff : readInt? cs = some n ↔ Numeral cs n ∧ fits64 n = true := by
  unfold readInt?
  rw [Option.filter_eq_some_iff]
  refine and_congr_left fun _ => ?_
  constructor
  · intro read
    split at read
    all_goals
      simp only [Option.map_eq_some_iff, bind, pure, Option.bind_eq_some_iff, Option.some.injEq,
        readDigits?_iff] at read
      obtain ⟨_, ⟨_, ⟨⟨nonempty, digits⟩, rfl⟩, rfl⟩, rfl⟩ := read
    · exact .negative nonempty digits
    · exact .positive nonempty digits
    · exact .plain nonempty digits
  · intro h
    cases h with
    | negative nonempty digits | positive nonempty digits =>
      simp [readDigits?_iff.mpr ⟨⟨nonempty, digits⟩, rfl⟩]
    | plain nonempty digits =>
      split
      · exact absurd (digits _ List.mem_cons_self) (by decide)
      · exact absurd (digits _ List.mem_cons_self) (by decide)
      · rw [readDigits?_iff.mpr ⟨⟨nonempty, digits⟩, rfl⟩]
        rfl

theorem Numeral.solid (h : Numeral cs n) : cs ≠ [] ∧ ∀ c ∈ cs, isBlank c = false ∧ c ≠ '#' := by
  cases h with
  | plain nonempty digits => exact ⟨nonempty, fun c mem => solid_of_isDigit (digits c mem)⟩
  | positive _ digits | negative _ digits =>
    refine ⟨List.cons_ne_nil _ _, fun c mem => ?_⟩
    rcases List.mem_cons.mp mem with rfl | mem
    · exact ⟨by decide, by decide⟩
    · exact solid_of_isDigit (digits c mem)

theorem Numeral.unique (h : Numeral cs n) (h' : Numeral cs k) : n = k := by
  cases h with
  | plain _ digits =>
    cases h' with
    | plain => rfl
    | positive | negative => exact absurd (digits _ List.mem_cons_self) (by decide)
  | positive =>
    cases h' with
    | plain _ digits => exact absurd (digits _ List.mem_cons_self) (by decide)
    | positive => rfl
  | negative =>
    cases h' with
    | plain _ digits => exact absurd (digits _ List.mem_cons_self) (by decide)
    | negative => rfl

theorem ends_of_solid (nonempty : cs ≠ []) (solid : ∀ c ∈ cs, isBlank c = false) :
    (∃ c ds, cs = c :: ds ∧ isBlank c = false) ∧ ∃ ds c, cs = ds ++ [c] ∧ isBlank c = false := by
  constructor
  · obtain ⟨c, ds, rfl⟩ := List.exists_cons_of_ne_nil nonempty
    exact ⟨c, ds, rfl, solid c List.mem_cons_self⟩
  · exact ⟨cs.dropLast, cs.getLast nonempty, (List.dropLast_concat_getLast nonempty).symm,
      solid _ (List.getLast_mem nonempty)⟩

theorem trim_parts (cs : List Char) :
    ∃ before after, Blanks before ∧ Blanks after ∧ cs = before ++ (trim cs ++ after) := by
  refine ⟨cs.takeWhile isBlank, ((trimStart cs).reverse.takeWhile isBlank).reverse, ?_, ?_, ?_⟩
  · exact List.all_eq_true.mp List.all_takeWhile
  · intro c mem
    exact List.all_eq_true.mp List.all_takeWhile c (List.mem_reverse.mp mem)
  · rw [trim, trimEnd, ← List.reverse_append, List.takeWhile_append_dropWhile, List.reverse_reverse,
      trimStart, List.takeWhile_append_dropWhile]

theorem trim_of_ends (blank : Blanks before) (blank' : Blanks after)
    (starts : ∃ c ds, cs = c :: ds ∧ isBlank c = false)
    (ends : ∃ ds c, cs = ds ++ [c] ∧ isBlank c = false) :
    trim (before ++ (cs ++ after)) = cs := by
  have start : trimStart (before ++ (cs ++ after)) = cs ++ after := by
    obtain ⟨c, ds, rfl, solid⟩ := starts
    rw [trimStart, List.dropWhile_append_of_pos blank, List.cons_append,
      List.dropWhile_cons_of_neg (by simp [solid])]
  obtain ⟨ds, c, rfl, solid⟩ := ends
  have blank' : ∀ c ∈ after.reverse, isBlank c = true := fun c mem => blank' c (List.mem_reverse.mp mem)
  rw [trim, start, trimEnd, List.reverse_append, List.dropWhile_append_of_pos blank',
    List.reverse_append, List.reverse_singleton, List.singleton_append,
    List.dropWhile_cons_of_neg (by simp [solid])]
  simp

theorem fits64_iff :
    fits64 n = true ↔ -9223372036854775808 ≤ n ∧ n ≤ 9223372036854775807 := by
  simp only [fits64, Bool.and_eq_true, decide_eq_true_eq]

theorem readNumber_ok_iff : readNumber text = .ok n ↔ IsNumber text.toList n := by
  have same : readNumber text = .ok n ↔ readInt? (trim text.toList) = some n := by
    rw [readNumber]
    cases readInt? (trim text.toList) <;> simp
  rw [same, readInt?_iff, fits64_iff]
  constructor
  · intro h
    obtain ⟨numeral, fits⟩ := h
    obtain ⟨before, after, blank, blank', whole⟩ := trim_parts text.toList
    exact ⟨fits, before, _, after, blank, blank', numeral, whole⟩
  · intro h
    obtain ⟨fits, before, digits, after, blank, blank', numeral, whole⟩ := h
    obtain ⟨nonempty, solid⟩ := numeral.solid
    have ends := ends_of_solid nonempty fun c mem => (solid c mem).1
    rw [whole, trim_of_ends blank blank' ends.1 ends.2]
    exact ⟨numeral, fits⟩

-- Blanks between the marks and the numeral stay if there are marks.
theorem trim_marked {marks numeral : List Char} (blank : Blanks before)
    (marked : ∀ c ∈ marks, c = '#') (blank' : Blanks gap) (numbered : Numeral numeral n)
    (blank'' : Blanks after) : ∃ mid, Blanks mid ∧
      trim (before ++ (marks ++ (gap ++ (numeral ++ after)))) = marks ++ (mid ++ numeral) := by
  obtain ⟨nonempty, solid⟩ := numbered.solid
  have ends := ends_of_solid nonempty fun c mem => (solid c mem).1
  cases marks with
  | nil =>
    refine ⟨[], blanks_nil, ?_⟩
    have around : Blanks (before ++ gap) := fun c mem =>
      (List.mem_append.mp mem).elim (blank c) (blank' c)
    simpa using trim_of_ends around blank'' ends.1 ends.2
  | cons c marks =>
    refine ⟨gap, blank', ?_⟩
    obtain rfl := marked c List.mem_cons_self
    obtain ⟨ds, d, rfl, solid'⟩ := ends.2
    have starts : ∃ c cs, '#' :: (marks ++ (gap ++ (ds ++ [d]))) = c :: cs ∧ isBlank c = false :=
      ⟨_, _, rfl, by decide⟩
    have whole := trim_of_ends blank blank'' starts
      ⟨'#' :: (marks ++ (gap ++ ds)), d, by simp, solid'⟩
    simpa using whole

theorem readEntityNumber_ok_iff : readEntityNumber text = .ok n ↔ IsEntityNumber text.toList n := by
  rw [readEntityNumber, readNumber_ok_iff, String.toList_ofList]
  constructor
  · intro h
    obtain ⟨fits, gap, numeral, after, blank', blank'', numbered, rest⟩ := h
    obtain ⟨before, last, blank, blankLast, whole⟩ := trim_parts text.toList
    have split := List.takeWhile_append_dropWhile (p := (· == '#')) (l := trim text.toList)
    refine ⟨before, (trim text.toList).takeWhile (· == '#'),
      (trim text.toList).dropWhile (· == '#') ++ last, blank, ?_, ?_, ?_⟩
    · intro c mem
      simpa using List.all_eq_true.mp List.all_takeWhile c mem
    · refine ⟨fits, gap, numeral, after ++ last, blank', ?_, numbered, by simp [rest]⟩
      exact fun c mem => (List.mem_append.mp mem).elim (blank'' c) (blankLast c)
    · rw [← List.append_assoc _ _ last, split]
      exact whole
  · intro h
    obtain ⟨before, marks, number, blank, marked, number', whole⟩ := h
    obtain ⟨fits, gap, numeral, after, blank', blank'', numbered, rfl⟩ := number'
    obtain ⟨mid, blankMid, trimmed⟩ := trim_marked blank marked blank' numbered blank''
    have others : ∀ c ∈ mid ++ numeral, c ≠ '#' := by
      intro c mem
      rcases List.mem_append.mp mem with inGap | inNumeral
      · rintro rfl
        exact absurd (blankMid '#' inGap) (by decide)
      · exact (numbered.solid.2 c inNumeral).2
    rw [whole, trimmed, List.dropWhile_append_of_pos (by simpa using marked), unmarked others]
    exact ⟨fits, mid, numeral, [], blankMid, blanks_nil, numbered, by simp⟩

end TrackerQuery
