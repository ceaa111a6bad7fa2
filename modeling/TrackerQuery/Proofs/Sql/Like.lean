import TrackerQuery.Proofs.Sql.Pattern

namespace TrackerQuery.Sql

open TrackerQuery.Text

inductive Like : List Char → List Char → Prop where
  | nil : Like [] []
  | anyRun {p cs} (run : List Char) (h : Like p cs) : Like ('%' :: p) (run ++ cs)
  | anyOne {p cs} (c : Char) (h : Like p cs) : Like ('_' :: p) (c :: cs)
  | escaped {p cs} (c : Char) (h : Like p cs) : Like ('\\' :: c :: p) (c :: cs)
  | plain {c p cs} (plain : c ≠ '%' ∧ c ≠ '_' ∧ c ≠ '\\') (h : Like p cs) : Like (c :: p) (c :: cs)

-- The pattern ends in a backslash that takes no character and that none takes.
inductive Dangling : List Char → Prop where
  | last : Dangling ['\\']
  | escaped {p} (c : Char) (h : Dangling p) : Dangling ('\\' :: c :: p)
  | other {c p} (backslash : c ≠ '\\') (h : Dangling p) : Dangling (c :: p)

variable {c : Char} {p cs : List Char} {items : List PatternItem}

namespace PatternItem

def ofChar (c : Char) : PatternItem :=
  if c == '%' then anyRun else if c == '_' then anyOne else exactly c

theorem ofChars?_other (backslash : c ≠ '\\') : ofChars? (c :: p) = (ofChars? p).map (ofChar c :: ·) := by
  cases p <;> simp [ofChars?, ofChar, backslash]

theorem fit_exactly_one : fit (exactly c :: items) cs = true ↔
    ∃ tail, cs = c :: tail ∧ fit items tail = true := by
  have one := @fit_exactly cs [c] items
  simpa using one

theorem fit_of_like (h : Like p cs) : ∃ items, ofChars? p = some items ∧ fit items cs = true := by
  induction h with
  | nil => exact ⟨[], rfl, rfl⟩
  | anyRun run _ ih =>
    obtain ⟨items, read, fits⟩ := ih
    refine ⟨anyRun :: items, by rw [ofChars?_percent, read]; rfl, ?_⟩
    rw [fit_anyRun, List.any_eq_true]
    exact ⟨_, (List.mem_tails _ _).mpr (List.suffix_append run _), fits⟩
  | anyOne c _ ih =>
    obtain ⟨items, read, fits⟩ := ih
    exact ⟨anyOne :: items, by rw [ofChars?_other (by decide), read]; rfl, fits⟩
  | escaped c _ ih =>
    obtain ⟨items, read, fits⟩ := ih
    exact ⟨exactly c :: items, by rw [ofChars?_escaped, read]; rfl, fit_exactly_one.mpr ⟨_, rfl, fits⟩⟩
  | @plain c _ _ plain _ ih =>
    obtain ⟨items, read, fits⟩ := ih
    exact ⟨exactly c :: items, by rw [ofChars?_plain plain, read]; rfl, fit_exactly_one.mpr ⟨_, rfl, fits⟩⟩

theorem like_of_ofChar (backslash : c ≠ '\\') (fits : fit (ofChar c :: items) cs = true)
    (rest : ∀ tail, fit items tail = true → Like p tail) : Like (c :: p) cs := by
  by_cases percent : c = '%'
  · subst percent
    obtain ⟨tail, suffix, fits'⟩ := List.any_eq_true.mp fits
    obtain ⟨run, rfl⟩ := (List.mem_tails _ _).mp suffix
    exact .anyRun run (rest tail fits')
  · by_cases underscore : c = '_'
    · subst underscore
      cases cs with
      | nil => cases fits
      | cons d cs => exact .anyOne d (rest cs fits)
    · have item : ofChar c = exactly c := by simp [ofChar, percent, underscore]
      rw [item] at fits
      obtain ⟨tail, rfl, fits'⟩ := fit_exactly_one.mp fits
      exact .plain ⟨percent, underscore, backslash⟩ (rest tail fits')

theorem not_backslash (noLast : c = '\\' → p = [] → False)
    (noEscape : ∀ d q, c = '\\' → p = d :: q → False) : c ≠ '\\' := by
  rintro rfl
  cases p with
  | nil => exact noLast rfl rfl
  | cons d q => exact noEscape d q rfl rfl

-- Induction on how the pattern is read.
theorem like_of_fit (read : ofChars? p = some items) (fits : fit items cs = true) : Like p cs := by
  fun_induction ofChars? p generalizing items cs with
  | case1 =>
    cases read
    obtain rfl : cs = [] := List.isEmpty_iff.mp fits
    exact .nil
  | case2 => cases read
  | case3 c p ih =>
    obtain ⟨others, more, rfl⟩ := Option.map_eq_some_iff.mp read
    obtain ⟨tail, rfl, fits'⟩ := fit_exactly_one.mp fits
    exact .escaped c (ih more fits')
  | case4 c p noLast noEscape ih =>
    obtain ⟨others, more, rfl⟩ := Option.map_eq_some_iff.mp read
    exact like_of_ofChar (not_backslash noLast noEscape) fits fun tail fits' => ih more fits'

theorem ofChars?_eq_none_iff : ofChars? p = none ↔ Dangling p := by
  constructor
  · intro read
    fun_induction ofChars? p with
    | case1 => cases read
    | case2 => exact .last
    | case3 c p ih => exact .escaped c (ih (Option.map_eq_none_iff.mp read))
    | case4 c p noLast noEscape ih =>
      exact .other (not_backslash noLast noEscape) (ih (Option.map_eq_none_iff.mp read))
  · intro h
    induction h with
    | last => rfl
    | escaped c _ ih => rw [ofChars?_escaped, ih, Option.map_none]
    | other backslash _ ih => rw [ofChars?_other backslash, ih, Option.map_none]

end PatternItem

theorem isLike_eq_some_true_iff {pattern text : String} :
    isLike pattern text = some true ↔ Like pattern.toList text.toList := by
  rw [isLike, Option.map_eq_some_iff]
  constructor
  · rintro ⟨items, read, fits⟩
    exact PatternItem.like_of_fit read fits
  · exact PatternItem.fit_of_like

theorem isLike_eq_none_iff {pattern text : String} :
    isLike pattern text = none ↔ Dangling pattern.toList := by
  rw [isLike, Option.map_eq_none_iff, PatternItem.ofChars?_eq_none_iff]

-- Between two percent signs an escaped value is looked for as it is, and no backslash is left without a
-- character to take.
theorem like_escaped_iff (value text : String) :
    let pattern := "%" ++ String.ofList (Condition.escapeLike value.toList) ++ "%"
    (Like pattern.toList text.toList ↔ value.toList <:+: text.toList) ∧ ¬Dangling pattern.toList := by
  intro pattern
  have matched : isLike pattern text = some (occursIn value.toList text.toList) :=
    isLike_within value.toList text
  constructor
  · rw [← isLike_eq_some_true_iff, matched, Option.some_inj, occursIn_iff]
  · rw [← @isLike_eq_none_iff pattern text, matched]
    exact Option.some_ne_none _

end TrackerQuery.Sql
