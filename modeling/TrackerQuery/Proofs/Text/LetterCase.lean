import TrackerQuery.Proofs.Query.Number
import TrackerQuery.Text.LowerCase

namespace TrackerQuery.Text

variable {before cs : List Char} {a b text : String} {c : Char}

def capitals : List Char :=
  (List.range 26).map fun i => Char.ofNat (65 + i)

def IsAscii (text : String) : Prop :=
  ∀ c ∈ text.toList, c.toNat < 128

-- By the characters of the text, not by all that there are.
instance (text : String) : Decidable (IsAscii text) :=
  decidable_of_iff (text.toList.all fun c => decide (c.toNat < 128)) (by simp [IsAscii])

def DifferBeyondAscii (a b : String) : Prop :=
  lowerCase a = lowerCase b ∧ equalsIgnoringAsciiCase a b = false

theorem toLower_eq_or_mem (c : Char) : c.toLower = c ∨ c ∈ capitals := by
  unfold Char.toLower
  by_cases capital : c.val ≥ 'A'.val ∧ c.val ≤ 'Z'.val
  · obtain ⟨low, high⟩ := capital
    have low : 65 ≤ c.toNat := low
    have high : c.toNat ≤ 90 := high
    refine .inr (List.mem_map.mpr ⟨c.toNat - 65, List.mem_range.mpr (by omega), ?_⟩)
    rw [Nat.add_sub_cancel' low, Char.ofNat_toNat]
  · exact .inl (dif_neg capital)

theorem apply_toLower {f : Char → α} (alike : capitals.map (fun c => f c.toLower) = capitals.map f)
    (c : Char) : f c.toLower = f c := by
  rcases toLower_eq_or_mem c with same | capital
  · rw [same]
  · exact List.map_inj_left.mp alike c capital

theorem isBlank_toLower (c : Char) : isBlank c.toLower = isBlank c :=
  apply_toLower (by decide) c

theorem isCased_toLower (c : Char) : isCased c.toLower = isCased c :=
  apply_toLower (by decide) c

theorem isCaseIgnorable_toLower (c : Char) : isCaseIgnorable c.toLower = isCaseIgnorable c :=
  apply_toLower (by decide) c

theorem lowerChar_toLower (c : Char) : lowerChar c.toLower = lowerChar c :=
  apply_toLower (by decide) c

theorem isSigma_toLower (c : Char) : (c.toLower == 'Σ') = (c == 'Σ') :=
  apply_toLower (f := fun c => c == 'Σ') (by decide) c

theorem meetsCased_toLower (cs : List Char) : meetsCased (cs.map Char.toLower) = meetsCased cs := by
  have ignorable : isCaseIgnorable ∘ Char.toLower = isCaseIgnorable := funext isCaseIgnorable_toLower
  rw [meetsCased, List.dropWhile_map, ignorable, meetsCased]
  cases cs.dropWhile isCaseIgnorable with
  | nil => rfl
  | cons c cs => exact isCased_toLower c

theorem lowerFrom_toLower (before cs : List Char) :
    lowerFrom (before.map Char.toLower) (cs.map Char.toLower) = lowerFrom before cs := by
  induction cs generalizing before with
  | nil => rfl
  | cons c cs ih =>
    rw [List.map_cons, lowerFrom, lowerFrom, ← List.map_cons, ih, meetsCased_toLower,
      meetsCased_toLower, lowerChar_toLower, isSigma_toLower]

theorem lowerFrom_of_ascii (ascii : ∀ c ∈ cs, c.toNat < 128) (before : List Char) :
    lowerFrom before cs = cs.map Char.toLower := by
  induction cs generalizing before with
  | nil => rfl
  | cons c cs ih =>
    obtain ⟨first, rest⟩ := List.forall_mem_cons.mp ascii
    have other : ¬c == 'Σ' := by
      intro sigma
      rw [beq_iff_eq.mp sigma] at first
      exact absurd first (by decide)
    rw [lowerFrom, if_neg other, lowerChar, if_pos first, ih rest, List.map_cons, List.singleton_append]

theorem equalsIgnoringAsciiCase_iff : equalsIgnoringAsciiCase a b = true ↔
    a.toList.map Char.toLower = b.toList.map Char.toLower :=
  beq_iff_eq

theorem lowerCase_of_equals (equal : equalsIgnoringAsciiCase a b = true) : lowerCase a = lowerCase b := by
  have same := equalsIgnoringAsciiCase_iff.mp equal
  rw [lowerCase, lowerCase, ← lowerFrom_toLower [] a.toList, same, lowerFrom_toLower]

theorem equals_of_ascii (first : IsAscii a) (second : IsAscii b) (same : lowerCase a = lowerCase b) :
    equalsIgnoringAsciiCase a b = true := by
  rw [lowerCase, lowerCase, lowerFrom_of_ascii first, lowerFrom_of_ascii second] at same
  exact equalsIgnoringAsciiCase_iff.mpr (String.ofList_injective same)

theorem not_differ_of_ascii (first : IsAscii a) (second : IsAscii b) : ¬DifferBeyondAscii a b := by
  intro differ
  obtain ⟨same, different⟩ := differ
  rw [equals_of_ascii first second same] at different
  cases different

theorem equalities_agree {matched selected : Prop}
    (held : matched ↔ equalsIgnoringAsciiCase a b = true)
    (said : selected ↔ lowerCase a = lowerCase b) :
    (matched → selected) ∧ ((matched ↔ selected) ↔ ¬DifferBeyondAscii a b) := by
  rw [held, said]
  refine ⟨lowerCase_of_equals, fun agree differ => ?_, fun alike => ⟨lowerCase_of_equals, ?_⟩⟩
  · obtain ⟨same, different⟩ := differ
    rw [agree.mpr same] at different
    cases different
  · intro same
    refine Decidable.byContradiction fun different => alike ⟨same, ?_⟩
    exact Bool.eq_false_iff.mpr different

-- Only the Kelvin sign is so far away from its lower form that this is a letter from a to z.
theorem shifted_beyond : ∀ r ∈ caseRuns,
    128 ≤ r.first + r.shift ∨ r.first = r.last ∧ r.first + r.shift = 'k'.toNat := by
  decide +kernel

theorem lowerCode_beyond {n : Nat} (beyond : 128 ≤ n) :
    128 ≤ lowerCode n ∨ lowerCode n = 'k'.toNat := by
  rw [lowerCode]
  cases found : caseRuns.find? (·.covers n) with
  | none => exact .inl beyond
  | some r =>
    have covers := List.find?_some (p := fun (r : CaseRun) => r.covers n) found
    simp only [CaseRun.covers, Bool.and_eq_true, decide_eq_true_eq] at covers
    obtain ⟨⟨low, high⟩, _⟩ := covers
    rcases shifted_beyond r (List.mem_of_find?_eq_some found) with far | ⟨single, kelvin⟩
    · exact .inl (by simp only; omega)
    · exact .inr (by simp only; omega)

def isPlain (c : Char) : Bool :=
  'a'.toNat ≤ c.toNat && c.toNat ≤ 'z'.toNat && c != 'k'

theorem ascii_of_isPlain (plain : isPlain c = true) : c.toNat < 128 := by
  simp only [isPlain, Bool.and_eq_true, decide_eq_true_eq] at plain
  exact Nat.lt_of_le_of_lt plain.1.2 (by decide)

theorem not_isPlain_ofNat {n : Nat} (beyond : 128 ≤ n) : isPlain (Char.ofNat n) = false := by
  by_cases valid : n.isValidChar
  · have code : (Char.ofNat n).toNat = n := by
      rw [Char.ofNat, dif_pos valid]
      rfl
    refine Bool.eq_false_iff.mpr fun plain => Nat.not_lt.mpr beyond ?_
    rw [← code]
    exact ascii_of_isPlain plain
  · rw [Char.ofNat, dif_neg valid]
    rfl

theorem lowerChar_beyond (beyond : 128 ≤ c.toNat) : ∃ d ∈ lowerChar c, isPlain d = false := by
  rw [lowerChar, if_neg (Nat.not_lt.mpr beyond)]
  by_cases dotted : c == 'İ'
  · rw [if_pos dotted]
    exact ⟨'\u0307', by decide, by decide⟩
  · rw [if_neg dotted]
    refine ⟨_, List.mem_singleton_self _, ?_⟩
    rcases lowerCode_beyond beyond with far | kelvin
    · exact not_isPlain_ofNat far
    · rw [kelvin]
      rfl

theorem ascii_of_lowerFrom (plain : ∀ d ∈ lowerFrom before cs, isPlain d = true) :
    ∀ c ∈ cs, c.toNat < 128 := by
  induction cs generalizing before with
  | nil => simp
  | cons c cs ih =>
    rw [lowerFrom] at plain
    obtain ⟨first, rest⟩ := List.forall_mem_append.mp plain
    refine List.forall_mem_cons.mpr ⟨Nat.not_le.mp fun beyond => ?_, ih rest⟩
    by_cases sigma : c == 'Σ'
    · rw [if_pos sigma] at first
      have letter := first _ (List.mem_singleton_self _)
      split at letter <;> cases letter
    · rw [if_neg sigma] at first
      obtain ⟨d, mem, other⟩ := lowerChar_beyond beyond
      exact Bool.eq_false_iff.mp other (first d mem)

theorem lowerCase_eq_iff {word : String} (plain : word.toList.all isPlain)
    (small : word.toList.map Char.toLower = word.toList) :
    lowerCase text = word ↔ equalsIgnoringAsciiCase text word = true := by
  have plain := List.all_eq_true.mp plain
  have itself : lowerCase word = word := by
    rw [lowerCase, lowerFrom_of_ascii fun d mem => ascii_of_isPlain (plain d mem), small,
      String.ofList_toList]
  constructor
  · intro same
    have chars : lowerFrom [] text.toList = word.toList := by
      rw [← same, lowerCase, String.toList_ofList]
    rw [equalsIgnoringAsciiCase_iff, small, ← chars]
    rw [← chars] at plain
    exact (lowerFrom_of_ascii (ascii_of_lowerFrom plain) []).symm
  · exact fun equal => (lowerCase_of_equals equal).trans itself

theorem trimmed_of_equals {word : String} (solid : word.toList.all fun d => !isBlank d)
    (equal : equalsIgnoringAsciiCase text word = true) : trimmed text = text := by
  have solid : ∀ d ∈ word.toList, isBlank d = false := by simpa using solid
  have same := equalsIgnoringAsciiCase_iff.mp equal
  rw [trimmed, trim_of_solid, String.ofList_toList]
  intro c mem
  have listed : c.toLower ∈ word.toList.map Char.toLower := same ▸ List.mem_map_of_mem mem
  obtain ⟨d, mem', lower⟩ := List.mem_map.mp listed
  rw [← isBlank_toLower, ← lower, isBlank_toLower, solid d mem']

end TrackerQuery.Text
