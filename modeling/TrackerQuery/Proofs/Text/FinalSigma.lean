import TrackerQuery.Text.LowerCase

namespace TrackerQuery.Text

variable {a b before after v cs : List Char} {c d : Char} {p q : List Char → List Char → Prop}

-- The form of a sigma, by the characters before it, nearest first, and those after it.
def sigmaForm (before after : List Char) : Char :=
  if meetsCased before && !meetsCased after then 'ς' else 'σ'

def lowerForm (before after : List Char) (c : Char) : List Char :=
  if c == 'Σ' then [sigmaForm before after] else lowerChar c

def lowerWithin (after before : List Char) : List Char → List Char
  | [] => []
  | c :: cs => lowerForm before (cs ++ after) c ++ lowerWithin after (c :: before) cs

def EachSigma (v : List Char) (p : List Char → List Char → Prop) : Prop :=
  ∀ before after, v = before ++ 'Σ' :: after → p before after

theorem eachSigma_nil : EachSigma [] p := by
  intro before after never
  simp at never

theorem eachSigma_cons : EachSigma (c :: cs) p ↔
    (c = 'Σ' → p [] cs) ∧ EachSigma cs fun before after => p (c :: before) after := by
  constructor
  · intro each
    refine ⟨fun sigma => each [] cs (by rw [sigma]; rfl), fun before after whole => ?_⟩
    exact each (c :: before) after (by rw [whole]; rfl)
  · intro h before after whole
    obtain ⟨first, rest⟩ := h
    cases before with
    | nil =>
      cases whole
      exact first rfl
    | cons d before =>
      cases whole
      exact rest before after rfl

instance EachSigma.decidable : (v : List Char) → (p : List Char → List Char → Prop) →
    [∀ x y, Decidable (p x y)] → Decidable (EachSigma v p)
  | [], _, _ => isTrue eachSigma_nil
  | c :: cs, p, _ =>
    have := EachSigma.decidable cs fun before after => p (c :: before) after
    decidable_of_iff _ eachSigma_cons.symm

def KeepsSigmas (a v b : List Char) : Prop :=
  EachSigma v fun before after =>
    sigmaForm (before.reverse ++ a.reverse) (after ++ b) = sigmaForm before.reverse after

-- What surrounds the sigma does not settle its form: there is no character that counts on one side, and
-- what is on the other side does not settle it either.
def Exposed (before after : List Char) : Prop :=
  before.all isCaseIgnorable = true ∧ meetsCased after = false ∨
    meetsCased before = true ∧ after.all isCaseIgnorable = true

instance : Decidable (Exposed before after) :=
  inferInstanceAs (Decidable (_ ∨ _))

def SelfContained (v : List Char) : Prop :=
  EachSigma v fun before after => ¬Exposed before.reverse after

instance : Decidable (SelfContained v) :=
  inferInstanceAs (Decidable (EachSigma _ _))

instance : Decidable (KeepsSigmas a v b) :=
  inferInstanceAs (Decidable (EachSigma _ _))

theorem meetsCased_append (cs a : List Char) :
    meetsCased (cs ++ a) = if cs.all isCaseIgnorable then meetsCased a else meetsCased cs := by
  induction cs with
  | nil => rfl
  | cons c cs ih =>
    unfold meetsCased at ih ⊢
    by_cases ignorable : isCaseIgnorable c = true
    · rw [List.cons_append, List.dropWhile_cons_of_pos ignorable, List.dropWhile_cons_of_pos ignorable,
        List.all_cons, ignorable, Bool.true_and]
      exact ih
    · rw [List.cons_append, List.dropWhile_cons_of_neg ignorable, List.dropWhile_cons_of_neg ignorable,
        List.all_cons, Bool.eq_false_iff.mpr ignorable, Bool.false_and, if_neg Bool.false_ne_true]

theorem meetsCased_of_all (ignorable : cs.all isCaseIgnorable = true) : meetsCased cs = false := by
  have alone := meetsCased_append cs []
  rw [if_pos ignorable, List.append_nil] at alone
  exact alone

theorem meetsCased_append_of_cased (cased : meetsCased cs = true) (a : List Char) :
    meetsCased (cs ++ a) = true := by
  rw [meetsCased_append]
  split
  · rename_i ignorable
    rw [meetsCased_of_all ignorable] at cased
    cases cased
  · exact cased

theorem sigmaForm_of_settled (settled : ¬Exposed before after) (a b : List Char) :
    sigmaForm (before ++ a) (after ++ b) = sigmaForm before after := by
  unfold sigmaForm
  by_cases first : before.all isCaseIgnorable = true
  · have letter : meetsCased after = true := by
      rw [← Bool.not_eq_false]
      exact fun none => settled (.inl ⟨first, none⟩)
    rw [meetsCased_append_of_cased letter, letter]
    simp
  · rw [meetsCased_append, if_neg first]
    by_cases cased : meetsCased before = true
    · have last : ¬after.all isCaseIgnorable = true := fun last => settled (.inr ⟨cased, last⟩)
      rw [meetsCased_append, if_neg last]
    · rw [Bool.eq_false_iff.mpr cased]
      rfl

theorem KeepsSigmas.of_selfContained (contained : SelfContained v) (a b : List Char) :
    KeepsSigmas a v b :=
  fun before after whole => sigmaForm_of_settled (contained before after whole) a.reverse b

theorem lowerFrom_cons (before cs : List Char) :
    lowerFrom before (c :: cs) = lowerForm before cs c ++ lowerFrom (c :: before) cs := rfl

theorem lowerFrom_append (before v b : List Char) :
    lowerFrom before (v ++ b) = lowerWithin b before v ++ lowerFrom (v.reverse ++ before) b := by
  induction v generalizing before with
  | nil => rfl
  | cons c cs ih =>
    rw [List.cons_append, lowerFrom_cons, ih, lowerWithin, List.reverse_cons, List.append_assoc,
      List.append_assoc]
    rfl

theorem lowerFrom_parts (a v b : List Char) :
    lowerFrom [] (a ++ (v ++ b)) = lowerWithin (v ++ b) [] a ++
      (lowerWithin b a.reverse v ++ lowerFrom (v.reverse ++ a.reverse) b) := by
  rw [lowerFrom_append, lowerFrom_append, List.append_nil]

theorem lowerForm_congr (same : c = 'Σ' → sigmaForm before after = sigmaForm a b) :
    lowerForm before after c = lowerForm a b c := by
  unfold lowerForm
  split
  · rename_i sigma
    rw [same (beq_iff_eq.mp sigma)]
  · rfl

-- `x` stands before the part. For each sigma of the part, the form that it has with `a` and `b` around the
-- two and the form that it has without are related.
def Related (R : Char → Char → Prop) (x a b v : List Char) : Prop :=
  EachSigma v fun before after =>
    R (sigmaForm (before.reverse ++ (x ++ a)) (after ++ b)) (sigmaForm (before.reverse ++ x) after)

theorem related_cons {R : Char → Char → Prop} {x : List Char} : Related R x a b (c :: cs) ↔
    (c = 'Σ' → R (sigmaForm (x ++ a) (cs ++ b)) (sigmaForm x cs)) ∧ Related R (c :: x) a b cs := by
  unfold Related
  rw [eachSigma_cons]
  simp

theorem lowerWithin_kept {x : List Char} (keeps : Related Eq x a b v) :
    lowerWithin b (x ++ a) v = lowerFrom x v := by
  induction v generalizing x with
  | nil => rfl
  | cons c cs ih =>
    obtain ⟨first, rest⟩ := related_cons.mp keeps
    rw [lowerWithin, lowerFrom_cons, ← List.cons_append, ih rest, lowerForm_congr first]

theorem KeepsSigmas.isInfix (keeps : KeepsSigmas a v b) :
    lowerFrom [] v <:+: lowerFrom [] (a ++ (v ++ b)) := by
  have same : lowerWithin b a.reverse v = lowerFrom [] v :=
    lowerWithin_kept (x := []) (by simpa [Related, KeepsSigmas] using keeps)
  rw [lowerFrom_parts, same]
  exact ⟨_, _, List.append_assoc ..⟩

theorem count_lowerForm_le (fewer : c = 'Σ' → sigmaForm before after = d → sigmaForm a b = d) :
    (lowerForm before after c).count d ≤ (lowerForm a b c).count d := by
  unfold lowerForm
  split
  · rename_i sigma
    by_cases form : sigmaForm before after = d
    · exact Nat.le_of_eq (by rw [form, fewer (beq_iff_eq.mp sigma) form])
    · rw [List.count_singleton, if_neg (by simpa using form)]
      exact Nat.zero_le _
  · exact Nat.le_refl _

theorem count_lowerWithin_le {x : List Char}
    (fewer : Related (fun around alone => around = d → alone = d) x a b v) :
    (lowerWithin b (x ++ a) v).count d ≤ (lowerFrom x v).count d := by
  induction v generalizing x with
  | nil => exact Nat.le_refl _
  | cons c cs ih =>
    obtain ⟨first, rest⟩ := related_cons.mp fewer
    rw [lowerWithin, lowerFrom_cons, List.count_append, List.count_append]
    exact Nat.add_le_add (count_lowerForm_le first) (ih rest)

theorem count_lowerWithin_lt {x y z : List Char}
    (fewer : Related (fun around alone => around = d → alone = d) x a b (y ++ 'Σ' :: z))
    (alone : sigmaForm (y.reverse ++ x) z = d)
    (around : sigmaForm (y.reverse ++ (x ++ a)) (z ++ b) ≠ d) :
    (lowerWithin b (x ++ a) (y ++ 'Σ' :: z)).count d < (lowerFrom x (y ++ 'Σ' :: z)).count d := by
  induction y generalizing x with
  | nil =>
    obtain ⟨_, rest⟩ := related_cons.mp fewer
    have here : (lowerForm (x ++ a) (z ++ b) 'Σ').count d < (lowerForm x z 'Σ').count d := by
      have alone : sigmaForm x z = d := alone
      have around : sigmaForm (x ++ a) (z ++ b) ≠ d := around
      simp [lowerForm, alone, around]
    rw [List.nil_append, lowerWithin, lowerFrom_cons, List.count_append, List.count_append]
    exact Nat.add_lt_add_of_lt_of_le here (count_lowerWithin_le rest)
  | cons c y ih =>
    obtain ⟨first, rest⟩ := related_cons.mp fewer
    have later := ih rest (by simpa using alone) (by simpa using around)
    rw [List.cons_append, lowerWithin, lowerFrom_cons, List.count_append, List.count_append]
    exact Nat.add_lt_add_of_le_of_lt (count_lowerForm_le first) later

theorem sigmaForm_eq_final : sigmaForm before after = 'ς' ↔
    meetsCased before = true ∧ meetsCased after = false := by
  unfold sigmaForm
  cases meetsCased before <;> cases meetsCased after <;> decide

theorem sigmaForm_eq_plain : sigmaForm before after = 'σ' ↔
    (meetsCased before = true → meetsCased after = true) := by
  unfold sigmaForm
  cases meetsCased before <;> cases meetsCased after <;> decide

theorem not_isInfix_of_count {text word : List Char} (fewer : text.count d < word.count d) :
    ¬word <:+: text :=
  fun part => Nat.not_le.mpr fewer (part.sublist.count_le d)

theorem lost_before_letter (cased : meetsCased before.reverse = true)
    (last : after.all isCaseIgnorable = true) :
    ¬lowerFrom [] (before ++ 'Σ' :: after) <:+: lowerFrom [] ([] ++ (before ++ 'Σ' :: after ++ ['a'])) := by
  have gone : meetsCased (after ++ ['a']) = true := by
    rw [meetsCased_append, if_pos last]
    rfl
  have fewer : Related (fun around alone => around = 'ς' → alone = 'ς') [] [] ['a']
      (before ++ 'Σ' :: after) := by
    intro x y _ around
    obtain ⟨front, back⟩ := sigmaForm_eq_final.mp around
    refine sigmaForm_eq_final.mpr ⟨front, ?_⟩
    rw [Bool.eq_false_iff] at back ⊢
    exact fun met => back (meetsCased_append_of_cased met ['a'])
  have count := count_lowerWithin_lt fewer
    (sigmaForm_eq_final.mpr ⟨by simpa using cased, meetsCased_of_all last⟩)
    (by simp [sigmaForm_eq_final, gone])
  apply not_isInfix_of_count (d := 'ς')
  rw [lowerFrom_parts, lowerWithin, List.nil_append, List.count_append]
  exact count

theorem lost_after_letter (first : before.all isCaseIgnorable = true)
    (uncased : meetsCased after = false) :
    ¬lowerFrom [] (before ++ 'Σ' :: after) <:+: lowerFrom [] (['a'] ++ (before ++ 'Σ' :: after ++ [])) := by
  have back : before.reverse.all isCaseIgnorable = true := by rwa [List.all_reverse]
  have taken : meetsCased (before.reverse ++ ['a']) = true := by
    rw [meetsCased_append, if_pos back]
    rfl
  have fewer : Related (fun around alone => around = 'σ' → alone = 'σ') [] ['a'] []
      (before ++ 'Σ' :: after) := by
    intro x y _ around
    refine sigmaForm_eq_plain.mpr fun met => ?_
    rw [List.append_nil] at met
    have goes := sigmaForm_eq_plain.mp around (meetsCased_append_of_cased met ['a'])
    rwa [List.append_nil] at goes
  have count := count_lowerWithin_lt fewer
    (sigmaForm_eq_plain.mpr (by simp [meetsCased_of_all back]))
    (by simp [sigmaForm_eq_plain, taken, uncased])
  apply not_isInfix_of_count (d := 'σ')
  rw [lowerFrom_parts, List.count_append, List.count_append]
  have letter : (lowerWithin (before ++ 'Σ' :: after ++ []) [] ['a']).count 'σ' = 0 := rfl
  rw [letter, Nat.zero_add]
  exact count

theorem containsIgnoringCase_iff {text value : String} : containsIgnoringCase text value = true ↔
    lowerFrom [] value.toList <:+: lowerFrom [] text.toList := by
  rw [containsIgnoringCase, occursIn_iff, lowerCase, lowerCase, String.toList_ofList,
    String.toList_ofList]

theorem contains_around_iff {before value after : String} :
    containsIgnoringCase (before ++ value ++ after) value = true ↔
      lowerFrom [] value.toList <:+: lowerFrom [] (before.toList ++ (value.toList ++ after.toList)) := by
  rw [containsIgnoringCase_iff, String.toList_append, String.toList_append, List.append_assoc]

theorem contains_of_keeps {before value after : String}
    (keeps : KeepsSigmas before.toList value.toList after.toList) :
    containsIgnoringCase (before ++ value ++ after) value = true :=
  contains_around_iff.mpr keeps.isInfix

-- In front of a single letter or after it, every exposed sigma takes its other form.
theorem contains_everywhere_iff {value : String} :
    (∀ before after : String, containsIgnoringCase (before ++ value ++ after) value = true) ↔
      SelfContained value.toList := by
  constructor
  · intro found before after whole exposed
    rcases exposed with ⟨first, uncased⟩ | ⟨cased, last⟩
    · rw [List.all_reverse] at first
      have part := contains_around_iff.mp (found "a" "")
      rw [whole] at part
      exact lost_after_letter first uncased part
    · have part := contains_around_iff.mp (found "" "a")
      rw [whole] at part
      exact lost_before_letter cased last part
  · exact fun contained before after => contains_of_keeps (.of_selfContained contained _ _)

end TrackerQuery.Text
