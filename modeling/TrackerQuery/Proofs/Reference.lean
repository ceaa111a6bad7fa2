import TrackerQuery.Proofs.Query.Numeral
import TrackerQuery.Reference

namespace TrackerQuery.Reference

open TrackerQuery.Text

def Starts (cs : List Char) : Prop :=
  ∃ c ds, cs = c :: ds ∧ isBlank c = false

theorem Starts.ne_empty {project : String} (h : Starts project.toList) : project ≠ "" := by
  rintro rfl
  obtain ⟨_, _, whole, _⟩ := h
  cases whole

-- What a text refers to that has no blanks around it.
inductive Written : List Char → Reference → Prop where
  | bare {cs n} (numeral : Numeral cs n) : Written cs ⟨none, n⟩
  | marked {cs n} (numeral : Numeral cs n) : Written ('#' :: cs) ⟨none, n⟩
  | named {project : String} {cs n} (starts : Starts project.toList) (numeral : Numeral cs n) :
      Written (project.toList ++ '#' :: cs) ⟨some project, n⟩

structure Proper (r : Reference) : Prop where
  fits : fits64 r.number = true
  starts : ∀ project, r.project = some project → Starts project.toList

variable {c : Char} {cs before after : List Char} {n : Int} {r : Reference} {text : String}

theorem splitLast?_eq_none_iff : splitLast? c cs = none ↔ c ∉ cs := by
  induction cs with
  | nil => simp [splitLast?]
  | cons d cs ih =>
    rw [splitLast?, List.mem_cons, not_or, ← ih]
    cases splitLast? c cs with
    | none =>
      by_cases same : d = c
      · simp [same]
      · simp [same, Ne.symm same]
    | some parts => simp

-- The induction is on the text: what is split off its tail is split off the whole.
theorem splitLast?_eq_some_iff :
    splitLast? c cs = some (before, after) ↔ cs = before ++ c :: after ∧ c ∉ after := by
  constructor
  · intro split
    induction cs generalizing before with
    | nil => cases split
    | cons d cs ih =>
      rw [splitLast?] at split
      cases later : splitLast? c cs with
      | none =>
        simp only [later, Option.ite_none_right_eq_some, beq_iff_eq, Option.some.injEq, Prod.mk.injEq] at split
        obtain ⟨rfl, rfl, rfl⟩ := split
        exact ⟨rfl, splitLast?_eq_none_iff.mp later⟩
      | some parts =>
        obtain ⟨first, last⟩ := parts
        simp only [later, Option.some.injEq, Prod.mk.injEq] at split
        obtain ⟨rfl, rfl⟩ := split
        obtain ⟨rfl, absent⟩ := ih later
        exact ⟨rfl, absent⟩
  · rintro ⟨rfl, absent⟩
    induction before with
    | nil =>
      rw [List.nil_append, splitLast?, splitLast?_eq_none_iff.mpr absent]
      simp
    | cons d before ih =>
      rw [List.cons_append, splitLast?, ih]

theorem starts_trim (nonempty : trim cs ≠ []) : Starts (trim cs) := by
  obtain ⟨c, ds, whole⟩ := List.exists_cons_of_ne_nil nonempty
  refine ⟨c, ds, whole, ?_⟩
  have front : trim cs <+: trimStart cs := by
    rw [trim, trimEnd, ← List.reverse_suffix, List.reverse_reverse]
    exact List.dropWhile_suffix _
  obtain ⟨after, front⟩ := front
  have first := List.head?_dropWhile_not isBlank cs
  rw [← trimStart, ← front, whole] at first
  simpa using first

theorem Written.starts (h : Written cs r) : Starts cs := by
  cases h with
  | bare numeral =>
    obtain ⟨nonempty, solid⟩ := numeral.solid
    exact (ends_of_solid nonempty fun c mem => (solid c mem).1).1
  | marked => exact ⟨'#', _, rfl, by decide⟩
  | named starts =>
    obtain ⟨c, ds, whole, solid⟩ := starts
    exact ⟨c, _, by rw [whole]; rfl, solid⟩

theorem Written.ends (h : Written cs r) : ∃ ds c, cs = ds ++ [c] ∧ isBlank c = false := by
  have last : ∃ front numeral, cs = front ++ numeral ∧ Numeral numeral r.number := by
    cases h with
    | bare numeral => exact ⟨[], _, rfl, numeral⟩
    | marked numeral => exact ⟨['#'], _, rfl, numeral⟩
    | @named project _ _ _ numeral => exact ⟨project.toList ++ ['#'], _, by simp, numeral⟩
  obtain ⟨front, _, rfl, numeral⟩ := last
  obtain ⟨nonempty, solid⟩ := numeral.solid
  obtain ⟨ds, c, rfl, last⟩ := (ends_of_solid nonempty fun c mem => (solid c mem).1).2
  exact ⟨front ++ ds, c, (List.append_assoc ..).symm, last⟩

theorem Written.trim_eq (h : Written cs r) : trim cs = cs := by
  simpa using trim_of_ends blanks_nil blanks_nil h.starts h.ends

theorem written_of_read? (read : read? text = some r) :
    Written (trim text.toList) r ∧ fits64 r.number = true := by
  rw [read?] at read
  generalize trimmed : trim text.toList = cs at read
  cases split : splitLast? '#' cs with
  | none =>
    simp only [split, Option.map_eq_some_iff] at read
    obtain ⟨n, number, rfl⟩ := read
    obtain ⟨numeral, fits⟩ := readInt?_iff.mp number
    exact ⟨.bare numeral, fits⟩
  | some parts =>
    obtain ⟨project, digits⟩ := parts
    simp only [split, Option.map_eq_some_iff] at read
    obtain ⟨n, number, rfl⟩ := read
    obtain ⟨numeral, fits⟩ := readInt?_iff.mp number
    obtain ⟨rfl, _⟩ := splitLast?_eq_some_iff.mp split
    refine ⟨?_, fits⟩
    cases project with
    | nil => exact .marked numeral
    | cons c project =>
      have starts : Starts (c :: project ++ '#' :: digits) := trimmed ▸ starts_trim (by simp [trimmed])
      obtain ⟨_, _, whole, solid⟩ := starts
      obtain ⟨rfl, _⟩ := List.cons.inj whole
      have named : Written ((String.ofList (c :: project)).toList ++ '#' :: digits)
          ⟨some (String.ofList (c :: project)), n⟩ :=
        .named ⟨c, project, String.toList_ofList, solid⟩ numeral
      rwa [String.toList_ofList] at named

theorem splitLast?_numeral (before : List Char) (numeral : Numeral cs n) :
    splitLast? '#' (before ++ '#' :: cs) = some (before, cs) :=
  splitLast?_eq_some_iff.mpr ⟨rfl, fun mem => (numeral.solid.2 _ mem).2 rfl⟩

theorem read?_of_written (written : Written (trim text.toList) r) (fits : fits64 r.number = true) :
    read? text = some r := by
  rw [read?]
  generalize trim text.toList = cs at written
  cases written with
  | bare numeral =>
    have unmarked : splitLast? '#' cs = none :=
      splitLast?_eq_none_iff.mpr fun mem => (numeral.solid.2 _ mem).2 rfl
    simp [unmarked, readInt?_iff.mpr ⟨numeral, fits⟩]
  | @marked digits _ numeral =>
    have split : splitLast? '#' ('#' :: digits) = some ([], digits) := splitLast?_numeral [] numeral
    simp [split, readInt?_iff.mpr ⟨numeral, fits⟩]
  | @named project digits _ starts numeral =>
    have split := splitLast?_numeral project.toList numeral
    simp [split, readInt?_iff.mpr ⟨numeral, fits⟩, starts.ne_empty]

theorem read?_iff : read? text = some r ↔ Written (trim text.toList) r ∧ fits64 r.number = true :=
  ⟨written_of_read?, fun h => read?_of_written h.1 h.2⟩

theorem Written.read? (h : Written text.toList r) (fits : fits64 r.number = true) :
    read? text = some r :=
  read?_iff.mpr ⟨h.trim_eq.symm ▸ h, fits⟩

theorem proper_of_read? (read : read? text = some r) : r.Proper := by
  obtain ⟨written, fits⟩ := read?_iff.mp read
  refine ⟨fits, ?_⟩
  generalize trim text.toList = cs at written
  cases written with
  | bare | marked => exact fun _ never => nomatch never
  | named starts =>
    rintro _ ⟨⟩
    exact starts

theorem numeral_toString (fits : fits64 n = true) : Numeral (toString n).toList n :=
  (readInt?_iff.mp (readInt?_toString fits)).1

theorem Proper.read?_text (h : r.Proper) : read? r.text = some r := by
  obtain ⟨project, n⟩ := r
  have numeral := numeral_toString h.fits
  refine Written.read? ?_ h.fits
  cases project with
  | none => simpa [Reference.text] using Written.marked numeral
  | some project => simpa [Reference.text] using Written.named (h.starts project rfl) numeral

theorem proper_iff : r.Proper ↔ ∃ text, read? text = some r :=
  ⟨fun h => ⟨r.text, h.read?_text⟩, fun ⟨_, read⟩ => proper_of_read? read⟩

-- What is read is written as a text that reads as the same. A number that 64 bits hold reads as itself,
-- alone, after a number sign and after a project.
theorem references_return :
    (∀ text r, read? text = some r → read? r.text = some r ∧ r.project ≠ some "") ∧
      ∀ n : Int, -9223372036854775808 ≤ n ∧ n ≤ 9223372036854775807 →
        (∀ project : String, Starts project.toList →
          read? (project ++ "#" ++ toString n) = some ⟨some project, n⟩) ∧
        read? ("#" ++ toString n) = some ⟨none, n⟩ ∧ read? (toString n) = some ⟨none, n⟩ := by
  constructor
  · intro text r read
    have proper := proper_iff.mpr ⟨text, read⟩
    exact ⟨proper.read?_text, fun empty => (proper.starts "" empty).ne_empty rfl⟩
  · intro n range
    have fits : fits64 n = true := fits64_iff.mpr range
    refine ⟨fun project starts => ?_, ?_, ?_⟩
    · have proper : Proper ⟨some project, n⟩ := ⟨fits, by rintro _ ⟨⟩; exact starts⟩
      exact proper.read?_text
    · have proper : Proper ⟨none, n⟩ := ⟨fits, fun _ never => nomatch never⟩
      exact proper.read?_text
    · exact (Written.bare (numeral_toString fits)).read? fits

theorem references_return_signs :
    let text := "\u00a0 a b#c #+007\n"
    let r : Reference := ⟨some "a b#c ", 7⟩
    let least : Int := -9223372036854775808
    read? text = some r ∧ read? r.text = some r ∧ Starts "7#\t".toList ∧
      read? ("7#\t" ++ "#" ++ toString least) = some ⟨some "7#\t", least⟩ ∧
      read? ("#" ++ toString least) = some ⟨none, least⟩ ∧
      read? (toString least) = some ⟨none, least⟩ := by
  intro text r least
  have read : read? text = some r := by decide +kernel
  have starts : Starts "7#\t".toList := ⟨'7', ['#', '\t'], by decide, by decide⟩
  obtain ⟨again, numbers⟩ := references_return
  obtain ⟨named, marked, bare⟩ := numbers least (by decide)
  exact ⟨read, (again text r read).1, starts, named _ starts, marked, bare⟩

end TrackerQuery.Reference
