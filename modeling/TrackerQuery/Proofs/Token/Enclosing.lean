import TrackerQuery.Proofs.Token.Tiling

namespace TrackerQuery.Token

open TrackerQuery.Text

-- The text starts with what goes on with neither a word nor a gap, if with anything.
def Apart (cs : List Char) : Prop :=
  ∀ c ∈ cs.head?, isWordChar c = false ∧ isBlank c = false

variable {a cs rest : List Char} {ts : List Token} {ws : List String} {p : Phrase} {l : Lexeme}
  {c : Char} {start : Nat}

theorem Apart.clear (apart : Apart rest) : Clear rest := by
  cases rest with
  | nil => rfl
  | cons c rest => exact (apart c rfl).1

theorem clear_append_apart (apart : Apart rest) : Clear (cs ++ rest) ↔ Clear cs := by
  cases cs with
  | nil => exact ⟨fun _ => rfl, fun _ => apart.clear⟩
  | cons c cs => exact Iff.rfl

theorem apart_closing : Apart (')' :: cs) := by
  intro c head
  obtain rfl : ')' = c := by simpa using head
  decide

theorem chars_of_gapped (words : ∀ w ∈ ws, IsWord w) (h : Gapped ws a) :
    ∀ c ∈ a, isWordChar c = true ∨ isBlank c = true := by
  induction h with
  | nil => simp
  | @cons g w ws tail gap _ ih =>
    intro c mem
    rw [List.mem_append, List.mem_append] at mem
    rcases mem with inGap | inWord | inTail
    · exact .inr (gap.2 c inGap)
    · exact .inl (List.all_eq_true.mp (words w List.mem_cons_self).2.2 c inWord)
    · exact ih (fun v mem => words v (List.mem_cons_of_mem _ mem)) c inTail

theorem Phrase.Spells.chars (mem : p ∈ phrases) (spells : p.Spells a) :
    ∀ c ∈ a, isWordChar c = true ∨ isBlank c = true := by
  obtain ⟨tail, gapped, rfl⟩ := spells
  have words := words_of_mem_phrases p mem
  intro c inPhrase
  rcases List.mem_append.mp inPhrase with inWord | inTail
  · exact .inl (List.all_eq_true.mp (words p.first List.mem_cons_self).2.2 c inWord)
  · exact chars_of_gapped (fun w mem => words w (List.mem_cons_of_mem _ mem)) gapped c inTail

theorem read_append (mem : p ∈ phrases) (apart : Apart rest) :
    p.read (cs ++ rest) = (p.read cs).map fun r => (r.1, r.2 ++ rest) := by
  ext ⟨a, after⟩
  simp only [Option.map_eq_some_iff, Prod.exists, Prod.mk.injEq]
  constructor
  · intro read
    obtain ⟨spells, clear, whole⟩ := (read_iff mem).mp read
    rcases List.append_eq_append_iff.mp whole with ⟨u, rfl, rfl⟩ | ⟨u, rfl, same⟩
    · exact ⟨a, u, (read_iff mem).mpr ⟨spells, (clear_append_apart apart).mp clear, rfl⟩, rfl, rfl⟩
    · -- A character of the phrase would stand after the text.
      cases u with
      | nil =>
        rw [List.nil_append] at same
        refine ⟨cs, [], (read_iff mem).mpr ⟨by simpa using spells, rfl, by simp⟩, by simp, ?_⟩
        exact same
      | cons c u =>
        obtain ⟨outside, solid⟩ := apart c (by simp [same])
        have inside := spells.chars mem c (by simp)
        simp [outside, solid] at inside
  · intro h
    obtain ⟨a, after, read, rfl, rfl⟩ := h
    obtain ⟨spells, clear, rfl⟩ := (read_iff mem).mp read
    refine (read_iff mem).mpr ⟨spells, (clear_append_apart apart).mpr clear, ?_⟩
    exact (List.append_assoc ..).symm

def Lexeme.before (rest : List Char) (l : Lexeme) : Lexeme :=
  ⟨l.kind, l.text, l.rest ++ rest⟩

theorem ofPhrase?_append (apart : Apart rest) (found : Lexeme.ofPhrase? cs = some l) :
    Lexeme.ofPhrase? (cs ++ rest) = some (l.before rest) := by
  obtain ⟨first, p, last, table, matched, earlier⟩ := List.findSome?_eq_some_iff.mp found
  obtain ⟨⟨a, after⟩, read, rfl⟩ := Option.map_eq_some_iff.mp matched
  refine List.findSome?_eq_some_iff.mpr ⟨first, p, last, table, ?_, ?_⟩
  · rw [read_append (table ▸ List.mem_append_right _ List.mem_cons_self) apart, read]
    rfl
  · intro q early
    have missed : q.read cs = none := Option.map_eq_none_iff.mp (earlier q early)
    rw [read_append (table ▸ List.mem_append_left _ early) apart, missed]
    rfl

theorem lexeme_append (apart : Apart rest) (read : Lexeme.read start c cs = .ok l) (start' : Nat) :
    Lexeme.read start' c (cs ++ rest) = .ok (l.before rest) := by
  unfold Lexeme.read at read
  split at read
  · cases read
    rfl
  · cases read
    rfl
  · split at read
    · rename_i raw after found
      cases read
      obtain ⟨content, rfl⟩ := quotedContent_iff.mp found
      have found' : quotedContent (raw ++ '"' :: after ++ rest) = some (raw, after ++ rest) :=
        quotedContent_iff.mpr ⟨content, by simp⟩
      simp only [Lexeme.read, found', Lexeme.before]
    · cases read
  · split at read
    · rename_i letter
      split at read
      · rename_i found
        cases read
        have longer := ofPhrase?_append apart found
        exact read_letter letter longer start'
      · cases read
    · cases read

theorem Scans.cuts (h : Scans start cs ts) (apart : Apart rest) : Cuts cs rest (ts.map (·.kind)) := by
  induction h with
  | nil => exact cuts_nil
  | blank blank _ ih => exact (cuts_blank blank).append ih
  | @lexeme start c cs l ts solid read _ ih =>
    obtain ⟨whole, nonempty⟩ := Lexeme.append_of_read read
    obtain ⟨d, text, head⟩ := List.exists_cons_of_ne_nil nonempty
    rw [head, List.cons_append] at whole
    obtain ⟨rfl, rfl⟩ := List.cons.inj whole
    have first : Cuts (d :: text) (l.rest ++ rest) [l.kind] := by
      refine cuts_lexeme solid fun start' => ?_
      rw [← List.append_assoc, lexeme_append apart read start', Lexeme.before, head]
    exact first.append ih

end TrackerQuery.Token
