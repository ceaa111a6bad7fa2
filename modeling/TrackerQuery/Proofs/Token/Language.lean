import TrackerQuery.Proofs.Token.Cutting

namespace TrackerQuery.Token

open TrackerQuery.Text

inductive LiteralContent : List Char → Prop where
  | nil : LiteralContent []
  | taken {cs} (c : Char) (h : LiteralContent cs) : LiteralContent ('\\' :: c :: cs)
  | plain {c cs} (quote : c ≠ '"') (backslash : c ≠ '\\') (h : LiteralContent cs) :
      LiteralContent (c :: cs)

def Gap (cs : List Char) : Prop :=
  cs ≠ [] ∧ ∀ c ∈ cs, isBlank c = true

inductive Gapped : List String → List Char → Prop where
  | nil : Gapped [] []
  | cons {g w ws cs} (gap : Gap g) (h : Gapped ws cs) : Gapped (w :: ws) (g ++ (w.toList ++ cs))

def Phrase.Spells (p : Phrase) (cs : List Char) : Prop :=
  ∃ tail, Gapped p.more tail ∧ cs = p.first.toList ++ tail

namespace Lexeme

-- What a lexeme of each kind covers; only phrases mind what follows.
def Lawful (l : Lexeme) : Prop :=
  match l.kind with
  | .opening => l.text = ['(']
  | .closing => l.text = [')']
  | .quoted raw => LiteralContent raw.toList ∧ l.text = '"' :: (raw.toList ++ ['"'])
  | kind => ∃ p ∈ phrases, p.kind = kind ∧ p.Spells l.text ∧ Clear l.rest

def Longest (l : Lexeme) : Prop :=
  ∀ p ∈ phrases, ∀ cs rest, cs ++ rest = l.text ++ l.rest → p.Spells cs → Clear rest →
    cs.length ≤ l.text.length

end Lexeme

inductive Lexical : List Char → Prop where
  | nil : Lexical []
  | gap {g cs} (blank : Gap g) (h : Lexical cs) : Lexical (g ++ cs)
  | lexeme {l : Lexeme} (lawful : l.Lawful) (h : Lexical l.rest) : Lexical (l.text ++ l.rest)

variable {a b cs ds g g' r s rest : List Char} {w v : String} {ws vs : List String}
  {p q : Phrase} {l : Lexeme} {c : Char}

theorem quotedContent_iff :
    quotedContent cs = some (r, rest) ↔ LiteralContent r ∧ r ++ '"' :: rest = cs := by
  constructor
  · intro read
    refine ⟨?_, append_of_quotedContent read⟩
    fun_induction quotedContent cs generalizing r rest with
    | case1 | case2 => contradiction
    | case3 c cs ih =>
      obtain ⟨⟨raw, rest⟩, inner, same⟩ := Option.map_eq_some_iff.mp read
      cases same
      exact .taken c (ih inner)
    | case4 cs =>
      cases read
      exact .nil
    | case5 c cs noBackslash noTaken noQuote ih =>
      obtain ⟨⟨raw, rest⟩, inner, same⟩ := Option.map_eq_some_iff.mp read
      cases same
      refine .plain noQuote ?_ (ih inner)
      rintro rfl
      cases cs with
      | nil => exact noBackslash rfl rfl
      | cons d ds => exact noTaken d ds rfl rfl
  · intro h
    obtain ⟨content, rfl⟩ := h
    induction content with
    | nil => rfl
    | taken c _ ih => simp [quotedContent, ih]
    | plain _ backslash _ ih => simp [quotedContent, backslash, ih]

theorem not_isWordChar_of_isBlank (blank : isBlank c = true) : isWordChar c = false := by
  have codes : ∀ range ∈ blankRanges, ∀ i < range.2 + 1 - range.1,
      isWordChar (Char.ofNat (range.1 + i)) = false := by
    decide +kernel
  obtain ⟨range, mem, within⟩ := List.any_eq_true.mp blank
  simp only [Bool.and_eq_true, decide_eq_true_eq] at within
  have code : range.1 + (c.toNat - range.1) = c.toNat := by omega
  have other := codes range mem (c.toNat - range.1) (by omega)
  rwa [code, Char.ofNat_toNat] at other

theorem clear_of_gap (gap : Gap g) : Clear (g ++ cs) := by
  obtain ⟨nonempty, blank⟩ := gap
  cases g with
  | nil => contradiction
  | cons c g => simp [Clear, not_isWordChar_of_isBlank (blank c List.mem_cons_self)]

theorem clear_of_gapped (h : Gapped ws a) (clear : Clear rest) : Clear (a ++ rest) := by
  cases h with
  | nil => exact clear
  | cons gap _ =>
    rw [List.append_assoc]
    exact clear_of_gap gap

theorem afterWord_iff {w cs rest : List Char} :
    afterWord w cs = some rest ↔ w ++ rest = cs ∧ Clear rest := by
  constructor
  · intro read
    refine ⟨append_of_afterWord read, ?_⟩
    simp only [afterWord] at read
    split at read
    · rename_i found
      cases read
      simp_all [Clear]
    · cases read
  · intro h
    obtain ⟨rfl, clear⟩ := h
    exact afterWord_append clear

theorem takeWhile_gap (gap : ∀ c ∈ g, isBlank c = true) (solid : cs.head?.any isBlank = false) :
    (g ++ cs).takeWhile isBlank = g ∧ (g ++ cs).dropWhile isBlank = cs := by
  rw [List.takeWhile_append_of_pos gap, List.dropWhile_append_of_pos gap]
  cases cs with
  | nil => simp
  | cons c cs =>
    have solid : isBlank c = false := solid
    simp [solid]

theorem IsWord.solid (word : IsWord w) (cs : List Char) :
    (w.toList ++ cs).head?.any isBlank = false := by
  obtain ⟨c, ds, whole, _, solid⟩ := word.cons
  simp [whole, solid]

theorem readMore_iff (words : ∀ w ∈ ws, IsWord w) :
    readMore ws cs = some (a, rest) ↔ Gapped ws a ∧ a ++ rest = cs ∧ (ws = [] ∨ Clear rest) := by
  induction ws generalizing cs a with
  | nil =>
    constructor
    · intro read
      cases read
      exact ⟨.nil, rfl, .inl rfl⟩
    · intro h
      obtain ⟨gapped, rfl, _⟩ := h
      cases gapped
      rfl
  | cons w ws ih =>
    have others := fun v mem => words v (List.mem_cons_of_mem w mem)
    constructor
    · intro read
      simp only [readMore, Option.bind_eq_bind] at read
      split at read
      · cases read
      · rename_i nonempty
        obtain ⟨after, found, read⟩ := Option.bind_eq_some_iff.mp read
        obtain ⟨⟨tail, rest'⟩, more, same⟩ := Option.bind_eq_some_iff.mp read
        cases same
        obtain ⟨front, clear⟩ := afterWord_iff.mp found
        obtain ⟨gapped, rfl, last⟩ := (ih others).mp more
        have gap : Gap (cs.takeWhile isBlank) :=
          ⟨by simpa using nonempty, List.all_eq_true.mp List.all_takeWhile⟩
        refine ⟨?_, ?_, .inr ?_⟩
        · rw [List.append_assoc]
          exact .cons gap gapped
        · rw [List.append_assoc, List.append_assoc, front, List.takeWhile_append_dropWhile]
        · rcases last with rfl | clear'
          · cases gapped
            exact clear
          · exact clear'
    · intro h
      obtain ⟨gapped, rfl, last⟩ := h
      cases gapped with
      | @cons g _ _ tail gap gapped =>
        have clear := last.resolve_left (by simp)
        have parts := takeWhile_gap gap.2 ((words w List.mem_cons_self).solid (tail ++ rest))
        have found := afterWord_append (w := w.toList) (clear_of_gapped gapped clear)
        have more := (ih others).mpr ⟨gapped, rfl, .inr clear⟩
        rw [List.append_assoc, List.append_assoc]
        simp [readMore, parts, found, more, gap.1]

theorem read_iff (mem : p ∈ phrases) :
    p.read cs = some (a, rest) ↔ p.Spells a ∧ Clear rest ∧ a ++ rest = cs := by
  have words : ∀ w ∈ p.more, IsWord w :=
    fun w mem' => words_of_mem_phrases p mem w (List.mem_cons_of_mem _ mem')
  constructor
  · intro read
    obtain ⟨after, found, read⟩ := Option.bind_eq_some_iff.mp read
    obtain ⟨⟨tail, rest'⟩, more, same⟩ := Option.bind_eq_some_iff.mp read
    cases same
    obtain ⟨rfl, clear⟩ := afterWord_iff.mp found
    obtain ⟨gapped, rfl, last⟩ := (readMore_iff words).mp more
    refine ⟨⟨tail, gapped, rfl⟩, ?_, List.append_assoc ..⟩
    rcases last with alone | clear'
    · rw [alone] at gapped
      cases gapped
      exact clear
    · exact clear'
  · intro h
    obtain ⟨⟨tail, gapped, rfl⟩, clear, rfl⟩ := h
    have more := (readMore_iff words).mpr ⟨gapped, rfl, .inr clear⟩
    rw [Phrase.read, List.append_assoc, afterWord_append (clear_of_gapped gapped clear)]
    simp [more]

theorem word_unique (word : IsWord w) (word' : IsWord v) (same : w.toList ++ r = v.toList ++ s)
    (clear : Clear r) (clear' : Clear s) : w = v ∧ r = s := by
  have run : ∀ {w : String} {r : List Char}, IsWord w → Clear r →
      (w.toList ++ r).takeWhile isWordChar = w.toList := by
    intro w r word clear
    rw [List.takeWhile_append_of_pos (List.all_eq_true.mp word.2.2)]
    cases r with
    | nil => simp
    | cons c r =>
      have stop : isWordChar c = false := clear
      simp [stop]
  have words : w.toList = v.toList := by rw [← run word clear, same, run word' clear']
  exact ⟨String.toList_inj.mp words, List.append_cancel_left (words ▸ same)⟩

theorem gapped_compare (words : ∀ w ∈ ws, IsWord w) (words' : ∀ v ∈ vs, IsWord v)
    (h : Gapped ws a) (h' : Gapped vs b) (same : a ++ r = b ++ s) (clear : Clear r)
    (clear' : Clear s) :
    (∃ more u, vs = ws ++ more ∧ Gapped more u ∧ b = a ++ u) ∨
      ∃ more u, ws = vs ++ more ∧ Gapped more u ∧ a = b ++ u := by
  induction h generalizing vs b with
  | nil => exact .inl ⟨vs, b, rfl, h', rfl⟩
  | @cons g w ws a gap h ih =>
    cases h' with
    | nil => exact .inr ⟨w :: ws, _, rfl, .cons gap h, rfl⟩
    | @cons g' v vs b gap' h' =>
      have word := words w List.mem_cons_self
      have word' := words' v List.mem_cons_self
      simp only [List.append_assoc] at same
      have gaps := takeWhile_gap gap.2 (word.solid (a ++ r))
      have gaps' := takeWhile_gap gap'.2 (word'.solid (b ++ s))
      obtain rfl : g = g' := by rw [← gaps.1, same, gaps'.1]
      obtain ⟨rfl, tails⟩ := word_unique word word' (List.append_cancel_left same)
        (clear_of_gapped h clear) (clear_of_gapped h' clear')
      have others := ih (fun w mem => words w (List.mem_cons_of_mem _ mem))
        (fun v mem => words' v (List.mem_cons_of_mem _ mem)) h' tails
      rcases others with ⟨more, u, rfl, rest, rfl⟩ | ⟨more, u, rfl, rest, rfl⟩
      · exact .inl ⟨more, u, rfl, rest, by simp only [List.append_assoc]⟩
      · exact .inr ⟨more, u, rfl, rest, by simp only [List.append_assoc]⟩

theorem gapped_unique (words : ∀ w ∈ ws, IsWord w) (h : Gapped ws a) (h' : Gapped ws b)
    (same : a ++ r = b ++ s) (clear : Clear r) (clear' : Clear s) : r = s := by
  rcases gapped_compare words words h h' same clear clear' with
    ⟨more, u, goesOn, rest, rfl⟩ | ⟨more, u, goesOn, rest, rfl⟩
  · obtain rfl : more = [] := by simpa using goesOn
    cases rest
    simpa using same
  · obtain rfl : more = [] := by simpa using goesOn
    cases rest
    simpa using same

theorem spells_compare (mem : p ∈ phrases) (mem' : q ∈ phrases) (h : p.Spells a) (h' : q.Spells b)
    (same : a ++ r = b ++ s) (clear : Clear r) (clear' : Clear s) :
    (∃ more u, q.words = p.words ++ more ∧ Gapped more u ∧ b = a ++ u) ∨
      ∃ more u, p.words = q.words ++ more ∧ Gapped more u ∧ a = b ++ u := by
  obtain ⟨tail, gapped, rfl⟩ := h
  obtain ⟨tail', gapped', rfl⟩ := h'
  have words := words_of_mem_phrases p mem
  have words' := words_of_mem_phrases q mem'
  simp only [List.append_assoc] at same
  obtain ⟨first, tails⟩ := word_unique (words p.first List.mem_cons_self)
    (words' q.first List.mem_cons_self) same (clear_of_gapped gapped clear)
    (clear_of_gapped gapped' clear')
  have compared := gapped_compare (fun w mem => words w (List.mem_cons_of_mem _ mem))
    (fun w mem => words' w (List.mem_cons_of_mem _ mem)) gapped gapped' tails clear clear'
  rcases compared with ⟨more, u, goesOn, rest, rfl⟩ | ⟨more, u, goesOn, rest, rfl⟩
  · exact .inl ⟨more, u, by simp [Phrase.words, first, goesOn], rest, by simp [first]⟩
  · exact .inr ⟨more, u, by simp [Phrase.words, first, goesOn], rest, by simp [first]⟩

theorem spells_cons (mem : p ∈ phrases) (h : p.Spells a) :
    ∃ c cs, a = c :: cs ∧ isLetter c = true ∧ isBlank c = false := by
  obtain ⟨tail, _, rfl⟩ := h
  obtain ⟨c, cs, whole, letter, solid⟩ :=
    (words_of_mem_phrases p mem p.first List.mem_cons_self).cons
  exact ⟨c, cs ++ tail, by rw [whole, List.cons_append], letter, solid⟩

def Kind.isPhrase : Kind → Bool
  | .opening | .closing | .quoted _ => false
  | _ => true

theorem isPhrase_of_mem_phrases : ∀ p ∈ phrases, p.kind.isPhrase = true := by
  decide

theorem lawful_of_phrase (mem : p ∈ phrases) (spells : p.Spells a) (clear : Clear r) :
    Lexeme.Lawful ⟨p.kind, a, r⟩ := by
  have phrase : ∀ kind, p.kind = kind → kind.isPhrase = true :=
    fun kind same => same ▸ isPhrase_of_mem_phrases p mem
  unfold Lexeme.Lawful
  split
  · cases phrase _ ‹_›
  · cases phrase _ ‹_›
  · cases phrase _ ‹_›
  · exact ⟨p, mem, rfl, spells, clear⟩

theorem lawful_cases (h : l.Lawful) :
    l.kind = .opening ∧ l.text = ['('] ∨ l.kind = .closing ∧ l.text = [')'] ∨
      (∃ raw, l.kind = .quoted raw ∧ LiteralContent raw.toList ∧
        l.text = '"' :: (raw.toList ++ ['"'])) ∨
      ∃ p ∈ phrases, l.kind = p.kind ∧ p.Spells l.text ∧ Clear l.rest := by
  unfold Lexeme.Lawful at h
  split at h
  · exact .inl ⟨‹_›, h⟩
  · exact .inr (.inl ⟨‹_›, h⟩)
  · exact .inr (.inr (.inl ⟨_, ‹_›, h⟩))
  · obtain ⟨p, mem, same, spells, clear⟩ := h
    exact .inr (.inr (.inr ⟨p, mem, same.symm, spells, clear⟩))

theorem longest_of_other (head : l.text = c :: cs) (other : isLetter c = false) : l.Longest := by
  intro p mem a r same spells _
  obtain ⟨d, ds, rfl, letter, _⟩ := spells_cons mem spells
  rw [head] at same
  obtain rfl : d = c := (List.cons.inj same).1
  simp [other] at letter

theorem ofPhrase?_sound (read : Lexeme.ofPhrase? cs = some l) : l.Lawful ∧ l.Longest := by
  obtain ⟨before, p, after, table, found, earlier⟩ := List.findSome?_eq_some_iff.mp read
  obtain ⟨⟨a, r⟩, matched, rfl⟩ := Option.map_eq_some_iff.mp found
  have mem : p ∈ phrases := table ▸ List.mem_append_right _ List.mem_cons_self
  obtain ⟨spells, clear, rfl⟩ := (read_iff mem).mp matched
  refine ⟨lawful_of_phrase mem spells clear, ?_⟩
  intro q mem' b s same spells' clear'
  rcases spells_compare mem mem' spells spells' same.symm clear clear' with
    ⟨more, u, goesOn, gapped, longer⟩ | ⟨_, u, _, _, longer⟩
  · -- The phrase that goes on with other words is the same or stands earlier in the table.
    have missed : q ∉ before := by
      intro early
      have none := earlier q early
      simp [(read_iff mem').mpr ⟨spells', clear', same⟩] at none
    have ordered := phrases_ordered
    rw [table, List.pairwise_append] at ordered
    rw [table] at mem'
    rcases List.mem_append.mp mem' with early | late
    · exact absurd early missed
    · rcases List.mem_cons.mp late with rfl | late
      · obtain rfl : more = [] := by simpa using goesOn
        cases gapped
        simp [longer]
      · have apart := List.rel_of_pairwise_cons ordered.2.1 late
        exact absurd ⟨more, goesOn.symm⟩ apart
  · simp [longer]

theorem read_sound (read : Lexeme.read start c cs = .ok l) : l.Lawful ∧ l.Longest := by
  unfold Lexeme.read at read
  split at read
  · cases read
    exact ⟨rfl, longest_of_other rfl (by decide)⟩
  · cases read
    exact ⟨rfl, longest_of_other rfl (by decide)⟩
  · split at read
    · rename_i raw rest content
      cases read
      refine ⟨?_, longest_of_other rfl not_isLetter_quote⟩
      simpa [Lexeme.Lawful] using (quotedContent_iff.mp content).1
    · cases read
  · split at read
    · split at read
      · cases read
        exact ofPhrase?_sound ‹_›
      · cases read
    · cases read

-- What a phrase says more than another one is no phrase of its own, but for one word that is.
theorem phrases_extend : ∀ p ∈ phrases, ∀ q ∈ phrases, p.words <+: q.words →
    ∀ r ∈ phrases, some r.first = (q.words.drop p.words.length).head? →
      r.words = q.words.drop p.words.length := by
  decide +kernel

theorem lexical_of_blank (blank : isBlank c = true) (h : Lexical cs) : Lexical (c :: cs) :=
  .gap (g := [c]) ⟨by simp, by simpa using blank⟩ h

theorem lawful_cons (h : l.Lawful) : ∃ c cs, l.text = c :: cs ∧ isBlank c = false := by
  rcases lawful_cases h with ⟨_, text⟩ | ⟨_, text⟩ | ⟨_, _, _, text⟩ | ⟨p, mem, _, spells, _⟩
  · exact ⟨_, _, text, by decide⟩
  · exact ⟨_, _, text, by decide⟩
  · exact ⟨_, _, text, by decide⟩
  · obtain ⟨c, cs, text, _, solid⟩ := spells_cons mem spells
    exact ⟨c, cs, text, solid⟩

theorem lexical_cons (h : Lexical cs) (whole : cs = c :: ds) :
    (isBlank c = true → Lexical ds) ∧
      (isBlank c = false → ∃ l : Lexeme, l.Lawful ∧ l.text ++ l.rest = cs ∧ Lexical l.rest) := by
  induction h generalizing c ds with
  | nil => cases whole
  | @gap g cs gap h _ =>
    obtain ⟨nonempty, blank⟩ := gap
    cases g with
    | nil => contradiction
    | cons d g =>
      cases whole
      refine ⟨fun _ => ?_, fun solid => ?_⟩
      · cases g with
        | nil => exact h
        | cons d' g => exact .gap ⟨by simp, fun e mem => blank e (List.mem_cons_of_mem _ mem)⟩ h
      · rw [blank c List.mem_cons_self] at solid
        cases solid
  | @lexeme l lawful h _ =>
    obtain ⟨d, text, head, solid⟩ := lawful_cons lawful
    refine ⟨fun blank => ?_, fun _ => ⟨l, lawful, rfl, h⟩⟩
    rw [head] at whole
    obtain rfl : d = c := (List.cons.inj whole).1
    simp [solid] at blank

theorem lexical_after_gap (blank : ∀ c ∈ g, isBlank c = true) (h : Lexical (g ++ cs)) :
    Lexical cs := by
  induction g with
  | nil => exact h
  | cons c g ih =>
    exact ih (fun d mem => blank d (List.mem_cons_of_mem _ mem))
      ((lexical_cons h rfl).1 (blank c List.mem_cons_self))

theorem phrase_of_letter (h : l.Lawful) (head : l.text ++ l.rest = c :: cs)
    (letter : isLetter c = true) : ∃ p ∈ phrases, p.Spells l.text ∧ Clear l.rest := by
  rcases lawful_cases h with ⟨_, text⟩ | ⟨_, text⟩ | ⟨_, _, _, text⟩ | ⟨p, mem, _, phrase⟩
  · rw [text] at head
    cases head
    exact absurd letter (by decide)
  · rw [text] at head
    cases head
    exact absurd letter (by decide)
  · rw [text] at head
    cases head
    exact absurd letter (by decide)
  · exact ⟨p, mem, phrase⟩

-- After a phrase, the words that make a longer one of it are no dead end.
theorem lexical_after_more (mem : p ∈ phrases) (mem' : q ∈ phrases)
    (goesOn : q.words = p.words ++ ws) (h : Gapped ws a) (clear : Clear r)
    (lexical : Lexical (a ++ r)) : Lexical r := by
  have words' := words_of_mem_phrases q mem'
  have drop : q.words.drop p.words.length = ws := by simp [goesOn]
  cases h with
  | nil => exact lexical
  | @cons g w ws tail gap h =>
    have word : IsWord w := words' w (by simp [goesOn])
    have others : ∀ v ∈ ws, IsWord v := fun v mem => words' v (by simp [goesOn, mem])
    obtain ⟨c, ds, whole, letter, solid⟩ := word.cons
    rw [List.append_assoc] at lexical
    have lexical := lexical_after_gap gap.2 lexical
    have next : w.toList ++ tail ++ r = c :: (ds ++ tail ++ r) := by simp [whole]
    obtain ⟨l, lawful, same, rest⟩ := (lexical_cons lexical next).2 solid
    obtain ⟨t, mem'', spells, clear'⟩ := phrase_of_letter lawful (same.trans next) letter
    obtain ⟨tail', gapped, text⟩ := spells
    rw [text, List.append_assoc, List.append_assoc] at same
    obtain ⟨first, tails⟩ := word_unique (words_of_mem_phrases t mem'' t.first List.mem_cons_self)
      word same (clear_of_gapped gapped clear') (clear_of_gapped h clear)
    have alone := phrases_extend p mem q mem' ⟨_, goesOn.symm⟩ t mem'' (by simp [drop, first])
    rw [drop, Phrase.words, first] at alone
    rw [(List.cons.inj alone).2] at gapped
    rwa [gapped_unique others gapped h tails clear' clear] at rest

theorem ofPhrase?_complete (mem : p ∈ phrases) (spells : p.Spells a) (clear : Clear r)
    (lexical : Lexical r) : ∃ l, Lexeme.ofPhrase? (a ++ r) = some l ∧ Lexical l.rest := by
  cases found : Lexeme.ofPhrase? (a ++ r) with
  | none =>
    have missed := List.findSome?_eq_none_iff.mp found p mem
    simp [(read_iff mem).mpr ⟨spells, clear, rfl⟩] at missed
  | some l =>
    refine ⟨l, rfl, ?_⟩
    have same := (Lexeme.append_of_ofPhrase? found).1
    obtain ⟨lawful, longest⟩ := ofPhrase?_sound found
    obtain ⟨c, cs, rfl, letter, _⟩ := spells_cons mem spells
    obtain ⟨q, mem', spells', clear'⟩ := phrase_of_letter lawful same letter
    rcases spells_compare mem mem' spells spells' same.symm clear clear' with
      ⟨more, u, goesOn, gapped, longer⟩ | ⟨more, u, goesOn, gapped, longer⟩
    · rw [longer, List.append_assoc] at same
      rw [← List.append_cancel_left same] at lexical
      exact lexical_after_more mem mem' goesOn gapped clear' lexical
    · have covers := longest p mem (c :: cs) r same.symm spells clear
      obtain rfl : u = [] := by
        rw [longer, List.length_append] at covers
        exact List.eq_nil_of_length_eq_zero (by omega)
      rw [longer, List.append_nil] at same
      rwa [← List.append_cancel_left same] at lexical

-- Where some lexeme stands and the rest is in the language, reading finds a lexeme of which the same
-- is true.
theorem read_complete (lawful : l.Lawful) (whole : l.text ++ l.rest = c :: cs)
    (lexical : Lexical l.rest) (start : Nat) :
    ∃ l', Lexeme.read start c cs = .ok l' ∧ Lexical l'.rest := by
  rcases lawful_cases lawful with
    ⟨_, text⟩ | ⟨_, text⟩ | ⟨raw, _, content, text⟩ | ⟨p, mem, _, spells, clear⟩
  · rw [text] at whole
    cases whole
    exact ⟨_, rfl, lexical⟩
  · rw [text] at whole
    cases whole
    exact ⟨_, rfl, lexical⟩
  · rw [text] at whole
    obtain ⟨rfl, rest⟩ := List.cons.inj whole
    have read : quotedContent cs = some (raw.toList, l.rest) :=
      quotedContent_iff.mpr ⟨content, by simpa using rest⟩
    refine ⟨⟨.quoted (String.ofList raw.toList), '"' :: raw.toList ++ ['"'], l.rest⟩, ?_, lexical⟩
    simp only [Lexeme.read, read]
  · obtain ⟨l', found, rest⟩ := ofPhrase?_complete mem spells clear lexical
    obtain ⟨d, ds, text, letter, _⟩ := spells_cons mem spells
    rw [text] at whole
    obtain ⟨rfl, rfl⟩ := List.cons.inj whole
    rw [text] at found
    exact ⟨l', read_letter letter found start, rest⟩

end TrackerQuery.Token
