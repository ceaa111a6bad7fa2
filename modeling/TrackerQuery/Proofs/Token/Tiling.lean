import TrackerQuery.Proofs.Token.Language

namespace TrackerQuery.Token

open TrackerQuery.Text

inductive Scans : Nat → List Char → List Token → Prop where
  | nil {start} : Scans start [] []
  | blank {start c cs ts} (blank : isBlank c = true) (h : Scans (start + c.utf8Size) cs ts) :
      Scans start (c :: cs) ts
  | lexeme {start c cs l ts} (solid : isBlank c = false) (read : Lexeme.read start c cs = .ok l)
      (h : Scans (start + bytes l.text) l.rest ts) :
      Scans start (c :: cs) (⟨l.kind, ⟨start, start + bytes l.text⟩⟩ :: ts)

structure Tiling (start : Nat) (cs : List Char) (ts : List Token) : Prop where
  lexeme : ∀ t ∈ ts, ∃ (before : List Char) (l : Lexeme),
    cs = before ++ (l.text ++ l.rest) ∧ l.Lawful ∧ l.Longest ∧
      t = ⟨l.kind, ⟨start + bytes before, start + bytes before + bytes l.text⟩⟩
  nonempty : ∀ t ∈ ts, t.span.start < t.span.stop
  ordered : ts.Pairwise fun t u => t.span.stop ≤ u.span.start
  blank : ∀ before c after, cs = before ++ c :: after →
    (∀ t ∈ ts, start + bytes before < t.span.start ∨ t.span.stop ≤ start + bytes before) →
      isBlank c = true

-- The same text with other blanks, as many or not, in each gap outside of literals.
inductive Respaced : List Char → List Char → Prop where
  | nil : Respaced [] []
  | gap {g g' cs ds} (gap : Gap g) (gap' : Gap g') (h : Respaced cs ds) :
      Respaced (g ++ cs) (g' ++ ds)
  | literal {raw cs ds} (content : LiteralContent raw) (h : Respaced cs ds) :
      Respaced ('"' :: (raw ++ '"' :: cs)) ('"' :: (raw ++ '"' :: ds))
  | other {c cs ds} (solid : isBlank c = false) (noQuote : c ≠ '"') (h : Respaced cs ds) :
      Respaced (c :: cs) (c :: ds)

variable {a b cs ds g r s : List Char} {ts : List Token} {ws : List String} {p : Phrase} {l : Lexeme}
  {c : Char} {start start' : Nat}

theorem scanFrom_iff : scanFrom start cs = ⟨ts, none⟩ ↔ Scans start cs ts := by
  constructor
  · intro whole
    induction start, cs using scanFrom.induct generalizing ts with
    | case1 start =>
      rw [scanFrom] at whole
      cases whole
      exact .nil
    | case2 start c cs blank ih =>
      rw [scanFrom_blank blank] at whole
      exact .blank blank (ih whole)
    | case3 start c cs solid e failed =>
      rw [scanFrom_error (by simpa using solid) failed] at whole
      cases whole
    | case4 start c cs solid l read stop =>
      rename_i ih
      have solid : isBlank c = false := by simpa using solid
      rw [scanFrom_lexeme solid read] at whole
      obtain ⟨tokens, fault⟩ := Scan.mk.inj whole
      subst tokens
      refine .lexeme solid read (ih ?_)
      exact congrArg (Scan.mk _) fault
  · intro h
    induction h with
    | nil => rw [scanFrom]
    | blank blank _ ih => rw [scanFrom_blank blank, ih]
    | lexeme solid read _ ih =>
      rw [scanFrom_lexeme solid read, ih]
      rfl

theorem tokenize_iff {text : String} : tokenize text = .ok ts ↔ Scans 0 text.toList ts := by
  rw [← scanFrom_iff, tokenize, scan]
  cases whole : scanFrom 0 text.toList with
  | mk tokens fault => cases fault <;> simp

theorem bytes_pos (h : a ≠ []) : 0 < bytes a := by
  cases a with
  | nil => contradiction
  | cons c cs =>
    have := c.utf8Size_pos
    rw [bytes_cons]
    omega

theorem Tiling.behind (h : Tiling (start + bytes a) cs ts) :
    (∀ t ∈ ts, start + bytes a ≤ t.span.start) ∧
      ∀ t ∈ ts, ∃ (before : List Char) (l : Lexeme), a ++ cs = before ++ (l.text ++ l.rest) ∧
        l.Lawful ∧ l.Longest ∧
        t = ⟨l.kind, ⟨start + bytes before, start + bytes before + bytes l.text⟩⟩ := by
  constructor
  · intro t mem
    obtain ⟨before, l, _, _, _, rfl⟩ := h.lexeme t mem
    exact Nat.le_add_right ..
  · intro t mem
    obtain ⟨before, l, rfl, lawful, longest, rfl⟩ := h.lexeme t mem
    refine ⟨a ++ before, l, (List.append_assoc ..).symm, lawful, longest, ?_⟩
    rw [bytes_append, Nat.add_assoc]

theorem Scans.tiling (h : Scans start cs ts) : Tiling start cs ts := by
  induction h with
  | nil => exact ⟨by simp, by simp, .nil, by simp⟩
  | @blank start c cs ts blank _ ih =>
    have shift : start + c.utf8Size = start + bytes [c] := by simp
    rw [shift] at ih
    refine ⟨ih.behind.2, ih.nonempty, ih.ordered, ?_⟩
    intro before d after whole outside
    cases before with
    | nil =>
      cases whole
      exact blank
    | cons e before =>
      obtain ⟨rfl, rest⟩ := List.cons.inj whole
      refine ih.blank before d after rest fun t mem => ?_
      have := outside t mem
      simp only [bytes_cons, bytes_nil] at this ⊢
      omega
  | @lexeme start c cs l ts solid read _ ih =>
    obtain ⟨whole, nonempty⟩ := Lexeme.append_of_read read
    obtain ⟨lawful, longest⟩ := read_sound read
    rw [← whole]
    obtain ⟨later, placed⟩ := ih.behind
    refine ⟨?_, ?_, .cons later ih.ordered, ?_⟩
    · intro t mem
      rcases List.mem_cons.mp mem with rfl | mem
      · exact ⟨[], l, rfl, lawful, longest, rfl⟩
      · exact placed t mem
    · intro t mem
      rcases List.mem_cons.mp mem with rfl | mem
      · exact Nat.lt_add_of_pos_right (bytes_pos nonempty)
      · exact ih.nonempty t mem
    · intro before d after parts outside
      rcases List.append_eq_append_iff.mp parts with ⟨u, rfl, rest⟩ | ⟨u, text, rest⟩
      · refine ih.blank u d after rest fun t mem => ?_
        have := outside t (List.mem_cons_of_mem _ mem)
        rw [bytes_append] at this
        omega
      · -- The character would stand in the lexeme, unless that ends right before it.
        cases u with
        | nil =>
          rw [List.append_nil] at text
          refine ih.blank [] d after rest.symm fun t mem => ?_
          have := outside t (List.mem_cons_of_mem _ mem)
          rw [text, bytes_nil]
          omega
        | cons e u =>
          have inside := outside _ List.mem_cons_self
          have := e.utf8Size_pos
          simp only [text, bytes_append, bytes_cons] at inside
          omega

theorem Scans.lexical (h : Scans start cs ts) : Lexical cs := by
  induction h with
  | nil => exact .nil
  | blank blank _ ih => exact lexical_of_blank blank ih
  | lexeme _ read _ ih =>
    rw [← (Lexeme.append_of_read read).1]
    exact .lexeme (read_sound read).1 ih

theorem Lexical.scans (h : Lexical cs) (start : Nat) : ∃ ts, Scans start cs ts := by
  induction start, cs using scanFrom.induct with
  | case1 start => exact ⟨[], .nil⟩
  | case2 start c cs blank ih =>
    obtain ⟨ts, more⟩ := ih ((lexical_cons h rfl).1 blank)
    exact ⟨ts, .blank blank more⟩
  | case3 start c cs solid e failed =>
    obtain ⟨l, lawful, whole, rest⟩ := (lexical_cons h rfl).2 (by simpa using solid)
    obtain ⟨l', read, _⟩ := read_complete lawful whole rest start
    rw [failed] at read
    cases read
  | case4 start c cs solid l read stop =>
    rename_i ih
    have solid : isBlank c = false := by simpa using solid
    obtain ⟨l', lawful, whole, rest⟩ := (lexical_cons h rfl).2 solid
    obtain ⟨l'', read', rest'⟩ := read_complete lawful whole rest start
    rw [read] at read'
    cases read'
    obtain ⟨ts, more⟩ := ih rest'
    exact ⟨_, .lexeme solid read more⟩

theorem Respaced.symm (h : Respaced cs ds) : Respaced ds cs := by
  induction h with
  | nil => exact .nil
  | gap gap gap' _ ih => exact .gap gap' gap ih
  | literal content _ ih => exact .literal content ih
  | other solid noQuote _ ih => exact .other solid noQuote ih

theorem Respaced.clear (h : Respaced cs ds) (clear : Clear cs) : Clear ds := by
  cases h with
  | nil => exact clear
  | gap _ gap' _ => exact clear_of_gap gap'
  | literal => exact not_isWordChar_quote
  | other => exact clear

theorem Respaced.trimStart (h : Respaced cs ds) : Respaced (trimStart cs) (trimStart ds) := by
  induction h with
  | nil => exact .nil
  | gap gap gap' _ ih =>
    rw [Text.trimStart, Text.trimStart, List.dropWhile_append_of_pos gap.2,
      List.dropWhile_append_of_pos gap'.2]
    exact ih
  | literal content h =>
    exact .literal content h
  | other solid noQuote h =>
    rw [Text.trimStart, Text.trimStart, List.dropWhile_cons_of_neg (by simp [solid]),
      List.dropWhile_cons_of_neg (by simp [solid])]
    exact .other solid noQuote h

theorem respaced_other (h : Respaced (c :: cs) ds) (solid : isBlank c = false) (noQuote : c ≠ '"') :
    ∃ ds', ds = c :: ds' ∧ Respaced cs ds' := by
  generalize whole : c :: cs = text at h
  cases h with
  | nil => cases whole
  | @gap g _ _ _ gap =>
    obtain ⟨nonempty, blank⟩ := gap
    cases g with
    | nil => contradiction
    | cons d g =>
      obtain rfl : c = d := (List.cons.inj whole).1
      rw [blank c List.mem_cons_self] at solid
      cases solid
  | literal =>
    cases whole
    contradiction
  | other _ _ h =>
    cases whole
    exact ⟨_, rfl, h⟩

theorem respaced_literal (content : LiteralContent r)
    (h : Respaced ('"' :: (r ++ '"' :: cs)) ds) :
    ∃ ds', ds = '"' :: (r ++ '"' :: ds') ∧ Respaced cs ds' := by
  generalize whole : '"' :: (r ++ '"' :: cs) = text at h
  cases h with
  | nil => cases whole
  | @gap g _ _ _ gap =>
    obtain ⟨nonempty, blank⟩ := gap
    cases g with
    | nil => contradiction
    | cons d g =>
      obtain rfl : '"' = d := (List.cons.inj whole).1
      exact absurd (blank '"' List.mem_cons_self) (by decide)
  | literal content' h =>
    have read := quotedContent_iff.mpr ⟨content, (List.cons.inj whole).2⟩
    rw [quotedContent_iff.mpr ⟨content', rfl⟩] at read
    cases read
    exact ⟨_, rfl, h⟩
  | other _ noQuote _ =>
    cases whole
    contradiction

theorem respaced_chars (plain : ∀ c ∈ a, isBlank c = false ∧ c ≠ '"') (h : Respaced (a ++ cs) ds) :
    ∃ ds', ds = a ++ ds' ∧ Respaced cs ds' := by
  induction a generalizing ds with
  | nil => exact ⟨ds, rfl, h⟩
  | cons c a ih =>
    obtain ⟨solid, noQuote⟩ := plain c List.mem_cons_self
    obtain ⟨ds, rfl, tail⟩ := respaced_other h solid noQuote
    obtain ⟨ds, rfl, rest⟩ := ih (fun d mem => plain d (List.mem_cons_of_mem _ mem)) tail
    exact ⟨ds, rfl, rest⟩

theorem respaced_word {w : String} (word : IsWord w) (h : Respaced (w.toList ++ cs) ds) :
    ∃ ds', ds = w.toList ++ ds' ∧ Respaced cs ds' := by
  refine respaced_chars (fun c mem => ?_) h
  have inWord := List.all_eq_true.mp word.2.2 c mem
  constructor
  · rw [← Bool.not_eq_true]
    intro blank
    simp [not_isWordChar_of_isBlank blank] at inWord
  · rintro rfl
    simp [not_isWordChar_quote] at inWord

theorem respaced_gap (gap : Gap g) (solid : cs.head?.any isBlank = false)
    (h : Respaced (g ++ cs) ds) : ∃ g' ds', Gap g' ∧ ds = g' ++ ds' ∧ Respaced cs ds' := by
  have after := h.trimStart
  rw [trimStart, (takeWhile_gap gap.2 solid).2] at after
  have nonempty : ds.takeWhile isBlank ≠ [] := by
    obtain ⟨nonempty, blank⟩ := gap
    cases g with
    | nil => contradiction
    | cons c g =>
      have blank := blank c List.mem_cons_self
      generalize whole : c :: g ++ cs = text at h
      cases h with
      | nil => cases whole
      | @gap _ g' _ _ _ gap' =>
        obtain ⟨nonempty', blank'⟩ := gap'
        cases g' with
        | nil => contradiction
        | cons d g' => simp [blank' d List.mem_cons_self]
      | literal =>
        obtain rfl := (List.cons.inj whole).1
        exact absurd blank (by decide)
      | other solid =>
        obtain rfl := (List.cons.inj whole).1
        simp [solid] at blank
  exact ⟨_, _, ⟨nonempty, List.all_eq_true.mp List.all_takeWhile⟩,
    (List.takeWhile_append_dropWhile ..).symm, after⟩

theorem respaced_gapped (words : ∀ w ∈ ws, IsWord w) (gapped : Gapped ws a)
    (h : Respaced (a ++ r) ds) : ∃ b s, Gapped ws b ∧ ds = b ++ s ∧ Respaced r s := by
  induction gapped generalizing ds with
  | nil => exact ⟨[], ds, .nil, rfl, h⟩
  | @cons g w ws tail gap _ ih =>
    have word := words w List.mem_cons_self
    rw [List.append_assoc, List.append_assoc] at h
    obtain ⟨g', ds, gap', rfl, afterGap⟩ := respaced_gap gap (word.solid _) h
    obtain ⟨ds, rfl, afterWord⟩ := respaced_word word afterGap
    obtain ⟨b, s, gapped, rfl, rest⟩ :=
      ih (fun v mem => words v (List.mem_cons_of_mem _ mem)) afterWord
    exact ⟨_, s, .cons gap' gapped, by simp only [List.append_assoc], rest⟩

theorem respaced_read (mem : p ∈ phrases) (read : p.read cs = some (a, r))
    (h : Respaced cs ds) : ∃ b s, p.read ds = some (b, s) ∧ Respaced r s := by
  obtain ⟨⟨tail, gapped, rfl⟩, clear, rfl⟩ := (read_iff mem).mp read
  have words := words_of_mem_phrases p mem
  rw [List.append_assoc] at h
  obtain ⟨ds, rfl, afterWord⟩ := respaced_word (words p.first List.mem_cons_self) h
  obtain ⟨b, s, gapped', rfl, rest⟩ :=
    respaced_gapped (fun w mem => words w (List.mem_cons_of_mem _ mem)) gapped afterWord
  have again := (read_iff mem).mpr ⟨⟨b, gapped', rfl⟩, rest.clear clear, List.append_assoc ..⟩
  exact ⟨p.first.toList ++ b, s, again, rest⟩

theorem ofPhrase?_respaced (h : Respaced cs ds) (found : Lexeme.ofPhrase? cs = some l) :
    ∃ l', Lexeme.ofPhrase? ds = some l' ∧ l'.kind = l.kind ∧ Respaced l.rest l'.rest := by
  obtain ⟨before, p, after, table, taken, earlier⟩ := List.findSome?_eq_some_iff.mp found
  obtain ⟨⟨a, r⟩, read, rfl⟩ := Option.map_eq_some_iff.mp taken
  have mem : p ∈ phrases := table ▸ List.mem_append_right _ List.mem_cons_self
  obtain ⟨b, s, read', rest⟩ := respaced_read mem read h
  refine ⟨⟨p.kind, b, s⟩, List.findSome?_eq_some_iff.mpr ⟨before, p, after, table, ?_, ?_⟩, rfl, rest⟩
  · simp [read']
  · intro q early
    have mem' : q ∈ phrases := table ▸ List.mem_append_left _ early
    cases other : q.read ds with
    | none => rfl
    | some parts =>
      obtain ⟨_, _, read'', _⟩ := respaced_read mem' other h.symm
      have missed := earlier q early
      simp [read''] at missed

theorem lexeme_respaced (h : Respaced (c :: cs) ds) (solid : isBlank c = false)
    (read : Lexeme.read start c cs = .ok l) (start' : Nat) :
    ∃ ds' l', ds = c :: ds' ∧ Lexeme.read start' c ds' = .ok l' ∧ l'.kind = l.kind ∧
      Respaced l.rest l'.rest := by
  unfold Lexeme.read at read
  split at read
  · cases read
    obtain ⟨ds', rfl, rest⟩ := respaced_other h solid (by decide)
    exact ⟨ds', _, rfl, rfl, rfl, rest⟩
  · cases read
    obtain ⟨ds', rfl, rest⟩ := respaced_other h solid (by decide)
    exact ⟨ds', _, rfl, rfl, rfl, rest⟩
  · split at read
    · rename_i raw after found
      cases read
      obtain ⟨content, rfl⟩ := quotedContent_iff.mp found
      obtain ⟨ds', rfl, rest⟩ := respaced_literal content h
      have found' : quotedContent (raw ++ '"' :: ds') = some (raw, ds') :=
        quotedContent_iff.mpr ⟨content, rfl⟩
      refine ⟨_, ⟨.quoted (String.ofList raw), '"' :: raw ++ ['"'], ds'⟩, rfl, ?_, rfl, rest⟩
      simp only [Lexeme.read, found']
    · cases read
  · split at read
    · rename_i noQuote letter
      split at read
      · rename_i found
        cases read
        obtain ⟨l', found', kind, rest⟩ := ofPhrase?_respaced h found
        obtain ⟨ds', rfl, _⟩ := respaced_other h solid noQuote
        exact ⟨ds', l', rfl, read_letter letter found' start', kind, rest⟩
      · cases read
    · cases read

theorem respaced_nil (h : Respaced [] ds) : ds = [] := by
  generalize nothing : [] = cs at h
  cases h with
  | nil => rfl
  | @gap g _ cs _ gap =>
    obtain ⟨rfl, _⟩ := List.append_eq_nil_iff.mp nothing.symm
    exact absurd rfl gap.1
  | literal => cases nothing
  | other => cases nothing

theorem Scans.of_trimStart (h : Scans (start + bytes (cs.takeWhile isBlank)) (trimStart cs) ts) :
    Scans start cs ts := by
  induction cs generalizing start with
  | nil => exact h
  | cons c cs ih =>
    cases blank : isBlank c with
    | true =>
      rw [trimStart, List.dropWhile_cons_of_pos blank, List.takeWhile_cons_of_pos blank, bytes_cons,
        ← Nat.add_assoc] at h
      exact .blank blank (ih h)
    | false =>
      have solid : ¬ isBlank c = true := by simp [blank]
      rwa [trimStart, List.dropWhile_cons_of_neg solid, List.takeWhile_cons_of_neg solid] at h

-- The blanks that a text starts with are left out on both sides, so that the induction can go on
-- from within a gap.
theorem Scans.respaced (h : Scans start cs ts) (same : Respaced (trimStart cs) (trimStart ds))
    (start' : Nat) : ∃ us, Scans start' ds us ∧ us.map (·.kind) = ts.map (·.kind) := by
  induction h generalizing ds start' with
  | nil =>
    refine ⟨[], Scans.of_trimStart ?_, rfl⟩
    rw [respaced_nil same]
    exact .nil
  | blank blank _ ih =>
    rw [trimStart, List.dropWhile_cons_of_pos blank] at same
    exact ih same start'
  | @lexeme start c cs l ts solid read _ ih =>
    rw [trimStart, List.dropWhile_cons_of_neg (by simp [solid])] at same
    obtain ⟨ds', l', rest, read', kind, more⟩ :=
      lexeme_respaced same solid read (start' + bytes (ds.takeWhile isBlank))
    obtain ⟨us, scanned, kinds⟩ :=
      ih more.trimStart (start' + bytes (ds.takeWhile isBlank) + bytes l'.text)
    have whole := Scans.lexeme solid read' scanned
    rw [← rest] at whole
    exact ⟨_, whole.of_trimStart, by simp [kind, kinds]⟩

theorem Respaced.plain_append (plain : a.all (fun c => !isBlank c && c != '"') = true)
    (h : Respaced cs ds) : Respaced (a ++ cs) (a ++ ds) := by
  induction a with
  | nil => exact h
  | cons c a ih =>
    obtain ⟨⟨solid, noQuote⟩, plain⟩ : (isBlank c = false ∧ c ≠ '"') ∧ _ := by
      simpa only [List.all_cons, Bool.and_eq_true, Bool.not_eq_true', bne_iff_ne] using plain
    exact .other solid noQuote (ih plain)

-- The texts that can be cut are those of the language. Their tokens tile them, and are of the same
-- kinds and contents in each text that differs in its gaps alone.
theorem tokenize_language (text : String) :
    ((∃ ts, tokenize text = .ok ts) ↔ Lexical text.toList) ∧
      ∀ ts, tokenize text = .ok ts → Tiling 0 text.toList ts ∧
        ∀ text' : String, Respaced text.toList text'.toList →
          ∃ us, tokenize text' = .ok us ∧ us.map (·.kind) = ts.map (·.kind) := by
  refine ⟨⟨?_, ?_⟩, ?_⟩
  · intro cut
    obtain ⟨ts, cut⟩ := cut
    exact (tokenize_iff.mp cut).lexical
  · intro lexical
    obtain ⟨ts, scanned⟩ := lexical.scans 0
    exact ⟨ts, tokenize_iff.mpr scanned⟩
  · intro ts cut
    have scanned := tokenize_iff.mp cut
    refine ⟨scanned.tiling, fun text' same => ?_⟩
    obtain ⟨us, scanned', kinds⟩ := scanned.respaced same.trimStart 0
    exact ⟨us, tokenize_iff.mpr scanned', kinds⟩

theorem tokenize_language_isNot :
    let text := "is  not\"a  \\\"\""
    let text' := "is\nnot\"a  \\\"\""
    let ts : List Token := [⟨.operator .isNot, ⟨0, 7⟩⟩, ⟨.quoted "a  \\\"", ⟨7, 14⟩⟩]
    tokenize text = .ok ts ∧ Tiling 0 text.toList ts ∧ Respaced text.toList text'.toList ∧
      ∃ us, tokenize text' = .ok us ∧ us.map (·.kind) = ts.map (·.kind) := by
  intro text text' ts
  have scanned : (scan text).tokens = ts ∧ (scan text).fault = none := by decide +kernel
  have cut : tokenize text = .ok ts := by
    rw [tokenize]
    cases whole : scan text with
    | mk tokens fault =>
      rw [whole] at scanned
      obtain ⟨rfl, rfl⟩ := scanned
      rfl
  have content : LiteralContent ['a', ' ', ' ', '\\', '"'] :=
    .plain (by decide) (by decide) (.plain (by decide) (by decide)
      (.plain (by decide) (by decide) (.taken '"' .nil)))
  have respaced : Respaced text.toList text'.toList := by
    have literal : Respaced "\"a  \\\"\"".toList "\"a  \\\"\"".toList := .literal content .nil
    have gap : Gap [' ', ' '] := ⟨by simp, List.all_eq_true.mp (by decide)⟩
    have gap' : Gap ['\n'] := ⟨by simp, List.all_eq_true.mp (by decide)⟩
    have not : Respaced "not\"a  \\\"\"".toList "not\"a  \\\"\"".toList :=
      .plain_append (a := "not".toList) (by decide +kernel) literal
    have chars : text.toList = "is".toList ++ ([' ', ' '] ++ "not\"a  \\\"\"".toList) := by
      decide +kernel
    have chars' : text'.toList = "is".toList ++ (['\n'] ++ "not\"a  \\\"\"".toList) := by
      decide +kernel
    rw [chars, chars']
    exact .plain_append (by decide +kernel) (.gap gap gap' not)
  obtain ⟨tiling, kept⟩ := (tokenize_language text).2 ts cut
  exact ⟨cut, tiling, respaced, kept text' respaced⟩

end TrackerQuery.Token
