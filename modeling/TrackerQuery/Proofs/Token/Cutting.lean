import TrackerQuery.Text.Quoted
import TrackerQuery.Token.Scan

namespace TrackerQuery.Token

open TrackerQuery.Text

variable {cs ds rest : List Char} {kinds kinds' : List Kind}

def Scan.prepend (ts : List Token) (s : Scan) : Scan :=
  ⟨ts ++ s.tokens, s.fault⟩

section

variable {start : Nat} {c : Char}

theorem scanFrom_blank (blank : isBlank c = true) :
    scanFrom start (c :: cs) = scanFrom (start + c.utf8Size) cs := by
  rw [scanFrom, if_pos blank]

theorem scanFrom_error {e : Error} (solid : isBlank c = false)
    (failed : Lexeme.read start c cs = .error e) : scanFrom start (c :: cs) = ⟨[], some e⟩ := by
  rw [scanFrom, if_neg (by simp [solid])]
  split
  · rename_i found
    rw [failed] at found
    cases found
    rfl
  · rename_i found
    rw [failed] at found
    cases found

theorem scanFrom_lexeme {l : Lexeme} (solid : isBlank c = false)
    (read : Lexeme.read start c cs = .ok l) : scanFrom start (c :: cs) =
      (scanFrom (start + bytes l.text) l.rest).prepend
        [⟨l.kind, ⟨start, start + bytes l.text⟩⟩] := by
  rw [scanFrom, if_neg (by simp [solid])]
  split
  · rename_i found
    rw [read] at found
    cases found
  · rename_i found
    rw [read] at found
    cases found
    rfl

end

-- Before `rest`, the text is cut into tokens of these kinds.
def Cuts (cs rest : List Char) (kinds : List Kind) : Prop :=
  ∀ start, ∃ ts, ts.map (·.kind) = kinds ∧
    scanFrom start (cs ++ rest) = (scanFrom (start + bytes cs) rest).prepend ts

theorem Cuts.append (h : Cuts cs (ds ++ rest) kinds) (h' : Cuts ds rest kinds') :
    Cuts (cs ++ ds) rest (kinds ++ kinds') := by
  intro start
  obtain ⟨ts, same, cut⟩ := h start
  obtain ⟨us, same', cut'⟩ := h' (start + bytes cs)
  refine ⟨ts ++ us, by rw [List.map_append, same, same'], ?_⟩
  rw [List.append_assoc, cut, cut', bytes_append, Nat.add_assoc]
  simp only [Scan.prepend, List.append_assoc]

theorem tokenize_of_cuts {text : String} (h : Cuts text.toList [] kinds) :
    ∃ ts, ts.map (·.kind) = kinds ∧ tokenize text = .ok ts := by
  obtain ⟨ts, same, cut⟩ := h 0
  have whole : scan text = ⟨ts, none⟩ := by
    rw [List.append_nil] at cut
    rw [scan, cut]
    simp [scanFrom, Scan.prepend]
  exact ⟨ts, same, by rw [tokenize, whole]⟩

theorem cuts_nil : Cuts [] rest [] :=
  fun _ => ⟨[], rfl, rfl⟩

theorem cuts_blank (blank : isBlank c = true) : Cuts [c] rest [] := by
  intro start
  refine ⟨[], rfl, ?_⟩
  rw [List.cons_append, List.nil_append, scanFrom_blank blank]
  rfl

theorem cuts_lexeme {kind : Kind} (solid : isBlank c = false)
    (read : ∀ start, Lexeme.read start c (cs ++ rest) = .ok ⟨kind, c :: cs, rest⟩) :
    Cuts (c :: cs) rest [kind] := by
  intro start
  refine ⟨[⟨kind, ⟨start, start + bytes (c :: cs)⟩⟩], rfl, ?_⟩
  rw [List.cons_append, scanFrom_lexeme solid (read start)]

theorem cuts_opening : Cuts ['('] rest [.opening] := by
  have read : ∀ start, Lexeme.read start '(' ([] ++ rest) = .ok ⟨.opening, ['('], rest⟩ :=
    fun _ => rfl
  exact cuts_lexeme (by decide) read

theorem cuts_closing : Cuts [')'] rest [.closing] := by
  have read : ∀ start, Lexeme.read start ')' ([] ++ rest) = .ok ⟨.closing, [')'], rest⟩ :=
    fun _ => rfl
  exact cuts_lexeme (by decide) read

theorem quotedContent_escapeChars (cs rest : List Char) :
    quotedContent (escapeChars cs ++ '"' :: rest) = some (escapeChars cs, rest) := by
  induction cs with
  | nil => rfl
  | cons c cs ih =>
    by_cases special : c = '"' ∨ c = '\\'
    · rcases special with rfl | rfl <;> simp [escapeChars, quotedContent, ih]
    · rw [not_or] at special
      simp [escapeChars, quotedContent, special, ih]

theorem toList_quote (value : String) :
    (quote value).toList = '"' :: (escapeChars value.toList ++ ['"']) := by
  simp [quote, escape]

theorem cuts_quote (value : String) : Cuts (quote value).toList rest [.quoted (escape value)] := by
  rw [toList_quote]
  apply cuts_lexeme (by decide)
  intro start
  simp [Lexeme.read, quotedContent_escapeChars, escape]

def Clear (cs : List Char) : Prop :=
  cs.head?.any isWordChar = false

theorem afterWord_append (clear : Clear rest) : afterWord w (w ++ rest) = some rest := by
  have starts : w <+: w ++ rest := List.prefix_append w rest
  rw [Clear] at clear
  simp [afterWord, clear, starts]

theorem clear_append {v : List Char} (word : v.all isWordChar = true) (h : Clear (v ++ rest)) :
    v = [] := by
  cases v with
  | nil => rfl
  | cons c v => simp_all [Clear]

theorem afterWord_other {v w : List Char} (word : v.all isWordChar = true)
    (word' : w.all isWordChar = true) (other : w ≠ v) (clear : Clear rest) :
    afterWord w (v ++ rest) = none := by
  rw [Option.eq_none_iff_forall_ne_some]
  intro after read
  have ends : Clear after := by
    simp only [afterWord] at read
    split at read
    · rename_i found
      cases read
      simp_all [Clear]
    · cases read
  rcases List.append_eq_append_iff.mp (append_of_afterWord read) with ⟨u, rfl, rfl⟩ | ⟨u, rfl, rfl⟩
  · rw [List.all_append, Bool.and_eq_true] at word
    obtain rfl := clear_append word.2 ends
    simp at other
  · rw [List.all_append, Bool.and_eq_true] at word'
    obtain rfl := clear_append word'.2 clear
    simp at other

theorem afterWord_clear {w cs : List Char} (word : w.all isWordChar = true) (nonempty : w ≠ [])
    (clear : Clear cs) : afterWord w cs = none :=
  afterWord_other (v := []) rfl word nonempty clear

def spaced (more : List String) : List Char :=
  more.flatMap fun w => ' ' :: w.toList

def IsWord (w : String) : Prop :=
  w.toList.head?.any isLetter = true ∧ w.toList.head?.any isBlank = false ∧
    w.toList.all isWordChar = true

instance : DecidablePred IsWord :=
  fun _ => inferInstanceAs (Decidable (_ ∧ _))

def Phrase.words (p : Phrase) : List String :=
  p.first :: p.more

def Phrase.chars (p : Phrase) : List Char :=
  p.first.toList ++ spaced p.more

theorem words_of_mem_phrases : ∀ p ∈ phrases, ∀ w ∈ p.words, IsWord w := by
  decide +kernel

-- No phrase stands behind one that starts with the same words and ends before it.
theorem phrases_ordered : phrases.Pairwise fun p q => ¬ p.words <+: q.words := by
  decide +kernel

theorem IsWord.cons (h : IsWord w) : ∃ c cs, w.toList = c :: cs ∧ isLetter c = true ∧
    isBlank c = false := by
  obtain ⟨letter, solid, _⟩ := h
  cases whole : w.toList with
  | nil => simp [whole] at letter
  | cons c cs =>
    rw [whole] at letter solid
    exact ⟨c, cs, rfl, letter, solid⟩

theorem clear_spaced (more : List String) (clear : Clear rest) : Clear (spaced more ++ rest) := by
  cases more with
  | nil => exact clear
  | cons w more => simp [spaced, Clear, not_isWordChar_space]

theorem readMore_blank (word : IsWord v) :
    readMore (w :: more) (' ' :: (v.toList ++ cs)) =
      (afterWord w.toList (v.toList ++ cs)).bind fun rest =>
        (readMore more rest).map fun r => (' ' :: (w.toList ++ r.1), r.2) := by
  obtain ⟨c, ds, whole, _, solid⟩ := word.cons
  have blank : isBlank ' ' = true := by decide
  simp only [readMore, whole, List.cons_append, List.takeWhile_cons, blank, solid, reduceIte,
    List.dropWhile_cons, Bool.false_eq_true, List.isEmpty_cons, Option.map_eq_bind]
  rfl

theorem readMore_spaced (words : ∀ w ∈ more, IsWord w) (clear : Clear rest) :
    readMore more (spaced more ++ rest) = some (spaced more, rest) := by
  induction more with
  | nil => rfl
  | cons w more ih =>
    have word := words w List.mem_cons_self
    have others := ih fun w mem => words w (List.mem_cons_of_mem _ mem)
    have taken := afterWord_append (w := w.toList) (clear_spaced more clear)
    rw [spaced, List.flatMap_cons, ← spaced, List.append_assoc, List.cons_append,
      readMore_blank word, taken, Option.bind_some, others]
    rfl

theorem readMore_other (words : ∀ w ∈ more, IsWord w) (words' : ∀ w ∈ others, IsWord w)
    (other : ¬ more <+: others) (clear : Clear rest)
    (stops : Clear (trimStart rest) ∨ ¬ others <+: more) :
    readMore more (spaced others ++ rest) = none := by
  induction others generalizing more with
  | nil =>
    cases more with
    | nil => simp at other
    | cons w more =>
      have stop : Clear (trimStart rest) := by simpa using stops
      obtain ⟨letter, _, whole⟩ := words w List.mem_cons_self
      have failed := afterWord_clear whole (by intro same; simp [same] at letter) stop
      rw [trimStart] at failed
      simp [spaced, readMore, failed]
  | cons v others ih =>
    cases more with
    | nil => simp at other
    | cons w more =>
      have word := words w List.mem_cons_self
      have word' := words' v List.mem_cons_self
      rw [spaced, List.flatMap_cons, ← spaced, List.append_assoc, List.cons_append,
        readMore_blank word']
      by_cases same : w = v
      · subst same
        rw [List.cons_prefix_cons] at other stops
        rw [afterWord_append (clear_spaced _ clear), Option.bind_some,
          ih (fun w mem => words w (List.mem_cons_of_mem _ mem))
            (fun w mem => words' w (List.mem_cons_of_mem _ mem))
            (fun h => other ⟨rfl, h⟩) (by simpa using stops)]
        rfl
      · rw [afterWord_other word'.2.2 word.2.2 (fun h => same (String.toList_inj.mp h))
          (clear_spaced _ clear)]
        rfl

-- What has to follow a written phrase: nothing that goes on with its last word, and no word at all
-- where a longer phrase starts like it.
def Parts (p : Phrase) (rest : List Char) : Prop :=
  Clear rest ∧ (Clear (trimStart rest) ∨ ∀ q ∈ phrases, p.words <+: q.words → q = p)

theorem read_chars (mem : p ∈ phrases) (clear : Clear rest) :
    p.read (p.chars ++ rest) = some (p.chars, rest) := by
  have words := words_of_mem_phrases p mem
  have more := readMore_spaced (fun w mem => words w (List.mem_cons_of_mem _ mem)) clear
  rw [Phrase.read, Phrase.chars, List.append_assoc, afterWord_append (clear_spaced _ clear)]
  simp [more]

theorem read_other (mem : p ∈ phrases) (mem' : q ∈ phrases) (other : ¬ p.words <+: q.words)
    (parts : Parts q rest) : p.read (q.chars ++ rest) = none := by
  have words := words_of_mem_phrases p mem
  have words' := words_of_mem_phrases q mem'
  rw [Phrase.read, Phrase.chars, List.append_assoc]
  by_cases same : p.first = q.first
  · have apart : ¬ p.more <+: q.more := fun h => other (List.cons_prefix_cons.mpr ⟨same, h⟩)
    have stops : Clear (trimStart rest) ∨ ¬ q.more <+: p.more := by
      refine parts.2.imp_right fun longest h => apart ?_
      obtain rfl := longest p mem (List.cons_prefix_cons.mpr ⟨same.symm, h⟩)
      exact List.prefix_rfl
    have failed := readMore_other (fun w mem => words w (List.mem_cons_of_mem _ mem))
      (fun w mem => words' w (List.mem_cons_of_mem _ mem)) apart parts.1 stops
    rw [same, afterWord_append (clear_spaced _ parts.1)]
    simp [failed]
  · have word := words p.first List.mem_cons_self
    have word' := words' q.first List.mem_cons_self
    rw [afterWord_other word'.2.2 word.2.2 (fun h => same (String.toList_inj.mp h))
      (clear_spaced _ parts.1)]
    rfl

theorem ofPhrase?_chars (mem : p ∈ phrases) (parts : Parts p rest) :
    Lexeme.ofPhrase? (p.chars ++ rest) = some ⟨p.kind, p.chars, rest⟩ := by
  obtain ⟨before, after, whole⟩ := List.append_of_mem mem
  refine List.findSome?_eq_some_iff.mpr ⟨before, p, after, whole, ?_, ?_⟩
  · rw [read_chars mem parts.1]
    rfl
  · intro q earlier
    have ordered := phrases_ordered
    rw [whole, List.pairwise_append] at ordered
    have other := ordered.2.2 q earlier p List.mem_cons_self
    have mem' : q ∈ phrases := whole ▸ List.mem_append_left _ earlier
    rw [read_other mem' mem other parts]
    rfl

theorem read_letter (letter : isLetter c = true) (found : Lexeme.ofPhrase? (c :: cs) = some l)
    (start : Nat) : Lexeme.read start c cs = .ok l := by
  unfold Lexeme.read
  split
  · exact absurd letter (by decide)
  · exact absurd letter (by decide)
  · exact absurd letter (by decide)
  · simp [letter, found]

theorem cuts_phrase (mem : p ∈ phrases) (parts : Parts p rest) :
    Cuts p.chars rest [p.kind] := by
  obtain ⟨c, cs, first, letter, solid⟩ := (words_of_mem_phrases p mem p.first List.mem_cons_self).cons
  have found := ofPhrase?_chars mem parts
  have chars : p.chars = c :: (cs ++ spaced p.more) := by rw [Phrase.chars, first, List.cons_append]
  rw [chars] at found ⊢
  exact cuts_lexeme solid (read_letter letter found)

def Kind.isExtended : Kind → Bool
  | .operator .is | .operator .submittedBy | .operator .ownedBy => true
  | _ => false

theorem longest_of_not_isExtended : ∀ p ∈ phrases, p.kind.isExtended = false →
    ∀ q ∈ phrases, p.words <+: q.words → q = p := by
  decide +kernel

def IsPhrase (kind : Kind) (text : String) : Prop :=
  ∃ p ∈ phrases, p.kind = kind ∧ p.chars = text.toList

instance {kind : Kind} {text : String} : Decidable (IsPhrase kind text) :=
  inferInstanceAs (Decidable (∃ p ∈ phrases, _ ∧ _))

structure Keyword (kind : Kind) (text : String) : Prop where
  phrase : IsPhrase kind text
  longest : kind.isExtended = false

instance {kind : Kind} {text : String} : Decidable (Keyword kind text) :=
  decidable_of_iff (IsPhrase kind text ∧ kind.isExtended = false)
    ⟨fun h => ⟨h.1, h.2⟩, fun h => ⟨h.phrase, h.longest⟩⟩

theorem cuts_kind {kind : Kind} {text : String} (phrase : IsPhrase kind text) (clear : Clear rest)
    (next : Clear (trimStart rest) ∨ kind.isExtended = false) : Cuts text.toList rest [kind] := by
  obtain ⟨p, mem, rfl, chars⟩ := phrase
  rw [← chars]
  exact cuts_phrase mem ⟨clear, next.imp_right (longest_of_not_isExtended p mem)⟩

theorem cuts_keyword {kind : Kind} {text : String} (keyword : Keyword kind text)
    (clear : Clear rest) : Cuts text.toList rest [kind] :=
  cuts_kind keyword.phrase clear (.inr keyword.longest)

theorem operator_phrase (op : Operator) : IsPhrase (.operator op) op.text := by
  cases op <;> decide +kernel

theorem revision_phrase (kind : RevisionKind) : IsPhrase (.revision kind) kind.text := by
  cases kind <;> decide +kernel

theorem operator_keyword (before : op.category ≠ .fieldValue ∧ op.category ≠ .value) :
    Keyword (.operator op) op.text := by
  refine ⟨operator_phrase op, ?_⟩
  cases op <;> simp_all [Operator.category, Kind.isExtended]

theorem keywords : ∀ k ∈ [(Kind.and, "and"), (.or, "or"), (.not, "not"), (.orderBy, "order by"),
    (.asc, "asc"), (.desc, "desc")], Keyword k.1 k.2 := by
  decide +kernel

theorem and_keyword : Keyword .and "and" :=
  keywords (.and, "and") (by simp)

theorem or_keyword : Keyword .or "or" :=
  keywords (.or, "or") (by simp)

theorem not_keyword : Keyword .not "not" :=
  keywords (.not, "not") (by simp)

theorem orderBy_keyword : Keyword .orderBy "order by" :=
  keywords (.orderBy, "order by") (by simp)

theorem direction_keyword : Keyword .asc "asc" ∧ Keyword .desc "desc" :=
  ⟨keywords (.asc, "asc") (by simp), keywords (.desc, "desc") (by simp)⟩

end TrackerQuery.Token
