import TrackerQuery.Proofs.Token.Language

namespace TrackerQuery

def Span.shift (n : Nat) (s : Span) : Span :=
  ⟨n + s.start, n + s.stop⟩

def Token.shift (n : Nat) (t : Token) : Token :=
  ⟨t.kind, t.span.shift n⟩

def SyntaxFault.shift (n : Nat) : SyntaxFault → SyntaxFault
  | unexpectedCharacter c position => unexpectedCharacter c (n + position)
  | unrecognizedWord word position => unrecognizedWord word (n + position)
  | unterminatedQuote position => unterminatedQuote (n + position)
  | fault => fault

def Error.shift (n : Nat) : Error → Error
  | malformed fault span => malformed (fault.shift n) (span.map (·.shift n))
  | rejected objection => rejected objection

namespace Token

open TrackerQuery.Text

def Scan.shift (n : Nat) (s : Scan) : Scan :=
  ⟨s.tokens.map (·.shift n), s.fault.map (·.shift n)⟩

variable {cs : List Char} {start : Nat} {text raw : String}

theorem malformed_shift (n start width : Nat) (fault : SyntaxFault) :
    Except.error (.malformed (fault.shift n) (some ⟨n + start, n + start + width⟩)) =
      (Except.error (.malformed fault (some ⟨start, start + width⟩)) : Except Error Lexeme).mapError
        (·.shift n) := by
  rw [Nat.add_assoc]
  rfl

-- Where a lexeme starts only matters for what is said of a fault.
theorem read_shift (n start : Nat) (c : Char) (cs : List Char) :
    Lexeme.read (n + start) c cs = (Lexeme.read start c cs).mapError (·.shift n) := by
  unfold Lexeme.read
  split
  · rfl
  · rfl
  · split
    · rfl
    · exact malformed_shift n start _ (.unterminatedQuote start)
  · split
    · split
      · rfl
      · exact malformed_shift n start _ (.unrecognizedWord _ start)
    · exact malformed_shift n start _ (.unexpectedCharacter c start)

-- Induction on the run of the scanner: each step is the same at the later place.
theorem scanFrom_shift (n start : Nat) (cs : List Char) :
    scanFrom (n + start) cs = (scanFrom start cs).shift n := by
  induction start, cs using scanFrom.induct with
  | case1 start => simp [scanFrom, Scan.shift]
  | case2 start c cs blank ih =>
    rw [scanFrom_blank blank, scanFrom_blank blank, Nat.add_assoc, ih]
  | case3 start c cs solid e failed =>
    have solid : isBlank c = false := by simpa using solid
    have failed' : Lexeme.read (n + start) c cs = .error (e.shift n) := by
      rw [read_shift, failed]
      rfl
    rw [scanFrom_error solid failed, scanFrom_error solid failed']
    rfl
  | case4 start c cs solid l read stop =>
    rename_i ih
    have solid : isBlank c = false := by simpa using solid
    have read' : Lexeme.read (n + start) c cs = .ok l := by
      rw [read_shift, read]
      rfl
    rw [scanFrom_lexeme solid read, scanFrom_lexeme solid read', Nat.add_assoc, ih]
    rfl

theorem scan_literal (content : LiteralContent raw.toList) (rest : String) :
    let literal := "\"" ++ raw ++ "\""
    let width := bytes literal.toList
    scan (literal ++ rest) = ((scan rest).shift width).prepend [⟨.quoted raw, ⟨0, width⟩⟩] := by
  intro literal width
  have read : Lexeme.read 0 '"' (raw.toList ++ '"' :: rest.toList) =
      .ok ⟨.quoted raw, literal.toList, rest.toList⟩ := by
    simp [Lexeme.read, quotedContent_iff.mpr ⟨content, rfl⟩, literal]
  have whole : (literal ++ rest).toList = '"' :: (raw.toList ++ '"' :: rest.toList) := by
    simp [literal]
  rw [scan, scan, whole, scanFrom_lexeme (by decide) read, ← scanFrom_shift, Nat.zero_add]
  rfl

theorem tokenize_of_scan {rest : String} {first : Token} {n : Nat}
    (cut : scan text = ((scan rest).shift n).prepend [first]) : tokenize text =
      ((tokenize rest).mapError (·.shift n)).map fun ts => first :: ts.map (·.shift n) := by
  rw [tokenize, tokenize, cut]
  rcases scan rest with ⟨tokens, _ | e⟩ <;> rfl

theorem tokenize_literal (content : LiteralContent raw.toList) :
    let literal := "\"" ++ raw ++ "\""
    tokenize literal = .ok [⟨.quoted raw, ⟨0, bytes literal.toList⟩⟩] := by
  intro literal
  have alone := tokenize_of_scan (scan_literal content "")
  have nothing : tokenize "" = .ok [] := by
    simp [tokenize, scan, scanFrom]
  rwa [String.append_empty, nothing] at alone

theorem content_escape (value : String) : LiteralContent (escape value).toList := by
  rw [escape, String.toList_ofList]
  exact (quotedContent_iff.mp (quotedContent_escapeChars value.toList [])).1

theorem content_of_mem {s : Span} (mem : ⟨.quoted raw, s⟩ ∈ (scanFrom start cs).tokens) :
    LiteralContent raw.toList := by
  induction start, cs using scanFrom.induct with
  | case1 start =>
    rw [scanFrom] at mem
    cases mem
  | case2 start c cs blank ih =>
    rw [scanFrom_blank blank] at mem
    exact ih mem
  | case3 start c cs solid e failed =>
    rw [scanFrom_error (by simpa using solid) failed] at mem
    cases mem
  | case4 start c cs solid l read stop =>
    rename_i ih
    rw [scanFrom_lexeme (by simpa using solid) read] at mem
    rcases List.mem_cons.mp mem with first | later
    · have kind : Kind.quoted raw = l.kind := congrArg Token.kind first
      have lawful := (read_sound read).1
      rw [Lexeme.Lawful, ← kind] at lawful
      exact lawful.1
    · exact ih later

-- Neither a value nor what stands behind it changes how the other is cut. A literal of a text is one alone,
-- and may be written again from what it says.
theorem quotes_hold :
    (∀ value rest : String,
      let width := bytes (quote value).toList
      let first : Token := ⟨.quoted (escape value), ⟨0, width⟩⟩
      unescape (escape value) = value ∧
        scan (quote value ++ rest) = ((scan rest).shift width).prepend [first] ∧
        tokenize (quote value ++ rest) = ((tokenize rest).mapError (·.shift width)).map fun ts =>
          first :: ts.map (·.shift width)) ∧
      ∀ text, ∀ t ∈ (scan text).tokens, ∀ raw, t.kind = .quoted raw →
        let literal := "\"" ++ raw ++ "\""
        let again := quote (unescape raw)
        tokenize literal = .ok [⟨.quoted raw, ⟨0, bytes literal.toList⟩⟩] ∧
          tokenize again = .ok [⟨.quoted (escape (unescape raw)), ⟨0, bytes again.toList⟩⟩] ∧
          unescape (escape (unescape raw)) = unescape raw := by
  constructor
  · intro value rest width first
    have cut := scan_literal (content_escape value) rest
    exact ⟨unescape_escape value, cut, tokenize_of_scan cut⟩
  · rintro text ⟨kind, s⟩ mem raw rfl literal again
    exact ⟨tokenize_literal (content_of_mem mem), tokenize_literal (content_escape _), unescape_escape _⟩

theorem quotes_hold_breakout :
    let value := "\" or \\"
    let text := "is \"a\\nb\\\"\"#"
    let raw := "a\\nb\\\""
    (scan (quote value ++ "\"é\" #")).fault =
        some (.malformed (.unexpectedCharacter '#' 15) (some ⟨15, 16⟩)) ∧
      ⟨.quoted raw, ⟨3, 11⟩⟩ ∈ (scan text).tokens ∧
      tokenize (quote (unescape raw)) = .ok [⟨.quoted "anb\\\"", ⟨0, 7⟩⟩] := by
  intro value text raw
  have mem : ⟨.quoted raw, ⟨3, 11⟩⟩ ∈ (scan text).tokens := by decide +kernel
  have behind : (scan "\"é\" #").fault =
      some (.malformed (.unexpectedCharacter '#' 5) (some ⟨5, 6⟩)) := by decide +kernel
  have width : bytes (quote value).toList = 10 := by decide +kernel
  have short : escape (unescape raw) = "anb\\\"" := by decide +kernel
  have width' : bytes (quote (unescape raw)).toList = 7 := by decide +kernel
  obtain ⟨values, literals⟩ := quotes_hold
  obtain ⟨_, cut, _⟩ := values value "\"é\" #"
  obtain ⟨_, again, _⟩ := literals text _ mem raw rfl
  refine ⟨?_, mem, ?_⟩
  · rw [cut, Scan.prepend, Scan.shift, behind, width]
    rfl
  · rw [again, short, width']

end Token

end TrackerQuery
