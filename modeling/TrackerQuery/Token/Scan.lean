import TrackerQuery.Error
import TrackerQuery.Token.Phrase

namespace TrackerQuery.Token

open TrackerQuery.Text

structure Lexeme where
  kind : Kind
  text : List Char
  rest : List Char

def quotedContent : List Char → Option (List Char × List Char)
  | [] => none
  | ['\\'] => none
  | '\\' :: c :: cs => (quotedContent cs).map fun r => ('\\' :: c :: r.1, r.2)
  | '"' :: cs => some ([], cs)
  | c :: cs => (quotedContent cs).map fun r => (c :: r.1, r.2)

def Lexeme.ofPhrase? (cs : List Char) : Option Lexeme :=
  phrases.findSome? fun p => (p.read cs).map fun r => ⟨p.kind, r.1, r.2⟩

def Lexeme.read (start : Nat) (c : Char) (cs : List Char) : Except Error Lexeme :=
  match c with
  | '(' => .ok ⟨.opening, ['('], cs⟩
  | ')' => .ok ⟨.closing, [')'], cs⟩
  | '"' =>
    match quotedContent cs with
    | some (raw, rest) => .ok ⟨.quoted (String.ofList raw), '"' :: raw ++ ['"'], rest⟩
    | none => .error (.malformed (.unterminatedQuote start) (some ⟨start, start + bytes ('"' :: cs)⟩))
  | c =>
    if isLetter c then
      match ofPhrase? (c :: cs) with
      | some l => .ok l
      | none =>
        let word := (c :: cs).takeWhile isWordChar
        .error (.malformed (.unrecognizedWord (String.ofList word) start)
          (some ⟨start, start + bytes word⟩))
    else .error (.malformed (.unexpectedCharacter c start) (some ⟨start, start + c.utf8Size⟩))

theorem append_of_quotedContent {cs raw rest : List Char}
    (h : quotedContent cs = some (raw, rest)) : raw ++ '"' :: rest = cs := by
  fun_induction quotedContent cs generalizing raw rest with
  | case1 | case2 => contradiction
  | case3 c cs ih =>
    obtain ⟨⟨a, b⟩, hq, h⟩ := Option.map_eq_some_iff.1 h
    obtain ⟨rfl, rfl⟩ := Prod.mk.inj h
    simpa using ih hq
  | case4 => simp_all
  | case5 c cs _ _ _ ih =>
    obtain ⟨⟨a, b⟩, hq, h⟩ := Option.map_eq_some_iff.1 h
    obtain ⟨rfl, rfl⟩ := Prod.mk.inj h
    simpa using ih hq

theorem text_ne_nil_of_mem_phrases {p : Phrase} (h : p ∈ phrases) : p.first.toList ≠ [] := by
  revert p
  decide

theorem Lexeme.append_of_ofPhrase? {cs : List Char} {l : Lexeme} (h : ofPhrase? cs = some l) :
    l.text ++ l.rest = cs ∧ l.text ≠ [] := by
  obtain ⟨p, hp, h⟩ := List.exists_of_findSome?_eq_some h
  obtain ⟨⟨t, r⟩, hr, rfl⟩ := Option.map_eq_some_iff.1 h
  refine ⟨Phrase.append_of_read hr, ?_⟩
  obtain ⟨r', _, hr⟩ := Option.bind_eq_some_iff.1 hr
  obtain ⟨⟨t', r''⟩, _, hr⟩ := Option.bind_eq_some_iff.1 hr
  obtain ⟨rfl, _⟩ := Prod.mk.inj (Option.some.inj hr)
  simp [text_ne_nil_of_mem_phrases hp]

theorem Lexeme.append_of_read {start : Nat} {c : Char} {cs : List Char} {l : Lexeme}
    (h : read start c cs = .ok l) : l.text ++ l.rest = c :: cs ∧ l.text ≠ [] := by
  simp only [read] at h
  split at h
  · obtain rfl := Except.ok.inj h; simp
  · obtain rfl := Except.ok.inj h; simp
  · split at h
    · obtain rfl := Except.ok.inj h
      rename_i hq
      simpa using append_of_quotedContent hq
    · contradiction
  · split at h
    · split at h
      · obtain rfl := Except.ok.inj h
        rename_i hp
        exact append_of_ofPhrase? hp
      · contradiction
    · contradiction

-- The tokens before the first fault, and the fault.
structure Scan where
  tokens : List Token
  fault : Option Error

def scanFrom (start : Nat) (cs : List Char) : Scan :=
  match cs with
  | [] => ⟨[], none⟩
  | c :: rest =>
    if isBlank c then scanFrom (start + c.utf8Size) rest
    else match _h : Lexeme.read start c rest with
      | .error e => ⟨[], some e⟩
      | .ok l =>
        let stop := start + bytes l.text
        let more := scanFrom stop l.rest
        ⟨⟨l.kind, ⟨start, stop⟩⟩ :: more.tokens, more.fault⟩
termination_by cs.length
decreasing_by
  · simp
  · have := Lexeme.append_of_read _h
    have hl : 0 < l.text.length := List.length_pos_iff.2 this.2
    rw [← this.1, List.length_append]
    omega

def scan (text : String) : Scan :=
  scanFrom 0 text.toList

def tokenize (text : String) : Except Error (List Token) :=
  match scan text with
  | ⟨tokens, none⟩ => .ok tokens
  | ⟨_, some e⟩ => .error e

end TrackerQuery.Token
