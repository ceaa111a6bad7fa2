namespace TrackerQuery.Text

def escapeChars : List Char → List Char
  | [] => []
  | c :: cs => if c == '"' || c == '\\' then '\\' :: c :: escapeChars cs else c :: escapeChars cs

-- A backslash with nothing after it is dropped.
def unescapeChars : List Char → List Char
  | [] => []
  | ['\\'] => []
  | '\\' :: c :: cs => c :: unescapeChars cs
  | c :: cs => c :: unescapeChars cs

def escape (value : String) : String :=
  String.ofList (escapeChars value.toList)

def unescape (raw : String) : String :=
  String.ofList (unescapeChars raw.toList)

def quote (value : String) : String :=
  "\"" ++ escape value ++ "\""

theorem unescapeChars_escapeChars (cs : List Char) : unescapeChars (escapeChars cs) = cs := by
  induction cs with
  | nil => rfl
  | cons c cs ih =>
    by_cases h : c = '"' ∨ c = '\\'
    · rcases h with rfl | rfl <;> simp [escapeChars, unescapeChars, ih]
    · rw [not_or] at h
      simp [escapeChars, unescapeChars, h, ih]

theorem unescape_escape (value : String) : unescape (escape value) = value := by
  simp [unescape, escape, unescapeChars_escapeChars]

end TrackerQuery.Text
