namespace TrackerQuery.Text

def fits64 (n : Int) : Bool :=
  -9223372036854775808 ≤ n && n ≤ 9223372036854775807

def readDigits? (cs : List Char) : Option Nat :=
  if cs.isEmpty || !cs.all Char.isDigit then none else some (Nat.ofDigitChars 10 cs 0)

def readInt? (cs : List Char) : Option Int :=
  let n : Option Int := match cs with
    | '-' :: ds => (readDigits? ds).map fun n => -(n : Int)
    | '+' :: ds => (readDigits? ds).map fun n => (n : Int)
    | ds => (readDigits? ds).map fun n => (n : Int)
  n.filter fits64

def padded (width n : Nat) : String :=
  let ds := Nat.toDigits 10 n
  String.ofList (List.replicate (width - ds.length) '0' ++ ds)

theorem readDigits?_toDigits (n : Nat) : readDigits? (Nat.toDigits 10 n) = some n := by
  have h : ∀ c ∈ Nat.toDigits 10 n, c.isDigit = true := fun c hc =>
    Nat.isDigit_of_mem_toDigits (by decide) (by decide) hc
  have hne : Nat.toDigits 10 n ≠ [] := Nat.toDigits_ne_nil
  simp [readDigits?, hne, List.all_eq_true.2 h, Nat.ofDigitChars_toDigits]

theorem fits64_of_readInt? {cs : List Char} {n : Int} (h : readInt? cs = some n) :
    fits64 n = true := by
  simp only [readInt?, Option.filter_eq_some_iff] at h
  exact h.2

end TrackerQuery.Text
