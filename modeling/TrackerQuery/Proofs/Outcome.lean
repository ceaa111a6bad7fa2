namespace TrackerQuery

def FailsWith (kind : ε → Prop) (x : Except ε α) : Prop :=
  ∀ e, x = .error e → kind e

theorem bind_ok_iff {x : Except ε α} {f : α → Except ε β} {b : β} :
    x >>= f = .ok b ↔ ∃ a, x = .ok a ∧ f a = .ok b := by
  rcases x with _ | a <;> simp [bind, Except.bind]

theorem map_ok_iff {x : Except ε α} {f : α → β} {b : β} :
    x.map f = .ok b ↔ ∃ a, x = .ok a ∧ f a = b := by
  rcases x with _ | a <;> simp [Except.map]

theorem bind_error_iff {x : Except ε α} {f : α → Except ε β} {e : ε} :
    x >>= f = .error e ↔ x = .error e ∨ ∃ a, x = .ok a ∧ f a = .error e := by
  rcases x with _ | a <;> simp [bind, Except.bind]

theorem map_error_iff {x : Except ε α} {f : α → β} {e : ε} : x.map f = .error e ↔ x = .error e := by
  rcases x with _ | a <;> simp [Except.map]

theorem refused_iff {x : Except ε α} : (∃ e, x = .error e) ↔ ∀ a, x ≠ .ok a := by
  rcases x with e | a <;> simp

theorem ok_or_error {x : Except ε α} {p : Prop} (done : x = .ok a) (failed : x = .error e) : p := by
  cases done.symm.trans failed

theorem never_refused {x : Except ε α} {p : Prop} (done : ∃ a, x = .ok a) (never : ¬p) :
    (∃ e, x = .error e) ↔ p := by
  obtain ⟨a, done⟩ := done
  refine ⟨fun h => ?_, fun h => absurd h never⟩
  obtain ⟨e, failed⟩ := h
  exact ok_or_error done failed

theorem map_bind (x : Except ε α) (f : α → Except ε β) (g : β → γ) :
    (x >>= f).map g = x >>= fun a => (f a).map g := by
  rcases x with _ | a <;> rfl

@[simp] theorem bind_of_ok (a : α) (f : α → Except ε β) : .ok a >>= f = f a := rfl

section

variable {kind kind' : ε → Prop} {x : Except ε α}

theorem FailsWith.imp (h : FailsWith kind x) (weaker : ∀ e, kind e → kind' e) : FailsWith kind' x :=
  fun e failed => weaker e (h e failed)

theorem failsWith_ok {a : α} : FailsWith kind (.ok a : Except ε α) :=
  fun _ never => nomatch never

theorem failsWith_error {e : ε} (h : kind e) : FailsWith kind (.error e : Except ε α) := by
  intro e' same
  cases same
  exact h

theorem FailsWith.bind {f : α → Except ε β} (h : FailsWith kind x) (next : ∀ a, FailsWith kind (f a)) :
    FailsWith kind (x >>= f) := by
  intro e failed
  rcases bind_error_iff.mp failed with failed | ⟨a, _, failed⟩
  · exact h e failed
  · exact next a e failed

theorem FailsWith.map (h : FailsWith kind x) (f : α → β) : FailsWith kind (x.map f) :=
  fun e failed => h e (map_error_iff.mp failed)

end

end TrackerQuery
