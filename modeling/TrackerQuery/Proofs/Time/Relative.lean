import TrackerQuery.DateLiteral
import TrackerQuery.Proofs.Query.Numeral

namespace TrackerQuery.Time

open TrackerQuery.Text

inductive Measure where
  | hours | days | weeks

namespace Measure

def name : Measure → String
  | hours => "hours"
  | days => "days"
  | weeks => "weeks"

def seconds : Measure → Int
  | hours => 3600
  | days => 86400
  | weeks => 604800

def start (now : Instant) : Measure → Instant
  | hours => now
  | days | weeks => now.midnight

end Measure

def ago (amount : String) (m : Measure) : String :=
  amount ++ " " ++ m.name ++ " ago"

def Instant.before? (t : Instant) (seconds : Int) : Option Instant :=
  let u : Instant := ⟨t.seconds - seconds, t.nanos⟩
  if u.isRepresentable then some u else none

variable {a cs rest word : List Char} {amount : String} {n seconds : Int} {m : Measure}
  {now t u v : Instant}

theorem wordsFrom_solid (solid : ∀ c ∈ a, isBlank c = false) :
    wordsFrom word (a ++ rest) = wordsFrom (a.reverse ++ word) rest := by
  induction a generalizing word with
  | nil => rfl
  | cons c a ih =>
    obtain ⟨first, more⟩ := List.forall_mem_cons.mp solid
    rw [List.cons_append, wordsFrom, if_neg (by simp [first]), ih more, List.reverse_cons,
      List.append_assoc, List.singleton_append]

theorem words_cons (nonempty : a ≠ []) (solid : ∀ c ∈ a, isBlank c = false) :
    words (a ++ ' ' :: rest) = a :: words rest := by
  rw [words, wordsFrom_solid solid, List.append_nil, wordsFrom, if_pos (by decide),
    if_neg (by simpa using nonempty), List.reverse_reverse, words]

theorem toList_ago : (ago amount m).toList = amount.toList ++ ' ' :: (m.name ++ " ago").toList := by
  simp [ago]

theorem words_ago (numeral : Numeral amount.toList n) :
    words (ago amount m).toList = [amount.toList, m.name.toList, ['a', 'g', 'o']] := by
  obtain ⟨nonempty, solid⟩ := numeral.solid
  have others : words (m.name ++ " ago").toList = [m.name.toList, ['a', 'g', 'o']] := by
    cases m <;> decide
  rw [toList_ago, words_cons nonempty fun c mem => (solid c mem).1, others]

theorem trim_ago (numeral : Numeral amount.toList n) : trim (ago amount m).toList = (ago amount m).toList := by
  obtain ⟨nonempty, solid⟩ := numeral.solid
  obtain ⟨starts, _⟩ := ends_of_solid nonempty fun c mem => (solid c mem).1
  have starts : ∃ c ds, (ago amount m).toList = c :: ds ∧ isBlank c = false := by
    obtain ⟨c, ds, whole, first⟩ := starts
    exact ⟨c, _, by rw [toList_ago, whole, List.cons_append], first⟩
  have ends : ∃ ds c, (ago amount m).toList = ds ++ [c] ∧ isBlank c = false :=
    ⟨(amount ++ " " ++ m.name ++ " ag").toList, 'o', by simp [ago], by decide⟩
  simpa using trim_of_ends blanks_nil blanks_nil starts ends

-- A day of the calendar has a hyphen right after the digits of the year.
theorem readNumber?_rest (digits : ∀ c ∈ cs, c.isDigit = true)
    (read : readNumber? limit (cs ++ ' ' :: rest) = some (k, after)) : dropChar? '-' after = none := by
  have run : (cs ++ ' ' :: rest).takeWhile Char.isDigit = cs := by
    rw [List.takeWhile_append_of_pos digits, List.takeWhile_cons_of_neg (by decide), List.append_nil]
  have left : ∀ i ≤ cs.length, dropChar? '-' ((cs ++ ' ' :: rest).drop i) = none := by
    intro i bound
    rw [List.drop_append_of_le_length bound]
    cases remaining : cs.drop i with
    | nil => rfl
    | cons c ds =>
      have digit : c.isDigit = true :=
        digits c (List.mem_of_mem_drop (remaining ▸ List.mem_cons_self))
      rw [List.cons_append, dropChar?, if_neg]
      rintro hyphen
      rw [beq_iff_eq.mp hyphen] at digit
      exact absurd digit (by decide)
  unfold readNumber? at read
  rw [run] at read
  obtain ⟨_, _, same⟩ := Option.map_eq_some_iff.mp read
  obtain ⟨_, rfl⟩ := Prod.mk.inj same
  apply left
  cases limit with
  | none => exact Nat.le_refl _
  | some limit => exact List.length_take_le' limit cs

theorem readYear?_rest (numeral : Numeral cs n)
    (read : readYear? (cs ++ ' ' :: rest) = some (year, after)) : dropChar? '-' after = none := by
  have kept : trimStart (cs ++ ' ' :: rest) = cs ++ ' ' :: rest := by
    obtain ⟨nonempty, solid⟩ := numeral.solid
    obtain ⟨c, ds, rfl⟩ := List.exists_cons_of_ne_nil nonempty
    rw [trimStart, List.cons_append, List.dropWhile_cons_of_neg (by simp [solid c List.mem_cons_self])]
  rw [readYear?, kept] at read
  cases numeral with
  | plain nonempty digits =>
    obtain ⟨c, ds, rfl⟩ := List.exists_cons_of_ne_nil nonempty
    split at read
    · rename_i signed
      obtain ⟨rfl, _⟩ := List.cons.inj signed
      exact absurd (digits '-' List.mem_cons_self) (by decide)
    · rename_i signed
      obtain ⟨rfl, _⟩ := List.cons.inj signed
      exact absurd (digits '+' List.mem_cons_self) (by decide)
    · obtain ⟨_, number, same⟩ := Option.map_eq_some_iff.mp read
      obtain ⟨_, rfl⟩ := Prod.mk.inj same
      exact readNumber?_rest digits number
  | positive _ digits | negative _ digits =>
    obtain ⟨_, number, same⟩ := Option.map_eq_some_iff.mp read
    obtain ⟨_, rfl⟩ := Prod.mk.inj same
    exact readNumber?_rest digits number

theorem readDate?_ago (numeral : Numeral amount.toList n) : readDate? id (ago amount m).toList = none := by
  rw [toList_ago, readDate?]
  cases read : readYear? (amount.toList ++ ' ' :: (m.name ++ " ago").toList) with
  | none => rfl
  | some found =>
    have hyphen : dropChar? '-' found.2 = none := readYear?_rest numeral read
    simp [hyphen]

theorem readAgo?_ago (numeral : Numeral amount.toList n) : readAgo? now (ago amount m).toList =
    (readInt? amount.toList).bind fun n => (m.start now).earlier? (n * m.seconds) := by
  unfold readAgo?
  rw [words_ago numeral]
  cases m <;> rfl

theorem solid_of_ago (same : (ago amount m).toList = word) : ' ' ∈ word := by
  rw [← same, toList_ago]
  exact List.mem_append_right _ List.mem_cons_self

theorem readInstant?_ago (numeral : Numeral amount.toList n) : readInstant? now (ago amount m) =
    (readInt? amount.toList).bind fun n => (m.start now).earlier? (n * m.seconds) := by
  have notToday : (ago amount m).toList ≠ "today".toList :=
    fun same => absurd (solid_of_ago same) (by decide)
  have notYesterday : (ago amount m).toList ≠ "yesterday".toList :=
    fun same => absurd (solid_of_ago same) (by decide)
  have noDay : readDay? (ago amount m).toList = none := by
    rw [readDay?, readDate?_ago numeral]
    rfl
  have noSecond : readDaySecond? (ago amount m).toList = none := by
    rw [readDaySecond?, readDate?_ago numeral]
    rfl
  have noMinute : readDayMinute? (ago amount m).toList = none := by
    rw [readDayMinute?, readDate?_ago numeral]
    rfl
  unfold readInstant?
  rw [trim_ago numeral, if_neg notToday, if_neg notYesterday, noDay, noSecond, noMinute, Option.none_or,
    Option.none_or, Option.none_or, readAgo?_ago numeral]

namespace Instant

theorem isRepresentable_iff :
    t.isRepresentable = true ↔ -8334601228800 ≤ t.seconds ∧ t.seconds < 8210266876800 := by
  simp only [isRepresentable, Bool.and_eq_true, decide_eq_true_eq]

theorem isSpan_of_representable (known : t.isRepresentable = true) (known' : u.isRepresentable = true) :
    isSpan (t.seconds - u.seconds) = true := by
  rw [isRepresentable_iff] at known known'
  simp only [isSpan, Bool.and_eq_true, decide_eq_true_eq]
  omega

theorem earlier?_eq_before? (known : t.isRepresentable = true) (plain : t.isLeap = false) :
    t.earlier? seconds = t.before? seconds := by
  have back : t.back seconds = ⟨t.seconds - seconds, t.nanos⟩ := by
    rw [Instant.back, plain]
    rfl
  unfold earlier? before?
  rw [back]
  cases reached : isRepresentable ⟨t.seconds - seconds, t.nanos⟩ with
  | false => simp [reached]
  | true =>
    have span := isSpan_of_representable known reached
    rw [Int.sub_sub_self] at span
    simp [reached, span]

theorem before?_eq_some_iff : t.before? seconds = some u ↔
    u.isRepresentable = true ∧ u = ⟨t.seconds - seconds, t.nanos⟩ := by
  simp only [before?, Option.ite_none_right_eq_some, Option.some.injEq]
  constructor
  · rintro ⟨reached, rfl⟩
    exact ⟨reached, rfl⟩
  · rintro ⟨reached, rfl⟩
    exact ⟨reached, rfl⟩

theorem midnight_isRepresentable (known : t.isRepresentable = true) :
    t.midnight.isRepresentable = true := by
  rw [isRepresentable_iff] at known ⊢
  unfold midnight
  dsimp only
  omega

end Instant

theorem Measure.start_isRepresentable (known : now.isRepresentable = true) :
    (m.start now).isRepresentable = true := by
  cases m with
  | hours => exact known
  | days | weeks => exact Instant.midnight_isRepresentable known

theorem Measure.start_isLeap (plain : now.isLeap = false) : (m.start now).isLeap = false := by
  cases m with
  | hours => exact plain
  | days | weeks => rfl

theorem readInstant?_exact (known : now.isRepresentable = true) (plain : now.isLeap = false)
    (numeral : Numeral amount.toList n) (fits : fits64 n = true) :
    readInstant? now (ago amount m) = (m.start now).before? (n * m.seconds) := by
  rw [readInstant?_ago numeral, readInt?_iff.mpr ⟨numeral, fits⟩, Option.bind_some,
    Instant.earlier?_eq_before? (Measure.start_isRepresentable known) (Measure.start_isLeap plain)]

theorem readInstant?_unfit (numeral : Numeral amount.toList n) (unfit : fits64 n = false) :
    readInstant? now (ago amount m) = none := by
  rw [readInstant?_ago numeral]
  cases read : readInt? amount.toList with
  | none => rfl
  | some k =>
    obtain ⟨numeral', fits⟩ := readInt?_iff.mp read
    rw [← numeral.unique numeral', unfit] at fits
    cases fits

-- So many weeks that their days exceed 64 bits lead out of the range of instants.
theorem before?_of_unfit (known : t.isRepresentable = true) (unfit : fits64 (7 * n) = false) :
    t.before? (n * 604800) = none := by
  refine Option.eq_none_iff_forall_ne_some.mpr fun u found => ?_
  obtain ⟨reached, rfl⟩ := Instant.before?_eq_some_iff.mp found
  have outside : ¬fits64 (7 * n) = true := by simp [unfit]
  rw [fits64_iff] at outside
  rw [Instant.isRepresentable_iff] at known reached
  dsimp only at reached
  omega

theorem before?_antitone {near far : Int} (further : near < far)
    (found : t.before? near = some u) (found' : t.before? far = some v) : v < u := by
  obtain ⟨_, rfl⟩ := Instant.before?_eq_some_iff.mp found
  obtain ⟨_, rfl⟩ := Instant.before?_eq_some_iff.mp found'
  exact .inl (Int.sub_lt_sub_left further t.seconds)

theorem Measure.mul_seconds_lt {k : Int} (fewer : n < k) : n * m.seconds < k * m.seconds := by
  cases m <;> exact Int.mul_lt_mul_of_pos_right fewer (by decide)

theorem readInstant?_today : readInstant? now "today" = some now.midnight := by
  have bare : trim "today".toList = "today".toList := by decide
  rw [readInstant?, bare, if_pos rfl]

theorem readInstant?_yesterday : readInstant? now "yesterday" = now.midnight.earlier? 86400 := by
  have bare : trim "yesterday".toList = "yesterday".toList := by decide
  have other : "yesterday".toList ≠ "today".toList := by decide
  rw [readInstant?, bare, if_neg other, if_pos rfl]

-- An amount of time ago is the instant exactly so far back, and no instant just where there is none. A
-- week is seven days, and more of one measure lies further back.
theorem relative_dates_exact (known : now.isRepresentable = true) (plain : now.isLeap = false) :
    (∀ m amount n, Numeral amount.toList n → readInstant? now (ago amount m) =
        if fits64 n then (m.start now).before? (n * m.seconds) else none) ∧
      (∀ amount amount' n, Numeral amount.toList n → fits64 n = true →
        Numeral amount'.toList (7 * n) →
          readInstant? now (ago amount .weeks) = readInstant? now (ago amount' .days)) ∧
      readInstant? now "today" = readInstant? now "0 days ago" ∧
      readInstant? now "yesterday" = readInstant? now "1 days ago" ∧
      ∀ m amount amount' n n' t t', Numeral amount.toList n → Numeral amount'.toList n' → n < n' →
        readInstant? now (ago amount m) = some t → readInstant? now (ago amount' m) = some t' →
          t' < t := by
  have exact : ∀ m amount n, Numeral amount.toList n → readInstant? now (ago amount m) =
      if fits64 n then (m.start now).before? (n * m.seconds) else none := by
    intro m amount n numeral
    cases fits : fits64 n with
    | true => exact readInstant?_exact known plain numeral fits
    | false => exact readInstant?_unfit numeral fits
  refine ⟨exact, fun amount amount' n numeral fits numeral' => ?_, ?_, ?_, ?_⟩
  · rw [exact _ _ _ numeral, exact _ _ _ numeral', if_pos fits]
    cases fits' : fits64 (7 * n) with
    | true =>
      rw [if_pos rfl]
      have same : n * Measure.weeks.seconds = 7 * n * Measure.days.seconds := by
        simp only [Measure.seconds]
        omega
      rw [same]
      rfl
    | false => exact before?_of_unfit (Instant.midnight_isRepresentable known) fits'
  · have none : readInstant? now "0 days ago" = now.midnight.before? (0 * 86400) :=
      exact .days "0" 0 (readInt?_iff.mp (by decide)).1
    rw [readInstant?_today, none, Int.zero_mul, eq_comm]
    exact Instant.before?_eq_some_iff.mpr
      ⟨Instant.midnight_isRepresentable known, by rw [Int.sub_zero]⟩
  · have one : readInstant? now "1 days ago" = now.midnight.before? (1 * 86400) :=
      exact .days "1" 1 (readInt?_iff.mp (by decide)).1
    rw [readInstant?_yesterday, one, Int.one_mul,
      Instant.earlier?_eq_before? (Instant.midnight_isRepresentable known) rfl]
  · intro m amount amount' n n' t t' numeral numeral' fewer read read'
    rw [exact _ _ _ numeral, Option.ite_none_right_eq_some] at read
    rw [exact _ _ _ numeral', Option.ite_none_right_eq_some] at read'
    exact before?_antitone (Measure.mul_seconds_lt fewer) read.2 read'.2

theorem relative_dates_exact_limits :
    let now : Instant := ⟨1715355000, 0⟩
    now.isRepresentable = true ∧ now.isLeap = false ∧
      readInstant? now "96485145 days ago" = some ⟨-8334601228800, 0⟩ ∧
      readInstant? now "96485146 days ago" = none ∧
      readInstant? now "-03 hours ago" = some ⟨1715365800, 0⟩ ∧
      readInstant? now "9223372036854775807 weeks ago" =
        readInstant? now "64563604257983430649 days ago" ∧
      readInstant? now "today" = readInstant? now "0 days ago" := by
  intro now
  have known : now.isRepresentable = true := by decide
  have plain : now.isLeap = false := by decide
  have written : ∀ {amount n}, readInt? amount = some n → Numeral amount n ∧ fits64 n = true :=
    fun read => readInt?_iff.mp read
  obtain ⟨exact, weeks, today, _⟩ := relative_dates_exact known plain
  have first := exact .days "96485145" 96485145 (written (by decide)).1
  have earlier := exact .days "96485146" 96485146 (written (by decide)).1
  have later := exact .hours "-03" (-3) (written (by decide)).1
  have many := written (by decide : readInt? "9223372036854775807".toList = some 9223372036854775807)
  have days : Numeral "64563604257983430649".toList (7 * 9223372036854775807) :=
    .plain (by decide) (List.all_eq_true.mp (by decide))
  have same := weeks "9223372036854775807" "64563604257983430649" _ many.1 many.2 days
  exact ⟨known, plain, first, earlier, later, same, today⟩

end TrackerQuery.Time
