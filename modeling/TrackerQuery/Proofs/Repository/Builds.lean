import Mathlib.Data.List.Chain
import Mathlib.Data.List.Nodup
import TrackerQuery.Repository

namespace TrackerQuery.Repository

def NoLater (r : Repository) (first last : CommitId) : Prop :=
  ∃ i j, r.position? first = some i ∧ r.position? last = some j ∧ i ≤ j

def Follows (r : Repository) (before after : Build) : Prop :=
  after.previous = some before.number ∧ r.NoLater before.commit after.commit

-- Builds of the repository, from a first one on, each with the next one after it.
structure BuildChain (r : Repository) (builds : List Build) : Prop where
  known : ∀ b ∈ builds, b ∈ r.builds ∧ b.commit ∈ r.history
  first : ∀ b ∈ builds.head?, b.previous = none
  linked : builds.IsChain r.Follows

variable {r : Repository} {id a b c : CommitId} {build before after last : Build}
  {builds : List Build} {n number : Int} {i j : Nat}

theorem position?_iff (once : r.history.Nodup) : r.position? id = some i ↔ r.history[i]? = some id := by
  rw [position?, List.idxOf?_eq_some_iff, List.getElem?_eq_some_iff]
  constructor
  · intro h
    obtain ⟨inside, same, _⟩ := h
    exact ⟨inside, same⟩
  · intro h
    obtain ⟨inside, rfl⟩ := h
    refine ⟨inside, rfl, fun k earlier same => ?_⟩
    exact absurd (once.getElem_inj_iff.mp same) (by omega)

theorem position?_of_mem (mem : id ∈ r.history) : ∃ i, r.position? id = some i := by
  cases found : r.position? id with
  | none => exact absurd mem (List.idxOf?_eq_none_iff.mp found)
  | some i => exact ⟨i, rfl⟩

theorem mem_fixedInRange_getElem? {start : Option Nat} :
    n ∈ r.fixedInRange start j ↔ ∃ id i, r.history[i]? = some id ∧ (∀ k ∈ start, k < i) ∧ i ≤ j ∧
      n ∈ r.fixesOf id := by
  have range : ∀ id, id ∈ (r.history.take (j + 1)).drop (start.elim 0 (· + 1)) ↔
      ∃ i, r.history[i]? = some id ∧ (∀ k ∈ start, k < i) ∧ i ≤ j := by
    intro id
    rw [List.mem_drop_iff_getElem]
    constructor
    · intro h
      obtain ⟨k, inside, rfl⟩ := h
      rw [List.length_take] at inside
      refine ⟨start.elim 0 (· + 1) + k, by simp, ?_, by omega⟩
      intro l mem
      obtain rfl := Option.mem_def.mp mem
      exact Nat.le_add_right ..
    · intro h
      obtain ⟨i, found, later, upTo⟩ := h
      obtain ⟨inside, rfl⟩ := List.getElem?_eq_some_iff.mp found
      have from_start : start.elim 0 (· + 1) ≤ i := by
        cases start with
        | none => exact Nat.zero_le i
        | some k => exact later k rfl
      obtain ⟨k, rfl⟩ := Nat.exists_eq_add_of_le from_start
      exact ⟨k, by rw [List.length_take]; omega, by simp⟩
  simp only [fixedInRange, List.mem_flatMap, range]
  constructor
  · intro h
    obtain ⟨id, ⟨i, found, later, upTo⟩, fixed⟩ := h
    exact ⟨id, i, found, later, upTo, fixed⟩
  · intro h
    obtain ⟨id, i, found, later, upTo, fixed⟩ := h
    exact ⟨id, ⟨i, found, later, upTo⟩, fixed⟩

theorem mem_fixedInRange (once : r.history.Nodup) {start : Option Nat} :
    n ∈ r.fixedInRange start j ↔ ∃ id i, r.position? id = some i ∧ (∀ k ∈ start, k < i) ∧ i ≤ j ∧
      n ∈ r.fixesOf id := by
  simp only [mem_fixedInRange_getElem?, position?_iff once]

theorem fixedInRange_split (once : r.history.Nodup) {start : Option Nat} (later : ∀ k ∈ start, k ≤ i)
    (upTo : i ≤ j) :
    n ∈ r.fixedInRange start j ↔ n ∈ r.fixedInRange start i ∨ n ∈ r.fixedInRange (some i) j := by
  simp only [mem_fixedInRange once]
  constructor
  · intro h
    obtain ⟨id, k, found, after, within, fixed⟩ := h
    by_cases early : k ≤ i
    · exact .inl ⟨id, k, found, after, early, fixed⟩
    · exact .inr ⟨id, k, found, by simpa using early, within, fixed⟩
  · intro h
    rcases h with ⟨id, k, found, after, within, fixed⟩ | ⟨id, k, found, after, within, fixed⟩
    · exact ⟨id, k, found, after, by omega, fixed⟩
    · have past : i < k := after i rfl
      refine ⟨id, k, found, fun l mem => ?_, within, fixed⟩
      have := later l mem
      omega

theorem fixedInRange_empty (upTo : j ≤ i) : r.fixedInRange (some i) j = [] := by
  have none : (r.history.take (j + 1)).drop (i + 1) = [] := by
    rw [List.drop_eq_nil_iff, List.length_take]
    omega
  rw [fixedInRange, Option.elim_some, none]
  rfl

theorem fixedBetween_eq (h : r.position? a = some i) (h' : r.position? b = some j) :
    r.fixedBetween a b = r.fixedInRange (some i) j := by
  simp only [fixedBetween, h, h']

theorem fixedBetween_split (once : r.history.Nodup) (h : r.NoLater a b) (h' : r.NoLater b c) :
    n ∈ r.fixedBetween a c ↔ n ∈ r.fixedBetween a b ∨ n ∈ r.fixedBetween b c := by
  obtain ⟨i, j, first, middle, ordered⟩ := h
  obtain ⟨j', k, middle', last, ordered'⟩ := h'
  obtain rfl : j = j' := Option.some.inj (middle.symm.trans middle')
  rw [fixedBetween_eq first last, fixedBetween_eq first middle, fixedBetween_eq middle last]
  exact fixedInRange_split once (by simpa using ordered) ordered'

theorem fixedBetween_backwards (h : r.NoLater a b) : r.fixedBetween b a = [] := by
  obtain ⟨i, j, first, last, ordered⟩ := h
  rw [fixedBetween_eq last first]
  exact fixedInRange_empty ordered

theorem NoLater.trans (h : r.NoLater a b) (h' : r.NoLater b c) : r.NoLater a c := by
  obtain ⟨i, j, first, middle, ordered⟩ := h
  obtain ⟨j', k, middle', last, ordered'⟩ := h'
  obtain rfl : j = j' := Option.some.inj (middle.symm.trans middle')
  exact ⟨i, k, first, last, Nat.le_trans ordered ordered'⟩

theorem noLater_self (mem : id ∈ r.history) : r.NoLater id id := by
  obtain ⟨i, found⟩ := position?_of_mem mem
  exact ⟨i, i, found, found, Nat.le_refl i⟩

theorem build?_of_mem (numbered : (r.builds.map (·.number)).Nodup) (known : build ∈ r.builds) :
    r.build? build.number = some build := by
  cases found : r.build? build.number with
  | none =>
    have missed := List.find?_eq_none.mp found build known
    simp at missed
  | some other =>
    have same : other.number = build.number :=
      beq_iff_eq.mp (List.find?_some (p := fun (b : Build) => b.number == build.number) found)
    exact congrArg some (List.inj_on_of_nodup_map numbered (List.mem_of_find?_eq_some found) known same)

theorem fixedInBuild_first (first : build.previous = none) (found : r.position? build.commit = some j) :
    r.fixedInBuild build = r.fixedInRange none j := by
  have nothing : r.previousCommit? build = none := by rw [previousCommit?, first]; rfl
  simp only [fixedInBuild, found, nothing, Option.bind_none]

theorem fixedInBuild_follows (numbered : (r.builds.map (·.number)).Nodup) (known : before ∈ r.builds)
    (h : r.Follows before after) :
    r.fixedInBuild after = r.fixedBetween before.commit after.commit := by
  obtain ⟨named, i, j, start, stop, _⟩ := h
  have previous : r.previousCommit? after = some before.commit := by
    simp [previousCommit?, named, build?_of_mem numbered known]
  rw [fixedBetween_eq start stop]
  simp only [fixedInBuild, stop, previous, Option.bind_some, start]

-- What the builds after one of a chain fix, the commits after that one's fix.
theorem fixed_after (once : r.history.Nodup) (numbered : (r.builds.map (·.number)).Nodup)
    (known : ∀ b ∈ build :: builds, b ∈ r.builds ∧ b.commit ∈ r.history)
    (linked : (build :: builds).IsChain r.Follows) (ends : (build :: builds).getLast? = some last) :
    r.NoLater build.commit last.commit ∧ ∀ n, (∃ b ∈ builds, n ∈ r.fixedInBuild b) ↔
      n ∈ r.fixedBetween build.commit last.commit := by
  induction builds generalizing build with
  | nil =>
    obtain rfl : build = last := by simpa using ends
    have here := noLater_self (known build List.mem_cons_self).2
    exact ⟨here, fun n => by simp [fixedBetween_backwards here]⟩
  | cons next builds ih =>
    obtain ⟨follows, linked⟩ := List.isChain_cons_cons.mp linked
    obtain ⟨reaches, rest⟩ := ih (fun b mem => known b (List.mem_cons_of_mem _ mem)) linked
      (by rwa [List.getLast?_cons_cons] at ends)
    refine ⟨follows.2.trans reaches, fun n => ?_⟩
    rw [List.exists_mem_cons_iff, rest,
      fixedInBuild_follows numbered (known build List.mem_cons_self).1 follows]
    exact (fixedBetween_split once follows.2 reaches).symm

theorem mem_fixedUpTo (once : r.history.Nodup) (found : r.position? b = some j) :
    n ∈ r.fixedInRange none j ↔ ∃ id, r.NoLater id b ∧ n ∈ r.fixesOf id := by
  rw [mem_fixedInRange once]
  constructor
  · intro h
    obtain ⟨id, i, found', _, upTo, fixed⟩ := h
    exact ⟨id, ⟨i, j, found', found, upTo⟩, fixed⟩
  · intro h
    obtain ⟨id, ⟨i, j', found', last, upTo⟩, fixed⟩ := h
    obtain rfl : j = j' := Option.some.inj (found.symm.trans last)
    exact ⟨id, i, found', nofun, upTo, fixed⟩

theorem mem_fixedBetween (once : r.history.Nodup) (h : r.NoLater a b) :
    n ∈ r.fixedBetween a b ↔ ∃ id, ¬r.NoLater id a ∧ r.NoLater id b ∧ n ∈ r.fixesOf id := by
  obtain ⟨i, j, first, last, _⟩ := h
  rw [fixedBetween_eq first last, mem_fixedInRange once]
  constructor
  · intro h
    obtain ⟨id, k, found, after, upTo, fixed⟩ := h
    refine ⟨id, ?_, ⟨k, j, found, last, upTo⟩, fixed⟩
    intro h
    obtain ⟨k', i', found', first', earlier⟩ := h
    obtain rfl : k = k' := Option.some.inj (found.symm.trans found')
    obtain rfl : i = i' := Option.some.inj (first.symm.trans first')
    exact absurd (after i rfl) (by omega)
  · intro h
    obtain ⟨id, later, ⟨k, j', found, last', upTo⟩, fixed⟩ := h
    obtain rfl : j = j' := Option.some.inj (last.symm.trans last')
    refine ⟨id, k, found, fun i' start => ?_, upTo, fixed⟩
    obtain rfl : i = i' := Option.some.inj start
    exact Nat.lt_of_not_le fun earlier => later ⟨k, i, found, first, earlier⟩

theorem commit_of_fixedInBuild (once : r.history.Nodup) (fixed : n ∈ r.fixedInBuild build) :
    ∃ id, r.NoLater id build.commit ∧ n ∈ r.fixesOf id := by
  unfold fixedInBuild at fixed
  split at fixed
  · cases fixed
  · rename_i j found
    obtain ⟨id, i, place, _, upTo, fixes⟩ := (mem_fixedInRange once).mp fixed
    exact ⟨id, ⟨i, j, place, found, upTo⟩, fixes⟩

theorem fixed_once (once : r.history.Nodup) (numbered : (r.builds.map (·.number)).Nodup)
    (known : ∀ b ∈ builds, b ∈ r.builds ∧ b.commit ∈ r.history)
    (linked : builds.IsChain r.Follows) (ends : builds.getLast? = some last)
    (alone : ∀ id id', r.NoLater id last.commit ∧ n ∈ r.fixesOf id →
      r.NoLater id' last.commit ∧ n ∈ r.fixesOf id' → id = id') :
    builds.Pairwise fun b b' => ¬(n ∈ r.fixedInBuild b ∧ n ∈ r.fixedInBuild b') := by
  induction builds with
  | nil => exact .nil
  | cons build builds ih =>
    obtain ⟨reaches, rest⟩ := fixed_after once numbered known linked ends
    refine .cons ?_ ?_
    · intro later mem both
      obtain ⟨id, early, fixes⟩ := commit_of_fixedInBuild once both.1
      obtain ⟨id', late, within, fixes'⟩ :=
        (mem_fixedBetween once reaches).mp ((rest n).mp ⟨later, mem, both.2⟩)
      obtain rfl := alone id id' ⟨early.trans reaches, fixes⟩ ⟨within, fixes'⟩
      exact late early
    · cases builds with
      | nil => exact .nil
      | cons next builds =>
        exact ih (fun b mem => known b (List.mem_cons_of_mem _ mem)) linked.tail
          (by rwa [List.getLast?_cons_cons] at ends)

theorem existsUnique_index {P : Build → Prop} (apart : builds.Pairwise fun b b' => ¬(P b ∧ P b'))
    (found : ∃ b ∈ builds, P b) : ∃! k : Nat, ∃ b, builds[k]? = some b ∧ P b := by
  obtain ⟨b, mem, here⟩ := found
  obtain ⟨k, place⟩ := List.mem_iff_getElem?.mp mem
  refine ⟨k, ⟨b, place, here⟩, ?_⟩
  rintro k' ⟨b', place', here'⟩
  obtain ⟨inside, rfl⟩ := List.getElem?_eq_some_iff.mp place
  obtain ⟨inside', rfl⟩ := List.getElem?_eq_some_iff.mp place'
  have apart := List.pairwise_iff_getElem.mp apart
  rcases Nat.lt_trichotomy k k' with below | same | above
  · exact absurd ⟨here, here'⟩ (apart k k' inside inside' below)
  · exact same.symm
  · exact absurd ⟨here', here⟩ (apart k' k inside' inside above)

theorem BuildChain.fixed (once : r.history.Nodup) (numbered : (r.builds.map (·.number)).Nodup)
    (chain : r.BuildChain builds) (ends : builds.getLast? = some last) (n : Int) :
    (∃ b ∈ builds, n ∈ r.fixedInBuild b) ↔ ∃ id, r.NoLater id last.commit ∧ n ∈ r.fixesOf id := by
  cases builds with
  | nil => cases ends
  | cons build builds =>
    obtain ⟨⟨i, j, first, stop, upTo⟩, rest⟩ :=
      fixed_after once numbered chain.known chain.linked ends
    rw [List.exists_mem_cons_iff, rest, fixedInBuild_first (chain.first build rfl) first,
      fixedBetween_eq first stop, ← fixedInRange_split once (by simp) upTo, mem_fixedUpTo once stop]

-- The builds of a chain share out what the commits up to the last one fix, each from the build before
-- it on, and ranges between commits add up.
theorem builds_partition_fixes (r : Repository) (once : r.history.Nodup)
    (numbered : (r.builds.map (·.number)).Nodup) :
    (∀ builds last, r.BuildChain builds → builds.getLast? = some last →
      (∀ n, (∃ b ∈ builds, n ∈ r.relations.fixedInBuild b) ↔
          ∃ id, r.NoLater id last.commit ∧ n ∈ r.fixesOf id) ∧
        (∀ n, (∃! id, r.NoLater id last.commit ∧ n ∈ r.fixesOf id) →
          ∃! k : Nat, ∃ b, builds[k]? = some b ∧ n ∈ r.relations.fixedInBuild b) ∧
        builds.IsChain fun before after => ∀ project,
          r.relations.fixedInBuild after =
            r.relations.fixedBetween project before.commit after.commit) ∧
      ∀ project a b c, r.NoLater a b → r.NoLater b c →
        (∀ n, n ∈ r.relations.fixedBetween project a c ↔
          n ∈ r.relations.fixedBetween project a b ∨ n ∈ r.relations.fixedBetween project b c) ∧
        r.relations.fixedBetween project c a = [] := by
  constructor
  · intro builds last chain ends
    refine ⟨chain.fixed once numbered ends, ?_, ?_⟩
    · intro n alone
      have some := (chain.fixed once numbered ends n).mpr alone.exists
      have apart := fixed_once once numbered chain.known chain.linked ends fun _ _ => alone.unique
      exact existsUnique_index apart some
    · refine chain.linked.imp_of_mem_imp fun before after mem _ follows project => ?_
      exact fixedInBuild_follows numbered (chain.known before mem).1 follows
  · intro project a b c first second
    exact ⟨fun n => fixedBetween_split once first second,
      fixedBetween_backwards (first.trans second)⟩

theorem builds_partition_fixes_repeated :
    let id := CommitId.mk
    let first : Build := ⟨"demo", 1, id "b", none⟩
    let second : Build := ⟨"demo", 2, id "d", some 1⟩
    let third : Build := ⟨"demo", 3, id "d", some 2⟩
    let r := ((((((((empty.addCommit (id "a") []).addCommit (id "b") [1, 5]).addCommit (id "c")
      [5]).addCommit (id "d") [2]).addCommit (id "e") [3]).addBuild third).addBuild first).addBuild
        second)
    r.history.Nodup ∧ (r.builds.map (·.number)).Nodup ∧ r.BuildChain [first, second, third] ∧
      (∃ id, r.NoLater id third.commit ∧ 5 ∈ r.fixesOf id) ∧
      (∃ b ∈ [first, second, third], 5 ∈ r.relations.fixedInBuild b) ∧
      (∃! k : Nat, ∃ b, [first, second, third][k]? = some b ∧ 2 ∈ r.relations.fixedInBuild b) ∧
      r.NoLater (id "a") (id "b") ∧ r.NoLater (id "b") (id "e") ∧
      r.relations.fixedBetween none (id "e") (id "a") = [] := by
  intro id first second third r
  have once : r.history.Nodup := by decide
  have numbered : (r.builds.map (·.number)).Nodup := by decide
  have chain : r.BuildChain [first, second, third] := by
    refine ⟨by decide, fun b mem => ?_, ?_⟩
    · cases mem
      rfl
    · refine .cons_cons ⟨rfl, 1, 3, rfl, rfl, by decide⟩ (.cons_cons ?_ (.singleton third))
      exact ⟨rfl, 3, 3, rfl, rfl, Nat.le_refl 3⟩
  obtain ⟨whole, between⟩ := builds_partition_fixes r once numbered
  obtain ⟨union, single, _⟩ := whole [first, second, third] third chain rfl
  have fixed : ∃ id, r.NoLater id third.commit ∧ 5 ∈ r.fixesOf id :=
    ⟨id "b", ⟨1, 3, rfl, rfl, by decide⟩, by decide⟩
  have alone : ∃! id, r.NoLater id third.commit ∧ 2 ∈ r.fixesOf id := by
    refine ⟨id "d", ⟨⟨3, 3, rfl, rfl, Nat.le_refl 3⟩, by decide⟩, ?_⟩
    rintro other ⟨⟨i, _, found, _⟩, fixes⟩
    have mem : other ∈ r.history := List.mem_of_getElem? ((position?_iff once).mp found)
    have only : ∀ id' ∈ r.history, 2 ∈ r.fixesOf id' → id' = id "d" := by decide
    exact only other mem fixes
  have early : r.NoLater (id "a") (id "b") := ⟨0, 1, rfl, rfl, by decide⟩
  have late : r.NoLater (id "b") (id "e") := ⟨1, 4, rfl, rfl, by decide⟩
  exact ⟨once, numbered, chain, fixed, (union 5).mpr fixed, single 2 alone, early, late,
    (between none _ _ _ early late).2⟩

end TrackerQuery.Repository
