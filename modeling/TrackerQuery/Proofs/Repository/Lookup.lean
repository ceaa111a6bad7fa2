import TrackerQuery.Repository

namespace TrackerQuery.Repository

def numbered (r : Repository) (number : Int) : List Build :=
  r.builds.filter (·.number == number)

-- The first build of the number is one of another project than is asked for.
structure Shadows (r : Repository) (project : Option String) (reference : Reference) (other : Build) :
    Prop where
  first : (r.numbered reference.number).head? = some other
  foreign : ∃ asked ∈ reference.project.or project, other.project ≠ asked

def Unobscured (r : Repository) (project : Option String) (reference : Reference) : Prop :=
  ∀ other, r.Shadows project reference other →
    ∃ found, r.resolver.build project reference = some found ∧ found.commit = other.commit

def referredCommit? (r : Repository) (project : Option String) (text : String) : Option CommitId :=
  (Reference.read? text).bind fun reference => (r.resolver.build project reference).map (·.commit)

def precedingCommit? (r : Repository) (build : Build) : Option CommitId :=
  build.previous.bind fun number =>
    (r.resolver.build (some build.project) ⟨none, number⟩).map (·.commit)

def fixedSince (r : Repository) (bound : Option CommitId) (build : Build) : List Int :=
  match r.position? build.commit with
  | none => []
  | some upTo => r.fixedInRange (bound.bind r.position?) upTo

variable {r : Repository} {project : Option String} {number : Int} {build other : Build}
  {reference : Reference} {text : String}

theorem build?_eq : r.build? number = (r.numbered number).head? := by
  rw [numbered, List.head?_filter, build?]

theorem resolverBuild_eq : r.resolver.build project reference =
    (r.numbered reference.number).find? fun build =>
      (reference.project.or project).all (build.project == ·) := by
  simp only [numbered, List.find?_filter, resolver, findBuild, Bool.decide_eq_true, Bool.decide_and]

theorem resolverBuild_of_unshadowed (clear : ∀ other, ¬r.Shadows project reference other) :
    r.resolver.build project reference = r.build? reference.number := by
  rw [resolverBuild_eq, build?_eq]
  cases fits : r.numbered reference.number with
  | nil => rfl
  | cons first more =>
    refine List.find?_cons_of_pos ((Option.all_eq_true _ _).mpr fun asked mem => beq_iff_eq.mpr ?_)
    refine Decidable.byContradiction fun foreign => clear first ⟨?_, asked, mem, foreign⟩
    rw [fits, List.head?_cons]

theorem build?_of_shadows (shadows : r.Shadows project reference other) :
    r.build? reference.number = some other :=
  build?_eq.trans shadows.first

theorem unobscured_iff (reference : Reference) : r.Unobscured project reference ↔
    (r.build? reference.number).map (·.commit) =
      (r.resolver.build project reference).map (·.commit) := by
  constructor
  · intro clear
    by_cases shadowed : ∃ other, r.Shadows project reference other
    · obtain ⟨other, shadows⟩ := shadowed
      obtain ⟨found, lookup, same⟩ := clear other shadows
      rw [build?_of_shadows shadows, lookup, Option.map_some, Option.map_some, same]
    · rw [resolverBuild_of_unshadowed (not_exists.mp shadowed)]
  · intro same other shadows
    rw [build?_of_shadows shadows] at same
    exact Option.map_eq_some_iff.mp same.symm

theorem not_shadows_of_single {name : String} (single : ∀ b ∈ r.builds, b.project = name)
    (asked : ∀ p ∈ reference.project.or project, p = name) : ¬r.Shadows project reference other := by
  intro shadows
  obtain ⟨p, mem, foreign⟩ := shadows.foreign
  have listed := (List.mem_filter.mp (List.mem_of_mem_head? shadows.first)).1
  exact foreign ((single other listed).trans (asked p mem).symm)

theorem resolverCommit_eq : r.resolver.commit project ⟨.build, text⟩ =
    (Reference.read? text).bind fun reference => (r.build? reference.number).map (·.commit) := by
  simp only [Option.map_eq_bind]
  rfl

theorem previousCommit?_eq : r.previousCommit? build =
    build.previous.bind fun number => (r.build? number).map (·.commit) := by
  simp only [Option.map_eq_bind]
  rfl

theorem fixedInBuild_eq : r.relations.fixedInBuild build =
    r.fixedSince (r.previousCommit? build) build := rfl

theorem bind_eq_bind_iff {x : Option α} {f g : α → Option β} :
    x.bind f = x.bind g ↔ ∀ a ∈ x, f a = g a := by
  cases x <;> simp

theorem resolverCommit_eq_iff :
    r.resolver.commit project ⟨.build, text⟩ = r.referredCommit? project text ↔
      ∀ reference ∈ Reference.read? text, r.Unobscured project reference := by
  rw [resolverCommit_eq, referredCommit?, bind_eq_bind_iff]
  exact forall₂_congr fun reference _ => (unobscured_iff reference).symm

theorem previousCommit?_eq_iff : r.previousCommit? build = r.precedingCommit? build ↔
    ∀ number ∈ build.previous, r.Unobscured (some build.project) ⟨none, number⟩ := by
  rw [previousCommit?_eq, precedingCommit?, bind_eq_bind_iff]
  exact forall₂_congr fun number _ => (unobscured_iff ⟨none, number⟩).symm

-- A revision and a reference of one text, and the bound of a build and the build before it in its own
-- project, come to one commit just when no build of another project stands in front or one that was
-- made from it. Otherwise the commit is the one of that build. In a repository of one project they do.
theorem lookups_agree_iff (r : Repository) :
    (∀ project text,
        r.resolver.commit project ⟨.build, text⟩ = r.referredCommit? project text ↔
          ∀ reference ∈ Reference.read? text, r.Unobscured project reference) ∧
      (∀ build : Build, r.previousCommit? build = r.precedingCommit? build ↔
        ∀ number ∈ build.previous, r.Unobscured (some build.project) ⟨none, number⟩) ∧
      (∀ project text, ∀ reference ∈ Reference.read? text, ∀ other,
        r.Shadows project reference other →
          r.resolver.commit project ⟨.build, text⟩ = some other.commit) ∧
      (∀ build : Build, ∀ number ∈ build.previous, ∀ other,
        r.Shadows (some build.project) ⟨none, number⟩ other →
          r.relations.fixedInBuild build = r.fixedSince (some other.commit) build) ∧
      ∀ name, (∀ b ∈ r.builds, b.project = name) →
        (∀ project text, (∀ reference ∈ Reference.read? text,
            ∀ asked ∈ reference.project.or project, asked = name) →
          r.resolver.commit project ⟨.build, text⟩ = r.referredCommit? project text) ∧
          ∀ build ∈ r.builds,
            r.relations.fixedInBuild build = r.fixedSince (r.precedingCommit? build) build := by
  refine ⟨fun _ _ => resolverCommit_eq_iff, fun _ => previousCommit?_eq_iff, ?_, ?_, ?_⟩
  · intro project text reference read other shadows
    rw [resolverCommit_eq, read, Option.bind_some, build?_of_shadows shadows, Option.map_some]
  · intro build number previous other shadows
    have bound : r.previousCommit? build = some other.commit := by
      rw [previousCommit?_eq, previous, Option.bind_some, build?_of_shadows shadows, Option.map_some]
    rw [fixedInBuild_eq, bound]
  · intro name single
    refine ⟨fun project text asked => ?_, fun build known => ?_⟩
    · refine resolverCommit_eq_iff.mpr fun reference read other shadows => ?_
      exact absurd shadows (not_shadows_of_single single (asked reference read))
    · have bound : r.previousCommit? build = r.precedingCommit? build := by
        refine previousCommit?_eq_iff.mpr fun number _ other shadows => ?_
        refine absurd shadows (not_shadows_of_single single fun p mem => ?_)
        rw [← single build known]
        exact (Option.some.inj mem).symm
      rw [fixedInBuild_eq, bound]

theorem lookups_agree_iff_demo :
    let id := CommitId.mk
    let first : Build := ⟨"demo", 1, id "b2", none⟩
    let second : Build := ⟨"demo", 2, id "d4", some 1⟩
    let foreign : Build := ⟨"other", 1, id "c3", none⟩
    let commits := (((empty.addCommit (id "a1") []).addCommit (id "b2") [2]).addCommit (id "c3")
      [3]).addCommit (id "d4") [4]
    let own := (commits.addBuild second).addBuild first
    let shared := ((commits.addBuild foreign).addBuild second).addBuild first
    own.resolver.commit (some "demo") ⟨.build, "#1"⟩ = some (id "b2") ∧
      own.relations.fixedInBuild second = [3, 4] ∧
      shared.Shadows (some "demo") ⟨none, 1⟩ foreign ∧
      shared.resolver.commit (some "demo") ⟨.build, "#1"⟩ = some (id "c3") ∧
      shared.relations.fixedInBuild second = [4] ∧
      shared.resolver.commit (some "demo") ⟨.build, "other#1"⟩ =
        shared.referredCommit? (some "demo") "other#1" := by
  intro id first second foreign commits own shared
  have read : Reference.read? "#1" = some ⟨none, 1⟩ := by decide +kernel
  have read' : Reference.read? "other#1" = some ⟨some "other", 1⟩ := by decide +kernel
  have single : ∀ b ∈ own.builds, b.project = "demo" := by decide
  obtain ⟨_, _, _, _, alone⟩ := lookups_agree_iff own
  obtain ⟨revisions, builds⟩ := alone "demo" single
  obtain ⟨agree, _, obscured, bounded, _⟩ := lookups_agree_iff shared
  have shadows : shared.Shadows (some "demo") ⟨none, 1⟩ foreign := ⟨by decide, "demo", rfl, by decide⟩
  refine ⟨?_, ?_, shadows, ?_, ?_, ?_⟩
  · have asked : ∀ reference ∈ Reference.read? "#1", ∀ p ∈ reference.project.or (some "demo"),
        p = "demo" := by
      rw [read]
      decide
    exact (revisions (some "demo") "#1" asked).trans (by decide +kernel)
  · exact (builds second (by decide)).trans (by decide)
  · exact obscured (some "demo") "#1" ⟨none, 1⟩ read foreign shadows
  · exact (bounded second 1 rfl foreign shadows).trans (by decide)
  · refine (agree (some "demo") "other#1").mpr fun reference mem other shadows => ?_
    obtain rfl : ⟨some "other", 1⟩ = reference := Option.some.inj (read'.symm.trans mem)
    obtain rfl : foreign = other := Option.some.inj ((by decide : some foreign = _).trans shadows.first)
    exact ⟨foreign, by decide, rfl⟩

-- The only build 1 is of another project than the text names. Where there are two, the bound is the one
-- that was added first.
theorem lookups_disagree :
    let id := CommitId.mk
    let first : Build := ⟨"demo", 1, id "a1", none⟩
    let second : Build := ⟨"demo", 2, id "d4", some 1⟩
    let foreign : Build := ⟨"other", 1, id "c3", none⟩
    let commits := (((empty.addCommit (id "a1") []).addCommit (id "b2") [2]).addCommit (id "c3")
      [3]).addCommit (id "d4") [4]
    let own := commits.addBuild first
    let shared := ((commits.addBuild foreign).addBuild first).addBuild second
    own.resolver.commit none ⟨.build, "other#1"⟩ = some (id "a1") ∧
      Reference.read? "other#1" = some ⟨some "other", 1⟩ ∧
      own.resolver.build none ⟨some "other", 1⟩ = none ∧
      own.referredCommit? none "other#1" = none ∧
      shared.previousCommit? second = some (id "c3") ∧
      shared.resolver.build (some "demo") ⟨none, 1⟩ = some first ∧
      shared.relations.fixedInBuild second = [4] ∧
      shared.fixedSince (some first.commit) second = [2, 3, 4] := by
  decide +kernel

end TrackerQuery.Repository
