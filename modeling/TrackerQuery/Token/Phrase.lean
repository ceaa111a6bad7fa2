import TrackerQuery.Text.Letter
import TrackerQuery.Token

namespace TrackerQuery.Token

open TrackerQuery.Text

structure Phrase where
  first : String
  more : List String
  kind : Kind
deriving DecidableEq, Repr

-- A phrase stands before every one that it extends, so the first that matches is the longest.
def phrases : List Phrase := [
  ⟨"fixed", ["in", "current", "build"], .operator .fixedInCurrentBuild⟩,
  ⟨"is", ["greater", "than"], .operator .isGreaterThan⟩,
  ⟨"is", ["less", "than"], .operator .isLessThan⟩,
  ⟨"submitted", ["by", "me"], .operator .submittedByMe⟩,
  ⟨"fixed", ["in", "build"], .operator .fixedInBuild⟩,
  ⟨"owned", ["by", "me"], .operator .ownedByMe⟩,
  ⟨"is", ["before"], .operator .isBefore⟩,
  ⟨"is", ["after"], .operator .isAfter⟩,
  ⟨"is", ["empty"], .operator .isEmpty⟩,
  ⟨"is", ["not"], .operator .isNot⟩,
  ⟨"is", ["me"], .operator .isMe⟩,
  ⟨"is", ["current"], .operator .isCurrent⟩,
  ⟨"is", ["previous"], .operator .isPrevious⟩,
  ⟨"submitted", ["by"], .operator .submittedBy⟩,
  ⟨"fixed", ["between"], .operator .fixedBetween⟩,
  ⟨"includes", ["commit"], .operator .includesCommit⟩,
  ⟨"owned", ["by"], .operator .ownedBy⟩,
  ⟨"order", ["by"], .orderBy⟩,
  ⟨"is", [], .operator .is⟩,
  ⟨"contains", [], .operator .contains⟩,
  ⟨"open", [], .operator .isOpen⟩,
  ⟨"merged", [], .operator .isMerged⟩,
  ⟨"discarded", [], .operator .isDiscarded⟩,
  ⟨"and", [], .and⟩,
  ⟨"or", [], .or⟩,
  ⟨"not", [], .not⟩,
  ⟨"asc", [], .asc⟩,
  ⟨"desc", [], .desc⟩,
  ⟨"branch", [], .revision .branch⟩,
  ⟨"tag", [], .revision .tag⟩,
  ⟨"commit", [], .revision .commit⟩,
  ⟨"build", [], .revision .build⟩]

def afterWord (word cs : List Char) : Option (List Char) :=
  if word.isPrefixOf cs && !(cs.drop word.length).head?.any isWordChar then
    some (cs.drop word.length)
  else none

def readMore : List String → List Char → Option (List Char × List Char)
  | [], cs => some ([], cs)
  | word :: more, cs =>
    let gap := cs.takeWhile isBlank
    if gap.isEmpty then none
    else do
      let rest ← afterWord word.toList (cs.dropWhile isBlank)
      let (taken, rest) ← readMore more rest
      some (gap ++ word.toList ++ taken, rest)

def Phrase.read (p : Phrase) (cs : List Char) : Option (List Char × List Char) := do
  let rest ← afterWord p.first.toList cs
  let (taken, rest) ← readMore p.more rest
  some (p.first.toList ++ taken, rest)

theorem append_of_afterWord {word cs rest : List Char} (h : afterWord word cs = some rest) :
    word ++ rest = cs := by
  simp only [afterWord] at h
  split at h <;> rename_i hw
  · simp only [Bool.and_eq_true, List.isPrefixOf_iff_prefix] at hw
    obtain ⟨t, rfl⟩ := hw.1
    simpa using h.symm
  · contradiction

theorem append_of_readMore {more : List String} {cs taken rest : List Char}
    (h : readMore more cs = some (taken, rest)) : taken ++ rest = cs := by
  induction more generalizing cs taken rest with
  | nil => simp_all [readMore]
  | cons w more ih =>
    simp only [readMore, Option.bind_eq_bind] at h
    split at h
    · contradiction
    · obtain ⟨r, hr, h⟩ := Option.bind_eq_some_iff.1 h
      obtain ⟨⟨t, r'⟩, hm, h⟩ := Option.bind_eq_some_iff.1 h
      obtain ⟨rfl, rfl⟩ := Prod.mk.inj (Option.some.inj h)
      rw [List.append_assoc, ih hm, List.append_assoc, append_of_afterWord hr,
        List.takeWhile_append_dropWhile]

theorem Phrase.append_of_read {p : Phrase} {cs taken rest : List Char}
    (h : p.read cs = some (taken, rest)) : taken ++ rest = cs := by
  obtain ⟨r, hr, h⟩ := Option.bind_eq_some_iff.1 h
  obtain ⟨⟨t, r'⟩, hm, h⟩ := Option.bind_eq_some_iff.1 h
  obtain ⟨rfl, rfl⟩ := Prod.mk.inj (Option.some.inj h)
  rw [List.append_assoc, append_of_readMore hm, append_of_afterWord hr]

end TrackerQuery.Token
