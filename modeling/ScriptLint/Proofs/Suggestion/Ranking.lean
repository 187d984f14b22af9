import Mathlib.Data.Finset.Card
import Mathlib.Data.Finset.Dedup
import ScriptLint.Proofs.Suggestion.ComparableScores

/-!
# The best suggestions

A list ranks a set of names when it has each of them once, with its score, better ones first.  A
set of names is ranked in one way only, so the ranking does not depend on the order in which the
names come or on how often they do.  Sorting scored names and dropping repeats ranks them, and
suggestions are the beginning of that ranking: as many as the limit allows, with none left out that
is better than one of them.
-/

namespace ScriptLint

namespace Suggestion

variable {α : Type}

theorem dropRepeats_sublist (scored : List (Suggestion α)) :
    (dropRepeats scored).Sublist scored := by
  induction scored with
  | nil => exact .refl []
  | cons first rest ih =>
      rw [dropRepeats]
      cases kept : dropRepeats rest with
      | nil => exact .cons_cons first (List.nil_sublist rest)
      | cons second later =>
          rw [kept] at ih
          dsimp only
          split_ifs
          · exact .cons_cons first ((List.sublist_cons_self second later).trans ih)
          · exact .cons_cons first ih

theorem mem_map_name_dropRepeats (scored : List (Suggestion α)) (name : String) :
    name ∈ (dropRepeats scored).map Suggestion.name ↔ name ∈ scored.map Suggestion.name := by
  induction scored with
  | nil => rfl
  | cons first rest ih =>
      rw [dropRepeats, List.map_cons, List.mem_cons, ← ih]
      cases kept : dropRepeats rest with
      | nil => simp
      | cons second later =>
          dsimp only
          split_ifs with same <;> simp [same]

theorem eq_of_name_eq {score : String → α} {left right : Suggestion α}
    (sameName : left.name = right.name) (leftScored : left.score = score left.name)
    (rightScored : right.score = score right.name) : left = right := by
  cases left
  cases right
  simp_all

/-- Where names decide the scores, no suggestion is lost. -/
theorem mem_dropRepeats {score : String → α} {scored : List (Suggestion α)}
    (determined : ∀ suggestion ∈ scored, suggestion.score = score suggestion.name)
    (suggestion : Suggestion α) : suggestion ∈ dropRepeats scored ↔ suggestion ∈ scored := by
  have subset := (dropRepeats_sublist scored).subset
  refine ⟨fun member => subset member, fun member => ?_⟩
  obtain ⟨kept, keptMem, sameName⟩ := List.mem_map.mp
    ((mem_map_name_dropRepeats scored _).mpr (List.mem_map_of_mem member))
  have same := eq_of_name_eq sameName (determined kept (subset keptMem)) (determined _ member)
  exact same ▸ keptMem

variable [LE α]

/-- Whether a suggestion is better than another: no lower in score, and earlier by name when it is
no higher either. -/
def IsBetter (left right : Suggestion α) : Prop :=
  right.score ≤ left.score ∧ (left.score ≤ right.score → left.name < right.name)

/-- Whether a list has all of some names, each once and with its score, better ones first. -/
structure Ranks (names : Finset String) (score : String → α) (ranked : List (Suggestion α)) :
    Prop where
  mem_iff : ∀ suggestion, suggestion ∈ ranked ↔
    suggestion.name ∈ names ∧ suggestion.score = score suggestion.name
  ordered : ranked.Pairwise IsBetter

/-- Whether a list has the best of some names: as many as the limit allows, each once and with its
score, better ones first, and all of them better than those that are left out. -/
structure ListsBest (names : Finset String) (score : String → α) (limit : Nat)
    (found : List (Suggestion α)) : Prop where
  length_eq : found.length = min limit names.card
  name_mem : ∀ suggestion ∈ found, suggestion.name ∈ names
  score_eq : ∀ suggestion ∈ found, suggestion.score = score suggestion.name
  nodup : (found.map Suggestion.name).Nodup
  ordered : found.Pairwise IsBetter
  best : ∀ name ∈ names, name ∉ found.map Suggestion.name →
    ∀ suggestion ∈ found, IsBetter suggestion ⟨name, score name⟩

theorem IsBetter.asymm {left right : Suggestion α} (better : IsBetter left right) :
    ¬IsBetter right left := by
  intro worse
  exact String.lt_asymm (better.2 worse.1) (worse.2 better.1)

namespace Ranks

variable {names : Finset String} {score : String → α} {ranked : List (Suggestion α)}

theorem nodup_names (ranks : Ranks names score ranked) :
    (ranked.map Suggestion.name).Nodup := by
  rw [List.Nodup, List.pairwise_map]
  refine ranks.ordered.imp_of_mem fun {left right} leftMem rightMem better same => ?_
  have leftScore := ((ranks.mem_iff left).mp leftMem).2
  have rightScore := ((ranks.mem_iff right).mp rightMem).2
  have scores : right.score = left.score := by rw [leftScore, rightScore, same]
  have earlier := better.2 (scores ▸ better.1)
  exact String.lt_irrefl right.name (same ▸ earlier)

theorem mem_map_name (ranks : Ranks names score ranked) {name : String} :
    name ∈ ranked.map Suggestion.name ↔ name ∈ names := by
  constructor
  · intro listed
    obtain ⟨suggestion, member, rfl⟩ := List.mem_map.mp listed
    exact ((ranks.mem_iff suggestion).mp member).1
  · intro member
    exact List.mem_map.mpr ⟨⟨name, score name⟩, (ranks.mem_iff _).mpr ⟨member, rfl⟩, rfl⟩

theorem length_eq (ranks : Ranks names score ranked) : ranked.length = names.card := by
  have sameNames : (ranked.map Suggestion.name).toFinset = names := by
    ext name
    rw [List.mem_toFinset, ranks.mem_map_name]
  rw [← sameNames, List.toFinset_card_of_nodup ranks.nodup_names, List.length_map]

theorem unique {others : List (Suggestion α)} (ranks : Ranks names score ranked)
    (othersRank : Ranks names score others) : ranked = others := by
  have rearranged : ranked.Perm others := by
    rw [List.perm_ext_iff_of_nodup (List.Nodup.of_map _ ranks.nodup_names)
      (List.Nodup.of_map _ othersRank.nodup_names)]
    intro suggestion
    rw [ranks.mem_iff, othersRank.mem_iff]
  refine rearranged.eq_of_pairwise ?_ ranks.ordered othersRank.ordered
  intro left right _ _ better worse
  exact absurd worse better.asymm

theorem filter (ranks : Ranks names score ranked) (p : α → Bool) :
    Ranks (names.filter fun name => p (score name)) score
      (ranked.filter fun suggestion => p suggestion.score) where
  mem_iff suggestion := by
    rw [List.mem_filter, ranks.mem_iff, Finset.mem_filter]
    constructor
    · rintro ⟨⟨member, scored⟩, kept⟩
      exact ⟨⟨member, scored ▸ kept⟩, scored⟩
    · rintro ⟨⟨member, kept⟩, scored⟩
      exact ⟨⟨member, scored⟩, scored ▸ kept⟩
  ordered := ranks.ordered.filter _

/-- The beginning of a ranking has the best of its names. -/
theorem listsBest_take (ranks : Ranks names score ranked) (limit : Nat) :
    ListsBest names score limit (ranked.take limit) := by
  have divided := List.take_append_drop limit ranked
  have ordered := ranks.ordered
  rw [← divided, List.pairwise_append] at ordered
  have ranked_of_mem : ∀ suggestion ∈ ranked.take limit, suggestion ∈ ranked :=
    fun _ => List.mem_of_mem_take
  refine ⟨?_, ?_, ?_, ?_, ordered.1, ?_⟩
  · rw [List.length_take, ranks.length_eq]
  · intro suggestion member
    exact ((ranks.mem_iff _).mp (ranked_of_mem _ member)).1
  · intro suggestion member
    exact ((ranks.mem_iff _).mp (ranked_of_mem _ member)).2
  · rw [List.map_take]
    exact ranks.nodup_names.sublist (List.take_sublist limit _)
  · intro name member leftOut suggestion listed
    have inRanked : (⟨name, score name⟩ : Suggestion α) ∈ ranked :=
      (ranks.mem_iff _).mpr ⟨member, rfl⟩
    rw [← divided, List.mem_append] at inRanked
    rcases inRanked with inFront | behind
    · exact absurd (List.mem_map_of_mem inFront) leftOut
    · exact ordered.2.2 suggestion listed _ behind

end Ranks

variable [DecidableLE α]

theorem ranksBefore_iff {left right : Suggestion α} :
    left.ranksBefore right ↔
      right.score ≤ left.score ∧ (left.score ≤ right.score → left.name ≤ right.name) := by
  by_cases notHigher : right.score ≤ left.score <;> by_cases notLower : left.score ≤ right.score <;>
    simp [ranksBefore, notHigher, notLower]

/-- To be better is to stand before, and not behind as well. -/
theorem isBetter_iff {left right : Suggestion α} :
    IsBetter left right ↔ left.ranksBefore right ∧ ¬right.ranksBefore left := by
  rw [IsBetter, ranksBefore_iff, ranksBefore_iff]
  grind

theorem isBetter_of_ranksBefore {left right : Suggestion α} (before : left.ranksBefore right)
    (different : left.name ≠ right.name) : IsBetter left right := by
  rw [ranksBefore_iff] at before
  refine ⟨before.1, fun level => String.not_le.mp fun back => different ?_⟩
  exact String.le_antisymm (before.2 level) back

section Comparable

variable {numbers : Set α} (comparable : ComparesTotally numbers)
include comparable

theorem ranksBefore_trans {left middle right : Suggestion α} (leftMem : left.score ∈ numbers)
    (middleMem : middle.score ∈ numbers) (rightMem : right.score ∈ numbers)
    (first : left.ranksBefore middle) (second : middle.ranksBefore right) :
    left.ranksBefore right := by
  rw [ranksBefore_iff] at first second ⊢
  have trans := comparable.trans
  refine ⟨trans _ rightMem _ middleMem _ leftMem second.1 first.1, fun level => ?_⟩
  -- Scores that are level at both ends are level throughout.
  have firstLevel := trans _ leftMem _ rightMem _ middleMem level second.1
  have secondLevel := trans _ middleMem _ leftMem _ rightMem first.1 level
  exact String.le_trans (first.2 firstLevel) (second.2 secondLevel)

theorem ranksBefore_total {left right : Suggestion α} (leftMem : left.score ∈ numbers)
    (rightMem : right.score ∈ numbers) : left.ranksBefore right ∨ right.ranksBefore left := by
  rw [ranksBefore_iff, ranksBefore_iff]
  have scores := comparable.total _ leftMem _ rightMem
  have names := String.le_total left.name right.name
  grind

theorem IsBetter.trans {left middle right : Suggestion α} (leftMem : left.score ∈ numbers)
    (middleMem : middle.score ∈ numbers) (rightMem : right.score ∈ numbers)
    (first : IsBetter left middle) (second : IsBetter middle right) : IsBetter left right := by
  rw [isBetter_iff] at first second ⊢
  refine ⟨ranksBefore_trans comparable leftMem middleMem rightMem first.1 second.1, fun back => ?_⟩
  exact second.2 (ranksBefore_trans comparable rightMem leftMem middleMem back first.1)

/-- Suggestions whose scores compare are put in order. -/
theorem pairwise_mergeSort {scored : List (Suggestion α)}
    (scores : ∀ suggestion ∈ scored, suggestion.score ∈ numbers) :
    (scored.mergeSort ranksBefore).Pairwise fun left right => left.ranksBefore right := by
  -- Standing before is a total order among those suggestions only.
  let inside := scored.attachWith (fun suggestion => suggestion.score ∈ numbers) scores
  let before (left right : {suggestion : Suggestion α // suggestion.score ∈ numbers}) : Bool :=
    left.val.ranksBefore right.val
  have sorted : (inside.mergeSort before).Pairwise fun left right => before left right := by
    apply List.pairwise_mergeSort
    · intro left middle right
      exact ranksBefore_trans comparable left.property middle.property right.property
    · intro left right
      simpa using ranksBefore_total comparable left.property right.property
  have values : (inside.mergeSort before).map Subtype.val = scored.mergeSort ranksBefore := by
    rw [List.map_mergeSort (s := ranksBefore) fun _ _ _ _ => rfl,
      List.attachWith_map_subtype_val]
  rw [← values, List.pairwise_map]
  exact sorted

end Comparable

/-- Of suggestions in order those that are kept are better than all behind them. -/
theorem pairwise_dropRepeats {score : String → α} {scored : List (Suggestion α)} {numbers : Set α}
    (comparable : ComparesTotally numbers)
    (determined : ∀ suggestion ∈ scored, suggestion.score = score suggestion.name)
    (scores : ∀ suggestion ∈ scored, suggestion.score ∈ numbers)
    (sorted : scored.Pairwise fun left right => left.ranksBefore right) :
    (dropRepeats scored).Pairwise IsBetter := by
  induction scored with
  | nil => exact List.Pairwise.nil
  | cons first rest ih =>
      obtain ⟨firstScored, restDetermined⟩ := List.forall_mem_cons.mp determined
      obtain ⟨firstMem, restScores⟩ := List.forall_mem_cons.mp scores
      obtain ⟨firstBefore, restSorted⟩ := List.pairwise_cons.mp sorted
      have ordered := ih restDetermined restScores restSorted
      have inRest := (dropRepeats_sublist rest).subset
      rw [dropRepeats]
      cases kept : dropRepeats rest with
      | nil => exact List.pairwise_singleton _ first
      | cons second later =>
          rw [kept] at ordered inRest
          have secondMem := inRest List.mem_cons_self
          dsimp only
          split_ifs with same
          · rw [eq_of_name_eq same firstScored (restDetermined second secondMem)]
            exact ordered
          · refine List.pairwise_cons.mpr ⟨?_, ordered⟩
            have better := isBetter_of_ranksBefore (firstBefore second secondMem) same
            intro other member
            rcases List.mem_cons.mp member with rfl | inLater
            · exact better
            · exact better.trans comparable firstMem (restScores second secondMem)
                (restScores other (inRest member)) ((List.pairwise_cons.mp ordered).1 other inLater)

theorem ranks_dropRepeats {numbers : Set α} (comparable : ComparesTotally numbers)
    (score : String → α) (names : List String) (scores : ∀ name ∈ names, score name ∈ numbers) :
    Ranks names.toFinset score
      (dropRepeats ((names.map fun name => ⟨name, score name⟩).mergeSort ranksBefore)) := by
  have scoresMem : ∀ suggestion ∈ names.map fun name => (⟨name, score name⟩ : Suggestion α),
      suggestion.score ∈ numbers := by simpa using scores
  have sorted := pairwise_mergeSort comparable scoresMem
  have members : ∀ suggestion : Suggestion α,
      suggestion ∈ (names.map fun name => (⟨name, score name⟩ : Suggestion α)).mergeSort
          ranksBefore ↔
        suggestion.name ∈ names ∧ suggestion.score = score suggestion.name := by
    intro suggestion
    rw [List.mem_mergeSort, List.mem_map]
    constructor
    · rintro ⟨name, member, rfl⟩
      exact ⟨member, rfl⟩
    · rintro ⟨member, scored⟩
      exact ⟨suggestion.name, member, by rw [← scored]⟩
  have determined := fun suggestion listed => ((members suggestion).mp listed).2
  constructor
  · intro suggestion
    rw [mem_dropRepeats determined, members, List.mem_toFinset]
  · refine pairwise_dropRepeats comparable determined ?_ sorted
    intro suggestion listed
    rw [determined suggestion listed]
    exact scores _ ((members suggestion).mp listed).1

end Suggestion

end ScriptLint
