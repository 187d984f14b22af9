import ScriptLint.Proofs.Suggestion.Ranking

/-!
# Suggestions are the best candidates

A candidate is suggested by its name alone: a name that repeats is one candidate, and names that
differ in case only are several, scored alike.  The suggestions are the beginning of the ranking of
all candidates that reach the threshold, so a greater limit goes on with the same ranking, and a
higher threshold takes the candidates below it out of the ranking and leaves the others in place.
-/

namespace ScriptLint

open Text

/-- The score of a name that is compared with a query. -/
def Similarity.score (α : Type) [NatCast α] [Add α] [Sub α] [Div α] [LE α] [DecidableLE α]
    (query name : String) : α :=
  ofLower α (lower name.toList) (lower query.toList)

variable {α : Type} [NatCast α] [Add α] [Sub α] [Div α] [LE α] [DecidableLE α]

/-- The candidates other than the query that reach a threshold. -/
def namesReaching (candidates : List String) (query : String) (threshold : α) : Finset String :=
  candidates.toFinset.filter fun name => name ≠ query ∧ threshold ≤ Similarity.score α query name

theorem namesReaching_of_le {numbers : Set α} (comparable : ComparesTotally numbers)
    {candidates : List String} {query : String} {threshold higher : α}
    (scores : ∀ name ∈ candidates, name ≠ query → Similarity.score α query name ∈ numbers)
    (thresholdMem : threshold ∈ numbers) (higherMem : higher ∈ numbers)
    (above : threshold ≤ higher) :
    namesReaching candidates query higher = (namesReaching candidates query threshold).filter
      fun name => decide (higher ≤ Similarity.score α query name) := by
  ext name
  simp only [namesReaching, Finset.mem_filter, List.mem_toFinset, decide_eq_true_eq]
  constructor
  · rintro ⟨member, other, reaches⟩
    have lower := comparable.trans _ thresholdMem _ higherMem _ (scores name member other) above
      reaches
    exact ⟨⟨member, other, lower⟩, reaches⟩
  · rintro ⟨⟨member, other, -⟩, reaches⟩
    exact ⟨member, other, reaches⟩

/-- Suggestions come from one ranking, whatever the limit. -/
theorem exists_ranks_suggest {numbers : Set α} (comparable : ComparesTotally numbers)
    {candidates : List String} {query : String} (threshold : α)
    (scores : ∀ name ∈ candidates, name ≠ query → Similarity.score α query name ∈ numbers) :
    ∃ ranked,
      Suggestion.Ranks (namesReaching candidates query threshold) (Similarity.score α query) ranked ∧
        ∀ limit, suggest candidates query limit threshold = ranked.take limit := by
  let reaching := (candidates.filter fun name => name != query).filter fun name =>
    threshold ≤ Similarity.score α query name
  have ranks := Suggestion.ranks_dropRepeats comparable (Similarity.score α query) reaching (by
    intro name member
    simp only [reaching, List.mem_filter, bne_iff_ne] at member
    exact scores name member.1.1 member.1.2)
  have sameNames : reaching.toFinset = namesReaching candidates query threshold := by
    ext name
    simp [reaching, namesReaching, and_comm]
  rw [sameNames] at ranks
  refine ⟨_, ranks, fun limit => ?_⟩
  rw [suggest, Suggestion.best, List.filter_map]
  rfl

theorem score_of_mem_suggest {numbers : Set α} (comparable : ComparesTotally numbers)
    {candidates : List String} {query : String} {limit : Nat} {threshold : α}
    (scores : ∀ name ∈ candidates, name ≠ query → Similarity.score α query name ∈ numbers)
    {suggestion : Suggestion α} (found : suggestion ∈ suggest candidates query limit threshold) :
    suggestion.score = Similarity.score α query suggestion.name := by
  obtain ⟨ranked, ranks, taken⟩ := exists_ranks_suggest comparable threshold scores
  rw [taken] at found
  exact ((ranks.mem_iff suggestion).mp (List.mem_of_mem_take found)).2

/-- With room for all candidates, those that reach the threshold are suggested. -/
theorem mem_suggest_iff {numbers : Set α} (comparable : ComparesTotally numbers)
    {candidates : List String} {query : String} {limit : Nat} (threshold : α)
    (scores : ∀ name ∈ candidates, name ≠ query → Similarity.score α query name ∈ numbers)
    (room : candidates.length ≤ limit) (suggestion : Suggestion α) :
    suggestion ∈ suggest candidates query limit threshold ↔
      suggestion.name ∈ namesReaching candidates query threshold ∧
        suggestion.score = Similarity.score α query suggestion.name := by
  obtain ⟨ranked, ranks, taken⟩ := exists_ranks_suggest comparable threshold scores
  have whole : ranked.length ≤ limit := by
    rw [ranks.length_eq]
    exact ((Finset.card_filter_le _ _).trans (List.toFinset_card_le candidates)).trans room
  rw [taken, List.take_of_length_le whole, ranks.mem_iff]

/-- Suggestions are the best of the candidates that reach the threshold.  They depend on which names
are candidates only, a greater limit adds to their end, and a higher threshold takes those below it
out, as long as the limit has left none out. -/
theorem suggest_lists_best {numbers : Set α} (comparable : ComparesTotally numbers)
    (candidates : List String) (query : String) (limit : Nat) (threshold : α)
    (scores : ∀ name ∈ candidates, name ≠ query → Similarity.score α query name ∈ numbers)
    (thresholdMem : threshold ∈ numbers) :
    Suggestion.ListsBest (namesReaching candidates query threshold) (Similarity.score α query) limit
        (suggest candidates query limit threshold) ∧
      (∀ others : List String, (∀ name, name ∈ others ↔ name ∈ candidates) →
        suggest others query limit threshold = suggest candidates query limit threshold) ∧
      (∀ more, limit ≤ more →
        suggest candidates query limit threshold <+: suggest candidates query more threshold) ∧
      ∀ higher ∈ numbers, threshold ≤ higher →
        (namesReaching candidates query threshold).card ≤ limit →
        suggest candidates query limit higher =
          (suggest candidates query limit threshold).filter fun suggestion =>
            higher ≤ suggestion.score := by
  obtain ⟨ranked, ranks, found⟩ := exists_ranks_suggest comparable threshold scores
  refine ⟨?_, ?_, ?_, ?_⟩
  · rw [found]
    exact ranks.listsBest_take limit
  · intro others sameNames
    obtain ⟨othersRanked, othersRank, othersFound⟩ := exists_ranks_suggest comparable threshold
      fun name member => scores name ((sameNames name).mp member)
    have sameReaching : namesReaching others query threshold =
        namesReaching candidates query threshold := by
      ext name
      simp [namesReaching, sameNames]
    rw [sameReaching] at othersRank
    rw [found, othersFound, ranks.unique othersRank]
  · intro more notLess
    rw [found, found]
    exact List.take_prefix_take_left notLess
  · intro higher higherMem above enough
    obtain ⟨fewer, fewerRank, fewerFound⟩ := exists_ranks_suggest comparable higher scores
    have kept := ranks.filter fun score => higher ≤ score
    rw [namesReaching_of_le comparable scores thresholdMem higherMem above] at fewerRank
    have whole : ranked.length ≤ limit := by
      rw [ranks.length_eq]
      exact enough
    have part : (ranked.filter fun suggestion => higher ≤ suggestion.score).length ≤ limit :=
      Nat.le_trans (List.length_filter_le _ _) whole
    rw [found, fewerFound, fewerRank.unique kept, List.take_of_length_le part,
      List.take_of_length_le whole]

/-- Spellings of one method, one of them twice, among other names. -/
def spellings : List String :=
  ["SetTexts", "Remove", "SETTEXT", "SetText", "settext", "SetText"]

theorem suggest_lists_best_spellings :
    Suggestion.ListsBest {"SETTEXT", "SetText", "SetTexts"} (Similarity.score Float "settext") 2
        (suggest spellings "settext" 2 (0.5 : Float)) ∧
      suggest (spellings.reverse ++ spellings) "settext" 2 (0.5 : Float) =
        suggest spellings "settext" 2 0.5 := by
  have scores : ∀ name ∈ spellings, name ≠ "settext" →
      (Similarity.score Float "settext" name).isNaN = false := by decide +kernel
  have reaching : namesReaching spellings "settext" (0.5 : Float) =
      {"SETTEXT", "SetText", "SetTexts"} := by decide +kernel
  have thresholdMem : (0.5 : Float).isNaN = false := by decide +kernel
  obtain ⟨best, same, -⟩ := suggest_lists_best comparesTotally_float spellings "settext" 2 0.5
    scores thresholdMem
  rw [reaching] at best
  refine ⟨best, same _ fun name => ?_⟩
  rw [List.mem_append, List.mem_reverse, or_self]

end ScriptLint
