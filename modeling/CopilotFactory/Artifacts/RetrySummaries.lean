import CopilotFactory.Artifacts.SummarizationService

/-!
# Retry summaries

The reductions come in their order and go as far as needed.  But the text is measured with
a character count of 0, and what is stored has the count itself in the place of the 0: the
count is never the length of the stored text, and the limit may be exceeded.
-/

namespace CopilotFactory
namespace Artifacts

open Foundations
open JsonText

/-!
## The count in the text
-/

theorem exists_around_count (summary : RetrySummary) :
    exists before after, before ≠ [] ∧ forall count,
      ({ summary with characterCount := count } : RetrySummary).serialized =
        unitsOf before ++ (unitsOf (decimal count) ++ unitsOf after) := by
  rcases indented_concat 0 summary.entries (literally "characterCount") with
    ⟨before, after, hne, htext⟩
  refine ⟨before, after, hne, ?_⟩
  intro count
  have h := htext (.number count)
  rw [indented] at h
  unfold RetrySummary.serialized RetrySummary.toJson
  rw [← unitsOf_append, ← unitsOf_append, ← h]
  rfl

/-- A summary that is counted is longer than its count by all digits of the count but one. -/
theorem length_counted {summary : RetrySummary} (h : summary.characterCount = 0) :
    (counted summary).serialized.length =
      (counted summary).characterCount + Nat.log 10 (counted summary).characterCount := by
  rcases exists_around_count summary with ⟨before, after, hne, htext⟩
  have hzero := htext 0
  have hsame : ({ summary with characterCount := 0 } : RetrySummary) = summary := by
    rw [← h]
  rw [hsame] at hzero
  have hone : (unitsOf (decimal 0)).length = 1 := by decide
  have hlength := congrArg List.length hzero
  rw [List.length_append, List.length_append, hone] at hlength
  have hcount : (counted summary).characterCount = summary.serialized.length := rfl
  have hpos : (counted summary).characterCount ≠ 0 := by
    rw [hcount]
    omega
  have hstored := congrArg List.length (htext (counted summary).characterCount)
  have hcounted : ({ summary with characterCount := (counted summary).characterCount } :
      RetrySummary) = counted summary := rfl
  rw [hcounted, List.length_append, List.length_append, length_unitsOf_decimal hpos] at hstored
  rw [hstored]
  omega

theorem ten_le_serialized (summary : RetrySummary) : 10 ≤ summary.serialized.length := by
  have hmem : (literally "summary_type", JsonTree.string (literally "retry_summary")) ∈
      summary.entries ++ [(literally "characterCount", .number summary.characterCount)] :=
    List.mem_cons_self
  have hinfix := length_unitsOf_within (@indented_around 0 _ _ _ hmem)
  have hlength : 10 ≤ (unitsOf (indented 1 (.string (literally "retry_summary")))).length := by
    rw [indented]
    decide
  exact hlength.trans hinfix

/-!
## The reductions
-/

theorem rounds_keep {round : RetrySummary -> Option RetrySummary} (h : round ∈ rounds)
    {current reduced : RetrySummary} (hround : round current = some reduced) :
    reduced.characterCount = current.characterCount ∧ reduced.taskId = current.taskId := by
  unfold rounds at h
  simp only [List.mem_cons, List.not_mem_nil, or_false] at h
  rcases h with h | h | h | h | h | h
  all_goals
    rw [h] at hround
    dsimp only at hround
  all_goals first
    | (split at hround
       · cases hround
         exact ⟨rfl, rfl⟩
       · cases hround)
    | (cases hround
       exact ⟨rfl, rfl⟩)

theorem enforceCharacterLimit_eq (summary : RetrySummary) :
    exists reduced, Rounds.ReducedAsNeeded fitsLimit rounds summary reduced ∧
      reduced.characterCount = summary.characterCount ∧ reduced.taskId = summary.taskId ∧
      enforceCharacterLimit summary = counted reduced := by
  unfold enforceCharacterLimit
  by_cases hfits : fitsLimit summary = true
  · rw [if_pos hfits]
    exact ⟨summary, Rounds.reducedAsNeeded_of_fits hfits, rfl, rfl, rfl⟩
  · rw [if_neg hfits]
    have hkeeps := @Rounds.reduceInRounds_keeps _ fitsLimit
      (fun current => current.characterCount = summary.characterCount ∧
        current.taskId = summary.taskId) rounds summary
      (by
        intro round hround current reduced hcurrent hreduced
        rcases rounds_keep hround hreduced with ⟨hcount, htask⟩
        exact ⟨hcount.trans hcurrent.1, htask.trans hcurrent.2⟩) ⟨rfl, rfl⟩
    exact ⟨_, Rounds.reduceInRounds_asNeeded rounds (by simpa using hfits), hkeeps.1, hkeeps.2,
      rfl⟩

/-!
## What is stored
-/

section

variable {ε : Type} (sort : List SummaryValidation -> List SummaryValidation)
variable (params : GenerateRetrySummaryParams) (generatedAt : Units)
variable (runInfoRead : Except ε (Option FailedRunInfo))
variable (partialWorkRead : Except ε (Option PartialWorkSnapshot))

/-- The stored text keeps to the limit, its length is the character count, and the summary
is reduced round by round only as far as needed. -/
structure BoundedAndCounted : Prop where
  bounded : (storeRequest sort params generatedAt runInfoRead partialWorkRead).content.length ≤
    summaryCharacterLimit
  counted : (retrySummary sort params generatedAt runInfoRead partialWorkRead).characterCount =
    (storeRequest sort params generatedAt runInfoRead partialWorkRead).content.length
  reduced : exists reduced,
    Rounds.ReducedAsNeeded fitsLimit rounds
      (assembledSummary sort params generatedAt (safeAsync runInfoRead) (safeAsync partialWorkRead))
      reduced ∧
    retrySummary sort params generatedAt runInfoRead partialWorkRead = Artifacts.counted reduced

variable {sort params generatedAt runInfoRead partialWorkRead}

theorem length_content :
    (storeRequest sort params generatedAt runInfoRead partialWorkRead).content.length =
      (retrySummary sort params generatedAt runInfoRead partialWorkRead).characterCount +
        Nat.log 10
          (retrySummary sort params generatedAt runInfoRead partialWorkRead).characterCount := by
  rcases enforceCharacterLimit_eq (assembledSummary sort params generatedAt (safeAsync runInfoRead)
    (safeAsync partialWorkRead)) with ⟨reduced, _, hcount, _, heq⟩
  have hlength := length_counted (hcount.trans rfl)
  rw [← heq] at hlength
  exact hlength

theorem ten_le_characterCount :
    10 ≤ (retrySummary sort params generatedAt runInfoRead partialWorkRead).characterCount := by
  rcases enforceCharacterLimit_eq (assembledSummary sort params generatedAt (safeAsync runInfoRead)
    (safeAsync partialWorkRead)) with ⟨reduced, _, _, _, heq⟩
  unfold retrySummary
  rw [heq]
  exact ten_le_serialized reduced

theorem characterCount_lt_length :
    (retrySummary sort params generatedAt runInfoRead partialWorkRead).characterCount <
      (storeRequest sort params generatedAt runInfoRead partialWorkRead).content.length := by
  have hlog : 0 <
      Nat.log 10
        (retrySummary sort params generatedAt runInfoRead partialWorkRead).characterCount :=
    Nat.log_pos (by decide) ten_le_characterCount
  rw [length_content]
  omega

/-- The stored text keeps to the limit exactly if the count leaves room for its own digits. -/
theorem content_bounded_iff :
    (storeRequest sort params generatedAt runInfoRead partialWorkRead).content.length ≤
        summaryCharacterLimit <->
      (retrySummary sort params generatedAt runInfoRead partialWorkRead).characterCount ≤
        1997 := by
  rw [length_content]
  generalize (retrySummary sort params generatedAt runInfoRead partialWorkRead).characterCount =
    count
  unfold summaryCharacterLimit
  constructor
  · intro h
    by_contra hmore
    have hlog : 3 ≤ Nat.log 10 count := Nat.le_log_of_pow_le (by decide) (by omega)
    omega
  · intro h
    have hlog : Nat.log 10 count < 4 := Nat.log_lt_of_lt_pow' (by decide) (by omega)
    omega

end

/-- The character count is wrong for every failed run. -/
theorem not_boundedAndCounted {ε : Type}
    (sort : List SummaryValidation -> List SummaryValidation)
    (params : GenerateRetrySummaryParams) (generatedAt : Units)
    (runInfoRead : Except ε (Option FailedRunInfo))
    (partialWorkRead : Except ε (Option PartialWorkSnapshot)) :
    ¬ BoundedAndCounted sort params generatedAt runInfoRead partialWorkRead := by
  intro h
  have hlt := @characterCount_lt_length ε sort params generatedAt runInfoRead partialWorkRead
  rw [h.counted] at hlt
  exact Nat.lt_irrefl _ hlt

/-- A first attempt of which nothing could be read. -/
theorem not_boundedAndCounted_of_nothing :
    ¬ @BoundedAndCounted Unit id
      { taskId := literally "task", repoId := literally "repo", failedRunId := literally "run"
        attemptNumber := 1 }
      (literally "2025-01-01T00:00:00.000Z") (.error ()) (.error ()) := by
  intro h
  exact Nat.ne_of_lt characterCount_lt_length h.counted

end Artifacts
end CopilotFactory
