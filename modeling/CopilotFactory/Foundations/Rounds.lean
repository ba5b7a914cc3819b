import Mathlib.Data.List.Basic

/-!
# Reductions in rounds

Something too large is reduced round by round until it fits.  A round may have nothing to
reduce, and then it is left out.
-/

namespace CopilotFactory
namespace Foundations
namespace Rounds

variable {α : Type} (fits : α -> Bool)

/-- The first round after which it fits is the last one. -/
def reduceInRounds : List (α -> Option α) -> α -> α
  | [], current => current
  | round :: rest, current =>
      match round current with
      | none => reduceInRounds rest current
      | some reduced => if fits reduced then reduced else reduceInRounds rest reduced

def applyRound (current : α) (round : α -> Option α) : α :=
  (round current).getD current

def afterRounds (rounds : List (α -> Option α)) (start : α) : α :=
  rounds.foldl applyRound start

/-- As many of the rounds are applied, in their order, as are needed to make it fit, and no
more. -/
def ReducedAsNeeded (rounds : List (α -> Option α)) (start result : α) : Prop :=
  exists k, k ≤ rounds.length ∧ result = afterRounds (rounds.take k) start ∧
    (forall j, j < k -> fits (afterRounds (rounds.take j) start) = false) ∧
    (k < rounds.length -> fits result = true)

variable {fits}

theorem ReducedAsNeeded.cons {round : α -> Option α} {rest : List (α -> Option α)}
    {start result : α} (h : ReducedAsNeeded fits rest (applyRound start round) result)
    (hstart : fits start = false) : ReducedAsNeeded fits (round :: rest) start result := by
  rcases h with ⟨k, hk, hresult, hbefore, hfits⟩
  refine ⟨k + 1, Nat.succ_le_succ hk, hresult, ?_, ?_⟩
  · intro j hj
    cases j with
    | zero =>
        exact hstart
    | succ j =>
        exact hbefore j (Nat.lt_of_succ_lt_succ hj)
  · intro hlt
    exact hfits (Nat.lt_of_succ_lt_succ hlt)

theorem reducedAsNeeded_of_fits {rounds : List (α -> Option α)} {start : α}
    (h : fits start = true) : ReducedAsNeeded fits rounds start start := by
  refine ⟨0, Nat.zero_le _, rfl, ?_, fun _ => h⟩
  intro j hj
  exact absurd hj (Nat.not_lt_zero j)

theorem reduceInRounds_asNeeded (rounds : List (α -> Option α)) {start : α}
    (h : fits start = false) :
    ReducedAsNeeded fits rounds start (reduceInRounds fits rounds start) := by
  induction rounds generalizing start with
  | nil =>
      refine ⟨0, Nat.zero_le _, rfl, ?_, ?_⟩
      · intro j hj
        exact absurd hj (Nat.not_lt_zero j)
      · intro hlt
        exact absurd hlt (Nat.lt_irrefl 0)
  | cons round rest ih =>
      unfold reduceInRounds
      cases hround : round start with
      | none =>
          have hsame : applyRound start round = start := by
            rw [applyRound, hround]
            rfl
          apply ReducedAsNeeded.cons _ h
          rw [hsame]
          exact ih h
      | some reduced =>
          have hnext : applyRound start round = reduced := by
            rw [applyRound, hround]
            rfl
          apply ReducedAsNeeded.cons _ h
          rw [hnext]
          dsimp only
          by_cases hfits : fits reduced = true
          · rw [if_pos hfits]
            exact reducedAsNeeded_of_fits hfits
          · rw [if_neg hfits]
            exact ih (by simpa using hfits)

/-- What every round keeps is kept by all of them together. -/
theorem reduceInRounds_keeps {P : α -> Prop} {rounds : List (α -> Option α)} {start : α}
    (hrounds : forall round, round ∈ rounds -> forall current reduced, P current ->
      round current = some reduced -> P reduced)
    (hstart : P start) : P (reduceInRounds fits rounds start) := by
  induction rounds generalizing start with
  | nil =>
      exact hstart
  | cons round rest ih =>
      have hrest := fun r hr => hrounds r (List.mem_cons_of_mem round hr)
      unfold reduceInRounds
      cases hround : round start with
      | none =>
          exact ih hrest hstart
      | some reduced =>
          have hreduced := hrounds round List.mem_cons_self start reduced hstart hround
          dsimp only
          split
          · exact hreduced
          · exact ih hrest hreduced

end Rounds
end Foundations
end CopilotFactory
