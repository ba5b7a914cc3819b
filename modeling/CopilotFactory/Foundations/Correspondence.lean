import Mathlib.Logic.Function.Basic

/-!
# Claims that correspond to values

Each of some claimants claims at most one key, together with the value that it
takes the key to have; and each key has at most one value.  Claims and values
correspond when the values are exactly what is claimed, each by one claimant.
-/

namespace CopilotFactory
namespace Foundations

variable {ι κ β : Type}

structure Corresponds (claims : ι -> Option (κ × β)) (value : κ -> Option β) : Prop where
  agrees : forall i k b, claims i = some (k, b) -> value k = some b
  claimed : forall k b, value k = some b -> exists i, claims i = some (k, b)
  unique : forall i j k b, claims i = some (k, b) -> claims j = some (k, b) -> i = j

namespace Corresponds

theorem empty : Corresponds (fun _ : ι => none) (fun _ : κ => (none : Option β)) where
  agrees := fun _ _ _ h => nomatch h
  claimed := fun _ _ h => nomatch h
  unique := fun _ _ _ _ h => nomatch h

variable {claims : ι -> Option (κ × β)} {value : κ -> Option β} {i : ι} {k : κ} {b : β}

theorem claims_eq (h : Corresponds claims value) (hi : claims i = some (k, b)) :
    claims i = (value k).map (fun b => (k, b)) := by
  rw [h.agrees i k b hi]
  exact hi

theorem not_claimed (h : Corresponds claims value) (hk : value k = none) (i : ι) (b : β) :
    claims i ≠ some (k, b) := by
  intro hi
  rw [h.agrees i k b hi] at hk
  cases hk

variable [DecidableEq ι]

theorem withdrawn (h : Corresponds claims value) (hi : claims i = some (k, b)) (j : ι)
    (b' : β) :
    Function.update claims i none j ≠ some (k, b') := by
  intro hj
  by_cases hji : j = i
  · rw [hji, Function.update_self] at hj
    cases hj
  · rw [Function.update_of_ne hji] at hj
    have hvalue := h.agrees i k b hi
    rw [h.agrees j k b' hj] at hvalue
    cases hvalue
    exact hji (h.unique j i k b hj hi)

variable [DecidableEq κ]

theorem update (h : Corresponds claims value)
    (hi : claims i = (value k).map (fun b => (k, b))) (o : Option β) :
    Corresponds (Function.update claims i (o.map (fun b => (k, b))))
      (Function.update value k o) := by
  have claimant_of_key : forall j b, claims j = some (k, b) -> j = i := by
    intro j b hj
    apply h.unique j i k b hj
    rw [hi, h.agrees j k b hj]
    rfl
  have key_of_claimant : forall k' b, claims i = some (k', b) -> k' = k := by
    intro k' b hclaim
    rw [hi] at hclaim
    rcases Option.map_eq_some_iff.mp hclaim with ⟨_, _, hpair⟩
    exact (congrArg Prod.fst hpair).symm
  have key_of_updated : forall k' b, o.map (fun b => (k, b)) = some (k', b) ->
      k' = k ∧ o = some b := by
    intro k' b hclaim
    rcases Option.map_eq_some_iff.mp hclaim with ⟨b', ho, hpair⟩
    cases hpair
    exact ⟨rfl, ho⟩
  constructor
  · intro j k' b hj
    by_cases hji : j = i
    · rw [hji, Function.update_self] at hj
      rcases key_of_updated k' b hj with ⟨hk', ho⟩
      rw [hk', Function.update_self, ho]
    · rw [Function.update_of_ne hji] at hj
      have hk' : k' ≠ k := by
        intro hsame
        rw [hsame] at hj
        exact hji (claimant_of_key j b hj)
      rw [Function.update_of_ne hk']
      exact h.agrees j k' b hj
  · intro k' b hvalue
    by_cases hk' : k' = k
    · rw [hk', Function.update_self] at hvalue
      refine ⟨i, ?_⟩
      rw [Function.update_self, hvalue, hk']
      rfl
    · rw [Function.update_of_ne hk'] at hvalue
      rcases h.claimed k' b hvalue with ⟨j, hj⟩
      refine ⟨j, ?_⟩
      rw [Function.update_of_ne]
      · exact hj
      · intro hji
        rw [hji] at hj
        exact hk' (key_of_claimant k' b hj)
  · intro j j' k' b hj hj'
    by_cases hji : j = i
    · rw [hji, Function.update_self] at hj
      by_cases hji' : j' = i
      · rw [hji, hji']
      · rw [Function.update_of_ne hji', (key_of_updated k' b hj).1] at hj'
        exact absurd (claimant_of_key j' b hj') hji'
    · rw [Function.update_of_ne hji] at hj
      by_cases hji' : j' = i
      · rw [hji', Function.update_self] at hj'
        rw [(key_of_updated k' b hj').1] at hj
        exact absurd (claimant_of_key j b hj) hji
      · rw [Function.update_of_ne hji'] at hj'
        exact h.unique j j' k' b hj hj'

end Corresponds

end Foundations
end CopilotFactory
