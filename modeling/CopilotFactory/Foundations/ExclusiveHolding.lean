import Mathlib.Logic.Function.Basic

/-!
# Exclusive holdings

Holders acquire resources and release them.  A holding records its resource and
whether it is still active.  A resource may be acquired only under a new holding
and only while nothing holds it.  Two facts follow for every sequence of steps:
no resource has two active holdings, and a released holding stays released.
-/

namespace CopilotFactory
namespace Foundations

/-- For each holding ever made, its resource and whether it is active. -/
abbrev Holdings (H R : Type) := H -> Option (R × Bool)

namespace Holdings

variable {H R : Type} [DecidableEq H]

def Free (σ : Holdings H R) (r : R) : Prop :=
  forall h, σ h ≠ some (r, true)

inductive Step : Holdings H R -> Holdings H R -> Prop where
  | keep (σ : Holdings H R) : Step σ σ
  | acquire (σ : Holdings H R) (h : H) (r : R) (hnew : σ h = none) (hfree : σ.Free r) :
      Step σ (Function.update σ h (some (r, true)))
  | release (σ : Holdings H R) (h : H) (r : R) (hheld : σ h = some (r, true)) :
      Step σ (Function.update σ h (some (r, false)))

def Exclusive (σ : Holdings H R) : Prop :=
  forall h h' r, σ h = some (r, true) -> σ h' = some (r, true) -> h = h'

theorem Exclusive.step {σ σ' : Holdings H R} (hσ : σ.Exclusive) (hstep : Step σ σ') :
    σ'.Exclusive := by
  cases hstep with
  | keep =>
      exact hσ
  | acquire h r hnew hfree =>
      intro h₁ h₂ r' h₁held h₂held
      by_cases e₁ : h₁ = h
      · by_cases e₂ : h₂ = h
        · rw [e₁, e₂]
        · rw [e₁, Function.update_self] at h₁held
          cases h₁held
          rw [Function.update_of_ne e₂] at h₂held
          exact absurd h₂held (hfree h₂)
      · rw [Function.update_of_ne e₁] at h₁held
        by_cases e₂ : h₂ = h
        · rw [e₂, Function.update_self] at h₂held
          cases h₂held
          exact absurd h₁held (hfree h₁)
        · rw [Function.update_of_ne e₂] at h₂held
          exact hσ h₁ h₂ r' h₁held h₂held
  | release h r hheld =>
      intro h₁ h₂ r' h₁held h₂held
      have active_of_updated : forall h', Function.update σ h (some (r, false)) h' =
          some (r', true) -> σ h' = some (r', true) := by
        intro h' hactive
        by_cases e : h' = h
        · rw [e, Function.update_self] at hactive
          cases hactive
        · rwa [Function.update_of_ne e] at hactive
      exact hσ h₁ h₂ r' (active_of_updated h₁ h₁held) (active_of_updated h₂ h₂held)

/-- A released holding keeps its resource and stays released. -/
theorem Step.released {σ σ' : Holdings H R} (hstep : Step σ σ') {h : H} {r : R}
    (hreleased : σ h = some (r, false)) :
    σ' h = some (r, false) := by
  cases hstep with
  | keep =>
      exact hreleased
  | acquire h' r' hnew hfree =>
      have hne : h ≠ h' := by
        intro e
        rw [e, hnew] at hreleased
        cases hreleased
      rw [Function.update_of_ne hne]
      exact hreleased
  | release h' r' hheld =>
      have hne : h ≠ h' := by
        intro e
        rw [e, hheld] at hreleased
        cases hreleased
      rw [Function.update_of_ne hne]
      exact hreleased

end Holdings

end Foundations
end CopilotFactory
