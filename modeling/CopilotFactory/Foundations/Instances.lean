import Mathlib.Logic.Function.Basic

/-!
# Instances of a service

Several instances of a service run side by side.  What they share is changed by
one transaction at a time; what an instance remembers between two of its
transactions is its phase.
-/

namespace CopilotFactory
namespace Foundations

abbrev InstanceId := Nat

/-- A shared state, and the phase of every instance. -/
structure Instances (σ φ : Type) where
  shared : σ
  phase : InstanceId -> φ

namespace Instances

variable {σ φ : Type}

/-- One transaction of an instance, and the phase in which it goes on. -/
def advance (w : Instances σ φ) (pid : InstanceId) (shared : σ) (phase : φ) :
    Instances σ φ where
  shared := shared
  phase := Function.update w.phase pid phase

@[simp] theorem advance_shared (w : Instances σ φ) (pid : InstanceId) (shared : σ)
    (phase : φ) :
    (w.advance pid shared phase).shared = shared :=
  rfl

@[simp] theorem advance_phase_self (w : Instances σ φ) (pid : InstanceId) (shared : σ)
    (phase : φ) :
    (w.advance pid shared phase).phase pid = phase := by
  simp [advance]

theorem advance_phase_of_ne {w : Instances σ φ} {pid other : InstanceId} (shared : σ)
    (phase : φ) (h : other ≠ pid) :
    (w.advance pid shared phase).phase other = w.phase other := by
  simp [advance, h]

theorem forall_advance_phase {P : φ -> Prop} {w : Instances σ φ} {pid : InstanceId}
    (shared : σ) {phase : φ} (hothers : forall other, P (w.phase other)) (hphase : P phase)
    (other : InstanceId) :
    P ((w.advance pid shared phase).phase other) := by
  by_cases hother : other = pid
  · rw [hother, advance_phase_self]
    exact hphase
  · rw [advance_phase_of_ne _ _ hother]
    exact hothers other

theorem advance_self (w : Instances σ φ) (pid : InstanceId) :
    w.advance pid w.shared (w.phase pid) = w := by
  simp [advance]

@[simp] theorem advance_advance (w : Instances σ φ) (pid : InstanceId) (shared shared' : σ)
    (phase phase' : φ) :
    (w.advance pid shared phase).advance pid shared' phase' =
      w.advance pid shared' phase' := by
  unfold advance
  rw [Function.update_idem]

end Instances

end Foundations
end CopilotFactory
