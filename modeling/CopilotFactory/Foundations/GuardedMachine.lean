import Mathlib.Logic.Basic

/-!
# State machines with guarded transitions

A machine lists, for each pair of states it knows, a guard over a context
supplied by the caller.  Validation first rejects the pairs it does not know and
then asks the guard.
-/

namespace CopilotFactory
namespace Foundations

/-- The verdict on a proposed transition, with the reason for a rejection. -/
inductive TransitionResult where
  | valid
  | reject (reason : String)
deriving DecidableEq

/-- A flag that a caller may leave out.  Only an explicit `true` passes a guard. -/
abbrev Flag := Option Bool

/-- The guard that accepts exactly when a flag was supplied as `true`. -/
def requireFlag (flag : Flag) (reason : String) : TransitionResult :=
  if flag ≠ some true then .reject reason else .valid

@[simp] theorem requireFlag_eq_valid {flag : Flag} {reason : String} :
    requireFlag flag reason = .valid <-> flag = some true := by
  by_cases h : flag = some true
  · simp [requireFlag, h]
  · simp [requireFlag, h]

/-- Guards for the transitions a machine knows, with the words for its states. -/
structure GuardedMachine (S Ctx : Type) where
  /-- The word for the kind of machine in its error texts. -/
  subject : String
  label : S -> String
  guard : S -> S -> Option (Ctx -> TransitionResult)
  /-- The states with a transition to themselves. -/
  selfLoop : S -> Bool := fun _ => false

namespace GuardedMachine

variable {S Ctx : Type} [DecidableEq S] (M : GuardedMachine S Ctx)

def validate (current target : S) (context : Ctx) : TransitionResult :=
  if current = target ∧ M.selfLoop current = false then
    .reject s!"Cannot transition from {M.label current} to itself"
  else
    match M.guard current target with
    | some guard => guard context
    | none =>
        .reject (s!"Invalid transition: {M.label current} → {M.label target}" ++
          s!" is not a valid {M.subject} state transition")

variable {M}

theorem guard_of_validate {current target : S} {context : Ctx}
    (h : M.validate current target context = .valid) :
    exists guard, M.guard current target = some guard ∧ guard context = .valid := by
  unfold validate at h
  split at h
  · cases h
  · cases hguard : M.guard current target with
    | none =>
        rw [hguard] at h
        cases h
    | some guard =>
        rw [hguard] at h
        exact ⟨guard, rfl, h⟩

/-- A state without guards to any target accepts no transition in any context. -/
theorem validate_ne_valid_of_no_guard {current : S}
    (h : forall target, M.guard current target = none) (target : S) (context : Ctx) :
    M.validate current target context ≠ .valid := by
  intro hvalid
  rcases guard_of_validate hvalid with ⟨guard, hguard, _⟩
  rw [h target] at hguard
  cases hguard

end GuardedMachine

end Foundations
end CopilotFactory
