import CopilotFactory.Foundations.ExclusiveHolding
import CopilotFactory.Leasing.Effects

/-!
# One active lease per task

Seen from far enough away, the lease table is a table of exclusive holdings: a
lease holds its task while it is LEASED, STARTING, RUNNING, HEARTBEATING or
COMPLETING.  Every request of the control plane is a step of that protocol, so
its two facts carry over to every run.
-/

namespace CopilotFactory
namespace Leasing

open Foundations
open Domain
open Infrastructure
open ControlPlane

variable {s : Store} {leaseId : LeaseId}

def Active (status : WorkerLeaseStatus) : Prop :=
  status ∈ Store.activeLeaseStatuses

instance (status : WorkerLeaseStatus) : Decidable (Active status) :=
  inferInstanceAs (Decidable (_ ∈ _))

/-- The lease table as a table of holdings. -/
def holdings (s : Store) : Holdings LeaseId TaskId :=
  fun leaseId =>
    (s.findLease leaseId).map (fun lease => (lease.taskId, decide (Active lease.status)))

theorem holdings_eq_some_iff {taskId : TaskId} {b : Bool} :
    holdings s leaseId = some (taskId, b) <->
      exists lease, s.findLease leaseId = some lease ∧ lease.taskId = taskId ∧
        decide (Active lease.status) = b := by
  simp [holdings]

theorem holdings_eq_none_iff : holdings s leaseId = none <-> s.findLease leaseId = none := by
  simp [holdings]

/-!
## No lease is ever IDLE

A lease is created LEASED and no transition leads back to IDLE.  Without this
the map would let an IDLE lease become LEASED while the task has another one.
-/

def NoIdleLease (s : Store) : Prop :=
  forall leaseId lease, s.findLease leaseId = some lease -> lease.status ≠ .idle

theorem target_ne_idle {current target : WorkerLeaseStatus}
    (h : (WorkerLease.transitionGuards current target).isSome = true) :
    target ≠ .idle := by
  intro htarget
  rw [htarget] at h
  cases current <;> cases h

theorem findLease_moved {s' : Store} {lease : TaskLease} {data : TaskLeaseUpdate}
    (hlease : s.findLease leaseId = some lease)
    (h : s'.taskLeases = (s.writeLease leaseId data).taskLeases) (id : LeaseId) :
    s'.findLease id =
      if id = leaseId then some (data.apply lease) else s.findLease id := by
  rw [Store.findLease_of_leases_eq h]
  by_cases hid : id = leaseId
  · rw [hid, Store.findLease_writeLease_self, hlease]
    simp
  · rw [Store.findLease_writeLease_of_ne hid]
    simp [hid]

theorem noIdleLease_preserved :
    controlPlane.Preserves (fun _ => True) NoIdleLease := by
  intro s r s' _ hs h leaseId lease hfind
  cases leaseEffect_of_perform h with
  | unchanged heq =>
      apply hs leaseId lease
      rw [Store.findLease_of_leases_eq heq] at hfind
      exact hfind
  | created new _ _ hstatus hself hother =>
      by_cases hid : leaseId = new.leaseId
      · rw [hid, hself] at hfind
        cases hfind
        rw [hstatus]
        simp
      · rw [hother leaseId hid] at hfind
        exact hs leaseId lease hfind
  | moved id old target data hold hguard hdata _ _ heq =>
      rw [findLease_moved hold heq] at hfind
      by_cases hid : leaseId = id
      · rw [if_pos hid] at hfind
        cases hfind
        rw [TaskLeaseUpdate.apply_status, hdata]
        exact target_ne_idle hguard
      · rw [if_neg hid] at hfind
        exact hs leaseId lease hfind

theorem noIdleLease_empty : NoIdleLease Store.empty := by
  intro leaseId lease h
  cases h

/-!
## Every request is a step of the holding protocol
-/

theorem active_of_active_target {current target : WorkerLeaseStatus}
    (h : (WorkerLease.transitionGuards current target).isSome = true)
    (hidle : current ≠ .idle) (htarget : Active target) :
    Active current := by
  cases current with
  | idle =>
      exact absurd rfl hidle
  | timedOut =>
      cases target <;> first | exact absurd htarget (by decide) | cases h
  | crashed =>
      cases target <;> first | exact absurd htarget (by decide) | cases h
  | reclaimed =>
      cases target <;> cases h
  | _ =>
      decide

theorem free_of_findActive_none {taskId : TaskId} (h : s.findActiveByTaskId taskId = none) :
    (holdings s).Free taskId := by
  intro leaseId hheld
  rcases holdings_eq_some_iff.mp hheld with ⟨lease, hlease, htask, hactive⟩
  have hterminal := Store.findActiveByTaskId_eq_none_iff.mp h lease
    (Store.mem_of_findLease hlease) htask
  rcases (Store.label_mem_terminal_iff lease.status).mp hterminal with e | e | e <;>
    rw [e] at hactive <;> cases hactive

theorem holdings_step {s' : Store} {r : Request} (hidle : NoIdleLease s)
    (h : perform s r = .ok s') : Holdings.Step (holdings s) (holdings s') := by
  cases leaseEffect_of_perform h with
  | unchanged heq =>
      have hsame : holdings s' = holdings s := by
        funext id
        simp [holdings, Store.findLease, heq]
      rw [hsame]
      exact .keep _
  | created lease hnew hfree hstatus hself hother =>
      have hupdate : holdings s' =
          Function.update (holdings s) lease.leaseId (some (lease.taskId, true)) := by
        funext id
        by_cases hid : id = lease.leaseId
        · rw [hid, Function.update_self]
          simp only [holdings, hself, Option.map_some, hstatus]
          rfl
        · rw [Function.update_of_ne hid]
          simp only [holdings, hother id hid]
      rw [hupdate]
      exact .acquire _ _ _ (holdings_eq_none_iff.mpr hnew) (free_of_findActive_none hfree)
  | moved leaseId lease target data hlease hguard hdata _ _ heq =>
      have hupdate : holdings s' = Function.update (holdings s) leaseId
          (some (lease.taskId, decide (Active target))) := by
        funext id
        by_cases hid : id = leaseId
        · rw [hid, Function.update_self]
          simp [holdings, findLease_moved hlease heq, hdata]
        · rw [Function.update_of_ne hid]
          simp [holdings, findLease_moved hlease heq, hid]
      have hself : holdings s leaseId =
          some (lease.taskId, decide (Active lease.status)) := by
        simp [holdings, hlease]
      rw [hupdate]
      by_cases hsame : Active lease.status <-> Active target
      · -- The lease moves within or outside the active statuses.
        rw [← decide_eq_decide.mpr hsame, ← hself, Function.update_eq_self]
        exact .keep _
      · have hheld : Active lease.status := by
          by_contra hnot
          apply hsame
          constructor
          · intro hactive
            exact absurd hactive hnot
          · intro htarget
            exact active_of_active_target hguard (hidle leaseId lease hlease) htarget
        have htarget : ¬ Active target := by
          intro htarget
          exact hsame ⟨fun _ => htarget, fun _ => hheld⟩
        rw [decide_eq_false htarget]
        apply Holdings.Step.release
        rw [hself, decide_eq_true hheld]

/-!
## Runs
-/

def OneActiveLease (s : Store) : Prop :=
  forall lease lease', lease ∈ s.taskLeases -> lease' ∈ s.taskLeases ->
    lease.taskId = lease'.taskId -> Active lease.status -> Active lease'.status ->
      lease = lease'

theorem oneActiveLease_of_exclusive (h : (holdings s).Exclusive) : OneActiveLease s := by
  intro lease lease' hmem hmem' htask hactive hactive'
  have hheld : holdings s lease.leaseId = some (lease.taskId, true) :=
    holdings_eq_some_iff.mpr
      ⟨lease, Table.find?_key_of_mem hmem, rfl, decide_eq_true hactive⟩
  have hheld' : holdings s lease'.leaseId = some (lease.taskId, true) :=
    holdings_eq_some_iff.mpr
      ⟨lease', Table.find?_key_of_mem hmem', htask.symm, decide_eq_true hactive'⟩
  exact Table.eq_of_key hmem hmem' (h _ _ _ hheld hheld')

/-- The invariant that carries exclusivity along a run. -/
def ExclusiveLeases (s : Store) : Prop :=
  NoIdleLease s ∧ (holdings s).Exclusive

theorem exclusiveLeases_preserved :
    controlPlane.Preserves (fun _ => True) ExclusiveLeases := by
  intro s r s' hr hs h
  exact ⟨noIdleLease_preserved s r s' hr hs.1 h,
    hs.2.step (holdings_step hs.1 h)⟩

theorem exclusiveLeases_empty : ExclusiveLeases Store.empty := by
  constructor
  · exact noIdleLease_empty
  · intro h h' r hheld _
    cases hheld

theorem released_preserved (leaseId : LeaseId) (taskId : TaskId) :
    controlPlane.Preserves (fun _ => True)
      (fun s => NoIdleLease s ∧ holdings s leaseId = some (taskId, false)) := by
  intro s r s' hr hs h
  exact ⟨noIdleLease_preserved s r s' hr hs.1 h,
    (holdings_step hs.1 h).released hs.2⟩

/-- In every state of every run each task has at most one active lease, and a lease that
is no longer active in some state is not active in any later one. -/
theorem one_active_lease_and_no_reentry :
    (forall requests s, s ∈ controlPlane.states Store.empty requests ->
      OneActiveLease s) ∧
    (forall earlier later leaseId lease,
      (controlPlane.run Store.empty earlier).findLease leaseId = some lease ->
      ¬ Active lease.status ->
        exists lease',
          (controlPlane.run Store.empty (earlier ++ later)).findLease leaseId =
            some lease' ∧
          lease'.taskId = lease.taskId ∧ ¬ Active lease'.status) := by
  constructor
  · intro requests s hs
    apply oneActiveLease_of_exclusive
    exact (exclusiveLeases_preserved.states (fun _ _ => trivial)
      exclusiveLeases_empty hs).2
  · intro earlier later leaseId lease hlease hinactive
    have hidle : NoIdleLease (controlPlane.run Store.empty earlier) :=
      noIdleLease_preserved.run (fun _ _ => trivial) noIdleLease_empty
    have hreleased : holdings (controlPlane.run Store.empty earlier) leaseId =
        some (lease.taskId, false) :=
      holdings_eq_some_iff.mpr ⟨lease, hlease, rfl, decide_eq_false hinactive⟩
    have hlater := (released_preserved leaseId lease.taskId).run
      (fun _ (_ : _ ∈ later) => trivial) ⟨hidle, hreleased⟩
    rcases holdings_eq_some_iff.mp hlater.2 with ⟨lease', hlease', htask, hactive⟩
    rw [controlPlane.run_append]
    exact ⟨lease', hlease', htask, of_decide_eq_false hactive⟩

end Leasing
end CopilotFactory
