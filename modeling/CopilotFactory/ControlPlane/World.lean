import CopilotFactory.Foundations.Process
import CopilotFactory.ControlPlane.Requests

/-!
# Services that await

Some services hold no transaction for as long as they run: they commit several,
and await ports in between.  While a port is awaited the control plane serves
the requests of others.  Such a service is a process over the store and whatever
else it works on.
-/

namespace CopilotFactory
namespace ControlPlane

open Foundations
open Infrastructure
open Application

variable {β : Type}

inductive Thrown where
  | service (error : ServiceError)
  | port (message : String)
deriving DecidableEq

def Thrown.message : Thrown -> String
  | .service error => error.message
  | .port message => message

/-- The store, and the tables or repositories that requests do not touch. -/
structure World (γ : Type) where
  store : Store
  outer : γ

/-- A call of a port: the requests of others while it is awaited, and its outcome. -/
structure Call (α : Type) where
  others : List Request := []
  outcome : Except String α

variable {γ α : Type}

def World.serve (others : List Request) (w : World γ) : World γ :=
  { w with store := controlPlane.run w.store others }

def Call.await (call : Call α) : Process (World γ) Thrown α :=
  Process.await (World.serve call.others) (call.outcome.mapError .port)

def onStore (call : Store -> Except ServiceError (Store × α)) :
    Process (World γ) Thrown α :=
  Process.transaction (fun w s => { w with store := s }) .service (fun w => call w.store)

variable {w : World γ}

theorem onStore_of_ok {call : Store -> Except ServiceError (Store × α)} {s' : Store} {a : α}
    (h : call w.store = .ok (s', a)) :
    onStore call w =
      { result := .ok a
        state := { w with store := s' }
        commits := [(w, { w with store := s' })] } := by
  unfold onStore
  exact Process.transaction_of_ok h

theorem exists_returns_onStore {call : Store -> Except ServiceError (Store × α)} {s' : Store}
    {a : α} {P : α -> World γ -> Prop} (h : call w.store = .ok (s', a)) :
    (exists b w', Process.Returns (onStore call) w b w' ∧ P b w') <->
      P a { w with store := s' } := by
  unfold Process.Returns
  rw [onStore_of_ok h]
  constructor
  · intro hbind
    rcases hbind with ⟨b, w', ⟨hb, hw'⟩, hP⟩
    cases hb
    rw [← hw'] at hP
    exact hP
  · intro hP
    exact ⟨a, _, ⟨rfl, rfl⟩, hP⟩

theorem onStore_of_error {call : Store -> Except ServiceError (Store × α)} {e : ServiceError}
    (h : call w.store = .error e) :
    onStore call w =
      { result := .error (.service e)
        state := w
        commits := [] } := by
  unfold onStore
  exact Process.transaction_of_error h

/-- A transaction on the rest of the world, which may read the store. -/
def onOuter (call : Store -> γ -> Except ServiceError (γ × α)) :
    Process (World γ) Thrown α :=
  Process.transaction (fun w outer => { w with outer := outer }) .service
    (fun w => call w.store w.outer)

/-!
## Awaiting under an invariant
-/

variable {C : World γ -> World γ -> Prop}

/-- While a call is awaited, an invariant of the requests of others holds on. -/
theorem Call.await_keeps {A : Request -> Prop} {I : Store -> Prop} {O : γ -> Prop}
    (hI : controlPlane.Preserves A I) {call : Call α}
    (hothers : forall r, r ∈ call.others -> A r) :
    Process.Triple C (fun w => I w.store ∧ O w.outer) call.await
      (fun r w => r = call.outcome.mapError .port ∧ I w.store ∧ O w.outer) := by
  apply Process.Triple.await
  intro w hw
  exact ⟨rfl, hI.run hothers hw.1, hw.2⟩

variable {P P' : World γ -> Prop}

theorem Call.bind_await {call : Call α} {f : α -> Process (World γ) Thrown β}
    {Q : Except Thrown β -> World γ -> Prop}
    (h : Process.Triple C P call.await (fun r w => r = call.outcome.mapError .port ∧ P' w))
    (hok : forall a, call.outcome = .ok a -> Process.Triple C P' (f a) Q)
    (herror : forall message, call.outcome = .error message ->
      forall w, P' w -> Q (.error (.port message)) w) :
    Process.Triple C P (call.await >>= f) Q := by
  cases houtcome : call.outcome with
  | ok a =>
      rw [houtcome] at h
      apply Process.Triple.bind h
      · intro b w hw
        cases hw.1
        exact hok a houtcome w hw.2
      · intro e w hw
        cases hw.1
  | error message =>
      rw [houtcome] at h
      apply Process.Triple.bind h
      · intro b w hw
        cases hw.1
      · intro e w hw
        cases hw.1
        exact herror message houtcome w hw.2

theorem Call.decides_attempt {call : Call α} {f : Except Thrown α -> Process (World γ) Thrown β}
    {X : Prop}
    (h : Process.Triple C P call.await (fun r w => r = call.outcome.mapError .port ∧ P' w))
    (hf : Process.Decides C P' (f (call.outcome.mapError .port)) X) :
    Process.Decides C P (Process.attempt call.await >>= f) X := by
  apply Process.Decides.bind_attempt h
  intro r w hw
  rcases hw with ⟨hr, hw⟩
  rw [hr]
  exact hf w hw

theorem Call.decides_await {call : Call α} {f : α -> Process (World γ) Thrown β} {X : Prop}
    (h : Process.Triple C P call.await (fun r w => r = call.outcome.mapError .port ∧ P' w))
    (hok : forall a, call.outcome = .ok a -> Process.Decides C P' (f a) X)
    (herror : forall message, call.outcome = .error message -> X) :
    Process.Decides C P (call.await >>= f) X := by
  apply Process.Decides.bind h
  · intro a w hw
    rcases hw with ⟨hr, hw⟩
    cases houtcome : call.outcome with
    | ok b =>
        rw [houtcome] at hr
        cases hr
        exact hok a houtcome w hw
    | error message =>
        rw [houtcome] at hr
        cases hr
  · intro e w hw
    rcases hw with ⟨hr, _⟩
    cases houtcome : call.outcome with
    | ok b =>
        rw [houtcome] at hr
        cases hr
    | error message =>
        exact herror message houtcome

end ControlPlane
end CopilotFactory
