import Mathlib.Logic.Basic

/-!
# Fallible computations

Services are functions into `Except`: a thrown error is an `error` value and a
normal return an `ok` value.  The lemmas below peel a successful
computation apart into its successful steps, so that proofs about a service
never unfold the monad.
-/

namespace CopilotFactory
namespace Foundations

variable {ε α β : Type} {p : Prop}

variable {x : Except ε α} {e : ε} {a : α}

theorem bind_eq_ok {f : α -> Except ε β} {b : β} :
    (x >>= f) = .ok b <-> exists a, x = .ok a ∧ f a = .ok b := by
  cases x with
  | error e =>
      constructor
      · intro h
        cases h
      · intro h
        rcases h with ⟨a, ha, _⟩
        cases ha
  | ok a =>
      constructor
      · intro h
        exact ⟨a, rfl, h⟩
      · intro h
        rcases h with ⟨a', ha, hb⟩
        cases ha
        exact hb

theorem bind_eq_error {f : α -> Except ε β} :
    (x >>= f) = .error e <->
      x = .error e ∨ exists a, x = .ok a ∧ f a = .error e := by
  cases x with
  | error e' =>
      constructor
      · intro h
        cases h
        exact Or.inl rfl
      · intro h
        rcases h with h | ⟨a, ha, _⟩
        · cases h
          rfl
        · cases ha
  | ok a =>
      constructor
      · intro h
        exact Or.inr ⟨a, rfl, h⟩
      · intro h
        rcases h with h | ⟨a', ha, he⟩
        · cases h
        · cases ha
          exact he

@[simp] theorem ok_bind (a : α) (f : α -> Except ε β) : (Except.ok a >>= f) = f a :=
  rfl

@[simp] theorem error_bind (e : ε) (f : α -> Except ε β) :
    ((Except.error e : Except ε α) >>= f) = .error e :=
  rfl

@[simp] theorem pure_eq_ok (a b : α) : ((pure a : Except ε α) = .ok b) <-> a = b := by
  constructor
  · intro h
    cases h
    rfl
  · intro h
    rw [h]
    rfl

theorem mapError_eq_ok {ε' : Type} {f : ε -> ε'} : x.mapError f = .ok a <-> x = .ok a := by
  cases x with
  | error e =>
      constructor
      · intro h
        cases h
      · intro h
        cases h
  | ok b =>
      constructor
      · intro h
        cases h
        rfl
      · intro h
        cases h
        rfl

theorem toOption_eq_some : x.toOption = some a <-> x = .ok a := by
  cases x with
  | error e =>
      simp [Except.toOption]
  | ok a' =>
      simp [Except.toOption]

theorem map_eq_ok {f : α -> β} {b : β} : x.map f = .ok b <-> exists a, x = .ok a ∧ f a = b := by
  cases x with
  | error e =>
      simp [Except.map]
  | ok a =>
      simp [Except.map]

theorem foldlM_ok_round {f : β -> α -> Except ε β} {rounds : List α} {init final : β}
    (h : rounds.foldlM f init = .ok final) (ha : a ∈ rounds) :
    exists before after, f before a = .ok after := by
  induction rounds generalizing init with
  | nil => cases ha
  | cons first rest ih =>
      rw [List.foldlM_cons] at h
      rcases bind_eq_ok.mp h with ⟨after, hfirst, hrest⟩
      rcases List.mem_cons.mp ha with ha | ha
      · rw [ha]
        exact ⟨init, after, hfirst⟩
      · exact ih hrest ha

/-!
## Lookups and conditions that fail
-/

def orThrow {ε α : Type} (x : Option α) (e : ε) : Except ε α :=
  match x with
  | some a => .ok a
  | none => .error e

@[simp] theorem orThrow_eq_ok {x : Option α} : orThrow x e = .ok a <-> x = some a := by
  cases x with
  | none =>
      simp [orThrow]
  | some b =>
      simp [orThrow]

@[simp] theorem orThrow_some (a : α) (e : ε) : orThrow (some a) e = .ok a :=
  rfl

@[simp] theorem orThrow_none (e : ε) : orThrow (none : Option α) e = .error e :=
  rfl

/-- Continue when a lookup finds nothing, otherwise fail because of what it found. -/
def refuse {ε α : Type} (x : Option α) (e : α -> ε) : Except ε Unit :=
  match x with
  | some a => .error (e a)
  | none => .ok ()

@[simp] theorem refuse_eq_ok {x : Option α} {e : α -> ε} {u : Unit} :
    refuse x e = .ok u <-> x = none := by
  cases x with
  | none =>
      simp [refuse]
  | some a =>
      simp [refuse]

def ensure {ε : Type} (p : Prop) [Decidable p] (e : ε) : Except ε Unit :=
  if p then .ok () else .error e

@[simp] theorem ensure_eq_ok [Decidable p] {u : Unit} : ensure p e = .ok u <-> p := by
  by_cases h : p
  · simp [ensure, h]
  · simp [ensure, h]

theorem ensure_of [Decidable p] (h : p) : ensure p e = .ok () := by
  simp [ensure, h]

theorem ensure_of_not [Decidable p] (h : ¬ p) : ensure p e = .error e := by
  simp [ensure, h]

end Foundations
end CopilotFactory
