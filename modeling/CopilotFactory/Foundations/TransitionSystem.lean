import Mathlib.Data.List.Induction
import CopilotFactory.Foundations.Result

/-!
# Transactional transition systems

A store is changed by requests, one at a time.  A request either commits a new
state or fails, and a failed request leaves the stored state as it was.  Runs
are lists of requests, so that they can be evaluated, and every property of all
runs is proved from a property of one request.
-/

namespace CopilotFactory
namespace Foundations

/-- Requests over a stored state: a request commits a new state or is rejected. -/
structure TransitionSystem (σ α ε : Type) where
  step : σ -> α -> Except ε σ

namespace TransitionSystem

variable {σ α ε : Type} (M : TransitionSystem σ α ε)

variable {s t : σ} {a : α} {requests : List α} {C : σ -> α -> Prop}

/-- The stored state after a request: a rejected request is rolled back. -/
def next (s : σ) (a : α) : σ :=
  match M.step s a with
  | .ok s' => s'
  | .error _ => s

def run (s : σ) (requests : List α) : σ :=
  requests.foldl M.next s

/-- All states stored along a run, the first and the last one included. -/
def states (s : σ) : List α -> List σ
  | [] => [s]
  | a :: rest => s :: states (M.next s a) rest

/-- The requests of a run, each with the state in which it arrives. -/
def arrivals (s : σ) : List α -> List (σ × α)
  | [] => []
  | a :: rest => (s, a) :: arrivals (M.next s a) rest

theorem next_of_ok {s' : σ} (h : M.step s a = .ok s') : M.next s a = s' := by
  simp [next, h]

theorem next_of_error {e : ε} (h : M.step s a = .error e) : M.next s a = s := by
  simp [next, h]

@[elab_as_elim]
theorem next_cases {motive : σ -> Prop} {s : σ} {a : α} (rejected : motive s)
    (committed : forall s', M.step s a = .ok s' -> motive s') :
    motive (M.next s a) := by
  cases hstep : M.step s a with
  | ok s' =>
      rw [M.next_of_ok hstep]
      exact committed s' hstep
  | error e =>
      rw [M.next_of_error hstep]
      exact rejected

theorem step_eq_ok_next (h : (M.step s a).toOption.isSome = true) :
    M.step s a = .ok (M.next s a) := by
  cases hstep : M.step s a with
  | ok s' =>
      rw [M.next_of_ok hstep]
  | error e =>
      rw [hstep] at h
      cases h

@[simp] theorem run_nil (s : σ) :
    M.run s [] = s :=
  rfl

@[simp] theorem run_cons (s : σ) (a : α) (rest : List α) :
    M.run s (a :: rest) = M.run (M.next s a) rest :=
  rfl

theorem run_append (s : σ) (first second : List α) :
    M.run s (first ++ second) = M.run (M.run s first) second := by
  simp [run, List.foldl_append]

theorem self_mem_states (s : σ) (requests : List α) :
    s ∈ M.states s requests := by
  cases requests with
  | nil =>
      simp [states]
  | cons a rest =>
      simp [states]

theorem run_mem_states (s : σ) (requests : List α) :
    M.run s requests ∈ M.states s requests := by
  induction requests generalizing s with
  | nil =>
      simp [states]
  | cons a rest ih =>
      simp only [states, run_cons, List.mem_cons]
      exact Or.inr (ih (M.next s a))

theorem mem_states_iff :
    t ∈ M.states s requests <->
      exists first second, requests = first ++ second ∧ t = M.run s first := by
  induction requests generalizing s with
  | nil =>
      constructor
      · intro h
        simp only [states, List.mem_singleton] at h
        exact ⟨[], [], rfl, h⟩
      · intro h
        rcases h with ⟨first, second, happ, ht⟩
        have hfirst : first = [] := by
          cases first with
          | nil =>
              rfl
          | cons a rest =>
              cases happ
        simp [states, ht, hfirst]
  | cons a rest ih =>
      constructor
      · intro h
        rcases List.mem_cons.mp h with h | h
        · exact ⟨[], a :: rest, rfl, h⟩
        · rcases ih.mp h with ⟨first, second, happ, ht⟩
          exact ⟨a :: first, second, by rw [happ]; rfl, ht⟩
      · intro h
        rcases h with ⟨first, second, happ, ht⟩
        cases first with
        | nil =>
            rw [ht]
            exact M.self_mem_states s _
        | cons b first =>
            cases happ
            exact List.mem_cons_of_mem _ (ih.mpr ⟨first, second, rfl, ht⟩)

theorem mem_states_concat :
    t ∈ M.states s (requests ++ [a]) <->
      t ∈ M.states s requests ∨ t = M.run s (requests ++ [a]) := by
  induction requests generalizing s with
  | nil =>
      simp [states]
  | cons b rest ih =>
      simp only [List.cons_append, states, List.mem_cons, run_cons, ih]
      exact or_assoc.symm

theorem arrivals_append (s : σ) (first second : List α) :
    M.arrivals s (first ++ second) =
      M.arrivals s first ++ M.arrivals (M.run s first) second := by
  induction first generalizing s with
  | nil =>
      rfl
  | cons a rest ih =>
      simp only [List.cons_append, arrivals, run_cons, ih]

theorem mem_arrivals_append (s : σ) (first : List α) (a : α) (second : List α) :
    (M.run s first, a) ∈ M.arrivals s (first ++ a :: second) := by
  rw [arrivals_append]
  exact List.mem_append_right _ List.mem_cons_self

theorem mem_of_mem_arrivals {x : σ × α} (h : x ∈ M.arrivals s requests) : x.2 ∈ requests := by
  induction requests generalizing s with
  | nil =>
      cases h
  | cons a rest ih =>
      rcases List.mem_cons.mp h with h | h
      · rw [h]
        exact List.mem_cons_self
      · exact List.mem_cons_of_mem a (ih h)

/-- A property that does not hold at first and does in the end was entered, for the last
time, by some request. -/
theorem exists_last_entry {P : σ -> Prop} (hstart : ¬ P s) (hend : P (M.run s requests)) :
    exists first a second, requests = first ++ a :: second ∧ ¬ P (M.run s first) ∧
      forall t, t ∈ M.states (M.next (M.run s first) a) second -> P t := by
  induction requests using List.reverseRecOn with
  | nil =>
      exact absurd hend hstart
  | append_singleton init a ih =>
      have hrun : M.run s (init ++ [a]) = M.next (M.run s init) a := by
        rw [run_append]
        rfl
      by_cases hinit : P (M.run s init)
      · rcases ih hinit with ⟨first, b, second, hsplit, hnot, hsince⟩
        refine ⟨first, b, second ++ [a], by simp [hsplit], hnot, ?_⟩
        intro t ht
        rcases (M.mem_states_concat).mp ht with ht | ht
        · exact hsince t ht
        · have hlast : M.run (M.next (M.run s first) b) (second ++ [a]) =
              M.run s (init ++ [a]) := by
            rw [hsplit, List.append_assoc, List.cons_append, M.run_append s first, run_cons]
          rw [ht, hlast]
          exact hend
      · refine ⟨init, a, [], rfl, hinit, ?_⟩
        intro t ht
        rw [states, List.mem_singleton] at ht
        rw [ht, ← hrun]
        exact hend

/-!
## Invariants

A step lemma is stated for the requests of a class `A`, in the states that
satisfy the invariant.  The rules below lift it to runs.
-/

def Preserves (A : α -> Prop) (I : σ -> Prop) : Prop :=
  forall s a s', A a -> I s -> M.step s a = .ok s' -> I s'

variable {M} {A : α -> Prop} {I : σ -> Prop}

theorem Preserves.next (h : M.Preserves A I) (ha : A a) (hs : I s) : I (M.next s a) := by
  refine M.next_cases hs ?_
  intro s' hstep
  exact h s a s' ha hs hstep

theorem Preserves.run (h : M.Preserves A I) (hA : forall a, a ∈ requests -> A a) (hs : I s) :
    I (M.run s requests) := by
  induction requests generalizing s with
  | nil =>
      exact hs
  | cons a rest ih =>
      have hnext : I (M.next s a) :=
        h.next (hA a List.mem_cons_self) hs
      exact ih (fun b hb => hA b (List.mem_cons_of_mem a hb)) hnext

theorem Preserves.states (h : M.Preserves A I) (hA : forall a, a ∈ requests -> A a) (hs : I s)
    (ht : t ∈ M.states s requests) : I t := by
  rcases M.mem_states_iff.mp ht with ⟨first, second, happ, hrun⟩
  rw [hrun]
  apply h.run
  · intro a ha
    apply hA a
    rw [happ]
    exact List.mem_append_left second ha
  · exact hs

/-- What one request keeps, if it meets the condition `C`, is true wherever a request
arrives in a run whose requests all meet `C`, and in the end. -/
theorem run_of_arrivals (hstep : forall s a, I s -> C s a -> I (M.next s a)) (hs : I s)
    (hC : forall x, x ∈ M.arrivals s requests -> C x.1 x.2) :
    (forall x, x ∈ M.arrivals s requests -> I x.1) ∧ I (M.run s requests) := by
  induction requests generalizing s with
  | nil =>
      exact ⟨fun x hx => absurd hx List.not_mem_nil, hs⟩
  | cons a rest ih =>
      have hfirst : C s a := hC (s, a) List.mem_cons_self
      rcases ih (hstep s a hs hfirst) (fun x hx => hC x (List.mem_cons_of_mem _ hx)) with
        ⟨hrest, hend⟩
      refine ⟨?_, hend⟩
      intro x hx
      rcases List.mem_cons.mp hx with hx | hx
      · rw [hx]
        exact hs
      · exact hrest x hx

theorem states_of_arrivals (hstep : forall s a, I s -> C s a -> I (M.next s a)) (hs : I s)
    (hC : forall x, x ∈ M.arrivals s requests -> C x.1 x.2) :
    forall t, t ∈ M.states s requests -> I t := by
  intro t ht
  rcases M.mem_states_iff.mp ht with ⟨first, second, happ, hrun⟩
  rw [hrun]
  apply (run_of_arrivals hstep hs _).2
  intro x hx
  apply hC x
  rw [happ, arrivals_append]
  exact List.mem_append_left _ hx

theorem run_of_told {R : Prop -> σ -> Prop} {E : α -> Prop}
    (hstep : forall told s a, A a -> R told s -> R (told ∨ E a) (M.next s a)) {told : Prop}
    (hA : forall a, a ∈ requests -> A a) (hs : R told s) :
    R (told ∨ exists a, a ∈ requests ∧ E a) (M.run s requests) := by
  induction requests generalizing s told with
  | nil =>
      simpa using hs
  | cons a rest ih =>
      have hnext := hstep told s a (hA a List.mem_cons_self) hs
      have hrun := ih (fun b hb => hA b (List.mem_cons_of_mem a hb)) hnext
      simpa [or_assoc] using hrun

theorem Preserves.arrivals (h : M.Preserves A I) (hA : forall a, a ∈ requests -> A a) (hs : I s) :
    forall x, x ∈ M.arrivals s requests -> I x.1 := by
  have hstep : forall s a, I s -> A a -> I (M.next s a) :=
    fun s a hs ha => h.next ha hs
  have hall : forall x, x ∈ M.arrivals s requests -> A x.2 :=
    fun x hx => hA x.2 (M.mem_of_mem_arrivals hx)
  exact (run_of_arrivals hstep hs hall).1

/-- What every request that counts raises by one tells how many of them a run has. -/
theorem run_count (count : σ -> Nat) (counts : σ -> α -> Bool)
    (hstep : forall s a, I s -> C s a -> I (M.next s a))
    (hcount : forall s a, I s -> C s a ->
      count (M.next s a) = count s + if counts s a then 1 else 0)
    (hs : I s) (hC : forall x, x ∈ M.arrivals s requests -> C x.1 x.2) :
    count (M.run s requests) =
      count s + (M.arrivals s requests).countP (fun x => counts x.1 x.2) := by
  induction requests generalizing s with
  | nil =>
      rfl
  | cons a rest ih =>
      have hfirst : C s a := hC (s, a) List.mem_cons_self
      rw [run_cons, ih (hstep s a hs hfirst) (fun x hx => hC x (List.mem_cons_of_mem _ hx)),
        hcount s a hs hfirst, arrivals, List.countP_cons, Nat.add_assoc]
      congr 1
      exact Nat.add_comm _ _

/-!
## What happens at most once
-/

section Once

variable {κ : Type} {act : σ -> α -> Option κ}

theorem not_mem_acts_of_spent {Spent : κ -> σ -> Prop}
    (hact : forall s a k, act s a = some k -> ¬ Spent k s)
    (hkeep : forall s a k, Spent k s -> Spent k (M.next s a)) {k : κ} (hs : Spent k s) :
    k ∉ (M.arrivals s requests).filterMap (fun x => act x.1 x.2) := by
  induction requests generalizing s with
  | nil =>
      exact List.not_mem_nil
  | cons a rest ih =>
      intro hmem
      rcases List.mem_filterMap.mp hmem with ⟨x, hx, hk⟩
      rcases List.mem_cons.mp hx with hx | hx
      · rw [hx] at hk
        exact hact s a k hk hs
      · exact ih (hkeep s a k hs) (List.mem_filterMap.mpr ⟨x, hx, hk⟩)

theorem nodup_acts (Spent : κ -> σ -> Prop)
    (hact : forall s a k, act s a = some k -> ¬ Spent k s ∧ Spent k (M.next s a))
    (hkeep : forall s a k, Spent k s -> Spent k (M.next s a)) (s : σ) (requests : List α) :
    ((M.arrivals s requests).filterMap (fun x => act x.1 x.2)).Nodup := by
  induction requests generalizing s with
  | nil =>
      exact List.nodup_nil
  | cons a rest ih =>
      have hrest := ih (M.next s a)
      simp only [arrivals]
      cases hout : act s a with
      | none =>
          simp only [List.filterMap_cons, hout]
          exact hrest
      | some k =>
          simp only [List.filterMap_cons, hout]
          rw [List.nodup_cons]
          refine ⟨?_, hrest⟩
          exact not_mem_acts_of_spent (fun t b j hj => (hact t b j hj).1) hkeep
            (hact s a k hout).2

end Once

/-!
## Other names for the requests

When a name says more than the request it stands for, such as who makes it, the
system can be run on names.
-/

section Named

variable {β : Type} {request : β -> α}

def named (M : TransitionSystem σ α ε) (request : β -> α) : TransitionSystem σ β ε where
  step := fun s b => M.step s (request b)

theorem named_run (s : σ) (names : List β) :
    (M.named request).run s names = M.run s (names.map request) := by
  induction names generalizing s with
  | nil =>
      rfl
  | cons b rest ih =>
      exact ih ((M.named request).next s b)

theorem Preserves.named (h : M.Preserves A I) :
    (M.named request).Preserves (fun b => A (request b)) I :=
  fun s b s' hb hs hstep => h s (request b) s' hb hs hstep

end Named

/-!
## Properties that hold along exactly the runs that avoid a request

When, in states that satisfy the invariant `I` and the property `P`, one request
keeps `P` exactly if it meets the condition `C`, then a run keeps `P` in all its
states exactly if all its requests meet `C`.
-/

/-- The requests of the run are of a class `D`, which may depend on the state. -/
theorem states_iff_arrivals_in (D : σ -> α -> Prop) (I P : σ -> Prop) (C : σ -> α -> Prop)
    (hI : forall s a, I s -> D s a -> I (M.next s a))
    (hstep : forall s a, I s -> D s a -> P s -> (P (M.next s a) <-> C s a))
    (hD : forall x, x ∈ M.arrivals s requests -> D x.1 x.2) (hs : I s) (hP : P s) :
    (forall t, t ∈ M.states s requests -> P t) <->
      forall x, x ∈ M.arrivals s requests -> C x.1 x.2 := by
  induction requests generalizing s with
  | nil =>
      simp [TransitionSystem.states, arrivals, hP]
  | cons a rest ih =>
      have ha : D s a := hD (s, a) List.mem_cons_self
      have hrest : forall x, x ∈ M.arrivals (M.next s a) rest -> D x.1 x.2 :=
        fun x hx => hD x (List.mem_cons_of_mem _ hx)
      have hnext : I (M.next s a) := hI s a hs ha
      simp only [TransitionSystem.states, arrivals, List.forall_mem_cons]
      constructor
      · intro h
        have hPnext : P (M.next s a) := h.2 _ (M.self_mem_states _ rest)
        exact ⟨(hstep s a hs ha hP).mp hPnext, (ih hrest hnext hPnext).mp h.2⟩
      · intro h
        have hPnext : P (M.next s a) := (hstep s a hs ha hP).mpr h.1
        exact ⟨hP, (ih hrest hnext hPnext).mpr h.2⟩

theorem states_iff_arrivals (A : α -> Prop) (I P : σ -> Prop) (C : σ -> α -> Prop)
    (hI : M.Preserves A I) (hstep : forall s a, A a -> I s -> P s -> (P (M.next s a) <-> C s a))
    (hA : forall a, a ∈ requests -> A a) (hs : I s) (hP : P s) :
    (forall t, t ∈ M.states s requests -> P t) <->
      forall x, x ∈ M.arrivals s requests -> C x.1 x.2 := by
  apply states_iff_arrivals_in (fun _ a => A a) I P C
  · exact fun s a hs ha => hI.next ha hs
  · exact fun s a hs ha hP => hstep s a ha hs hP
  · exact fun x hx => hA x.2 (M.mem_of_mem_arrivals hx)
  · exact hs
  · exact hP

/-- A stronger property `R` that a request keeps if it meets `C`, and that gives way to the
loss of `P` if it does not, tells as well which runs keep `P`. -/
theorem states_iff_arrivals_of_breaks (R P : σ -> Prop) (C : σ -> α -> Prop)
    (hkeep : forall s a, R s -> C s a -> R (M.next s a))
    (hbreak : forall s a, R s -> ¬ C s a -> ¬ P (M.next s a)) (hP : forall s, R s -> P s)
    (hs : R s) :
    (forall t, t ∈ M.states s requests -> P t) <->
      forall x, x ∈ M.arrivals s requests -> C x.1 x.2 := by
  constructor
  · intro h
    induction requests generalizing s with
    | nil =>
        exact fun x hx => absurd hx List.not_mem_nil
    | cons a rest ih =>
        have hrest : forall t, t ∈ M.states (M.next s a) rest -> P t :=
          fun t ht => h t (List.mem_cons_of_mem s ht)
        have hC : C s a := by
          by_contra hno
          exact hbreak s a hs hno (hrest _ (M.self_mem_states _ rest))
        intro x hx
        rcases List.mem_cons.mp hx with hx | hx
        · rw [hx]
          exact hC
        · exact ih (hkeep s a hs hC) hrest x hx
  · intro h t ht
    exact hP t (states_of_arrivals hkeep hs h t ht)

end TransitionSystem

end Foundations
end CopilotFactory
