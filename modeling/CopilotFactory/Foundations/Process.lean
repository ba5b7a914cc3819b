import CopilotFactory.Foundations.Result

/-!
# Processes over a shared state

A process works on a state that others also work on.  It commits transactions,
each of which is atomic, and awaits calls, during which others may change the
state.  When it throws, what it has committed before stays.  A process is
executable: it takes the state in which it starts to its ending.
-/

namespace CopilotFactory
namespace Foundations

/-- How a process ends: its result, the state it leaves behind, and the states before
and after each transaction that it has committed itself. -/
structure Ending (σ ε α : Type) where
  result : Except ε α
  state : σ
  commits : List (σ × σ)

/-- A computation that commits transactions as it goes, and may throw. -/
def Process (σ ε α : Type) : Type :=
  σ -> Ending σ ε α

namespace Process

variable {σ ρ ε ε' α β : Type}

variable {wrap : ε' -> ε} {s s' : σ} {a : α} {c : σ × σ} {Q R : Except ε α -> σ -> Prop}
  {X : Prop} {e : ε} {others : σ -> σ} {outcome : Except ε α}

instance : Monad (Process σ ε) where
  pure a := fun s =>
    { result := .ok a
      state := s
      commits := [] }
  bind p f := fun s =>
    match (p s).result with
    | .error e =>
        { result := .error e
          state := (p s).state
          commits := (p s).commits }
    | .ok a =>
        { result := (f a (p s).state).result
          state := (f a (p s).state).state
          commits := (p s).commits ++ (f a (p s).state).commits }

def throw (e : ε) : Process σ ε α := fun s =>
  { result := .error e
    state := s
    commits := [] }

def read : Process σ ε σ := fun s =>
  { result := .ok s
    state := s
    commits := [] }

/-- Run a transaction on a part of the state: it commits the part that it returns, or
fails and changes nothing. -/
def transaction (set : σ -> ρ -> σ) (wrap : ε' -> ε) (call : σ -> Except ε' (ρ × α)) :
    Process σ ε α := fun s =>
  match call s with
  | .ok (part, a) =>
      { result := .ok a
        state := set s part
        commits := [(s, set s part)] }
  | .error e =>
      { result := .error (wrap e)
        state := s
        commits := [] }

/-- Wait for an outcome that is decided elsewhere, while others change the state. -/
def await (others : σ -> σ) (outcome : Except ε α) : Process σ ε α := fun s =>
  { result := outcome
    state := others s
    commits := [] }

/-- A call outside of any transaction.  Its effect stays, also when it throws. -/
def call (f : σ -> Except ε α × σ) : Process σ ε α := fun s =>
  { result := (f s).1
    state := (f s).2
    commits := [] }

def attempt (p : Process σ ε α) : Process σ ε' (Except ε α) := fun s =>
  { result := .ok (p s).result
    state := (p s).state
    commits := (p s).commits }

def ofExcept : Except ε α -> Process σ ε α
  | .ok a => pure a
  | .error e => throw e

def tryCatch (p : Process σ ε α) (handler : ε -> Process σ ε' α) : Process σ ε' α := do
  match ← attempt p with
  | .ok a => pure a
  | .error e => handler e

def swallow (p : Process σ ε α) : Process σ ε' Unit := do
  let _ ← attempt p
  pure ()

/-- Run a process for each element of a list, in order, until one throws. -/
def forEach (body : α -> Process σ ε Unit) : List α -> Process σ ε Unit
  | [] => pure ()
  | a :: rest => do
      body a
      forEach body rest

def collect (body : α -> Process σ ε β) : List α -> Process σ ε (List β)
  | [] => pure []
  | a :: rest => do
      let b ← body a
      let bs ← collect body rest
      pure (b :: bs)

theorem transaction_of_ok {set : σ -> ρ -> σ} {call : σ -> Except ε' (ρ × α)} {part : ρ}
    (h : call s = .ok (part, a)) :
    transaction set wrap call s =
      { result := .ok a
        state := set s part
        commits := [(s, set s part)] } := by
  simp only [transaction, h]

theorem transaction_of_error {set : σ -> ρ -> σ} {call : σ -> Except ε' (ρ × α)} {e : ε'}
    (h : call s = .error e) :
    transaction set wrap call s =
      { result := .error (wrap e)
        state := s
        commits := [] } := by
  simp only [transaction, h]

/-!
## Commits of a composition
-/

variable {p : Process σ ε α} {f : α -> Process σ ε β}

theorem mem_commits_bind :
    c ∈ ((p >>= f) s).commits <->
      c ∈ (p s).commits ∨
        exists a, (p s).result = .ok a ∧ c ∈ (f a (p s).state).commits := by
  simp only [Bind.bind]
  cases hresult : (p s).result with
  | error e =>
      constructor
      · intro h
        exact Or.inl h
      · intro h
        rcases h with h | ⟨a, ha, _⟩
        · exact h
        · cases ha
  | ok a =>
      constructor
      · intro h
        rcases List.mem_append.mp h with h | h
        · exact Or.inl h
        · exact Or.inr ⟨a, rfl, h⟩
      · intro h
        rcases h with h | ⟨a', ha, h⟩
        · exact List.mem_append_left _ h
        · cases ha
          exact List.mem_append_right _ h

theorem mem_commits_attempt_bind {f : Except ε α -> Process σ ε' β} :
    c ∈ ((attempt p >>= f) s).commits <->
      c ∈ (p s).commits ∨ c ∈ (f (p s).result (p s).state).commits := by
  rw [mem_commits_bind]
  constructor
  · intro h
    rcases h with h | ⟨r, hr, h⟩
    · exact Or.inl h
    · cases hr
      exact Or.inr h
  · intro h
    rcases h with h | h
    · exact Or.inl h
    · exact Or.inr ⟨_, rfl, h⟩

theorem mem_commits_tryCatch {handler : ε -> Process σ ε' α} :
    c ∈ (tryCatch p handler s).commits <->
      c ∈ (p s).commits ∨
        exists e, (p s).result = .error e ∧ c ∈ (handler e (p s).state).commits := by
  unfold tryCatch
  rw [mem_commits_attempt_bind]
  cases hresult : (p s).result with
  | ok a =>
      constructor
      · intro h
        rcases h with h | h
        · exact Or.inl h
        · cases h
      · intro h
        rcases h with h | ⟨e, he, _⟩
        · exact Or.inl h
        · cases he
  | error e =>
      constructor
      · intro h
        rcases h with h | h
        · exact Or.inl h
        · exact Or.inr ⟨e, rfl, h⟩
      · intro h
        rcases h with h | ⟨e', he, h⟩
        · exact Or.inl h
        · cases he
          exact Or.inr h

/-!
## Triples

From every state of the precondition the process ends in the postcondition,
which sees the result as well, and each of its commits satisfies the guarantee.
-/

def Triple (C : σ -> σ -> Prop) (P : σ -> Prop) (p : Process σ ε α)
    (Q : Except ε α -> σ -> Prop) : Prop :=
  forall s, P s ->
    Q (p s).result (p s).state ∧ forall c, c ∈ (p s).commits -> C c.1 c.2

def AnyCommit (_ _ : σ) : Prop :=
  True

variable {C : σ -> σ -> Prop} {P P' : σ -> Prop}

theorem Triple.weaken {Q' : Except ε α -> σ -> Prop} (h : Triple C P' p Q')
    (hP : forall s, P s -> P' s) (hQ : forall r s, Q' r s -> Q r s) : Triple C P p Q := by
  intro s hs
  rcases h s (hP s hs) with ⟨hresult, hcommits⟩
  exact ⟨hQ _ _ hresult, hcommits⟩

theorem Triple.post {Q' : Except ε α -> σ -> Prop} (h : Triple C P p Q')
    (hQ : forall r s, Q' r s -> Q r s) : Triple C P p Q :=
  h.weaken (fun _ hs => hs) hQ

theorem Triple.of_pure (h : X -> Triple C P p Q) : Triple C (fun s => X ∧ P s) p Q := by
  intro s hs
  exact h hs.1 s hs.2

theorem Triple.of_false (h : forall s, ¬ P s) : Triple C P p Q := by
  intro s hs
  exact absurd hs (h s)

theorem Triple.pure (h : forall s, P s -> Q (.ok a) s) : Triple C P (pure a) Q := by
  intro s hs
  refine ⟨h s hs, ?_⟩
  intro c hc
  cases hc

theorem Triple.throw (h : forall s, P s -> Q (.error e) s) : Triple C P (throw e) Q := by
  intro s hs
  refine ⟨h s hs, ?_⟩
  intro c hc
  cases hc

theorem Triple.bind {Q : Except ε β -> σ -> Prop} (hp : Triple C P p R)
    (hf : forall a, Triple C (R (.ok a)) (f a) Q)
    (he : forall e s, R (.error e) s -> Q (.error e) s) : Triple C P (p >>= f) Q := by
  intro s hs
  rcases hp s hs with ⟨hR, hcommits⟩
  simp only [Bind.bind]
  cases hresult : (p s).result with
  | error e =>
      rw [hresult] at hR
      exact ⟨he e _ hR, hcommits⟩
  | ok a =>
      rw [hresult] at hR
      rcases hf a _ hR with ⟨hQ, hcommits'⟩
      refine ⟨hQ, ?_⟩
      intro c hc
      rcases List.mem_append.mp hc with hc | hc
      · exact hcommits c hc
      · exact hcommits' c hc

theorem Triple.bind_returns {R : σ -> Prop} {Q : Except ε β -> σ -> Prop}
    (hp : Triple C P p (fun r s => (exists a, r = .ok a) ∧ R s))
    (hf : forall a, Triple C R (f a) Q) : Triple C P (p >>= f) Q := by
  apply Triple.bind hp
  · intro a s hs
    exact hf a s hs.2
  · intro e s hs
    rcases hs.1 with ⟨a, ha⟩
    cases ha

theorem Triple.bind_pure (hp : Triple C P p R) (f : α -> β) :
    Triple C P (p >>= fun a => Pure.pure (f a)) (fun _ _ => True) :=
  Triple.bind hp (fun _ => Triple.pure (fun _ _ => trivial)) (fun _ _ _ => trivial)

theorem Triple.bind_read {f : σ -> Process σ ε β} {Q : Except ε β -> σ -> Prop}
    (hf : forall s₀, P s₀ -> Triple C (fun s => s = s₀) (f s₀) Q) :
    Triple C P (read >>= f) Q := by
  intro s hs
  exact hf s hs s rfl

theorem Triple.transaction {set : σ -> ρ -> σ} {call : σ -> Except ε' (ρ × α)}
    (hok : forall s part a, P s -> call s = .ok (part, a) ->
      Q (.ok a) (set s part) ∧ C s (set s part))
    (herror : forall s e, P s -> call s = .error e -> Q (.error (wrap e)) s) :
    Triple C P (transaction set wrap call) Q := by
  intro s hs
  unfold Process.transaction
  cases hcall : call s with
  | error e =>
      refine ⟨herror s e hs hcall, ?_⟩
      intro c hc
      cases hc
  | ok r =>
      rcases hok s r.1 r.2 hs hcall with ⟨hQ, hC⟩
      refine ⟨hQ, ?_⟩
      intro c hc
      rw [List.mem_singleton.mp hc]
      exact hC

theorem Triple.await (h : forall s, P s -> Q outcome (others s)) :
    Triple C P (await others outcome) Q := by
  intro s hs
  refine ⟨h s hs, ?_⟩
  intro c hc
  cases hc

theorem Triple.call {f : σ -> Except ε α × σ} (h : forall s, P s -> Q (f s).1 (f s).2) :
    Triple C P (call f) Q := by
  intro s hs
  refine ⟨h s hs, ?_⟩
  intro c hc
  cases hc

/-- After an attempt, each of its results is a case of its own. -/
theorem Triple.bind_attempt {f : Except ε α -> Process σ ε' β} {Q : Except ε' β -> σ -> Prop}
    (hp : Triple C P p R) (hf : forall r, Triple C (R r) (f r) Q) :
    Triple C P (attempt p >>= f) Q := by
  have hattempt : Triple C P (Process.attempt p : Process σ ε' (Except ε α))
      (fun r s => exists r', r = .ok r' ∧ R r' s) := by
    intro s hs
    rcases hp s hs with ⟨hR, hcommits⟩
    exact ⟨⟨_, rfl, hR⟩, hcommits⟩
  apply Triple.bind hattempt
  · intro r s hs
    rcases hs with ⟨_, hr, hR⟩
    cases hr
    exact hf r s hR
  · intro e s hs
    rcases hs with ⟨_, hr, _⟩
    cases hr

theorem Triple.tryCatch {handler : ε -> Process σ ε' α} {Q : Except ε' α -> σ -> Prop}
    (hp : Triple C P p R) (hok : forall a s, R (.ok a) s -> Q (.ok a) s)
    (hhandler : forall e, Triple C (R (.error e)) (handler e) Q) :
    Triple C P (tryCatch p handler) Q := by
  apply Triple.bind_attempt hp
  intro r
  cases r with
  | ok a =>
      exact Triple.pure (hok a)
  | error e =>
      exact hhandler e

theorem Triple.swallow {R : σ -> Prop} (h : Triple C P p (fun _ s => R s)) :
    Triple C P (swallow p : Process σ ε' Unit) (fun r s => (exists a, r = .ok a) ∧ R s) := by
  apply Triple.bind_attempt h
  intro r
  exact Triple.pure (fun _ hs => ⟨⟨(), rfl⟩, hs⟩)

theorem Triple.forEach {body : α -> Process σ ε Unit} {rounds : List α}
    (h : forall a, a ∈ rounds -> Triple C P (body a) (fun _ s => P s)) :
    Triple C P (forEach body rounds) (fun _ s => P s) := by
  induction rounds with
  | nil =>
      exact Triple.pure (fun _ hs => hs)
  | cons a rest ih =>
      have hrest := ih (fun b hb => h b (List.mem_cons_of_mem a hb))
      exact Triple.bind (h a List.mem_cons_self) (fun _ => hrest) (fun _ _ hs => hs)

theorem Triple.ofExcept {r : Except ε α} (h : forall s, P s -> Q r s) :
    Triple C P (ofExcept r) Q := by
  cases r with
  | ok a =>
      exact Triple.pure h
  | error e =>
      exact Triple.throw h

variable {body : α -> Process σ ε β}

/-- A loop that collects keeps what each of its rounds keeps. -/
theorem Triple.collect {rounds : List α}
    (h : forall a, a ∈ rounds -> Triple C P (body a) (fun _ s => P s)) :
    Triple C P (collect body rounds) (fun _ s => P s) := by
  induction rounds with
  | nil =>
      exact Triple.pure (fun _ hs => hs)
  | cons a rest ih =>
      have hrest := ih (fun b hb => h b (List.mem_cons_of_mem a hb))
      apply Triple.bind (h a List.mem_cons_self)
      · intro b
        apply Triple.bind hrest
        · exact fun bs => Triple.pure (fun _ hs => hs)
        · exact fun _ _ hs => hs
      · exact fun _ _ hs => hs

/-!
## Deciding a guarantee

Whether all commits of a process satisfy the guarantee, started anywhere in the
precondition, depends on the condition alone.
-/

def Decides (C : σ -> σ -> Prop) (P : σ -> Prop) (p : Process σ ε α) (X : Prop) : Prop :=
  forall s, P s -> ((forall c, c ∈ (p s).commits -> C c.1 c.2) <-> X)

theorem Triple.decides (h : Triple C P p Q) (hX : X) : Decides C P p X := by
  intro s hs
  constructor
  · intro _
    exact hX
  · intro _
    exact (h s hs).2

theorem Decides.of_pure {Y : Prop} (h : Y -> Decides C P p X) :
    Decides C (fun s => Y ∧ P s) p X := by
  intro s hs
  exact h hs.1 s hs.2

theorem Decides.congr {X' : Prop} (h : Decides C P p X) (hX : X <-> X') : Decides C P p X' := by
  intro s hs
  rw [h s hs]
  exact hX

theorem Decides.bind (hp : Triple C P p R) (hf : forall a, Decides C (R (.ok a)) (f a) X)
    (he : forall e s, R (.error e) s -> X) : Decides C P (p >>= f) X := by
  intro s hs
  rcases hp s hs with ⟨hR, hcommits⟩
  cases hresult : (p s).result with
  | error e =>
      rw [hresult] at hR
      have hX := he e _ hR
      constructor
      · intro _
        exact hX
      · intro _ c hc
        rcases mem_commits_bind.mp hc with hc | ⟨a, ha, _⟩
        · exact hcommits c hc
        · rw [hresult] at ha
          cases ha
  | ok a =>
      rw [hresult] at hR
      rw [← hf a _ hR]
      constructor
      · intro h c hc
        exact h c (mem_commits_bind.mpr (Or.inr ⟨a, hresult, hc⟩))
      · intro h c hc
        rcases mem_commits_bind.mp hc with hc | ⟨a', ha, hc⟩
        · exact hcommits c hc
        · rw [hresult] at ha
          cases ha
          exact h c hc

theorem Decides.bind_attempt {f : Except ε α -> Process σ ε' β} (hp : Triple C P p R)
    (hf : forall r, Decides C (R r) (f r) X) : Decides C P (attempt p >>= f) X := by
  intro s hs
  rcases hp s hs with ⟨hR, hcommits⟩
  rw [← hf _ _ hR]
  constructor
  · intro h c hc
    exact h c (mem_commits_attempt_bind.mpr (Or.inr hc))
  · intro h c hc
    rcases mem_commits_attempt_bind.mp hc with hc | hc
    · exact hcommits c hc
    · exact h c hc

theorem Decides.bind_guarantees (hp : Decides C P p X)
    (hf : forall a, Triple C (fun _ => True) (f a) (fun _ _ => True)) :
    Decides C P (p >>= f) X := by
  intro s hs
  rw [← hp s hs]
  constructor
  · intro h c hc
    exact h c (mem_commits_bind.mpr (Or.inl hc))
  · intro h c hc
    rcases mem_commits_bind.mp hc with hc | ⟨a, _, hc⟩
    · exact h c hc
    · exact (hf a _ trivial).2 c hc

/-!
## Invariants

What holds when a process starts holds when it ends, whether it throws or not, and each
of its commits satisfies the guarantee.
-/

def Keeps (C : σ -> σ -> Prop) (I : σ -> Prop) (p : Process σ ε α) : Prop :=
  Triple C I p (fun _ s => I s)

section Keeps

variable {I : σ -> Prop}

theorem Keeps.then {Q : Except ε β -> σ -> Prop} (hp : Keeps C I p)
    (hf : forall a, Triple C I (f a) Q) (he : forall e s, I s -> Q (.error e) s) :
    Triple C I (p >>= f) Q :=
  Triple.bind hp hf he

theorem Keeps.pure (a : α) : Keeps C I (pure a : Process σ ε α) :=
  Triple.pure (fun _ hs => hs)

theorem Keeps.throw (e : ε) : Keeps C I (throw e : Process σ ε α) :=
  Triple.throw (fun _ hs => hs)

theorem Keeps.await (h : forall s, I s -> I (others s)) : Keeps C I (await others outcome) :=
  Triple.await h

theorem Keeps.transaction {set : σ -> ρ -> σ} {call : σ -> Except ε' (ρ × α)}
    (h : forall s part a, I s -> call s = .ok (part, a) -> I (set s part) ∧ C s (set s part)) :
    Keeps C I (transaction set wrap call) :=
  Triple.transaction h (fun _ _ hs _ => hs)

theorem Keeps.bind (hp : Keeps C I p) (hf : forall a, Keeps C I (f a)) : Keeps C I (p >>= f) :=
  hp.then hf (fun _ _ hs => hs)

theorem Keeps.bind_attempt {f : Except ε α -> Process σ ε' β} (hp : Keeps C I p)
    (hf : forall r, Keeps C I (f r)) : Keeps C I (attempt p >>= f) :=
  Triple.bind_attempt hp hf

theorem Keeps.swallow (hp : Keeps C I p) : Keeps C I (swallow p : Process σ ε' Unit) :=
  (Triple.swallow hp).post (fun _ _ h => h.2)

theorem Keeps.forEach {body : α -> Process σ ε Unit} {rounds : List α}
    (h : forall a, a ∈ rounds -> Keeps C I (body a)) :
    Keeps C I (forEach body rounds) :=
  Triple.forEach h

/-- The invariant holds, and a result that is returned satisfies the condition. -/
def Returning (I : σ -> Prop) (Q : α -> Prop) (r : Except ε α) (s : σ) : Prop :=
  I s ∧ forall a, r = .ok a -> Q a

theorem Returning.ok {Q : α -> Prop} (hs : I s) (ha : Q a) :
    Returning I Q (.ok a : Except ε α) s := by
  refine ⟨hs, ?_⟩
  intro b hb
  cases hb
  exact ha

theorem Returning.error {Q : α -> Prop} (hs : I s) : Returning I Q (.error e) s := by
  refine ⟨hs, ?_⟩
  intro a ha
  cases ha

theorem Keeps.returning {Q : β -> Prop} (hp : Keeps C I p)
    (hf : forall a, Triple C I (f a) (Returning I Q)) : Triple C I (p >>= f) (Returning I Q) :=
  hp.then hf (fun _ _ hs => .error hs)

end Keeps

/-!
## Guarantees

What all commits of a process satisfy, whatever the state in which it starts.
-/

def Guarantees (C : σ -> σ -> Prop) (p : Process σ ε α) : Prop :=
  Triple C (fun _ => True) p (fun _ _ => True)

theorem Guarantees.then {Q : Except ε β -> σ -> Prop} (hp : Guarantees C p)
    (hf : forall a, Triple C (fun _ => True) (f a) Q) (he : forall e s, Q (.error e) s) :
    Triple C (fun _ => True) (p >>= f) Q :=
  Keeps.then hp hf (fun e s _ => he e s)

theorem Guarantees.bind (hp : Guarantees C p) (hf : forall a, Guarantees C (f a)) :
    Guarantees C (p >>= f) :=
  Keeps.bind hp hf

theorem Guarantees.any (p : Process σ ε α) : Guarantees AnyCommit p := by
  intro s _
  exact ⟨trivial, fun _ _ => trivial⟩

theorem Guarantees.pure (a : α) : Guarantees C (pure a : Process σ ε α) :=
  Keeps.pure a

theorem Guarantees.throw (e : ε) : Guarantees C (throw e : Process σ ε α) :=
  Keeps.throw e

theorem Guarantees.await : Guarantees C (await others outcome) :=
  Keeps.await (fun _ hs => hs)

theorem Guarantees.transaction {set : σ -> ρ -> σ} {call : σ -> Except ε' (ρ × α)}
    (h : forall s part a, call s = .ok (part, a) -> C s (set s part)) :
    Guarantees C (transaction set wrap call) :=
  Keeps.transaction (fun s part a _ hcall => ⟨trivial, h s part a hcall⟩)

/-!
## Guarantees of some endings

What the commits of a process satisfy in the runs that end with certain results.
-/

def GuaranteesWhen (R : Except ε α -> Prop) (C : σ -> σ -> Prop)
    (p : Process σ ε α) : Prop :=
  forall s, R (p s).result -> forall c, c ∈ (p s).commits -> C c.1 c.2

theorem Guarantees.when {R : Except ε α -> Prop} (h : Guarantees C p) : GuaranteesWhen R C p := by
  intro s _
  exact (h s trivial).2

theorem bind_result_of_ok (h : (p s).result = .ok a) :
    ((p >>= f) s).result = (f a (p s).state).result := by
  simp only [Bind.bind, h]

theorem Guarantees.bind_when {R : Except ε β -> Prop} (hp : Guarantees C p)
    (hf : forall a, GuaranteesWhen R C (f a)) : GuaranteesWhen R C (p >>= f) := by
  intro s hR c hc
  rcases mem_commits_bind.mp hc with hc | ⟨a, ha, hc⟩
  · exact (hp s trivial).2 c hc
  · rw [bind_result_of_ok ha] at hR
    exact hf a _ hR c hc

/-- Only an attempt that fails is followed by one of the results. -/
theorem GuaranteesWhen.bind_attempt {R : Except ε' β -> Prop} {f : Except ε α -> Process σ ε' β}
    (hp : GuaranteesWhen (fun r => exists e, r = .error e) C p)
    (hok : forall a s, ¬ R (f (.ok a) s).result)
    (herror : forall e, GuaranteesWhen R C (f (.error e))) :
    GuaranteesWhen R C (attempt p >>= f) := by
  intro s hR c hc
  change R (f (p s).result (p s).state).result at hR
  cases hresult : (p s).result with
  | ok a =>
      rw [hresult] at hR
      exact absurd hR (hok a _)
  | error e =>
      rw [hresult] at hR
      rcases mem_commits_attempt_bind.mp hc with hc | hc
      · exact hp s ⟨e, hresult⟩ c hc
      · rw [hresult] at hc
        exact herror e _ hR c hc

/-!
## Returning

From which state a process returns which result, and the state it leaves.
-/

def Returns (p : Process σ ε α) (s : σ) (a : α) (s' : σ) : Prop :=
  (p s).result = .ok a ∧ (p s).state = s'

theorem returns_pure {b : α} : Returns (pure b : Process σ ε α) s a s' <-> a = b ∧ s' = s := by
  constructor
  · intro h
    rcases h with ⟨hresult, hstate⟩
    cases hresult
    exact ⟨rfl, hstate.symm⟩
  · intro h
    rw [h.1, h.2]
    exact ⟨rfl, rfl⟩

theorem not_returns_throw : ¬ Returns (throw e : Process σ ε α) s a s' := by
  intro h
  cases h.1

theorem returns_ofExcept {r : Except ε α} :
    Returns (ofExcept r) s a s' <-> r = .ok a ∧ s' = s := by
  cases r with
  | ok b =>
      unfold ofExcept
      rw [returns_pure, Except.ok.injEq]
      exact and_congr_left' eq_comm
  | error e =>
      constructor
      · intro h
        exact absurd h not_returns_throw
      · intro h
        cases h.1

theorem returns_await :
    Returns (await others outcome) s a s' <-> outcome = .ok a ∧ s' = others s := by
  unfold Returns
  exact and_congr_right' eq_comm

theorem returns_transaction {set : σ -> ρ -> σ} {call : σ -> Except ε' (ρ × α)} :
    Returns (transaction set wrap call) s a s' <->
      exists part, call s = .ok (part, a) ∧ s' = set s part := by
  unfold Returns
  cases hcall : call s with
  | error e =>
      rw [transaction_of_error hcall]
      simp
  | ok r =>
      rw [transaction_of_ok hcall]
      constructor
      · intro h
        rcases h with ⟨hresult, hstate⟩
        cases hresult
        exact ⟨r.1, rfl, hstate.symm⟩
      · intro h
        rcases h with ⟨part, hr, hs'⟩
        cases hr
        exact ⟨rfl, hs'.symm⟩

theorem returns_bind {s'' : σ} {b : β} :
    Returns (p >>= f) s b s'' <->
      exists a s', Returns p s a s' ∧ Returns (f a) s' b s'' := by
  unfold Returns
  simp only [Bind.bind]
  cases hresult : (p s).result with
  | error e =>
      constructor
      · intro h
        cases h.1
      · intro h
        rcases h with ⟨a, s', ⟨ha, _⟩, _⟩
        cases ha
  | ok a =>
      constructor
      · intro h
        exact ⟨a, _, ⟨rfl, rfl⟩, h⟩
      · intro h
        rcases h with ⟨a', s', ⟨ha, hs'⟩, h⟩
        cases ha
        rw [hs']
        exact h

theorem returns_attempt_bind {f : Except ε α -> Process σ ε' β} {s'' : σ} {b : β} :
    Returns (attempt p >>= f) s b s'' <->
      (exists a s', Returns p s a s' ∧ Returns (f (.ok a)) s' b s'') ∨
        exists e, (p s).result = .error e ∧ Returns (f (.error e)) (p s).state b s'' := by
  change Returns (f (p s).result) (p s).state b s'' <-> _
  unfold Returns
  cases hresult : (p s).result with
  | error e =>
      simp
  | ok a =>
      constructor
      · intro h
        exact Or.inl ⟨a, _, ⟨rfl, rfl⟩, h⟩
      · intro h
        rcases h with ⟨a', s', ⟨ha, hs'⟩, h⟩ | ⟨e, he, _⟩
        · cases ha
          rw [hs']
          exact h
        · cases he

/-- A loop that collects: the invariant speaks of the elements that are still to come. -/
theorem returns_collect (I : List α -> σ -> Prop) (Q : β -> Prop)
    (h : forall a rest s, I (a :: rest) s -> exists b s', Returns (body a) s b s' ∧ I rest s' ∧ Q b)
    {elements : List α} (hs : I elements s) :
    exists bs s', Returns (collect body elements) s bs s' ∧ I [] s' ∧
      forall b, b ∈ bs -> Q b := by
  induction elements generalizing s with
  | nil =>
      exact ⟨[], s, returns_pure.mpr ⟨rfl, rfl⟩, hs, fun b hb => absurd hb List.not_mem_nil⟩
  | cons a rest ih =>
      rcases h a rest s hs with ⟨b, s₁, hbody, hs₁, hb⟩
      rcases ih hs₁ with ⟨bs, s₂, hrest, hs₂, hbs⟩
      refine ⟨b :: bs, s₂, ?_, hs₂, ?_⟩
      · apply returns_bind.mpr
        refine ⟨b, s₁, hbody, ?_⟩
        apply returns_bind.mpr
        exact ⟨bs, s₂, hrest, returns_pure.mpr ⟨rfl, rfl⟩⟩
      · intro b' hb'
        rcases List.mem_cons.mp hb' with hb' | hb'
        · rw [hb']
          exact hb
        · exact hbs b' hb'

theorem returns_collect_of_rounds (I : List α -> σ -> Prop)
    (h : forall a rest s, I (a :: rest) s -> exists b s', Returns (body a) s b s' ∧ I rest s')
    {elements : List α} (hs : I elements s) :
    exists bs s', Returns (collect body elements) s bs s' ∧ I [] s' := by
  have hround : forall a rest s, I (a :: rest) s ->
      exists b s', Returns (body a) s b s' ∧ I rest s' ∧ True := by
    intro a rest s hs
    rcases h a rest s hs with ⟨b, s', hreturns, hnext⟩
    exact ⟨b, s', hreturns, hnext, trivial⟩
  rcases returns_collect I (fun _ => True) hround hs with ⟨bs, s', hreturns, hend, _⟩
  exact ⟨bs, s', hreturns, hend⟩

end Process

end Foundations
end CopilotFactory
