import CopilotFactory.Foundations.Table
import CopilotFactory.Foundations.TransitionSystem

/-!
# Two runs in lockstep

Two computations are in lockstep if both fail, or both return and their results are
related.  What they fail with may differ.  If every request that is made of two related
states is in lockstep, then two runs accept the same requests and stay related.
-/

namespace CopilotFactory
namespace Foundations

/-!
## Computations
-/

section Computations

variable {ε α β γ δ : Type} {P : α -> β -> Prop} {Q : γ -> δ -> Prop}

variable {p q : Prop}

/-- Both fail, or both return related results. -/
def Lockstep (P : α -> β -> Prop) : Except ε α -> Except ε β -> Prop
  | .ok a, .ok b => P a b
  | .error _, .error _ => True
  | _, _ => False

theorem lockstep_ok {a : α} {b : β} (h : P a b) :
    Lockstep P (.ok a : Except ε α) (.ok b) :=
  h

theorem lockstep_pure {a : α} {b : β} (h : P a b) :
    Lockstep P (pure a : Except ε α) (pure b) :=
  h

theorem Lockstep.cases {x : Except ε α} {y : Except ε β} (h : Lockstep P x y) :
    (exists a b, x = .ok a ∧ y = .ok b ∧ P a b) ∨ exists e e', x = .error e ∧ y = .error e' := by
  cases x with
  | ok a =>
      cases y with
      | ok b =>
          exact Or.inl ⟨a, b, rfl, rfl, h⟩
      | error e =>
          exact h.elim
  | error e =>
      cases y with
      | ok b =>
          exact h.elim
      | error e' =>
          exact Or.inr ⟨e, e', rfl, rfl⟩

theorem Lockstep.bind {x : Except ε α} {y : Except ε β} {f : α -> Except ε γ}
    {g : β -> Except ε δ} (h : Lockstep P x y)
    (hnext : forall a b, P a b -> Lockstep Q (f a) (g b)) :
    Lockstep Q (x >>= f) (y >>= g) := by
  rcases h.cases with ⟨a, b, rfl, rfl, hab⟩ | ⟨e, e', rfl, rfl⟩
  · exact hnext a b hab
  · trivial

theorem Lockstep.map {x : Except ε α} {y : Except ε β} {f : α -> γ} {g : β -> δ}
    (h : Lockstep P x y) (hmap : forall a b, P a b -> Q (f a) (g b)) :
    Lockstep Q (x.map f) (y.map g) :=
  h.bind hmap

theorem Lockstep.mapError {x : Except ε α} {y : Except ε β} {f : ε -> ε}
    (h : Lockstep P x y) :
    Lockstep P (x.mapError f) (y.mapError f) := by
  rcases h.cases with ⟨a, b, rfl, rfl, hab⟩ | ⟨e, e', rfl, rfl⟩
  · exact hab
  · trivial

theorem Lockstep.isOk_eq {x : Except ε α} {y : Except ε β} (h : Lockstep P x y) :
    x.isOk = y.isOk := by
  rcases h.cases with ⟨a, b, rfl, rfl, hab⟩ | ⟨e, e', rfl, rfl⟩
  · rfl
  · rfl

theorem Lockstep.toOption {x : Except ε α} {y : Except ε β} (h : Lockstep P x y) :
    Option.Rel P x.toOption y.toOption := by
  rcases h.cases with ⟨a, b, rfl, rfl, hab⟩ | ⟨e, e', rfl, rfl⟩
  · exact .some hab
  · exact .none

theorem lockstep_of_refused {x : Except ε α} {y : Except ε β} (hx : forall a, x ≠ .ok a)
    (hy : forall b, y ≠ .ok b) :
    Lockstep P x y := by
  cases x with
  | ok a =>
      exact absurd rfl (hx a)
  | error e =>
      cases y with
      | ok b =>
          exact absurd rfl (hy b)
      | error e' =>
          trivial

theorem lockstep_self (x : Except ε α) :
    Lockstep Eq x x := by
  cases x with
  | ok a =>
      rfl
  | error e =>
      trivial

theorem Lockstep.told {x : Except ε α} {y : Except ε β} (h : Lockstep P x y) :
    Lockstep (fun a b => x = .ok a ∧ y = .ok b ∧ P a b) x y := by
  rcases h.cases with ⟨a, b, rfl, rfl, hab⟩ | ⟨e, e', rfl, rfl⟩
  · exact ⟨rfl, rfl, hab⟩
  · trivial

theorem lockstep_orThrow {x : Option α} {y : Option β} {e e' : ε} (h : Option.Rel P x y) :
    Lockstep (fun a b => x = some a ∧ y = some b ∧ P a b) (orThrow x e) (orThrow y e') := by
  cases h with
  | some hab =>
      exact ⟨rfl, rfl, hab⟩
  | none =>
      trivial

theorem lockstep_refuse {x : Option α} {y : Option β} {e : α -> ε} {e' : β -> ε}
    (h : x = none <-> y = none) :
    Lockstep Eq (refuse x e) (refuse y e') := by
  cases x with
  | none =>
      rw [h.mp rfl]
      rfl
  | some a =>
      cases y with
      | none =>
          cases h.mpr rfl
      | some b =>
          trivial

theorem lockstep_ensure [Decidable p] [Decidable q] {e e' : ε} (h : p <-> q) :
    Lockstep Eq (ensure p e) (ensure q e') := by
  by_cases hp : p
  · rw [ensure_of hp, ensure_of (h.mp hp)]
    rfl
  · rw [ensure_of_not hp, ensure_of_not (fun hq => hp (h.mpr hq))]
    trivial

theorem lockstep_dite [Decidable p] [Decidable q] {x : p -> Except ε α} {x' : ¬ p -> Except ε α}
    {y : q -> Except ε β} {y' : ¬ q -> Except ε β} (h : p <-> q)
    (hthen : forall hp hq, Lockstep P (x hp) (y hq))
    (helse : forall hp hq, Lockstep P (x' hp) (y' hq)) :
    Lockstep P (dite p x x') (dite q y y') := by
  by_cases hp : p
  · rw [dif_pos hp, dif_pos (h.mp hp)]
    exact hthen hp (h.mp hp)
  · rw [dif_neg hp, dif_neg (fun hq => hp (h.mpr hq))]
    exact helse hp (fun hq => hp (h.mpr hq))

theorem lockstep_ite [Decidable p] [Decidable q] {x x' : Except ε α} {y y' : Except ε β}
    (h : p <-> q) (hthen : p -> q -> Lockstep P x y) (helse : ¬ p -> ¬ q -> Lockstep P x' y') :
    Lockstep P (if p then x else x') (if q then y else y') :=
  lockstep_dite h hthen helse

theorem lockstep_foldlM {f : α -> γ -> Except ε α} {g : β -> γ -> Except ε β}
    (hstep : forall a b c, P a b -> Lockstep P (f a c) (g b c)) (l : List γ) {a : α} {b : β}
    (h : P a b) :
    Lockstep P (l.foldlM f a) (l.foldlM g b) := by
  induction l generalizing a b with
  | nil =>
      exact h
  | cons c rest ih =>
      rw [List.foldlM_cons, List.foldlM_cons]
      exact (hstep a b c h).bind (fun a' b' h' => ih h')

end Computations

/-!
## Runs
-/

namespace TransitionSystem

variable {σ α ε β : Type} (M : TransitionSystem σ α ε)

variable {s t : σ}

/-- What an observer sees of a run: of every request whether it is accepted, and a part
of the state after it. -/
def observe (view : σ -> β) (s : σ) : List α -> List (Bool × β)
  | [] => []
  | a :: rest => ((M.step s a).isOk, view (M.next s a)) :: observe view (M.next s a) rest

variable {M} {A : α -> Prop} {R : σ -> σ -> Prop}

def StepsInLockstep (M : TransitionSystem σ α ε) (A : α -> Prop) (R : σ -> σ -> Prop) : Prop :=
  forall s t a, A a -> R s t -> Lockstep R (M.step s a) (M.step t a)

/-- After a rejected request both states are as before. -/
theorem StepsInLockstep.next (h : M.StepsInLockstep A R) {a : α} (ha : A a) (hst : R s t) :
    R (M.next s a) (M.next t a) := by
  have hstep := h s t a ha hst
  unfold TransitionSystem.next
  rcases hstep.cases with ⟨s', t', hs, ht, hnext⟩ | ⟨_, _, hs, ht⟩
  · rw [hs, ht]
    exact hnext
  · rw [hs, ht]
    exact hst

theorem StepsInLockstep.run (h : M.StepsInLockstep A R) {requests : List α}
    (hrequests : forall a, a ∈ requests -> A a) (hst : R s t) :
    R (M.run s requests) (M.run t requests) := by
  induction requests generalizing s t with
  | nil =>
      exact hst
  | cons a rest ih =>
      have ha := hrequests a List.mem_cons_self
      exact ih (fun b hb => hrequests b (List.mem_cons_of_mem a hb)) (h.next ha hst)

/-- An observer who sees the same in related states cannot tell the two runs apart. -/
theorem StepsInLockstep.observe_eq (h : M.StepsInLockstep A R) {view : σ -> β}
    (hview : forall s t, R s t -> view s = view t) {requests : List α}
    (hrequests : forall a, a ∈ requests -> A a) (hst : R s t) :
    M.observe view s requests = M.observe view t requests := by
  induction requests generalizing s t with
  | nil =>
      rfl
  | cons a rest ih =>
      have ha := hrequests a List.mem_cons_self
      have hnext := h.next ha hst
      unfold observe
      rw [(h s t a ha hst).isOk_eq, hview _ _ hnext,
        ih (fun b hb => hrequests b (List.mem_cons_of_mem a hb)) hnext]

end TransitionSystem

/-!
## Tables
-/

section Tables

variable {K R : Type} [DecidableEq K] {key : R -> K} {ignored : K -> Prop}
  {P : R -> R -> Prop} {T T' : Table K R key}

variable {x y : Option R} {r : R}

/-- Outside the ignored keys the two tables have rows for the same keys, and these are
related. -/
def AlikeTables (ignored : K -> Prop) (P : R -> R -> Prop) (T T' : Table K R key) : Prop :=
  forall k, ¬ ignored k -> Option.Rel P (T.find? k) (T'.find? k)

theorem cases_of_rel (h : Option.Rel P x y) :
    (x = none ∧ y = none) ∨ exists r r', x = some r ∧ y = some r' ∧ P r r' := by
  cases h with
  | some hrr' =>
      exact Or.inr ⟨_, _, rfl, rfl, hrr'⟩
  | none =>
      exact Or.inl ⟨rfl, rfl⟩

theorem eq_none_iff_of_rel (h : Option.Rel P x y) : x = none <-> y = none := by
  rcases cases_of_rel h with ⟨hx, hy⟩ | ⟨r, r', hx, hy, _⟩
  · simp [hx, hy]
  · simp [hx, hy]

theorem isSome_iff_of_rel (h : Option.Rel P x y) : x.isSome = true <-> y.isSome = true := by
  rcases cases_of_rel h with ⟨hx, hy⟩ | ⟨r, r', hx, hy, _⟩
  · simp [hx, hy]
  · simp [hx, hy]

theorem AlikeTables.find?_eq (h : AlikeTables ignored Eq T T') {k : K} (hk : ¬ ignored k) :
    T.find? k = T'.find? k := by
  rcases cases_of_rel (h k hk) with ⟨hx, hy⟩ | ⟨r, r', hx, hy, heq⟩
  · rw [hx, hy]
  · rw [hx, hy, heq]

theorem AlikeTables.mem (h : AlikeTables ignored P T T') (hr : r ∈ T) (hk : ¬ ignored (key r)) :
    exists r', r' ∈ T' ∧ P r r' := by
  have hfind := Table.find?_key_of_mem hr
  rcases cases_of_rel (h (key r) hk) with ⟨hnone, _⟩ | ⟨r₁, r', hr₁, hr', hP⟩
  · rw [hfind] at hnone
    cases hnone
  · rw [hfind] at hr₁
    cases hr₁
    exact ⟨r', Table.mem_of_find? hr', hP⟩

theorem AlikeTables.mem_right (h : AlikeTables ignored P T T') {r' : R} (hr : r' ∈ T')
    (hk : ¬ ignored (key r')) :
    exists r, r ∈ T ∧ P r r' := by
  have hfind := Table.find?_key_of_mem hr
  rcases cases_of_rel (h (key r') hk) with ⟨_, hnone⟩ | ⟨r, r₁, hr', hr₁, hP⟩
  · rw [hfind] at hnone
    cases hnone
  · rw [hfind] at hr₁
    cases hr₁
    exact ⟨r, Table.mem_of_find? hr', hP⟩

theorem AlikeTables.insert (h : AlikeTables ignored P T T') {r' : R}
    (hr : T.find? (key r) = none) (hr' : T'.find? (key r') = none) (hkey : key r = key r')
    (hP : P r r') : AlikeTables ignored P (T.insert r hr) (T'.insert r' hr') := by
  intro k hk
  by_cases hnew : k = key r
  · rw [hnew, Table.find?_insert_self, hkey, Table.find?_insert_self]
    exact .some hP
  · have hnew' : k ≠ key r' := by
      rw [← hkey]
      exact hnew
    rw [Table.find?_insert_of_ne hr hnew, Table.find?_insert_of_ne hr' hnew']
    exact h k hk

theorem AlikeTables.modify (h : AlikeTables ignored P T T') {k : K} {f f' : R -> R}
    (hf : forall r, key (f r) = key r) (hf' : forall r, key (f' r) = key r)
    (hP : forall r r', T.find? k = some r -> T'.find? k = some r' -> P r r' ->
      P (f r) (f' r')) :
    AlikeTables ignored P (T.modify k f hf) (T'.modify k f' hf') := by
  intro k' hk'
  by_cases hkey : k' = k
  · rw [hkey, Table.find?_modify_self, Table.find?_modify_self]
    rw [hkey] at hk'
    rcases cases_of_rel (h k hk') with ⟨hfind, hfind'⟩ | ⟨r, r', hfind, hfind', hrr'⟩
    · rw [hfind, hfind']
      exact .none
    · rw [hfind, hfind']
      exact .some (hP r r' hfind hfind' hrr')
  · rw [Table.find?_modify_of_ne hf hkey, Table.find?_modify_of_ne hf' hkey]
    exact h k' hk'

theorem AlikeTables.mono {P' : R -> R -> Prop} (h : AlikeTables ignored P T T')
    (hP : forall r r', P r r' -> P' r r') :
    AlikeTables ignored P' T T' := by
  intro k hk
  rcases cases_of_rel (h k hk) with ⟨hfind, hfind'⟩ | ⟨r, r', hfind, hfind', hrr'⟩
  · rw [hfind, hfind']
    exact .none
  · rw [hfind, hfind']
    exact .some (hP r r' hrr')

/-!
### Tables without some rows
-/

def Table.without (T : Table K R key) (dropped : R -> Bool) : Table K R key where
  rows := T.rows.filter (fun r => !dropped r)
  nodup := (List.filter_sublist.map key).nodup T.nodup

omit [DecidableEq K] in
theorem mem_without {dropped : R -> Bool} :
    r ∈ T.without dropped <-> r ∈ T ∧ dropped r = false := by
  simp [Table.mem_def, Table.without]

theorem alikeTables_without {dropped : R -> Bool}
    (h : forall r, r ∈ T -> dropped r = true -> ignored (key r)) :
    AlikeTables ignored Eq T (T.without dropped) := by
  intro k hk
  cases hfind : T.find? k with
  | none =>
      have hnone : (T.without dropped).find? k = none := by
        apply Table.find?_eq_none_iff.mpr
        intro r hr
        exact Table.find?_eq_none_iff.mp hfind r (mem_without.mp hr).1
      rw [hnone]
      exact .none
  | some r =>
      rcases Table.find?_eq_some_iff.mp hfind with ⟨hmem, hkey⟩
      have hkept : dropped r = false := by
        apply Bool.eq_false_iff.mpr
        intro hdropped
        apply hk
        rw [← hkey]
        exact h r hmem hdropped
      have hsome : (T.without dropped).find? k = some r :=
        Table.find?_eq_some_iff.mpr ⟨mem_without.mpr ⟨hmem, hkept⟩, hkey⟩
      rw [hsome]
      exact .some rfl

omit [DecidableEq K] in
theorem key_mem_selection_iff {p : R -> Bool} (hr : r ∈ T) :
    key r ∈ (T.rows.filter p).map key <-> p r = true := by
  rw [List.mem_map]
  constructor
  · intro h
    rcases h with ⟨r', hr', hkey⟩
    rcases List.mem_filter.mp hr' with ⟨hmem, hp⟩
    rw [Table.eq_of_key hr hmem hkey.symm]
    exact hp
  · intro hp
    exact ⟨r, List.mem_filter.mpr ⟨hr, hp⟩, rfl⟩

/-- A selection may be dropped and its keys ignored. -/
theorem alikeTables_without_selection (T : Table K R key) (p : R -> Bool) :
    AlikeTables (fun k => k ∈ (T.rows.filter p).map key) Eq T (T.without p) :=
  alikeTables_without (fun _ hr hp => (key_mem_selection_iff hr).mpr hp)

omit [DecidableEq K] in
theorem not_mem_selection_of_without {p : R -> Bool} (hr : r ∈ T.without p) :
    key r ∉ (T.rows.filter p).map key := by
  rcases mem_without.mp hr with ⟨hmem, hp⟩
  intro hkey
  rw [(key_mem_selection_iff hmem).mp hkey] at hp
  cases hp

end Tables

end Foundations
end CopilotFactory
