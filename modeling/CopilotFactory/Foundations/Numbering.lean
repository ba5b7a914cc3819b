import Mathlib.Data.List.Sort
import Mathlib.Data.List.Nodup

/-!
# Numbered lists

The members of a list carry a number.  A list is numbered when the numbers are
1, 2, … in its order, and renumbering makes it so.
-/

namespace CopilotFactory
namespace Foundations

variable {α : Type} {number : α -> Nat} {l : List α}

def Numbered (number : α -> Nat) (l : List α) : Prop :=
  l.map number = List.range' 1 l.length

instance (number : α -> Nat) (l : List α) : Decidable (Numbered number l) :=
  inferInstanceAs (Decidable (_ = _))

theorem numbered_nil (number : α -> Nat) : Numbered number [] :=
  rfl

theorem Numbered.head (h : Numbered number l) {a : α} (ha : l.head? = some a) :
    number a = 1 := by
  cases l with
  | nil =>
      cases ha
  | cons first rest =>
      cases ha
      unfold Numbered at h
      rw [List.map_cons, List.length_cons, List.range'_succ] at h
      exact (List.cons.inj h).1

theorem Numbered.inj (h : Numbered number l) {a b : α} (ha : a ∈ l) (hb : b ∈ l)
    (heq : number a = number b) :
    a = b := by
  have hnodup : (l.map number).Nodup := by
    rw [h]
    exact List.nodup_range'
  exact List.inj_on_of_nodup_map hnodup ha hb heq

/-!
## Renumbering
-/

variable {setNumber : Nat -> α -> α}

def renumber (setNumber : Nat -> α -> α) (l : List α) : List α :=
  l.zipIdx.map (fun entry => setNumber (entry.2 + 1) entry.1)

theorem mem_renumber {b : α} :
    b ∈ renumber setNumber l <-> exists a i, (a, i) ∈ l.zipIdx ∧ b = setNumber (i + 1) a := by
  unfold renumber
  constructor
  · intro h
    rcases List.mem_map.mp h with ⟨⟨a, i⟩, hmem, heq⟩
    exact ⟨a, i, hmem, heq.symm⟩
  · intro h
    rcases h with ⟨a, i, hmem, heq⟩
    exact List.mem_map.mpr ⟨(a, i), hmem, heq.symm⟩

theorem numbered_renumber (hset : forall n a, number (setNumber n a) = n) (l : List α) :
    Numbered number (renumber setNumber l) := by
  have hfrom : forall start : Nat,
      ((l.zipIdx start).map (fun entry => setNumber (entry.2 + 1) entry.1)).map number =
        List.range' (start + 1) l.length := by
    induction l with
    | nil =>
        intro start
        rfl
    | cons a rest ih =>
        intro start
        rw [List.zipIdx_cons, List.map_cons, List.map_cons, hset, ih, List.length_cons,
          List.range'_succ]
  unfold Numbered renumber
  rw [hfrom 0, List.length_map, List.length_zipIdx]

theorem pairwise_renumber {r r' : α -> α -> Prop}
    (hset : forall n m a b, r a b -> r' (setNumber n a) (setNumber m b))
    (h : l.Pairwise r) :
    (renumber setNumber l).Pairwise r' := by
  unfold renumber
  rw [List.pairwise_map]
  have hfst : (l.zipIdx.map Prod.fst).Pairwise r := by
    rw [List.zipIdx_map_fst]
    exact h
  rw [List.pairwise_map] at hfst
  exact hfst.imp (fun hr => hset _ _ _ _ hr)

end Foundations
end CopilotFactory
