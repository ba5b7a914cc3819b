import Mathlib.Data.List.Nodup

/-!
# Insertion-ordered sets

A set that lists its members in the order in which they came in.  What is added again
keeps its place, and what is deleted and added again comes last.
-/

namespace CopilotFactory
namespace Foundations

structure OrderedSet (α : Type) where
  items : List α
  nodup : items.Nodup

namespace OrderedSet

variable {α : Type}

instance : Membership α (OrderedSet α) where
  mem s x := x ∈ s.items

def empty : OrderedSet α where
  items := []
  nodup := List.nodup_nil

theorem mem_def {s : OrderedSet α} {x : α} : x ∈ s <-> x ∈ s.items :=
  Iff.rfl

@[simp] theorem not_mem_empty (x : α) : ¬ x ∈ (empty : OrderedSet α) :=
  List.not_mem_nil

variable [DecidableEq α]

instance (x : α) (s : OrderedSet α) : Decidable (x ∈ s) :=
  inferInstanceAs (Decidable (x ∈ s.items))

def add (s : OrderedSet α) (x : α) : OrderedSet α :=
  if h : x ∈ s.items then
    s
  else
    { items := s.items ++ [x]
      nodup := by
        rw [List.nodup_append]
        refine ⟨s.nodup, List.nodup_singleton x, ?_⟩
        intro a ha b hb heq
        rw [List.mem_singleton.mp hb] at heq
        exact h (heq ▸ ha) }

def delete (s : OrderedSet α) (x : α) : OrderedSet α where
  items := s.items.filter (fun y => y ≠ x)
  nodup := s.nodup.filter _

@[simp] theorem mem_add {s : OrderedSet α} {x y : α} : y ∈ s.add x <-> y ∈ s ∨ y = x := by
  unfold add
  split
  · rename_i hx
    constructor
    · exact Or.inl
    · rintro (hy | rfl)
      · exact hy
      · exact hx
  · simp [mem_def]

@[simp] theorem mem_delete {s : OrderedSet α} {x y : α} :
    y ∈ s.delete x <-> y ∈ s ∧ y ≠ x := by
  simp [mem_def, delete]

end OrderedSet

end Foundations
end CopilotFactory
