import Mathlib.Data.List.Basic
import Mathlib.Data.List.Flatten

/-!
# Batches

A list is cut into batches of one size, of which the last one may be shorter.  What is made
of the batches, joined in their order, is found where the items are that it was made of.
-/

namespace CopilotFactory
namespace Foundations
namespace Batches

variable {α β : Type}

def batch (size : Nat) (items : List α) (b : Nat) : List α :=
  (items.drop (size * b)).take size

def batchCount (size : Nat) (items : List α) : Nat :=
  (items.length + (size - 1)) / size

variable {size : Nat} {items : List α} {f : Nat -> List β}

theorem length_batch (b : Nat) :
    (batch size items b).length = min size (items.length - size * b) := by
  rw [batch, List.length_take, List.length_drop]

theorem getElem?_batch {b j : Nat} (hj : j < size) :
    (batch size items b)[j]? = items[size * b + j]? := by
  rw [batch, List.getElem?_take_of_lt hj, List.getElem?_drop]

theorem length_flatMap_range (hf : forall b, (f b).length = (batch size items b).length)
    (count : Nat) :
    ((List.range count).flatMap f).length = min (size * count) items.length := by
  induction count with
  | zero =>
      simp
  | succ count ih =>
      rw [List.range_succ, List.flatMap_append, List.length_append, ih,
        List.flatMap_singleton, hf, length_batch, Nat.mul_succ]
      omega

theorem length_flatMap_batches (hsize : 0 < size)
    (hf : forall b, (f b).length = (batch size items b).length) :
    ((List.range (batchCount size items)).flatMap f).length = items.length := by
  rw [length_flatMap_range hf]
  have hcount : items.length ≤ size * batchCount size items := by
    unfold batchCount
    have hdiv := Nat.div_add_mod (items.length + (size - 1)) size
    have hmod := Nat.mod_lt (items.length + (size - 1)) hsize
    omega
  omega

theorem getElem?_flatMap_range (hf : forall b, (f b).length = (batch size items b).length)
    {count b j : Nat} (hb : b < count) (hj : j < size) :
    ((List.range count).flatMap f)[size * b + j]? = (f b)[j]? := by
  induction count with
  | zero =>
      omega
  | succ count ih =>
      have hlength := length_flatMap_range hf count
      have hb' := hf b
      have hcount := hf count
      rw [length_batch] at hb' hcount
      rw [List.range_succ, List.flatMap_append, List.flatMap_singleton]
      by_cases hlast : b = count
      · rw [hlast] at hb' ⊢
        by_cases hfull : size * count ≤ items.length
        · rw [List.getElem?_append_right (by omega), hlength]
          congr 1
          omega
        · rw [List.getElem?_eq_none (by rw [List.length_append]; omega),
            List.getElem?_eq_none (by omega)]
      · have hbefore : size * b + size ≤ size * count := by
          rw [← Nat.mul_succ]
          exact Nat.mul_le_mul_left size (by omega)
        by_cases hin : size * b + j < items.length
        · rw [List.getElem?_append_left (by omega)]
          exact ih (by omega)
        · rw [List.getElem?_eq_none (by rw [List.length_append]; omega),
            List.getElem?_eq_none (by omega)]

theorem batch_lt_batchCount (hsize : 0 < size) {b j : Nat}
    (h : size * b + j < items.length) : b < batchCount size items := by
  unfold batchCount
  rw [Nat.lt_iff_add_one_le, Nat.le_div_iff_mul_le hsize, Nat.add_mul, Nat.mul_comm b size]
  omega

end Batches
end Foundations
end CopilotFactory
