import Mathlib.Data.List.Basic

/-!
# Layers

A value is set by layers, one after the other.  A layer may give a new value or
leave the old one.  In the end the value is the one that the last layer gave
which gave any.
-/

namespace CopilotFactory
namespace Foundations

variable {α β : Type}

variable {layer : α} {layers : List α}

def overlay (given : α -> Option β) (value : β) (layer : α) : β :=
  (given layer).getD value

structure LastGives (given : α -> Option β) (layers : List α) (layer : α) (value : β) :
    Prop where
  gives : given layer = some value
  last : exists front back, layers = front ++ layer :: back ∧
    forall other, other ∈ back -> given other = none

variable {given : α -> Option β}

theorem overlay_of_some {value new : β} (h : given layer = some new) :
    overlay given value layer = new := by
  rw [overlay, h]
  rfl

theorem overlay_of_none {value : β} (h : given layer = none) :
    overlay given value layer = value := by
  rw [overlay, h]
  rfl

theorem foldl_overlay_of_none (h : forall layer, layer ∈ layers -> given layer = none)
    (value : β) : layers.foldl (overlay given) value = value := by
  induction layers with
  | nil => rfl
  | cons layer rest ih =>
      rw [List.foldl_cons, overlay_of_none (h layer List.mem_cons_self)]
      exact ih (fun other hother => h other (List.mem_cons_of_mem layer hother))

theorem foldl_overlay_of_last {new : β} (h : LastGives given layers layer new) (value : β) :
    layers.foldl (overlay given) value = new := by
  rcases h.last with ⟨front, back, hlayers, hback⟩
  rw [hlayers, List.foldl_append, List.foldl_cons, overlay_of_some h.gives]
  exact foldl_overlay_of_none hback new

theorem exists_lastGives (given : α -> Option β) (layers : List α) :
    (forall layer, layer ∈ layers -> given layer = none) ∨
      exists layer value, LastGives given layers layer value := by
  induction layers with
  | nil =>
      exact Or.inl (fun layer hlayer => absurd hlayer List.not_mem_nil)
  | cons first rest ih =>
      rcases ih with hnone | ⟨layer, value, hlast⟩
      · cases hfirst : given first with
        | none =>
            left
            intro layer hlayer
            rcases List.mem_cons.mp hlayer with hlayer | hlayer
            · rw [hlayer]
              exact hfirst
            · exact hnone layer hlayer
        | some value =>
            exact Or.inr ⟨first, value, hfirst, [], rest, rfl, hnone⟩
      · rcases hlast.last with ⟨front, back, hrest, hback⟩
        exact Or.inr ⟨layer, value, hlast.gives, first :: front, back,
          by rw [hrest, List.cons_append], hback⟩

/-- What the layers start from does not matter once one of them gives a value. -/
theorem foldl_overlay_congr (hlayer : layer ∈ layers) (h : given layer ≠ none) (value other : β) :
    layers.foldl (overlay given) value = layers.foldl (overlay given) other := by
  rcases exists_lastGives given layers with hnone | ⟨last, new, hlast⟩
  · exact absurd (hnone layer hlayer) h
  · rw [foldl_overlay_of_last hlast, foldl_overlay_of_last hlast]

end Foundations
end CopilotFactory
