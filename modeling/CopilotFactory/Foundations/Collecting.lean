import Mathlib.Data.List.Forall2
import CopilotFactory.Foundations.Result

/-!
# Collecting results

A loop over a list that collects one result for each item returns exactly if each item has
a result, and then the results stand in the order of the items.  A loop that goes over a
state collects what each item gives in the state that the ones before it have left.
-/

namespace CopilotFactory
namespace Foundations

variable {ε α β : Type} {f : α -> Except ε β} {items : List α} {results : List β}

theorem mapM_eq_ok :
    items.mapM f = .ok results <-> List.Forall₂ (fun a b => f a = .ok b) items results := by
  induction items generalizing results with
  | nil =>
      rw [List.mapM_nil, pure_eq_ok, List.forall₂_nil_left_iff]
      exact eq_comm
  | cons item rest ih =>
      rw [List.mapM_cons, List.forall₂_cons_left_iff]
      constructor
      · intro h
        rcases bind_eq_ok.mp h with ⟨first, hfirst, hrest⟩
        rcases bind_eq_ok.mp hrest with ⟨others, hothers, hpure⟩
        exact ⟨first, others, hfirst, ih.mp hothers, ((pure_eq_ok _ _).mp hpure).symm⟩
      · rintro ⟨first, others, hfirst, hothers, hresults⟩
        rw [hfirst, ih.mpr hothers, hresults]
        rfl

theorem exists_of_mem_mapM (h : items.mapM f = .ok results) {b : β} (hb : b ∈ results) :
    exists a, a ∈ items ∧ f a = .ok b := by
  have hall := mapM_eq_ok.mp h
  clear h
  induction hall with
  | nil =>
      cases hb
  | cons hfirst _ ih =>
      rcases List.mem_cons.mp hb with hb | hb
      · rw [hb]
        exact ⟨_, List.mem_cons_self, hfirst⟩
      · rcases ih hb with ⟨a, ha, hfa⟩
        exact ⟨a, List.mem_cons_of_mem _ ha, hfa⟩

theorem exists_of_mem_left {R : α -> β -> Prop} (h : List.Forall₂ R items results) {a : α}
    (ha : a ∈ items) : exists b, b ∈ results ∧ R a b := by
  induction h with
  | nil =>
      cases ha
  | cons hfirst _ ih =>
      rcases List.mem_cons.mp ha with ha | ha
      · rw [ha]
        exact ⟨_, List.mem_cons_self, hfirst⟩
      · rcases ih ha with ⟨b, hb, hR⟩
        exact ⟨b, List.mem_cons_of_mem _ hb, hR⟩

theorem exists_forall₂ {R : α -> β -> Prop} (h : forall a, a ∈ items -> exists b, R a b) :
    exists results, List.Forall₂ R items results := by
  induction items with
  | nil =>
      exact ⟨[], List.Forall₂.nil⟩
  | cons item rest ih =>
      rcases h item List.mem_cons_self with ⟨first, hfirst⟩
      rcases ih (fun a ha => h a (List.mem_cons_of_mem item ha)) with ⟨others, hothers⟩
      exact ⟨first :: others, List.Forall₂.cons hfirst hothers⟩

theorem exists_mapM_eq_ok :
    (exists results, items.mapM f = .ok results) <->
      forall a, a ∈ items -> exists b, f a = .ok b := by
  constructor
  · rintro ⟨results, h⟩ a ha
    rcases exists_of_mem_left (mapM_eq_ok.mp h) ha with ⟨b, _, hb⟩
    exact ⟨b, hb⟩
  · intro h
    rcases exists_forall₂ h with ⟨results, hresults⟩
    exact ⟨results, mapM_eq_ok.mpr hresults⟩

theorem mapM_eq_ok_map {g : α -> β} (h : forall a, a ∈ items -> f a = .ok (g a)) :
    items.mapM f = .ok (items.map g) := by
  rw [mapM_eq_ok, List.forall₂_map_right_iff, List.forall₂_same]
  exact h

/-!
## Over a state
-/

section

variable {σ γ : Type} (step : α -> σ -> β × σ)

def collectOver : List α -> σ -> List β × σ
  | [], s => ([], s)
  | item :: rest, s =>
      ((step item s).1 :: (collectOver rest (step item s).2).1,
        (collectOver rest (step item s).2).2)

def takenUp : List α -> σ -> List (α × σ)
  | [], _ => []
  | item :: rest, s => (item, s) :: takenUp rest (step item s).2

theorem collectOver_fst (items : List α) (s : σ) :
    (collectOver step items s).1 = (takenUp step items s).map (fun taken => (step taken.1 taken.2).1) := by
  induction items generalizing s with
  | nil =>
      rfl
  | cons item rest ih =>
      rw [collectOver, takenUp, List.map_cons, ih]

/-- What every step appends to a log is in it at the end, in the order of the items. -/
theorem log_collectOver {log : σ -> List γ} {entry : α -> Option γ}
    (h : forall item s, log (step item s).2 = log s ++ (entry item).toList)
    (items : List α) (s : σ) :
    log (collectOver step items s).2 = log s ++ items.filterMap entry := by
  induction items generalizing s with
  | nil =>
      exact (List.append_nil _).symm
  | cons item rest ih =>
      rw [collectOver, ih, h, List.append_assoc]
      congr 1
      cases hentry : entry item with
      | none =>
          rw [List.filterMap_cons_none hentry]
          rfl
      | some value =>
          rw [List.filterMap_cons_some hentry]
          rfl

end

end Foundations
end CopilotFactory
