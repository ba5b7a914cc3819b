import Mathlib.Data.List.Nodup

/-!
# Keyed tables

A table holds rows in insertion order, at most one for each key.  Uniqueness of
keys is part of the type, so a table that violates its primary key cannot be
built.  Rows are added at the end and are rewritten in place.
-/

namespace CopilotFactory
namespace Foundations

/-- Rows in insertion order whose keys are pairwise different. -/
structure Table (K R : Type) (key : R -> K) where
  rows : List R
  nodup : (rows.map key).Nodup

namespace Table

variable {K R : Type} {key : R -> K}

variable {r r' : R} {p : R -> Bool}

instance : Membership R (Table K R key) where
  mem T r := r ∈ T.rows

theorem mem_def {T : Table K R key} : r ∈ T <-> r ∈ T.rows :=
  Iff.rfl

def empty : Table K R key where
  rows := []
  nodup := by simp

@[simp] theorem not_mem_empty (r : R) :
    ¬ r ∈ (empty : Table K R key) := by
  simp [mem_def, empty]

theorem eq_of_key {T : Table K R key} (hr : r ∈ T) (hr' : r' ∈ T) (h : key r = key r') : r = r' :=
  List.inj_on_of_nodup_map T.nodup hr hr' h

theorem length_filter_le_one_iff {T : Table K R key} :
    (T.rows.filter p).length ≤ 1 <->
      forall r r', r ∈ T -> r' ∈ T -> p r = true -> p r' = true -> r = r' := by
  have hnodup : (T.rows.filter p).Nodup := (List.Nodup.of_map key T.nodup).filter p
  constructor
  · intro h r r' hr hr' hp hp'
    have hmem : r ∈ T.rows.filter p := List.mem_filter.mpr ⟨hr, hp⟩
    have hmem' : r' ∈ T.rows.filter p := List.mem_filter.mpr ⟨hr', hp'⟩
    rcases hlist : T.rows.filter p with _ | ⟨first, _ | ⟨second, rest⟩⟩
    · rw [hlist] at hmem
      cases hmem
    · rw [hlist, List.mem_singleton] at hmem hmem'
      rw [hmem, hmem']
    · rw [hlist] at h
      simp at h
  · intro h
    rcases hlist : T.rows.filter p with _ | ⟨first, _ | ⟨second, rest⟩⟩
    · exact Nat.zero_le 1
    · exact Nat.le_refl 1
    · have hfirst : first ∈ T.rows.filter p := by
        rw [hlist]
        exact List.mem_cons_self
      have hsecond : second ∈ T.rows.filter p := by
        rw [hlist]
        exact List.mem_cons_of_mem first List.mem_cons_self
      rcases List.mem_filter.mp hfirst with ⟨hmem, hp⟩
      rcases List.mem_filter.mp hsecond with ⟨hmem', hp'⟩
      rw [hlist, List.nodup_cons] at hnodup
      rw [h first second hmem hmem' hp hp'] at hnodup
      exact absurd List.mem_cons_self hnodup.1

variable [DecidableEq K]

/-!
## Lookup
-/

def find? (T : Table K R key) (k : K) : Option R :=
  T.rows.find? (fun r => key r = k)

theorem find?_eq_some_iff {T : Table K R key} {k : K} :
    T.find? k = some r <-> r ∈ T ∧ key r = k := by
  constructor
  · intro h
    have hmem : r ∈ T := List.mem_of_find?_eq_some h
    have hkey : key r = k := by
      simpa using List.find?_some h
    exact ⟨hmem, hkey⟩
  · intro h
    rcases h with ⟨hmem, hkey⟩
    cases hfind : T.find? k with
    | none =>
        have hnone := List.find?_eq_none.mp hfind r hmem
        simp [hkey] at hnone
    | some r' =>
        have hmem' : r' ∈ T := List.mem_of_find?_eq_some hfind
        have hkey' : key r' = k := by
          simpa using List.find?_some hfind
        rw [eq_of_key hmem hmem' (hkey.trans hkey'.symm)]

theorem find?_eq_none_iff {T : Table K R key} {k : K} :
    T.find? k = none <-> forall r, r ∈ T -> key r ≠ k := by
  unfold find?
  rw [List.find?_eq_none]
  constructor
  · intro h r hr
    simpa using h r hr
  · intro h r hr
    simpa using h r hr

theorem mem_of_find? {T : Table K R key} {k : K} (h : T.find? k = some r) : r ∈ T :=
  (find?_eq_some_iff.mp h).1

theorem key_of_find? {T : Table K R key} {k : K} (h : T.find? k = some r) : key r = k :=
  (find?_eq_some_iff.mp h).2

theorem find?_key_of_mem {T : Table K R key} (h : r ∈ T) : T.find? (key r) = some r :=
  find?_eq_some_iff.mpr ⟨h, rfl⟩

@[simp] theorem find?_empty (k : K) :
    (empty : Table K R key).find? k = none :=
  rfl

/-!
## Insertion
-/

def insert (T : Table K R key) (r : R) (h : T.find? (key r) = none) :
    Table K R key where
  rows := T.rows ++ [r]
  nodup := by
    have hfresh := find?_eq_none_iff.mp h
    rw [List.map_append, List.nodup_append]
    refine ⟨T.nodup, by simp, ?_⟩
    intro k hk k' hk'
    rcases List.mem_map.mp hk with ⟨r', hr', hkey⟩
    simp only [List.map_cons, List.map_nil, List.mem_singleton] at hk'
    rw [← hkey, hk']
    exact hfresh r' hr'

theorem mem_insert {T : Table K R key} (h : T.find? (key r) = none) :
    r' ∈ T.insert r h <-> r' ∈ T ∨ r' = r := by
  simp [mem_def, insert]

theorem find?_insert_self {T : Table K R key} (h : T.find? (key r) = none) :
    (T.insert r h).find? (key r) = some r :=
  find?_key_of_mem ((mem_insert h).mpr (Or.inr rfl))

theorem find?_insert_of_ne {T : Table K R key} (h : T.find? (key r) = none) {k : K}
    (hk : k ≠ key r) : (T.insert r h).find? k = T.find? k := by
  simp [find?, insert, List.find?_append, Ne.symm hk]

theorem find?_insert_of_some {T : Table K R key} (h : T.find? (key r) = none) {k : K}
    (hk : T.find? k = some r') : (T.insert r h).find? k = some r' := by
  have hne : k ≠ key r := by
    intro hkey
    rw [hkey, h] at hk
    cases hk
  rw [find?_insert_of_ne h hne]
  exact hk

/-!
## Deletion
-/

def delete (T : Table K R key) (k : K) : Table K R key where
  rows := T.rows.filter (fun r => key r ≠ k)
  nodup := (List.filter_sublist.map key).nodup T.nodup

theorem mem_delete {T : Table K R key} {k : K} : r ∈ T.delete k <-> r ∈ T ∧ key r ≠ k := by
  simp [mem_def, delete]

/-!
## Rewriting a row
-/

/-- Rewrite the row with the given key, if there is one, keeping its key. -/
def modify (T : Table K R key) (k : K) (f : R -> R)
    (hf : forall r, key (f r) = key r) : Table K R key where
  rows := T.rows.map (fun r => if key r = k then f r else r)
  nodup := by
    have hkeys :
        (T.rows.map (fun r => if key r = k then f r else r)).map key =
          T.rows.map key := by
      rw [List.map_map]
      apply List.map_congr_left
      intro r _
      by_cases h : key r = k
      · simp [h, hf]
      · simp [h]
    rw [hkeys]
    exact T.nodup

variable {T : Table K R key} {k : K} {f : R -> R}
  (hf : forall r, key (f r) = key r)

theorem mem_modify :
    r' ∈ T.modify k f hf <->
      exists r, r ∈ T ∧ r' = if key r = k then f r else r := by
  simp only [mem_def, modify, List.mem_map]
  constructor
  · intro h
    rcases h with ⟨r, hr, h⟩
    exact ⟨r, hr, h.symm⟩
  · intro h
    rcases h with ⟨r, hr, h⟩
    exact ⟨r, hr, h.symm⟩

theorem find?_modify (k' : K) :
    (T.modify k f hf).find? k' =
      (T.find? k').map (fun r => if key r = k then f r else r) := by
  cases h : T.find? k' with
  | none =>
      rw [Option.map_none, find?_eq_none_iff]
      intro r hr
      rcases (mem_modify hf).mp hr with ⟨r₀, hr₀, heq⟩
      have hne : key r₀ ≠ k' := find?_eq_none_iff.mp h r₀ hr₀
      by_cases hk : key r₀ = k
      · simpa [heq, hk, hf] using hk ▸ hne
      · simpa [heq, hk] using hne
  | some r =>
      rw [Option.map_some, find?_eq_some_iff]
      constructor
      · exact (mem_modify hf).mpr ⟨r, mem_of_find? h, rfl⟩
      · by_cases hk : key r = k
        · simp [hk, hf]
          exact hk.symm.trans (key_of_find? h)
        · simpa [hk] using key_of_find? h

theorem find?_modify_self :
    (T.modify k f hf).find? k = (T.find? k).map f := by
  rw [find?_modify]
  cases h : T.find? k with
  | none =>
      rfl
  | some r =>
      simp [key_of_find? h]

theorem find?_modify_of_ne {k' : K} (hne : k' ≠ k) :
    (T.modify k f hf).find? k' = T.find? k' := by
  rw [find?_modify]
  cases h : T.find? k' with
  | none =>
      rfl
  | some r =>
      have hkey : key r ≠ k := by
        rw [key_of_find? h]
        exact hne
      simp [hkey]

theorem filter_modify_of_not (h : forall r, r ∈ T -> key r = k -> p r = false ∧ p (f r) = false) :
    (T.modify k f hf).rows.filter p = T.rows.filter p := by
  have hsame : T.rows.filter (p ∘ fun r => if key r = k then f r else r) =
      T.rows.filter p := by
    apply List.filter_congr
    intro r hr
    by_cases hk : key r = k
    · simp [hk, h r hr hk]
    · simp [hk]
  show (T.rows.map (fun r => if key r = k then f r else r)).filter p = _
  rw [List.filter_map, hsame]
  rw [List.map_congr_left (g := id), List.map_id]
  intro r hr
  rcases List.mem_filter.mp hr with ⟨hmem, hp⟩
  apply if_neg
  intro hk
  rw [(h r hmem hk).1] at hp
  cases hp

theorem filter_modify_of_eq (h : T.rows.filter p = [r]) (hr : key r = k) :
    (T.modify k f hf).rows.filter p = [f r].filter p := by
  have hmem : r ∈ T ∧ p r = true := by
    rw [mem_def, ← List.mem_filter, h]
    exact List.mem_singleton_self r
  have honly : forall r', r' ∈ T.rows -> key r' = k -> r' = r :=
    fun r' hr' hk => eq_of_key hr' hmem.1 (hk.trans hr.symm)
  show (T.rows.map (fun r => if key r = k then f r else r)).filter p = _
  rw [List.filter_map]
  cases hp : p (f r) with
  | true =>
      have hsame : T.rows.filter (p ∘ fun r => if key r = k then f r else r) =
          T.rows.filter p := by
        apply List.filter_congr
        intro r' hr'
        by_cases hk : key r' = k
        · rw [honly r' hr' hk]
          simp [hr, hp, hmem.2]
        · simp [hk]
      rw [hsame, h]
      simp [hr, hp]
  | false =>
      have hnone : T.rows.filter (p ∘ fun r => if key r = k then f r else r) = [] := by
        rw [List.filter_eq_nil_iff]
        intro r' hr' hp'
        by_cases hk : key r' = k
        · rw [honly r' hr' hk] at hp'
          simp [hr, hp] at hp'
        · simp only [Function.comp_apply, if_neg hk] at hp'
          have hselected : r' ∈ T.rows.filter p := List.mem_filter.mpr ⟨hr', hp'⟩
          rw [h, List.mem_singleton] at hselected
          rw [hselected] at hk
          exact hk hr
      rw [hnone]
      simp [hp]

theorem countP_modify_lt (h : T.find? k = some r) (hr : p r = true) (hleaves : p (f r) = false) :
    (T.modify k f hf).rows.countP p < T.rows.countP p := by
  have hkey := key_of_find? h
  have hselected : forall r', r' ∈ T.rows ->
      p (if key r' = k then f r' else r') = true -> p r' = true := by
    intro r' hr' hp'
    by_cases hk : key r' = k
    · rw [if_pos hk, eq_of_key hr' (mem_of_find? h) (hk.trans hkey.symm), hleaves] at hp'
      cases hp'
    · rw [if_neg hk] at hp'
      exact hp'
  rcases List.append_of_mem (mem_of_find? h) with ⟨front, back, hrows⟩
  have hfront : forall r', r' ∈ front -> r' ∈ T.rows := by
    intro r' hr'
    rw [hrows]
    exact List.mem_append_left _ hr'
  have hback : forall r', r' ∈ back -> r' ∈ T.rows := by
    intro r' hr'
    rw [hrows]
    exact List.mem_append_right _ (List.mem_cons_of_mem r hr')
  show (T.rows.map (fun r => if key r = k then f r else r)).countP p < _
  rw [List.countP_map, hrows, List.countP_append, List.countP_append,
    List.countP_cons_of_pos hr, List.countP_cons_of_neg (by simp [hkey, hleaves])]
  have hle := Nat.add_le_add
    (List.countP_mono_left (fun r' hr' => hselected r' (hfront r' hr')))
    (List.countP_mono_left (fun r' hr' => hselected r' (hback r' hr')))
  exact Nat.lt_of_le_of_lt hle (Nat.add_lt_add_left (Nat.lt_succ_self _) _)

@[simp] theorem find?_modify_isSome (k' : K) :
    ((T.modify k f hf).find? k').isSome = (T.find? k').isSome := by
  rw [find?_modify, Option.isSome_map]

end Table

end Foundations
end CopilotFactory
