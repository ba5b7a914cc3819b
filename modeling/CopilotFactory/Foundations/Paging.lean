import Mathlib.Data.List.Nodup
import Mathlib.Data.List.Perm.Basic
import Mathlib.Data.List.Range

/-!
# Paging

A list is read page by page, and each page is cut out of an ordering of its own: the items
with the highest key come first, and the order among items with equal keys is free.  The
pages put together have every item once exactly if no page ends between two equal keys.
-/

namespace CopilotFactory
namespace Foundations
namespace Paging

variable {α : Type} (key : α -> Int)

variable {choice : Nat -> List α} {k : Nat}

structure IsOrdering (xs ys : List α) : Prop where
  perm : ys.Perm xs
  sorted : ys.Pairwise (fun a b => key b ≤ key a)

def page (limit n : Nat) (ys : List α) : List α :=
  (ys.drop (n * limit)).take limit

/-- The first pages, each one of an ordering of its own. -/
def pages (limit count : Nat) (choice : Nat -> List α) : List α :=
  (List.range count).flatMap fun n => page limit n (choice n)

def ordered (xs : List α) : List α :=
  xs.mergeSort (fun a b => decide (key b ≤ key a))

/-- The items on both sides of the place have equal keys. -/
def SplitsTie (xs : List α) (k : Nat) : Prop :=
  exists t, ((ordered key xs).map key)[k]? = some t ∧ ((ordered key xs).map key)[k + 1]? = some t

def NoTieSplit (limit : Nat) (xs : List α) : Prop :=
  forall n, ¬ SplitsTie key xs (n * limit + limit - 1)

variable {key} {xs ys zs : List α} {limit count : Nat}

theorem isOrdering_ordered (xs : List α) : IsOrdering key xs (ordered key xs) := by
  constructor
  · exact List.mergeSort_perm _ _
  · have hsorted := @List.pairwise_mergeSort α (fun a b => decide (key b ≤ key a))
      (by simp only [decide_eq_true_eq]; intro a b c; omega)
      (by simp only [Bool.or_eq_true, decide_eq_true_eq]; intro a b; omega) xs
    simp only [decide_eq_true_eq] at hsorted
    exact hsorted

theorem pair_ordered {a b : α} (hkey : key b ≤ key a) (h : [a, b].Sublist xs) :
    [a, b].Sublist (ordered key xs) :=
  List.pair_sublist_mergeSort
    (by simp only [decide_eq_true_eq]; intro a b c; omega)
    (by simp only [Bool.or_eq_true, decide_eq_true_eq]; intro a b; omega)
    (decide_eq_true hkey) h

theorem keys_eq (hy : IsOrdering key xs ys) (hz : IsOrdering key xs zs) :
    ys.map key = zs.map key := by
  refine @List.Perm.eq_of_pairwise Int (fun a b => b ≤ a) _ _ ?_
    (List.pairwise_map.mpr hy.sorted) (List.pairwise_map.mpr hz.sorted)
    ((hy.perm.trans hz.perm.symm).map key)
  intro a b _ _ hab hba
  omega

/-!
## Pages of one ordering
-/

theorem pages_const (limit count : Nat) (ys : List α) :
    pages limit count (fun _ => ys) = ys.take (count * limit) := by
  induction count with
  | zero =>
      simp [pages]
  | succ count ih =>
      unfold pages at ih ⊢
      rw [List.range_succ, List.flatMap_append, ih, Nat.succ_mul, List.take_add]
      simp [page]

theorem map_key_pages (hchoice : forall n, IsOrdering key xs (choice n)) :
    (pages limit count choice).map key = ((ordered key xs).map key).take (count * limit) := by
  rw [<- pages_const, pages, List.map_flatMap]
  congr 1
  funext n
  rw [<- keys_eq (hchoice n) (isOrdering_ordered xs)]
  simp [page]

theorem sorted_pages (hchoice : forall n, IsOrdering key xs (choice n)) :
    (pages limit count choice).Pairwise (fun a b => key b ≤ key a) := by
  have hsorted : ((pages limit count choice).map key).Pairwise (fun a b => b ≤ a) := by
    rw [map_key_pages hchoice]
    exact List.Pairwise.take (List.pairwise_map.mpr (isOrdering_ordered xs).sorted)
  exact List.pairwise_map.mp hsorted

/-!
## Places where no tie is split
-/

theorem take_eq_filter {m : Nat} {t : Int} (hbefore : forall a, a ∈ ys.take m -> t < key a)
    (hafter : forall a, a ∈ ys.drop m -> key a ≤ t) :
    ys.take m = ys.filter (fun a => t < key a) := by
  have hsplit : ys.filter (fun a => t < key a) =
      (ys.take m).filter (fun a => t < key a) ++ (ys.drop m).filter (fun a => t < key a) := by
    rw [<- List.filter_append, List.take_append_drop]
  have hall : (ys.take m).filter (fun a => t < key a) = ys.take m := by
    rw [List.filter_eq_self]
    exact fun a ha => decide_eq_true (hbefore a ha)
  have hnone : (ys.drop m).filter (fun a => t < key a) = [] := by
    rw [List.filter_eq_nil_iff]
    intro a ha hlt
    have hle := hafter a ha
    have hlt := of_decide_eq_true hlt
    omega
  rw [hsplit, hall, hnone, List.append_nil]

/-- What comes before a place where no tie is split are the items with higher keys. -/
theorem take_eq_higher {t : Int} (hsorted : ys.Pairwise (fun a b => key b ≤ key a))
    (hhigh : forall a, ys[k]? = some a -> t < key a)
    (hlow : exists a, ys[k + 1]? = some a ∧ key a = t) :
    ys.take (k + 1) = ys.filter (fun a => t < key a) := by
  rcases hlow with ⟨b, hb, rfl⟩
  rcases List.getElem?_eq_some_iff.mp hb with ⟨hlength, rfl⟩
  have hpairs := List.pairwise_iff_getElem.mp hsorted
  apply take_eq_filter
  · intro a ha
    rcases List.mem_take_iff_getElem.mp ha with ⟨i, hi, rfl⟩
    have hgap := hhigh ys[k] (List.getElem?_eq_getElem (by omega))
    rcases Nat.lt_or_ge i k with hlt | hge
    · have hle := hpairs i k (by omega) (by omega) hlt
      omega
    · have heq : i = k := by
        omega
      subst heq
      exact hgap
  · intro a ha
    rcases List.mem_drop_iff_getElem.mp ha with ⟨i, hi, rfl⟩
    rcases Nat.eq_zero_or_pos i with rfl | hpos
    · exact Int.le_refl _
    · exact hpairs (k + 1) (k + 1 + i) (by omega) (by omega) (by omega)

theorem take_perm (hk : ¬ SplitsTie key xs k) (hy : IsOrdering key xs ys)
    (hz : IsOrdering key xs zs) : (ys.take (k + 1)).Perm (zs.take (k + 1)) := by
  have hperm := hy.perm.trans hz.perm.symm
  cases hlow : ((ordered key xs).map key)[k + 1]? with
  | none =>
      have hlength : forall {ws}, IsOrdering key xs ws -> ws.length ≤ k + 1 := by
        intro ws hw
        rw [<- keys_eq hw (isOrdering_ordered xs), List.getElem?_eq_none_iff,
          List.length_map] at hlow
        exact hlow
      rw [List.take_of_length_le (hlength hy), List.take_of_length_le (hlength hz)]
      exact hperm
  | some t =>
      have hhigher : forall {ws}, IsOrdering key xs ws ->
          ws.take (k + 1) = ws.filter (fun a => t < key a) := by
        intro ws hw
        have hkeys := keys_eq hw (isOrdering_ordered xs)
        have hat := hlow
        rw [<- hkeys, List.getElem?_map, Option.map_eq_some_iff] at hat
        refine take_eq_higher hw.sorted ?_ hat
        intro a ha
        rcases hat with ⟨b, hb, hbt⟩
        have hle : key b ≤ key a := by
          rcases List.getElem?_eq_some_iff.mp ha with ⟨hka, rfl⟩
          rcases List.getElem?_eq_some_iff.mp hb with ⟨hkb, rfl⟩
          exact List.pairwise_iff_getElem.mp hw.sorted k (k + 1) hka hkb (by omega)
        have hne : key a ≠ t := by
          intro heq
          refine hk ⟨t, ?_, hlow⟩
          rw [<- hkeys, List.getElem?_map, ha, Option.map_some, heq]
        omega
      rw [hhigher hy, hhigher hz]
      exact hperm.filter _

theorem page_perm (h : NoTieSplit key limit xs) (hlimit : 0 < limit) (hy : IsOrdering key xs ys)
    (hz : IsOrdering key xs zs) (n : Nat) : (page limit n ys).Perm (page limit n zs) := by
  have hends : forall n, (ys.take (n * limit)).Perm (zs.take (n * limit)) := by
    intro n
    cases n with
    | zero =>
        simp
    | succ n =>
        have hplace : (n + 1) * limit = n * limit + limit - 1 + 1 := by
          rw [Nat.succ_mul]
          omega
        rw [hplace]
        exact take_perm (h n) hy hz
  have hnext := hends (n + 1)
  rw [Nat.succ_mul, List.take_add, List.take_add] at hnext
  exact (List.perm_append_left_iff _).mp
    (hnext.trans ((hends n).symm.append_right _))

/-!
## Every item once
-/

theorem pages_perm (h : NoTieSplit key limit xs) (hlimit : 0 < limit)
    (hcount : xs.length ≤ count * limit) (hchoice : forall n, IsOrdering key xs (choice n)) :
    (pages limit count choice).Perm xs := by
  have hordered : IsOrdering key xs _ := isOrdering_ordered xs
  have hsame : (pages limit count choice).Perm (pages limit count fun _ => ordered key xs) :=
    List.Perm.flatMap_left _ fun n _ => page_perm h hlimit (hchoice n) hordered n
  rw [pages_const, List.take_of_length_le (hordered.perm.length_eq ▸ hcount)] at hsame
  exact hsame.trans hordered.perm

theorem mem_page {x : α} {n i : Nat} (hi : i < limit) (h : ys[n * limit + i]? = some x) :
    x ∈ page limit n ys := by
  apply List.mem_of_getElem? (i := i)
  rw [page, List.getElem?_take_of_lt hi, List.getElem?_drop]
  exact h

theorem exists_swapped (h : SplitsTie key xs k) :
    exists x ws, (ordered key xs)[k]? = some x ∧ IsOrdering key xs ws ∧ ws[k + 1]? = some x := by
  rcases h with ⟨t, hx, hy⟩
  rw [List.getElem?_map, Option.map_eq_some_iff] at hx hy
  rcases hx with ⟨x, hx, hxt⟩
  rcases hy with ⟨y, hy, hyt⟩
  have hordered : IsOrdering key xs _ := isOrdering_ordered xs
  rcases List.getElem?_eq_some_iff.mp hx with ⟨hxlt, hxeq⟩
  rcases List.getElem?_eq_some_iff.mp hy with ⟨hylt, hyeq⟩
  have hsplit : ordered key xs =
      (ordered key xs).take k ++ x :: y :: (ordered key xs).drop (k + 1 + 1) := by
    rw [<- hxeq, <- hyeq, <- List.drop_eq_getElem_cons hylt, <- List.drop_eq_getElem_cons hxlt,
      List.take_append_drop]
  rw [hsplit] at hordered
  have hkeys : forall ws : List α, ws.Pairwise (fun a b => key b ≤ key a) <->
      (ws.map key).Pairwise (fun a b => b ≤ a) := by
    intro ws
    rw [List.pairwise_map]
  refine ⟨x, (ordered key xs).take k ++ y :: x :: (ordered key xs).drop (k + 1 + 1), hx, ⟨?_, ?_⟩,
    ?_⟩
  · exact ((List.Perm.swap x y _).append_left _).trans hordered.perm
  · have hsorted := (hkeys _).mp hordered.sorted
    rw [hkeys]
    simp only [List.map_append, List.map_cons, hxt, hyt] at hsorted ⊢
    exact hsorted
  · rw [List.getElem?_append_right ((List.length_take_le k _).trans (Nat.le_succ k))]
    simp [Nat.min_eq_left (Nat.le_of_lt hxlt)]

/-- Where a tie is split, some orderings have an item on both pages. -/
theorem noTieSplit_of_perm (hlimit : 0 < limit) (hcount : xs.length ≤ count * limit)
    (hnodup : xs.Nodup)
    (h : forall choice : Nat -> List α, (forall n, IsOrdering key xs (choice n)) ->
      (pages limit count choice).Perm xs) : NoTieSplit key limit xs := by
  intro n hsplits
  rcases exists_swapped hsplits with ⟨x, ws, hx, hswapped, hx'⟩
  have hplace : (n + 1) * limit + 0 = n * limit + limit - 1 + 1 := by
    rw [Nat.succ_mul]
    omega
  have hperm := h (fun m => if m ≤ n then ordered key xs else ws) (fun m => by
    split
    · exact isOrdering_ordered xs
    · exact hswapped)
  have hdisjoint := (List.nodup_flatMap.mp (hperm.nodup_iff.mpr hnodup)).2
  have hlast : n + 1 < count := by
    have hlength := hswapped.perm.length_eq
    rcases List.getElem?_eq_some_iff.mp hx' with ⟨hlt, _⟩
    exact Nat.lt_of_mul_lt_mul_right (a := limit) (by omega)
  have hpages := List.pairwise_iff_getElem.mp hdisjoint n (n + 1) (by simp; omega)
    (by simp; omega) (Nat.lt_succ_self n)
  simp only [List.getElem_range, Function.onFun] at hpages
  apply hpages (a := x)
  · rw [if_pos (Nat.le_refl n)]
    refine mem_page (i := limit - 1) (by omega) ?_
    rw [<- hx]
    congr 1
    omega
  · rw [if_neg (by omega)]
    refine mem_page (i := 0) hlimit ?_
    rw [hplace]
    exact hx'

theorem eq_reverse {ys : List α} (hordering : IsOrdering key xs ys)
    (h : xs.Pairwise (fun a b => key a < key b)) : ys = xs.reverse := by
  refine @List.Perm.eq_of_pairwise α (fun a b => key b ≤ key a) _ _ ?_ hordering.sorted
    (List.pairwise_reverse.mpr (h.imp Int.le_of_lt))
    (hordering.perm.trans (List.reverse_perm xs).symm)
  intro a b ha hb hab hba
  have hdiffer : xs.Pairwise (fun a b => key a ≠ key b) := h.imp Int.ne_of_lt
  have hsymm : Std.Symm (fun a b : α => key a ≠ key b) := ⟨fun _ _ hkeys => hkeys.symm⟩
  by_contra hne
  exact hdiffer.forall (hordering.perm.mem_iff.mp ha) (List.mem_reverse.mp hb) hne (by omega)

theorem not_sublist_swap {l : List α} {a b : α} (hnodup : l.Nodup) (h : [a, b].Sublist l) :
    ¬ [b, a].Sublist l := by
  induction l with
  | nil =>
      cases h
  | cons c rest ih =>
      rcases List.nodup_cons.mp hnodup with ⟨hc, hrest⟩
      intro hswap
      cases h with
      | cons _ h =>
          cases hswap with
          | cons _ hswap =>
              exact ih hrest h hswap
          | cons_cons _ _ =>
              exact hc (h.subset (List.mem_cons_of_mem _ List.mem_cons_self))
      | cons_cons _ h =>
          cases hswap with
          | cons _ hswap =>
              exact hc (hswap.subset (List.mem_cons_of_mem _ List.mem_cons_self))
          | cons_cons _ _ =>
              exact hc (h.subset List.mem_cons_self)

theorem rising_of_reverse {p : α -> Bool} (hnodup : xs.Nodup)
    (h : (ordered key xs).filter p = (xs.filter p).reverse) :
    (xs.filter p).Pairwise (fun a b => key a < key b) := by
  rw [List.pairwise_iff_forall_sublist]
  intro a b hsub
  by_contra hnot
  have hin := hsub.trans List.filter_sublist
  have hmem : forall c, c ∈ [a, b] -> p c = true := fun c hc =>
    (List.mem_filter.mp (hsub.subset hc)).2
  have hordered := (pair_ordered (by omega : key b ≤ key a) hin).filter p
  rw [List.filter_eq_self.mpr hmem, h] at hordered
  have hswap := List.reverse_sublist.mpr hordered
  rw [List.reverse_reverse] at hswap
  exact not_sublist_swap (hnodup.filter p) hsub hswap

end Paging
end Foundations
end CopilotFactory
