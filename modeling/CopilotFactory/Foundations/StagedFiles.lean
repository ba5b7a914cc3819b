import Mathlib.Data.List.Pairwise
import Mathlib.Logic.Function.Basic

/-!
# Staged files

Files of one directory are put in place one after the other, each by way of a temporary
file.  What has been put in place is lost if something else is put there, or if a later put
uses its file as a temporary one.
-/

namespace CopilotFactory
namespace Foundations

structure Put (ν α : Type) where
  name : ν
  temporary : ν
  content : α
  stored : Bool
  /-- What the temporary file holds after an attempt that fails, by what it held before. -/
  left : Option α -> Option α
  temporary_ne_name : temporary ≠ name

namespace Put

variable {ν α : Type} [DecidableEq ν]

def slot (put : Put ν α) (name : ν) (held : Option α) : Option α :=
  if name = put.name then
    if put.stored then some put.content else held
  else if name = put.temporary then
    if put.stored then none else put.left held
  else
    held

def apply (put : Put ν α) (held : ν -> Option α) : ν -> Option α :=
  fun name => put.slot name (held name)

def applyAll (puts : List (Put ν α)) (held : ν -> Option α) : ν -> Option α :=
  puts.foldl (fun held put => put.apply held) held

/-- What the puts that use the file of a name as a temporary one make of it. -/
def afterUses (name : ν) (puts : List (Put ν α)) (held : Option α) : Option α :=
  puts.foldl (fun held put =>
    if put.temporary = name then
      if put.stored then none else put.left held
    else
      held) held

/-- What is stored is stored under a name of its own. -/
def OwnNames (puts : List (Put ν α)) : Prop :=
  puts.Pairwise fun put other => put.stored = true -> other.stored = true ->
    put.name ≠ other.name

/-- The file of what is stored is not spoilt by its use as a temporary file. -/
def Spared (puts : List (Put ν α)) : Prop :=
  forall before put later, puts = before ++ put :: later -> put.stored = true ->
    afterUses put.name later (some put.content) = some put.content

def Kept (puts : List (Put ν α)) (held : ν -> Option α) : Prop :=
  forall put, put ∈ puts -> put.stored = true ->
    applyAll puts held put.name = some put.content

variable {puts later : List (Put ν α)} {put : Put ν α} {held : ν -> Option α} {name : ν}

theorem applyAll_append (before later : List (Put ν α)) (held : ν -> Option α) :
    applyAll (before ++ later) held = applyAll later (applyAll before held) :=
  List.foldl_append

theorem slot_of_stored (h : put.stored = true) (held : Option α) :
    put.slot put.name held = some put.content := by
  unfold slot
  rw [if_pos rfl, if_pos h]

theorem apply_of_stored (h : put.stored = true) (held : ν -> Option α) :
    put.apply held =
      Function.update (Function.update held put.temporary none) put.name
        (some put.content) := by
  funext name
  unfold apply slot
  by_cases hname : name = put.name
  · rw [hname, Function.update_self, if_pos rfl, if_pos h]
  · rw [Function.update_of_ne hname, if_neg hname, if_pos h]
    by_cases htemporary : name = put.temporary
    · rw [htemporary, Function.update_self, if_pos rfl]
    · rw [Function.update_of_ne htemporary, if_neg htemporary]

theorem apply_of_failed (h : put.stored = false) (held : ν -> Option α) :
    put.apply held = Function.update held put.temporary (put.left (held put.temporary)) := by
  funext name
  unfold apply slot
  simp only [h, Bool.false_eq_true, if_false]
  by_cases hname : name = put.name
  · rw [if_pos hname, hname, Function.update_of_ne put.temporary_ne_name.symm]
  · rw [if_neg hname]
    by_cases htemporary : name = put.temporary
    · rw [if_pos htemporary, htemporary, Function.update_self]
    · rw [if_neg htemporary, Function.update_of_ne htemporary]

/-- Puts that store nothing under a name touch its file only as a temporary one. -/
theorem applyAll_eq_afterUses
    (h : forall put, put ∈ puts -> put.stored = true -> put.name ≠ name)
    (held : ν -> Option α) :
    applyAll puts held name = afterUses name puts (held name) := by
  induction puts generalizing held with
  | nil =>
      rfl
  | cons put rest ih =>
      have hslot : put.slot name (held name) =
          if put.temporary = name then
            if put.stored then none else put.left (held name)
          else
            held name := by
        unfold slot
        by_cases hname : name = put.name
        · have hstored : put.stored ≠ true := fun hs => h put List.mem_cons_self hs hname.symm
          have htemporary : put.temporary ≠ name := by
            rw [hname]
            exact put.temporary_ne_name
          rw [if_pos hname, if_neg hstored, if_neg htemporary]
        · rw [if_neg hname]
          simp only [eq_comm]
      show applyAll rest (put.apply held) name = _
      rw [ih (fun other hother => h other (List.mem_cons_of_mem put hother))]
      show afterUses name rest (put.slot name (held name)) = _
      rw [hslot]
      rfl

theorem applyAll_of_stored {before : List (Put ν α)}
    (hnames : OwnNames (before ++ put :: later)) (hstored : put.stored = true)
    (held : ν -> Option α) :
    applyAll (before ++ put :: later) held put.name =
      afterUses put.name later (some put.content) := by
  have hlater := (List.pairwise_cons.mp (List.pairwise_append.mp hnames).2.1).1
  rw [applyAll_append]
  show applyAll later (put.apply (applyAll before held)) put.name = _
  rw [applyAll_eq_afterUses fun other hother hs => (hlater other hother hstored hs).symm]
  unfold apply
  rw [slot_of_stored hstored]

/-- What is stored under names of its own is kept exactly if it is spared. -/
theorem kept_iff_spared (hnames : OwnNames puts) : Kept puts held <-> Spared puts := by
  constructor
  · intro h before put later hsplit hstored
    rw [hsplit] at hnames
    rw [← applyAll_of_stored hnames hstored held, ← hsplit]
    exact h put (by rw [hsplit]; exact List.mem_append_right _ List.mem_cons_self) hstored
  · intro h put hput hstored
    rcases List.append_of_mem hput with ⟨before, later, hsplit⟩
    have hspared := h before put later hsplit hstored
    rw [hsplit] at hnames ⊢
    rw [applyAll_of_stored hnames hstored held]
    exact hspared

end Put

end Foundations
end CopilotFactory
