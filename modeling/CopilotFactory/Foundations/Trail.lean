import Mathlib.Data.List.Basic

/-!
# Trails

A log of the changes of a value, each with the value before and the value after it.
The log leads from one value to another if every change starts where the one before it
has ended.
-/

namespace CopilotFactory
namespace Foundations

variable {α : Type}

def Leads : α -> List (α × α) -> α -> Prop
  | a, [], b => a = b
  | a, change :: rest, b => change.1 = a ∧ Leads change.2 rest b

theorem leads_append {a c : α} {first second : List (α × α)} :
    Leads a (first ++ second) c <-> exists b, Leads a first b ∧ Leads b second c := by
  induction first generalizing a with
  | nil =>
      simp [Leads]
  | cons change rest ih =>
      simp only [List.cons_append, Leads, ih, and_assoc, exists_and_left]

/-- What one step adds to the log: its change, or nothing if it leaves the value alone. -/
def Logs (a : α) (changes : List (α × α)) (b : α) : Prop :=
  (changes = [] ∧ a = b) ∨ changes = [(a, b)]

theorem Logs.leads {a b : α} {changes : List (α × α)} (h : Logs a changes b) :
    Leads a changes b := by
  rcases h with ⟨hchanges, hsame⟩ | hchanges
  · rw [hchanges]
    exact hsame
  · rw [hchanges]
    exact ⟨rfl, rfl⟩

theorem Leads.log {a b c : α} {first second : List (α × α)} (h : Leads a first b)
    (hlogs : Logs b second c) :
    Leads a (first ++ second) c :=
  leads_append.mpr ⟨b, h, hlogs.leads⟩

theorem Logs.event {ε : Type} {read : ε -> Option (α × α)} {events : List ε} {a b : α}
    (h : Logs a (events.filterMap read) b) (hne : b ≠ a) :
    exists before event after, events = before ++ event :: after ∧
      read event = some (a, b) ∧ forall other, other ∈ before ++ after -> read other = none := by
  rcases h with ⟨_, hsame⟩ | hchanges
  · exact absurd hsame.symm hne
  · rcases List.filterMap_eq_cons_iff.mp hchanges with
      ⟨before, event, after, hevents, hbefore, hevent, hafter⟩
    refine ⟨before, event, after, hevents, hevent, ?_⟩
    intro other hother
    rcases List.mem_append.mp hother with hother | hother
    · exact hbefore other hother
    · exact List.filterMap_eq_nil_iff.mp hafter other hother

end Foundations
end CopilotFactory
