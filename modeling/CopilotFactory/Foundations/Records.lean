import Mathlib.Data.List.Basic
import Mathlib.Data.List.Induction

/-!
# Records

A record is looked up by a key that may be any text.  It has its own entries, and it has
inherited the members that every object has.  A map has its entries alone, in the order in
which their keys were first set.
-/

namespace CopilotFactory
namespace Foundations
namespace Records

def inheritedMembers : List String :=
  ["constructor", "__defineGetter__", "__defineSetter__", "hasOwnProperty",
    "__lookupGetter__", "__lookupSetter__", "isPrototypeOf", "propertyIsEnumerable",
    "toString", "valueOf", "__proto__", "toLocaleString"]

inductive Member (β : Type) where
  | own (value : β)
  | inherited
  | missing
deriving DecidableEq

variable {κ β : Type} [DecidableEq κ]

/-- The names of the inherited members are given in the spelling of the keys. -/
def member (inherited : List κ) (entries : List (κ × β)) (key : κ) : Member β :=
  match entries.lookup key with
  | some value => .own value
  | none => if key ∈ inherited then .inherited else .missing

/-- A record with some of the keys, each with the value that belongs to it if there is one. -/
def keep (keys : List κ) (valueAt : κ -> Option β) : List (κ × β) :=
  keys.filterMap fun key => (valueAt key).map fun value => (key, value)

theorem lookup_keep (keys : List κ) (valueAt : κ -> Option β) (key : κ) :
    (keep keys valueAt).lookup key = if key ∈ keys then valueAt key else none := by
  induction keys with
  | nil =>
      rfl
  | cons first rest ih =>
      unfold keep at ih ⊢
      rw [List.filterMap_cons]
      by_cases hkey : key = first
      · rw [hkey] at ih ⊢
        rw [if_pos List.mem_cons_self]
        cases hvalue : valueAt first with
        | none =>
            rw [Option.map_none, ih, hvalue]
            exact ite_self none
        | some value =>
            simp
      · have hmem : key ∈ first :: rest <-> key ∈ rest := by
          simp [hkey]
        cases hvalue : valueAt first with
        | none =>
            rw [Option.map_none, ih]
            simp only [hmem]
        | some value =>
            rw [Option.map_some, List.lookup_cons, beq_false_of_ne hkey, ih]
            simp only [hmem]

omit [DecidableEq κ] in
theorem keep_congr {keys : List κ} {valueAt valueAt' : κ -> Option β}
    (h : forall key, key ∈ keys -> valueAt key = valueAt' key) :
    keep keys valueAt = keep keys valueAt' := by
  apply List.filterMap_congr
  intro key hkey
  rw [h key hkey]

/-!
## Maps
-/

/-- What is set under a key takes the place of what was there. -/
def setEntry (key : κ) (value : β) : List (κ × β) -> List (κ × β)
  | [] => [(key, value)]
  | (key', value') :: rest =>
      if key' = key then
        (key, value) :: rest
      else
        (key', value') :: setEntry key value rest

def mapOf (entries : List (κ × β)) : List (κ × β) :=
  entries.foldl (fun map entry => setEntry entry.1 entry.2 map) []

theorem lookup_setEntry (key name : κ) (value : β) (entries : List (κ × β)) :
    (setEntry key value entries).lookup name =
      if name = key then some value else entries.lookup name := by
  induction entries with
  | nil =>
      by_cases h : name = key
      · simp [setEntry, h]
      · simp [setEntry, h]
  | cons entry rest ih =>
      rcases entry with ⟨key', value'⟩
      rw [setEntry]
      by_cases hkey : key' = key
      · rw [if_pos hkey, List.lookup_cons, List.lookup_cons, hkey]
        by_cases h : name = key
        · simp [h]
        · simp [h, beq_false_of_ne h]
      · rw [if_neg hkey, List.lookup_cons, List.lookup_cons, ih]
        by_cases h : name = key'
        · have hne : name ≠ key := fun heq => hkey (h ▸ heq)
          simp [h, hkey]
        · simp [beq_false_of_ne h]

theorem setEntry_of_notMem {key : κ} {value : β} {entries : List (κ × β)}
    (h : key ∉ entries.map Prod.fst) : setEntry key value entries = entries ++ [(key, value)] := by
  induction entries with
  | nil =>
      rfl
  | cons entry rest ih =>
      rw [List.map_cons, List.mem_cons, not_or] at h
      rw [setEntry, if_neg (fun heq => h.1 heq.symm), ih h.2]
      rfl

/-- Under a key stands what was set last. -/
theorem lookup_mapOf (entries : List (κ × β)) (key : κ) :
    (mapOf entries).lookup key = entries.reverse.lookup key := by
  unfold mapOf
  induction entries using List.reverseRecOn with
  | nil =>
      rfl
  | append_singleton rest entry ih =>
      rw [List.foldl_append, List.foldl_cons, List.foldl_nil, lookup_setEntry, ih,
        List.reverse_append, List.reverse_singleton, List.singleton_append, List.lookup_cons]
      by_cases hkey : key = entry.1
      · rw [if_pos hkey, hkey, beq_self_eq_true]
      · rw [if_neg hkey, beq_false_of_ne hkey]

theorem mapOf_of_nodup {entries : List (κ × β)} (h : (entries.map Prod.fst).Nodup) :
    mapOf entries = entries := by
  unfold mapOf
  induction entries using List.reverseRecOn with
  | nil =>
      rfl
  | append_singleton rest entry ih =>
      rw [List.map_append, List.nodup_append] at h
      have hnew : entry.1 ∉ rest.map Prod.fst := by
        intro hmem
        exact h.2.2 entry.1 hmem entry.1 List.mem_cons_self rfl
      rw [List.foldl_append, ih h.1, List.foldl_cons, List.foldl_nil, setEntry_of_notMem hnew]

end Records
end Foundations
end CopilotFactory
