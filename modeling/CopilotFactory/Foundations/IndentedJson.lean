import Mathlib.Data.Nat.Digits.Lemmas
import CopilotFactory.Foundations.JsonText

/-!
# Indented JSON texts

A value is written over several lines, two spaces further in for every level.  The length of
a text is counted in UTF-16 code units.
-/

namespace CopilotFactory
namespace Foundations
namespace JsonText

def unitsOf (text : List Char) : Units :=
  text.flatMap utf16

@[simp] theorem unitsOf_append (first second : List Char) :
    unitsOf (first ++ second) = unitsOf first ++ unitsOf second :=
  List.flatMap_append

def decimal (n : Nat) : List Char :=
  if n = 0 then ['0'] else (Nat.digits 10 n).reverse.map Nat.digitChar

def newline (level : Nat) : List Char :=
  '\n' :: List.replicate (2 * level) ' '

/-- A body stands on lines of its own, if there is one. -/
def surround (level : Nat) (body : List Char) : List Char :=
  if body = [] then [] else newline (level + 1) ++ (body ++ newline level)

mutual

def indented (level : Nat) : JsonTree Nat -> List Char
  | .null => "null".toList
  | .boolean true => "true".toList
  | .boolean false => "false".toList
  | .number value => decimal value
  | .string value => quote value
  | .array items => '[' :: (surround level (indentedItems (level + 1) items) ++ [']'])
  | .object entries =>
      '\x7b' :: (surround level (indentedEntries (level + 1) entries) ++ ['\x7d'])

def indentedItems (level : Nat) : List (JsonTree Nat) -> List Char
  | [] => []
  | [item] => indented level item
  | item :: next :: rest =>
      indented level item ++ ',' :: (newline level ++ indentedItems level (next :: rest))

def indentedEntries (level : Nat) : List (Units × JsonTree Nat) -> List Char
  | [] => []
  | [(key, value)] => quote key ++ ':' :: ' ' :: indented level value
  | (key, value) :: next :: rest =>
      quote key ++ ':' :: ' ' :: (indented level value ++
        ',' :: (newline level ++ indentedEntries level (next :: rest)))

end

/-!
## Lengths
-/

theorem utf16_ascii {c : Char} (h : c.toNat < 0x10000) : (utf16 c).length = 1 := by
  unfold utf16
  rw [if_pos h]
  rfl

theorem toNat_digitChar {d : Nat} (h : d < 10) : (Nat.digitChar d).toNat < 0x10000 := by
  interval_cases d <;> decide

theorem length_unitsOf_decimal {n : Nat} (h : n ≠ 0) :
    (unitsOf (decimal n)).length = Nat.log 10 n + 1 := by
  have hsingle : forall digits : List Nat, (forall d, d ∈ digits -> d < 10) ->
      (unitsOf (digits.map Nat.digitChar)).length = digits.length := by
    intro digits hdigits
    induction digits with
    | nil =>
        rfl
    | cons d rest ih =>
        have hd := utf16_ascii (toNat_digitChar (hdigits d List.mem_cons_self))
        have hrest := ih (fun d hd => hdigits d (List.mem_cons_of_mem _ hd))
        have hunits : unitsOf ((d :: rest).map Nat.digitChar) =
            utf16 (Nat.digitChar d) ++ unitsOf (rest.map Nat.digitChar) := rfl
        rw [hunits, List.length_append, hd, hrest, List.length_cons, Nat.add_comm]
  unfold decimal
  rw [if_neg h, hsingle _ (fun d hd => Nat.digits_lt_base (by decide) (List.mem_reverse.mp hd)),
    List.length_reverse, Nat.length_digits 10 n (by decide) h]

theorem indentedEntries_concat (level : Nat) (entries : List (Units × JsonTree Nat))
    (key : Units) :
    exists before, forall value,
      indentedEntries level (entries ++ [(key, value)]) = before ++ indented level value := by
  induction entries with
  | nil =>
      refine ⟨quote key ++ [':', ' '], ?_⟩
      intro value
      simp [indentedEntries]
  | cons entry rest ih =>
      rcases ih with ⟨before, hbefore⟩
      refine ⟨quote entry.1 ++ ':' :: ' ' :: (indented level entry.2 ++
        ',' :: (newline level ++ before)), ?_⟩
      intro value
      cases rest with
      | nil =>
          have hlast := hbefore value
          rw [List.nil_append] at hlast
          rw [List.cons_append, List.nil_append, indentedEntries, hlast]
          simp
      | cons next others =>
          have hlast := hbefore value
          rw [List.cons_append] at hlast
          rw [List.cons_append, List.cons_append, indentedEntries, hlast]
          simp

theorem indentedEntries_ne_nil {level : Nat} {entries : List (Units × JsonTree Nat)}
    (h : entries ≠ []) : indentedEntries level entries ≠ [] := by
  cases entries with
  | nil =>
      exact absurd rfl h
  | cons entry rest =>
      cases rest with
      | nil =>
          simp [indentedEntries, quote]
      | cons next others =>
          simp [indentedEntries, quote]

/-- An object's text, with that of the value of the last entry in it. -/
theorem indented_concat (level : Nat) (entries : List (Units × JsonTree Nat)) (key : Units) :
    exists before after, before ≠ [] ∧ forall value,
      indented level (.object (entries ++ [(key, value)])) =
        before ++ (indented (level + 1) value ++ after) := by
  rcases indentedEntries_concat (level + 1) entries key with ⟨before, hbefore⟩
  have hne : forall value, before ++ indented (level + 1) value ≠ [] := by
    intro value
    rw [← hbefore value]
    exact indentedEntries_ne_nil (by simp)
  refine ⟨'\x7b' :: (newline (level + 1) ++ before), newline level ++ ['\x7d'],
    List.cons_ne_nil _ _, ?_⟩
  intro value
  rw [indented, hbefore, surround, if_neg (hne value)]
  simp

theorem indentedEntries_around {level : Nat} {entries : List (Units × JsonTree Nat)}
    {key : Units} {value : JsonTree Nat} (h : (key, value) ∈ entries) :
    indented level value <:+: indentedEntries level entries := by
  induction entries with
  | nil =>
      cases h
  | cons entry rest ih =>
      cases rest with
      | nil =>
          rw [← List.mem_singleton.mp h, indentedEntries]
          exact ⟨quote key ++ [':', ' '], [], by simp⟩
      | cons next others =>
          rw [indentedEntries]
          rcases List.mem_cons.mp h with h | h
          · rw [← h]
            exact ⟨quote key ++ [':', ' '],
              ',' :: (newline level ++ indentedEntries level (next :: others)), by simp⟩
          · rcases ih h with ⟨before, after, hrest⟩
            rw [← hrest]
            exact ⟨quote entry.1 ++ ':' :: ' ' :: (indented level entry.2 ++
              ',' :: (newline level ++ before)), after, by simp⟩

theorem indented_around {level : Nat} {entries : List (Units × JsonTree Nat)}
    {key : Units} {value : JsonTree Nat} (h : (key, value) ∈ entries) :
    indented (level + 1) value <:+: indented level (.object entries) := by
  rcases @indentedEntries_around (level + 1) entries key value h with ⟨before, after, htext⟩
  rw [indented, surround, if_neg (indentedEntries_ne_nil (List.ne_nil_of_mem h)), ← htext]
  exact ⟨'{' :: (newline (level + 1) ++ before), after ++ (newline level ++ ['}']),
    by simp⟩

theorem length_unitsOf_within {first second : List Char} (h : first <:+: second) :
    (unitsOf first).length ≤ (unitsOf second).length := by
  rcases h with ⟨before, after, htext⟩
  rw [← htext, unitsOf_append, unitsOf_append, List.length_append, List.length_append]
  omega

end JsonText
end Foundations
end CopilotFactory
