import Mathlib.Data.Rat.Defs

/-!
# JSON values and schemas

A schema decides which values are accepted at a place.  A place may also hold
nothing, as the value of a key that an object does not have.
-/

namespace CopilotFactory
namespace Foundations

inductive Json where
  | null
  | boolean (value : Bool)
  | number (value : Rat)
  | string (value : String)
  | array (items : List Json)
  | object (entries : List (String × Json))

namespace Json

mutual

def decEq : (value other : Json) -> Decidable (value = other)
  | .null, .null => isTrue rfl
  | .boolean a, .boolean b => decidable_of_iff (a = b) (by simp)
  | .number a, .number b => decidable_of_iff (a = b) (by simp)
  | .string a, .string b => decidable_of_iff (a = b) (by simp)
  | .array a, .array b =>
      have := decEqItems a b
      decidable_of_iff (a = b) (by simp)
  | .object a, .object b =>
      have := decEqEntries a b
      decidable_of_iff (a = b) (by simp)
  | .null, .boolean _ | .null, .number _ | .null, .string _ | .null, .array _
  | .null, .object _ | .boolean _, .null | .boolean _, .number _ | .boolean _, .string _
  | .boolean _, .array _ | .boolean _, .object _ | .number _, .null | .number _, .boolean _
  | .number _, .string _ | .number _, .array _ | .number _, .object _ | .string _, .null
  | .string _, .boolean _ | .string _, .number _ | .string _, .array _
  | .string _, .object _ | .array _, .null | .array _, .boolean _ | .array _, .number _
  | .array _, .string _ | .array _, .object _ | .object _, .null | .object _, .boolean _
  | .object _, .number _ | .object _, .string _ | .object _, .array _ => isFalse (by simp)

def decEqItems : (items others : List Json) -> Decidable (items = others)
  | [], [] => isTrue rfl
  | [], _ :: _ => isFalse (by simp)
  | _ :: _, [] => isFalse (by simp)
  | a :: as, b :: bs =>
      have := decEq a b
      have := decEqItems as bs
      decidable_of_iff (a = b ∧ as = bs) (by simp)

def decEqEntries : (entries others : List (String × Json)) -> Decidable (entries = others)
  | [], [] => isTrue rfl
  | [], _ :: _ => isFalse (by simp)
  | _ :: _, [] => isFalse (by simp)
  | (key, a) :: as, (key', b) :: bs =>
      have := decEq a b
      have := decEqEntries as bs
      decidable_of_iff (key = key' ∧ a = b ∧ as = bs) (by simp [and_assoc])

end

instance : DecidableEq Json :=
  decEq

def field? (key : String) : Json -> Option Json
  | .object entries => entries.lookup key
  | _ => none

def asString? : Json -> Option String
  | .string value => some value
  | _ => none

/-- The items of an array, and none of any other value. -/
def itemsOf : Option Json -> List Json
  | some (.array items) => items
  | _ => []

def pick (keys : List String) : Json -> Json
  | .object entries =>
      .object (keys.filterMap (fun key =>
        (entries.lookup key).map (fun value => (key, value))))
  | value => value

end Json

abbrev Schema :=
  Option Json -> Bool

namespace Schema

def string (accepted : String -> Bool) : Schema
  | some (.string value) => accepted value
  | _ => false

def nonEmptyString : Schema :=
  string (fun value => value ≠ "")

def oneOf (values : List String) : Schema :=
  string (fun value => value ∈ values)

def literal (value : String) : Schema :=
  oneOf [value]

def nonNegativeInteger : Schema
  | some (.number value) => value.den = 1 ∧ 0 ≤ value.num
  | _ => false

def positiveInteger : Schema
  | some (.number value) => value.den = 1 ∧ 0 < value.num
  | _ => false

def boolean : Schema
  | some (.boolean _) => true
  | _ => false

def array (item : Schema) : Schema
  | some (.array items) => items.all (fun value => item (some value))
  | _ => false

def nonEmptyArray (item : Schema) : Schema
  | some (.array items) => items ≠ [] ∧ items.all (fun value => item (some value)) = true
  | _ => false

/-- An object with any keys, whose values are all accepted. -/
def record (item : Schema) : Schema
  | some (.object entries) => entries.all (fun entry => item (some entry.2))
  | _ => false

def nullable (schema : Schema) : Schema
  | some .null => true
  | value => schema value

def optional (schema : Schema) : Schema
  | none => true
  | some value => schema (some value)

/-- Keys that are not named may have any value. -/
def object (fields : List (String × Schema)) : Schema
  | some (.object entries) => fields.all (fun field => field.2 (entries.lookup field.1))
  | _ => false

theorem literal_eq_true {text : String} {value : Option Json} :
    literal text value = true <-> value = some (.string text) := by
  constructor
  · intro h
    unfold literal oneOf string at h
    split at h
    · rename_i actual
      have hactual : actual = text := by
        simpa using h
      rw [hactual]
    · cases h
  · intro h
    rw [h]
    simp [literal, oneOf, string]

@[simp] theorem nonEmptyString_string (value : String) :
    nonEmptyString (some (.string value)) = decide (value ≠ "") :=
  rfl

@[simp] theorem array_strings (values : List String) :
    array nonEmptyString (some (.array (values.map Json.string))) = decide ("" ∉ values) := by
  rw [Bool.eq_iff_iff]
  simp only [array, List.all_map, List.all_eq_true, Function.comp_apply,
    nonEmptyString_string, decide_eq_true_eq]
  constructor
  · intro h hmem
    exact h "" hmem rfl
  · intro h value hvalue hempty
    exact h (hempty ▸ hvalue)

theorem field_of_object {fields : List (String × Schema)} {packet : Json} {key : String}
    {schema : Schema} (h : object fields (some packet) = true)
    (hmem : (key, schema) ∈ fields) :
    schema (packet.field? key) = true := by
  unfold object at h
  split at h
  · rename_i entries hpacket
    cases hpacket
    exact List.all_eq_true.mp h (key, schema) hmem
  · cases h

end Schema

end Foundations
end CopilotFactory
