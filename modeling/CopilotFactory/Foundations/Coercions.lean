import CopilotFactory.Foundations.Json
import CopilotFactory.Foundations.Result

/-!
# Coercions

What becomes of a JSON value where a truth value, a text or a number is expected.  An object
is taken as a text with its member `toString`.  Every object has inherited one, but an own
member of this name is no function, and then the conversion throws.
-/

namespace CopilotFactory
namespace Foundations

/-- How numbers are written, and which texts are read as numbers above zero. -/
structure Coercions where
  numberText : Rat -> String
  textIsPositive : String -> Bool

namespace Coercions

def notPrimitive : String :=
  "Cannot convert object to primitive value"

def truthy : Json -> Bool
  | .null => false
  | .boolean value => value
  | .number value => value ≠ 0
  | .string value => value ≠ ""
  | .array _ | .object _ => true

section

variable (coercions : Coercions)

mutual

def textOf : Json -> Except String String
  | .null => .ok "null"
  | .boolean value => .ok (if value then "true" else "false")
  | .number value => .ok (coercions.numberText value)
  | .string value => .ok value
  | .array items => (textsOf items).map ",".intercalate
  | .object entries =>
      if (entries.lookup "toString").isSome then .error notPrimitive
      else .ok "[object Object]"

/-- The items of an array as texts, among which null is empty. -/
def textsOf : List Json -> Except String (List String)
  | [] => .ok []
  | .null :: rest => (textsOf rest).map fun texts => "" :: texts
  | value :: rest =>
      (textOf value).bind fun text => (textsOf rest).map fun texts => text :: texts

end

/-- The comparison `value > 0`. -/
def isPositive : Option Json -> Except String Bool
  | none | some .null => .ok false
  | some (.boolean value) => .ok value
  | some (.number value) => .ok (0 < value)
  | some (.string value) => .ok (coercions.textIsPositive value)
  | some (.array items) => (textOf coercions (.array items)).map coercions.textIsPositive
  | some (.object entries) => (textOf coercions (.object entries)).map coercions.textIsPositive

def lengthIsPositive : Json -> Except String Bool
  | .string value => .ok (value ≠ "")
  | .array items => .ok (items ≠ [])
  | .object entries => isPositive coercions (entries.lookup "length")
  | .null | .boolean _ | .number _ => .ok false

end

mutual

def convertible : Json -> Bool
  | .null | .boolean _ | .number _ | .string _ => true
  | .array items => allConvertible items
  | .object entries => (entries.lookup "toString").isNone

def allConvertible : List Json -> Bool
  | [] => true
  | value :: rest => convertible value && allConvertible rest

end

variable {coercions : Coercions}

mutual

theorem textOf_eq_ok : forall value : Json,
    (exists text, textOf coercions value = .ok text) <-> convertible value = true
  | .null => by simp [textOf, convertible]
  | .boolean value => by simp [textOf, convertible]
  | .number value => by simp [textOf, convertible]
  | .string value => by simp [textOf, convertible]
  | .array items => by
      rw [textOf, convertible, ← textsOf_eq_ok items]
      cases textsOf coercions items <;> simp [Except.map]
  | .object entries => by
      rw [textOf, convertible]
      cases entries.lookup "toString" <;> simp

theorem textsOf_eq_ok : forall items : List Json,
    (exists texts, textsOf coercions items = .ok texts) <-> allConvertible items = true
  | [] => by simp [textsOf, allConvertible]
  | value :: rest => by
      rw [allConvertible, Bool.and_eq_true, ← textsOf_eq_ok rest, ← textOf_eq_ok value]
      cases value with
      | null =>
          cases htexts : textsOf coercions rest <;> simp [textsOf, textOf, htexts, Except.map]
      | boolean value | number value | string value | array items | object entries =>
          rw [textsOf]
          · cases textOf coercions _ with
            | error e =>
                simp [Except.bind]
            | ok text =>
                cases textsOf coercions rest <;>
                  simp [Except.bind, Except.map]
          · simp

end

def hasComparableLength : Json -> Bool
  | .object entries => (entries.lookup "length").all convertible
  | .null | .boolean _ | .number _ | .string _ | .array _ => true

theorem isPositive_eq_ok (value : Option Json) :
    (exists positive, isPositive coercions value = .ok positive) <->
      value.all convertible = true := by
  cases value with
  | none =>
      simp [isPositive]
  | some value =>
      rw [Option.all_some]
      cases value with
      | null | boolean value | number value | string value =>
          simp [isPositive, convertible]
      | array items | object entries =>
          rw [← @textOf_eq_ok coercions, isPositive]
          cases textOf coercions _ <;> simp [Except.map]

theorem lengthIsPositive_eq_ok (value : Json) :
    (exists positive, lengthIsPositive coercions value = .ok positive) <->
      hasComparableLength value = true := by
  cases value with
  | object entries =>
      exact isPositive_eq_ok (entries.lookup "length")
  | null | boolean value | number value | string value | array items =>
      exact ⟨fun _ => rfl, fun _ => ⟨_, rfl⟩⟩

end Coercions

end Foundations
end CopilotFactory
