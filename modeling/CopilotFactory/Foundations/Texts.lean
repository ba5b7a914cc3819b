import Mathlib.Data.List.Infix

/-!
# Texts

What stands before and after the first occurrence of something in a text, and the white
space around a text.
-/

namespace CopilotFactory
namespace Foundations

def beforeFirst (needle : List Char) : List Char -> Option (List Char)
  | [] => if needle = [] then some [] else none
  | c :: rest =>
      if needle.isPrefixOf (c :: rest) then
        some []
      else
        (beforeFirst needle rest).map (fun before => c :: before)

def afterFirst (needle : List Char) : List Char -> Option (List Char)
  | [] => if needle = [] then some [] else none
  | c :: rest =>
      if needle.isPrefixOf (c :: rest) then
        some ((c :: rest).drop needle.length)
      else
        afterFirst needle rest

def includes (text needle : String) : Bool :=
  (afterFirst needle.toList text.toList).isSome

theorem afterFirst_isSome_iff {needle text : List Char} :
    (afterFirst needle text).isSome = true <-> needle <:+: text := by
  induction text with
  | nil =>
      rw [List.infix_nil]
      unfold afterFirst
      by_cases h : needle = []
      · simp [h]
      · simp [h]
  | cons c rest ih =>
      rw [List.infix_cons_iff, ← ih, afterFirst]
      by_cases h : needle.isPrefixOf (c :: rest) = true
      · rw [if_pos h]
        simp [List.isPrefixOf_iff_prefix.mp h]
      · rw [if_neg h]
        simp [mt List.isPrefixOf_iff_prefix.mpr h]

theorem includes_iff {text needle : String} :
    includes text needle = true <-> needle.toList <:+: text.toList :=
  afterFirst_isSome_iff

def isSpace (c : Char) : Bool :=
  c.toNat ∈
      [0x09, 0x0A, 0x0B, 0x0C, 0x0D, 0x20, 0xA0, 0x1680, 0x2028, 0x2029, 0x202F, 0x205F,
        0x3000, 0xFEFF] ||
    (0x2000 ≤ c.toNat && c.toNat ≤ 0x200A)

def trim (text : List Char) : List Char :=
  ((text.dropWhile isSpace).reverse.dropWhile isSpace).reverse

/-!
## Dates

The ISO 8601 text, in UTC, of a point in time that is given in milliseconds.  The
calendar counts years from March, so that leap days come last.
-/

structure CivilDate where
  year : Int
  month : Int
  day : Int
deriving DecidableEq

/-- The date of a day, counted from 1 January 1970. -/
def civilOfDays (days : Int) : CivilDate :=
  let shifted := days + 719468
  let era := shifted / 146097
  let dayOfEra := shifted % 146097
  let yearOfEra :=
    (dayOfEra - dayOfEra / 1460 + dayOfEra / 36524 - dayOfEra / 146096) / 365
  let dayOfYear := dayOfEra - (365 * yearOfEra + yearOfEra / 4 - yearOfEra / 100)
  let marchMonth := (5 * dayOfYear + 2) / 153
  let month := if marchMonth < 10 then marchMonth + 3 else marchMonth - 9
  { year := yearOfEra + era * 400 + (if month ≤ 2 then 1 else 0)
    month := month
    day := dayOfYear - (153 * marchMonth + 2) / 5 + 1 }

def padded (width : Nat) (n : Int) : String :=
  let digits := Nat.toDigits 10 n.natAbs
  String.ofList (List.replicate (width - digits.length) '0' ++ digits)

/-- Years that do not have four digits are written with a sign and six. -/
def isoYear (year : Int) : String :=
  if 0 ≤ year ∧ year ≤ 9999 then
    padded 4 year
  else if year < 0 then
    "-" ++ padded 6 year
  else
    "+" ++ padded 6 year

def toISOString (millis : Int) : String :=
  let date := civilOfDays (millis / 86400000)
  let ofDay := millis % 86400000
  let hours := padded 2 (ofDay / 3600000)
  let minutes := padded 2 (ofDay / 60000 % 60)
  let seconds := padded 2 (ofDay / 1000 % 60)
  let millisOfSecond := padded 3 (ofDay % 1000)
  let month := padded 2 date.month
  let day := padded 2 date.day
  isoYear date.year ++ s!"-{month}-{day}T{hours}:{minutes}:{seconds}.{millisOfSecond}Z"

example : toISOString 951782400123 = "2000-02-29T00:00:00.123Z" := by
  decide +kernel

end Foundations
end CopilotFactory
