import CopilotFactory.Foundations.Scanning

/-!
# References in a dependency cell

The cell of a task's metadata table that names the tasks it depends on is searched for
references, for those in square brackets first.  Only where there are none of these, it is
searched for references that stand as words.
-/

namespace CopilotFactory
namespace Importing

open Foundations

variable {c : Char}

/-- A character of `\w`. -/
def isWordChar (c : Char) : Bool :=
  c.isAlpha || c.isDigit || c = '_'

/-- A character of `[\w-]`. -/
def isRefChar (c : Char) : Bool :=
  isWordChar c || c = '-'

/-- Whether the text begins with `[A-Za-z]+[\d]`.  No digit is a letter, so that the letters
are all those that the text begins with. -/
def startsRef (text : List Char) : Bool :=
  !(text.takeWhile Char.isAlpha).isEmpty &&
    match text.dropWhile Char.isAlpha with
    | [] => false
    | c :: _ => c.isDigit

/-- The pattern `\[([A-Za-z]+[\d][\w-]*)\]`. -/
def linkPattern : Pattern Char (List Char) := fun _ text =>
  match text with
  | [] => none
  | c :: rest =>
      let ref := rest.takeWhile isRefChar
      if c = '[' && startsRef rest && (rest.dropWhile isRefChar).head? = some ']' then
        some (ref, ref.length + 2)
      else
        none

/-- The pattern `\b([A-Za-z]+[\d][\w-]*)\b`.  It begins at a letter, hence at a boundary
where no word character stands before.  At its end it gives back the hyphens, behind which
there is no boundary. -/
def plainPattern : Pattern Char (List Char) := fun before text =>
  if !before.any isWordChar && startsRef text then
    let ref := ((text.takeWhile isRefChar).reverse.dropWhile (fun c => c = '-')).reverse
    some (ref, ref.length)
  else
    none

def dependencyMatches (raw : List Char) : List (PatternMatch (List Char)) :=
  let links := execAll linkPattern 0 raw
  if links.isEmpty then
    (execAll plainPattern 0 raw).filter (fun m => 2 ≤ m.group.length)
  else
    links

def extractDependencyRefs (raw : String) : List String :=
  (dependencyMatches raw.toList).map (fun m => String.ofList m.group)

/-!
## Characters
-/

theorem isRefChar_of_isAlpha (h : c.isAlpha = true) : isRefChar c = true := by
  simp [isRefChar, isWordChar, h]

theorem isRefChar_of_isDigit (h : c.isDigit = true) : isRefChar c = true := by
  simp [isRefChar, isWordChar, h]

theorem isRefChar_of_isWordChar (h : isWordChar c = true) : isRefChar c = true := by
  simp [isRefChar, h]

theorem isAlpha_iff :
    c.isAlpha = true <->
      (65 ≤ c.toNat ∧ c.toNat ≤ 90) ∨ (97 ≤ c.toNat ∧ c.toNat ≤ 122) := by
  change (decide (c.val ≥ 'A'.val ∧ c.val ≤ 'Z'.val) ||
    (decide (c.val ≥ 'a'.val) && decide (c.val ≤ 'z'.val))) = true <-> _
  simp only [Bool.or_eq_true, Bool.and_eq_true, decide_eq_true_eq, UInt32.le_iff_toNat_le,
    ge_iff_le]
  rfl

theorem isDigit_iff : c.isDigit = true <-> 48 ≤ c.toNat ∧ c.toNat ≤ 57 := by
  simp only [Char.isDigit, Bool.and_eq_true, decide_eq_true_eq, UInt32.le_iff_toNat_le,
    ge_iff_le]
  rfl

theorem not_isAlpha_of_isDigit (h : c.isDigit = true) : c.isAlpha = false := by
  rw [isDigit_iff] at h
  by_contra hletter
  rw [Bool.not_eq_false, isAlpha_iff] at hletter
  omega

theorem toNat_of_isRefChar (h : isRefChar c = true) : 0x2D ≤ c.toNat ∧ c.toNat ≤ 0x7A := by
  simp only [isRefChar, isWordChar, Bool.or_eq_true, decide_eq_true_eq, isAlpha_iff,
    isDigit_iff] at h
  rcases h with (hcode | hc) | hc
  · omega
  · rw [hc]
    decide
  · rw [hc]
    decide

/-!
## The start of a reference
-/

theorem startsRef_iff {text : List Char} :
    startsRef text = true <->
      exists letters d rest, letters ≠ [] ∧ (forall c, c ∈ letters -> c.isAlpha = true) ∧
        d.isDigit = true ∧ text = letters ++ d :: rest := by
  constructor
  · intro h
    unfold startsRef at h
    rw [Bool.and_eq_true] at h
    rcases h with ⟨hletters, hdigit⟩
    cases hdrop : text.dropWhile Char.isAlpha with
    | nil =>
        rw [hdrop] at hdigit
        cases hdigit
    | cons d rest =>
        rw [hdrop] at hdigit
        refine ⟨text.takeWhile Char.isAlpha, d, rest, by simpa using hletters, ?_, hdigit, ?_⟩
        · intro c hc
          exact List.mem_takeWhile_imp hc
        · rw [← hdrop, List.takeWhile_append_dropWhile]
  · rintro ⟨letters, d, rest, hne, hletters, hdigit, htext⟩
    have hd := not_isAlpha_of_isDigit hdigit
    unfold startsRef
    rw [htext, takeWhile_append_cons hd, dropWhile_append_cons hd,
      List.takeWhile_eq_self_iff.mpr hletters, List.dropWhile_eq_nil_iff.mpr hletters]
    simp [hne, hdigit]

theorem startsRef_append {letters : List Char} (hne : letters ≠ [])
    (hletters : forall c, c ∈ letters -> c.isAlpha = true) (hc : c.isAlpha = false)
    (rest : List Char) : startsRef (letters ++ c :: rest) = c.isDigit := by
  unfold startsRef
  rw [takeWhile_append_cons hc, dropWhile_append_cons hc, List.takeWhile_eq_self_iff.mpr hletters,
    List.dropWhile_eq_nil_iff.mpr hletters]
  simp [hne]

theorem startsRef_cons (hc : c.isAlpha = false) (rest : List Char) :
    startsRef (c :: rest) = false := by
  unfold startsRef
  rw [List.takeWhile_cons_of_neg (by simp [hc])]
  rfl

theorem startsRef_append_cons (hc : isRefChar c = false) (text rest : List Char) :
    startsRef (text ++ c :: rest) = startsRef text := by
  have hletter : c.isAlpha = false := by
    cases h : c.isAlpha with
    | false =>
        rfl
    | true =>
        rw [isRefChar_of_isAlpha h] at hc
        cases hc
  have hdigit : c.isDigit = false := by
    cases h : c.isDigit with
    | false =>
        rfl
    | true =>
        rw [isRefChar_of_isDigit h] at hc
        cases hc
  unfold startsRef
  rw [takeWhile_append_cons hletter, dropWhile_append_cons hletter]
  cases text.dropWhile Char.isAlpha with
  | nil =>
      simp [hdigit]
  | cons d rest =>
      rfl

/-!
## The patterns
-/

theorem linkPattern_cons (before : Option Char) (c : Char) (rest : List Char) :
    linkPattern before (c :: rest) =
      if c = '[' && startsRef rest && (rest.dropWhile isRefChar).head? = some ']' then
        some (rest.takeWhile isRefChar, (rest.takeWhile isRefChar).length + 2)
      else
        none :=
  rfl

theorem linkPattern_bounded : linkPattern.Bounded := by
  intro before text group taken h
  cases text with
  | nil =>
      cases h
  | cons c rest =>
      rw [linkPattern_cons] at h
      split at h
      · rename_i hlink
        rw [Bool.and_eq_true, decide_eq_true_eq] at hlink
        cases h
        have hlength := congrArg List.length
          (List.takeWhile_append_dropWhile (p := isRefChar) (l := rest))
        cases hdrop : rest.dropWhile isRefChar with
        | nil =>
            rw [hdrop] at hlink
            cases hlink.2
        | cons d others =>
            rw [hdrop, List.length_append, List.length_cons] at hlength
            rw [List.length_cons]
            omega
      · cases h

theorem plainPattern_bounded : plainPattern.Bounded := by
  intro before text group taken h
  unfold plainPattern at h
  split at h
  · cases h
    rw [List.length_reverse]
    have hdrop := (List.dropWhile_sublist (fun c => decide (c = '-'))
      (l := (text.takeWhile isRefChar).reverse)).length_le
    have htake := (List.takeWhile_sublist isRefChar (l := text)).length_le
    rw [List.length_reverse] at hdrop
    exact hdrop.trans htake
  · cases h

/-- What can stand neither in a reference nor beside one in brackets breaks both searches. -/
structure IsBreak (c : Char) : Prop where
  notRef : isRefChar c = false
  notOpening : c ≠ '['
  notClosing : c ≠ ']'

theorem IsBreak.linkPattern (h : IsBreak c) : linkPattern.Breaks c := by
  constructor
  · intro before rest
    rw [linkPattern_cons]
    simp [h.notOpening]
  · intro text
    rfl
  · intro before text rest
    cases text with
    | nil =>
        rw [List.nil_append, linkPattern_cons]
        simp [h.notOpening, Importing.linkPattern]
    | cons d text =>
        rw [List.cons_append, linkPattern_cons, linkPattern_cons,
          startsRef_append_cons h.notRef, takeWhile_append_cons h.notRef,
          dropWhile_append_cons h.notRef]
        cases text.dropWhile isRefChar with
        | nil =>
            simp [h.notClosing]
        | cons e others =>
            rfl

theorem IsBreak.plainPattern (h : isRefChar c = false) : plainPattern.Breaks c := by
  have hletter : c.isAlpha = false := by
    cases hc : c.isAlpha with
    | false =>
        rfl
    | true =>
        rw [isRefChar_of_isAlpha hc] at h
        cases h
  have hword : isWordChar c = false := by
    cases hc : isWordChar c with
    | false =>
        rfl
    | true =>
        rw [isRefChar_of_isWordChar hc] at h
        cases h
  constructor
  · intro before rest
    unfold Importing.plainPattern
    rw [startsRef_cons hletter]
    simp
  · intro text
    unfold Importing.plainPattern
    simp [hword]
  · intro before text rest
    unfold Importing.plainPattern
    rw [startsRef_append_cons h, takeWhile_append_cons h]

end Importing
end CopilotFactory
