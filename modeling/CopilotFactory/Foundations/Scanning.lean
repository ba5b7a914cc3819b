import Mathlib.Data.List.TakeWhile

/-!
# Scanning for a pattern

A text is searched for a pattern from left to right.  After a match the search goes on
behind it, so that no two matches overlap.  A character that no match can hold, and that a
match does not look behind, cuts a text into two that are searched one after the other.
-/

namespace CopilotFactory
namespace Foundations

variable {index taken : Nat}

structure PatternMatch (β : Type) where
  index : Nat
  group : β
deriving DecidableEq

variable {α β : Type}

variable {before : Option α} {c : α} {breaks : List α}

/-- A pattern at a place of a text.  It sees the character before the place and the text from
the place on, and tells what it captures and how many characters it takes. -/
def Pattern (α β : Type) : Type :=
  Option α -> List α -> Option (β × Nat)

/-- The matches in a text that begins at an index, of which the first characters belong to
the match before. -/
def execAllFrom (pattern : Pattern α β) :
    Nat -> Option α -> Nat -> List α -> List (PatternMatch β)
  | _, _, _, [] => []
  | index, _, taken + 1, c :: rest => execAllFrom pattern (index + 1) (some c) taken rest
  | index, before, 0, c :: rest =>
      match pattern before (c :: rest) with
      | some (group, taken) =>
          { index := index, group := group } ::
            execAllFrom pattern (index + 1) (some c) (taken - 1) rest
      | none => execAllFrom pattern (index + 1) (some c) 0 rest

def execAll (pattern : Pattern α β) (index : Nat) (text : List α) : List (PatternMatch β) :=
  execAllFrom pattern index none 0 text

def Pattern.Bounded (pattern : Pattern α β) : Prop :=
  forall before text group taken, pattern before text = some (group, taken) ->
    taken ≤ text.length

/-- A character that no match begins with, looks behind or reaches over. -/
structure Pattern.Breaks (pattern : Pattern α β) (c : α) : Prop where
  start : forall before rest, pattern before (c :: rest) = none
  behind : forall text, pattern (some c) text = pattern none text
  reach : forall before text rest, pattern before (text ++ c :: rest) = pattern before text

variable {pattern : Pattern α β}

@[simp]
theorem execAllFrom_nil (index taken : Nat) (before : Option α) :
    execAllFrom pattern index before taken [] = [] := by
  cases taken <;> rfl

@[simp]
theorem execAll_nil (index : Nat) : execAll pattern index [] = [] :=
  rfl

theorem execAllFrom_of_none {rest : List α} (h : pattern before (c :: rest) = none) :
    execAllFrom pattern index before 0 (c :: rest) =
      execAllFrom pattern (index + 1) (some c) 0 rest := by
  rw [execAllFrom, h]

theorem execAllFrom_of_some {rest : List α} {group : β}
    (h : pattern before (c :: rest) = some (group, taken)) :
    execAllFrom pattern index before 0 (c :: rest) =
      { index := index, group := group } ::
        execAllFrom pattern (index + 1) (some c) (taken - 1) rest := by
  rw [execAllFrom, h]

theorem execAllFrom_taken {text : List α} (h : text.length ≤ taken) :
    execAllFrom pattern index before taken text = [] := by
  induction text generalizing index taken before with
  | nil =>
      exact execAllFrom_nil index taken before
  | cons c rest ih =>
      cases taken with
      | zero =>
          exact absurd h (by simp)
      | succ taken =>
          rw [execAllFrom]
          exact ih (by simpa using h)

variable {m : PatternMatch β}

/-- All matches begin inside of the text. -/
theorem index_of_mem_execAllFrom {text : List α}
    (h : m ∈ execAllFrom pattern index before taken text) :
    index ≤ m.index ∧ m.index < index + text.length := by
  induction text generalizing index taken before with
  | nil =>
      rw [execAllFrom_nil] at h
      cases h
  | cons c rest ih =>
      rw [List.length_cons]
      cases taken with
      | succ taken =>
          rw [execAllFrom] at h
          have hrest := ih h
          omega
      | zero =>
          cases hfound : pattern before (c :: rest) with
          | none =>
              rw [execAllFrom_of_none hfound] at h
              have hrest := ih h
              omega
          | some found =>
              rw [execAllFrom_of_some hfound, List.mem_cons] at h
              rcases h with h | h
              · rw [h]
                exact ⟨Nat.le_refl index, by simp⟩
              · have hrest := ih h
                omega

theorem index_of_mem_execAll {text : List α} (h : m ∈ execAll pattern index text) :
    index ≤ m.index ∧ m.index < index + text.length :=
  index_of_mem_execAllFrom h

theorem group_of_mem_execAllFrom {holds : β -> Prop}
    (hholds : forall before text group taken, pattern before text = some (group, taken) ->
      holds group)
    {text : List α} (h : m ∈ execAllFrom pattern index before taken text) : holds m.group := by
  induction text generalizing index taken before with
  | nil =>
      rw [execAllFrom_nil] at h
      cases h
  | cons c rest ih =>
      cases taken with
      | succ taken =>
          rw [execAllFrom] at h
          exact ih h
      | zero =>
          cases hfound : pattern before (c :: rest) with
          | none =>
              rw [execAllFrom_of_none hfound] at h
              exact ih h
          | some found =>
              rw [execAllFrom_of_some hfound, List.mem_cons] at h
              rcases h with h | h
              · rw [h]
                exact hholds before (c :: rest) found.1 found.2 hfound
              · exact ih h

theorem execAll_whole {text : List α} {group : β} (hne : text ≠ [])
    (h : pattern none text = some (group, text.length)) :
    execAll pattern index text = [{ index := index, group := group }] := by
  cases text with
  | nil =>
      exact absurd rfl hne
  | cons c rest =>
      unfold execAll
      rw [execAllFrom_of_some h, execAllFrom_taken (by simp)]

/-!
## Texts without a match
-/

theorem getLast?_cons_or (c : α) (front : List α) (before : Option α) :
    (c :: front).getLast?.or before = front.getLast?.or (some c) := by
  cases front with
  | nil =>
      rfl
  | cons d front =>
      rw [List.getLast?_cons_cons, List.getLast?_cons]
      rfl

theorem execAllFrom_eq_nil_iff {text : List α} :
    execAllFrom pattern index before 0 text = [] <->
      forall front c back, text = front ++ c :: back ->
        pattern (front.getLast?.or before) (c :: back) = none := by
  induction text generalizing index before with
  | nil =>
      simp
  | cons c rest ih =>
      constructor
      · intro h front d back htext
        have hnone : pattern before (c :: rest) = none := by
          cases hfound : pattern before (c :: rest) with
          | none =>
              rfl
          | some found =>
              rw [execAllFrom_of_some hfound] at h
              cases h
        rw [execAllFrom_of_none hnone] at h
        cases front with
        | nil =>
            rcases List.cons.inj htext with ⟨hc, hrest⟩
            rw [← hc, ← hrest]
            exact hnone
        | cons e front =>
            rcases List.cons.inj htext with ⟨hc, hrest⟩
            rw [getLast?_cons_or, ← hc]
            exact ih.mp h front d back hrest
      · intro h
        have hnone : pattern before (c :: rest) = none := h [] c rest rfl
        rw [execAllFrom_of_none hnone]
        apply ih.mpr
        intro front d back htext
        rw [← getLast?_cons_or c front before]
        exact h (c :: front) d back (by rw [htext, List.cons_append])

theorem execAll_eq_nil_iff {text : List α} :
    execAll pattern index text = [] <->
      forall front c back, text = front ++ c :: back ->
        pattern front.getLast? (c :: back) = none := by
  unfold execAll
  rw [execAllFrom_eq_nil_iff]
  simp

/-!
## Cutting a text
-/

theorem execAllFrom_break (hbounded : pattern.Bounded) (hbreak : pattern.Breaks c)
    {text : List α} (rest : List α) (h : taken ≤ text.length) :
    execAllFrom pattern index before taken (text ++ c :: rest) =
      execAllFrom pattern index before taken text ++
        execAll pattern (index + text.length + 1) rest := by
  induction text generalizing index taken before with
  | nil =>
      have htaken : taken = 0 := Nat.le_zero.mp h
      rw [htaken, List.nil_append, execAllFrom_of_none (hbreak.start before rest),
        execAllFrom_nil, List.nil_append, List.length_nil, Nat.add_zero]
      cases rest with
      | nil =>
          simp
      | cons d rest =>
          unfold execAll
          rw [execAllFrom, execAllFrom, hbreak.behind]
  | cons d text ih =>
      have hindex : index + (d :: text).length + 1 = index + 1 + text.length + 1 := by
        rw [List.length_cons]
        omega
      rw [hindex]
      cases taken with
      | succ taken =>
          rw [List.cons_append, execAllFrom, execAllFrom]
          exact ih (by simpa using h)
      | zero =>
          have hreach := hbreak.reach before (d :: text) rest
          cases hfound : pattern before (d :: text) with
          | none =>
              rw [hfound, List.cons_append] at hreach
              rw [List.cons_append, execAllFrom_of_none hreach, execAllFrom_of_none hfound]
              exact ih (Nat.zero_le _)
          | some found =>
              have hlength := hbounded before (d :: text) found.1 found.2 hfound
              rw [hfound, List.cons_append] at hreach
              rw [List.cons_append, execAllFrom_of_some hreach, execAllFrom_of_some hfound,
                List.cons_append, ih]
              rw [List.length_cons] at hlength
              omega

theorem execAll_break (hbounded : pattern.Bounded) (hbreak : pattern.Breaks c) (index : Nat)
    (text rest : List α) :
    execAll pattern index (text ++ c :: rest) =
      execAll pattern index text ++ execAll pattern (index + text.length + 1) rest :=
  execAllFrom_break hbounded hbreak rest (Nat.zero_le _)

theorem execAll_breaks (hbounded : pattern.Bounded)
    (hbreaks : forall c, c ∈ breaks -> pattern.Breaks c) (index : Nat) (rest : List α) :
    execAll pattern index (breaks ++ rest) = execAll pattern (index + breaks.length) rest := by
  induction breaks generalizing index with
  | nil =>
      rfl
  | cons c breaks ih =>
      have hcut := execAll_break hbounded (hbreaks c List.mem_cons_self) index []
        (breaks ++ rest)
      rw [List.nil_append, execAll_nil, List.nil_append, List.length_nil, Nat.add_zero] at hcut
      rw [List.cons_append, hcut, ih (fun d hd => hbreaks d (List.mem_cons_of_mem c hd)),
        List.length_cons]
      congr 1
      omega

theorem execAll_append_breaks (hbounded : pattern.Bounded)
    (hbreaks : forall c, c ∈ breaks -> pattern.Breaks c) (hne : breaks ≠ []) (index : Nat)
    (text rest : List α) :
    execAll pattern index (text ++ (breaks ++ rest)) =
      execAll pattern index text ++
        execAll pattern (index + text.length + breaks.length) rest := by
  cases breaks with
  | nil =>
      exact absurd rfl hne
  | cons c breaks =>
      rw [List.cons_append, execAll_break hbounded (hbreaks c List.mem_cons_self),
        execAll_breaks hbounded (fun d hd => hbreaks d (List.mem_cons_of_mem c hd)),
        List.length_cons]
      congr 2
      omega

theorem execAll_append_breaks_end (hbounded : pattern.Bounded)
    (hbreaks : forall c, c ∈ breaks -> pattern.Breaks c) (index : Nat) (text : List α) :
    execAll pattern index (text ++ breaks) = execAll pattern index text := by
  cases breaks with
  | nil =>
      rw [List.append_nil]
  | cons c breaks =>
      have hcut := execAll_append_breaks hbounded hbreaks (List.cons_ne_nil c breaks) index
        text []
      rw [List.append_nil, execAll_nil, List.append_nil] at hcut
      exact hcut

/-!
## Runs of characters
-/

variable {p : α -> Bool}

theorem takeWhile_append_cons (hc : p c = false) (text rest : List α) :
    (text ++ c :: rest).takeWhile p = text.takeWhile p := by
  induction text with
  | nil =>
      simp [hc]
  | cons d text ih =>
      cases hd : p d with
      | false =>
          simp [hd]
      | true =>
          simp [hd, ih]

theorem dropWhile_append_cons (hc : p c = false) (text rest : List α) :
    (text ++ c :: rest).dropWhile p = text.dropWhile p ++ c :: rest := by
  induction text with
  | nil =>
      simp [hc]
  | cons d text ih =>
      cases hd : p d with
      | false =>
          simp [hd]
      | true =>
          simp [hd, ih]

end Foundations
end CopilotFactory
