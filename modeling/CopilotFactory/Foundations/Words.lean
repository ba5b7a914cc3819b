import Mathlib.Data.List.Infix
import Mathlib.Data.List.Basic

/-!
# Words

A sequence is split at the maximal runs of its separators, and its words are the pieces
that are not empty.  Words joined by single separators are found again, and what holds
no separator itself occurs in a sequence exactly where it occurs between its outermost
separators.
-/

namespace CopilotFactory
namespace Foundations

variable {α : Type} {p : α -> Bool}

variable {word : List α}

/-- The pieces between the runs of separators.  Inside of a run no new piece begins. -/
def splitRunsFrom (p : α -> Bool) : Bool -> List α -> List (List α)
  | _, [] => [[]]
  | inRun, c :: rest =>
      if p c then
        if inRun then splitRunsFrom p true rest else [] :: splitRunsFrom p true rest
      else
        (splitRunsFrom p false rest).modifyHead (List.cons c)

def splitRuns (p : α -> Bool) (text : List α) : List (List α) :=
  splitRunsFrom p false text

def words (p : α -> Bool) (text : List α) : List (List α) :=
  (splitRuns p text).filter (fun piece => !piece.isEmpty)

structure IsWord (p : α -> Bool) (word : List α) : Prop where
  ne_nil : word ≠ []
  free : forall c, c ∈ word -> p c = false

/-!
## Pieces
-/

theorem splitRunsFrom_ne_nil (inRun : Bool) (text : List α) :
    splitRunsFrom p inRun text ≠ [] := by
  induction text generalizing inRun with
  | nil =>
      simp [splitRunsFrom]
  | cons c rest ih =>
      unfold splitRunsFrom
      split
      · split
        · exact ih true
        · simp
      · simpa using ih false

theorem free_of_mem_splitRunsFrom {inRun : Bool} {text piece : List α}
    (h : piece ∈ splitRunsFrom p inRun text) :
    forall c, c ∈ piece -> p c = false := by
  induction text generalizing inRun piece with
  | nil =>
      rw [splitRunsFrom, List.mem_singleton] at h
      rw [h]
      exact fun c hc => absurd hc List.not_mem_nil
  | cons c rest ih =>
      unfold splitRunsFrom at h
      split at h
      · split at h
        · exact ih h
        · rcases List.mem_cons.mp h with h | h
          · rw [h]
            exact fun d hd => absurd hd List.not_mem_nil
          · exact ih h
      · rename_i hc
        cases hsplit : splitRunsFrom p false rest with
        | nil =>
            exact absurd hsplit (splitRunsFrom_ne_nil false rest)
        | cons first others =>
            rw [hsplit, List.modifyHead_cons] at h
            rcases List.mem_cons.mp h with h | h
            · rw [h]
              intro d hd
              rcases List.mem_cons.mp hd with hd | hd
              · rw [hd]
                simpa using hc
              · exact ih (by rw [hsplit]; exact List.mem_cons_self) d hd
            · exact ih (by rw [hsplit]; exact List.mem_cons_of_mem first h)

theorem isWord_of_mem_words {text : List α} (h : word ∈ words p text) : IsWord p word := by
  rcases List.mem_filter.mp h with ⟨hmem, hne⟩
  exact ⟨by simpa using hne, free_of_mem_splitRunsFrom hmem⟩

/-!
## Words of words
-/

theorem splitRuns_word_append {rest : List α} (hword : forall c, c ∈ word -> p c = false)
    (hrest : rest = [] ∨ exists c others, rest = c :: others ∧ p c = true) :
    exists pieces, splitRuns p (word ++ rest) = word :: pieces ∧
      pieces.filter (fun piece => !piece.isEmpty) = words p rest := by
  induction word with
  | nil =>
      rcases hrest with hrest | ⟨c, others, hrest, hc⟩
      · rw [hrest]
        exact ⟨[], rfl, rfl⟩
      · rw [hrest, List.nil_append]
        refine ⟨splitRunsFrom p true others, ?_, ?_⟩
        · simp [splitRuns, splitRunsFrom, hc]
        · simp [words, splitRuns, splitRunsFrom, hc]
  | cons c word ih =>
      rcases ih (fun d hd => hword d (List.mem_cons_of_mem c hd)) with
        ⟨pieces, hsplit, hpieces⟩
      refine ⟨pieces, ?_, hpieces⟩
      have hc := hword c List.mem_cons_self
      rw [List.cons_append]
      unfold splitRuns splitRunsFrom
      unfold splitRuns at hsplit
      rw [hsplit, hc]
      rfl

theorem words_append {rest : List α} (hword : IsWord p word)
    (hrest : rest = [] ∨ exists c others, rest = c :: others ∧ p c = true) :
    words p (word ++ rest) = word :: words p rest := by
  rcases splitRuns_word_append hword.free hrest with ⟨pieces, hsplit, hpieces⟩
  have hne := hword.ne_nil
  unfold words
  rw [hsplit, List.filter_cons_of_pos (by simpa using hne), hpieces]
  rfl

theorem filter_splitRunsFrom (text : List α) :
    (splitRunsFrom p true text).filter (fun piece => !piece.isEmpty) = words p text := by
  cases text with
  | nil =>
      rfl
  | cons c rest =>
      unfold words splitRuns splitRunsFrom
      split
      · simp
      · rfl

theorem words_cons_separator {c : α} (hc : p c = true) (rest : List α) :
    words p (c :: rest) = words p rest := by
  rw [← filter_splitRunsFrom (c :: rest), splitRunsFrom, if_pos hc, if_pos rfl]
  exact filter_splitRunsFrom rest

/-- Words joined by single separators are found again. -/
theorem words_intercalate {separator : α} (hseparator : p separator = true)
    {parts : List (List α)} (hparts : forall word, word ∈ parts -> IsWord p word) :
    words p ([separator].intercalate parts) = parts := by
  induction parts with
  | nil =>
      rfl
  | cons word rest ih =>
      have hword := hparts word List.mem_cons_self
      have hrest := ih (fun w hw => hparts w (List.mem_cons_of_mem word hw))
      cases rest with
      | nil =>
          have hwords := words_append hword (Or.inl rfl)
          rw [List.append_nil] at hwords
          rw [List.intercalate_singleton, hwords]
          rfl
      | cons next rest =>
          rw [List.intercalate_cons_cons, List.append_assoc, List.singleton_append,
            words_append hword (Or.inr ⟨separator, _, rfl, hseparator⟩),
            words_cons_separator hseparator, hrest]

theorem intercalate_begins (separator : α) (rest : List (List α)) (hword : IsWord p word) :
    exists c others, [separator].intercalate (word :: rest) = c :: others ∧ p c = false := by
  cases word with
  | nil =>
      exact absurd rfl hword.ne_nil
  | cons c others =>
      exact ⟨c, _, List.intercalate_cons_cons_left, hword.free c List.mem_cons_self⟩

theorem intercalate_ends (separator : α) {rest : List (List α)}
    (hparts : forall w, w ∈ word :: rest -> IsWord p w) :
    exists others c, [separator].intercalate (word :: rest) = others ++ [c] ∧
      p c = false := by
  induction rest generalizing word with
  | nil =>
      have hword := hparts word List.mem_cons_self
      rcases List.eq_nil_or_concat word with hnil | ⟨others, c, hconcat⟩
      · exact absurd hnil hword.ne_nil
      · refine ⟨others, c, ?_, ?_⟩
        · rw [List.intercalate_singleton, hconcat, List.concat_eq_append]
        · apply hword.free
          rw [hconcat]
          simp
  | cons next rest ih =>
      rcases ih (fun w hw => hparts w (List.mem_cons_of_mem word hw)) with
        ⟨others, c, hrest, hc⟩
      refine ⟨word ++ [separator] ++ others, c, ?_, hc⟩
      rw [List.intercalate_cons_cons, hrest]
      simp

/-!
## Occurrences
-/

theorem infix_of_infix_cons {part text : List α} {c : α} (hne : part ≠ [])
    (hfree : forall d, d ∈ part -> p d = false) (hc : p c = true)
    (h : part <:+: c :: text) :
    part <:+: text := by
  rcases List.infix_cons_iff.mp h with hprefix | hinfix
  · cases part with
    | nil =>
        exact absurd rfl hne
    | cons d part =>
        have hd := List.cons_prefix_cons.mp hprefix
        have hfalse := hfree d List.mem_cons_self
        rw [hd.1, hc] at hfalse
        cases hfalse
  · exact hinfix

theorem infix_dropWhile {part text : List α} (hne : part ≠ [])
    (hfree : forall d, d ∈ part -> p d = false) (h : part <:+: text) :
    part <:+: text.dropWhile p := by
  induction text with
  | nil =>
      exact h
  | cons c text ih =>
      rw [List.dropWhile_cons]
      split
      · rename_i hc
        exact ih (infix_of_infix_cons hne hfree hc h)
      · exact h

end Foundations
end CopilotFactory
