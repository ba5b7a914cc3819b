import CopilotFactory.Foundations.Texts
import CopilotFactory.Importing.DependencyRefs

/-!
# What is read from a dependency cell

A cell lists references of the documented forms, each written plainly, with an annotation
in parentheses behind it, or as a link.  The references of a cell are read, and nothing is
taken from its annotations and targets, exactly if in all references the letters are
directly followed by a digit and either all are links or none is, and if what stands in
parentheses holds nothing that the search would find.
-/

namespace CopilotFactory
namespace Importing

open Foundations

variable {index : Nat} {β : Type}

structure Letters where
  chars : List Char
  ne_nil : chars ≠ []
  letters : forall c, c ∈ chars -> c.isAlpha = true

structure Digits where
  chars : List Char
  ne_nil : chars ≠ []
  digits : forall c, c ∈ chars -> c.isDigit = true

structure Blanks where
  chars : List Char
  blank : forall c, c ∈ chars -> isSpace c = true

/-- The documented forms of a reference. -/
inductive Reference where
  /-- As in T001 and M8. -/
  | numbered (letters : Letters) (number : Digits)
  /-- As in M12-006. -/
  | subnumbered (letters : Letters) (number sub : Digits)
  /-- As in GH#123. -/
  | hashed (letters : Letters) (number : Digits)
  /-- As in JIRA-42. -/
  | hyphenated (letters : Letters) (number : Digits)

def Reference.text : Reference -> List Char
  | .numbered letters number => letters.chars ++ number.chars
  | .subnumbered letters number sub => letters.chars ++ (number.chars ++ '-' :: sub.chars)
  | .hashed letters number => letters.chars ++ '#' :: number.chars
  | .hyphenated letters number => letters.chars ++ '-' :: number.chars

def Reference.Direct : Reference -> Prop
  | .numbered _ _ => True
  | .subnumbered _ _ _ => True
  | .hashed _ _ => False
  | .hyphenated _ _ => False

inductive Mention where
  | plain (ref : Reference)
  | annotated (ref : Reference) (gap : Blanks) (remark : List Char)
  | link (ref : Reference) (target : List Char)

def Mention.ref : Mention -> Reference
  | .plain ref => ref
  | .annotated ref _ _ => ref
  | .link ref _ => ref

def Mention.text : Mention -> List Char
  | .plain ref => ref.text
  | .annotated ref gap remark =>
      ref.text ++ (gap.chars ++ ['(']) ++ remark ++ [')']
  | .link ref target => '[' :: ref.text ++ [']'] ++ ['('] ++ target ++ [')']

/-- What stands in parentheses, and where it begins. -/
def Mention.note : Mention -> Option (Nat × List Char)
  | .plain _ => none
  | .annotated ref gap remark =>
      some (ref.text.length + gap.chars.length + 1, remark)
  | .link ref target => some (ref.text.length + 3, target)

structure Entry where
  before : Blanks
  mention : Mention
  after : Blanks

def Entry.text (entry : Entry) : List Char :=
  entry.before.chars ++ entry.mention.text ++ entry.after.chars

def cellText (cell : List Entry) : List Char :=
  [','].intercalate (cell.map Entry.text)

def placed : Nat -> List Entry -> List (Nat × Entry)
  | _, [] => []
  | index, entry :: rest =>
      (index, entry) :: placed (index + entry.text.length + 1) rest

/-- An index of the cell lies in an annotation or in the target of a link. -/
def InNote (cell : List Entry) (index : Nat) : Prop :=
  exists start entry offset note, (start, entry) ∈ placed 0 cell ∧
    entry.mention.note = some (offset, note) ∧
    start + entry.before.chars.length + offset ≤ index ∧
    index < start + entry.before.chars.length + offset + note.length

/-- The references of the cell are returned, and nothing is taken from a note. -/
structure ReadsCell (cell : List Entry) : Prop where
  refs : extractDependencyRefs (String.ofList (cellText cell)) =
    cell.map (fun entry => String.ofList entry.mention.ref.text)
  outside : forall m, m ∈ dependencyMatches (cellText cell) -> ¬ InNote cell m.index

/-- Somewhere in the text a reference stands in square brackets. -/
def HoldsLink (text : List Char) : Prop :=
  exists front ref back, text = front ++ '[' :: (ref ++ ']' :: back) ∧
    (forall c, c ∈ ref -> isRefChar c = true) ∧
    exists letters d rest, letters ≠ [] ∧ (forall c, c ∈ letters -> c.isAlpha = true) ∧
      d.isDigit = true ∧ ref = letters ++ d :: rest

/-- Somewhere in the text letters begin at the boundary of a word, and a digit follows. -/
def HoldsRef (text : List Char) : Prop :=
  exists front letters d back, text = front ++ (letters ++ d :: back) ∧
    (forall c, front.getLast? = some c -> isWordChar c = false) ∧
    letters ≠ [] ∧ (forall c, c ∈ letters -> c.isAlpha = true) ∧ d.isDigit = true

/-- All entries are links of direct references, and no target holds a link itself. -/
def AllLinks (cell : List Entry) : Prop :=
  forall entry, entry ∈ cell -> exists ref target,
    entry.mention = .link ref target ∧ ref.Direct ∧ ¬ HoldsLink target

/-- No entry is a link, all references are direct, and no annotation holds a reference. -/
def AllPlain (cell : List Entry) : Prop :=
  forall entry, entry ∈ cell ->
    (exists ref, entry.mention = .plain ref ∧ ref.Direct) ∨
    exists ref gap remark,
      entry.mention = .annotated ref gap remark ∧ ref.Direct ∧ ¬ HoldsRef remark

/-!
## What is found in a note
-/

theorem execAll_linkPattern_eq_nil_iff {text : List Char} :
    execAll linkPattern index text = [] <-> ¬ HoldsLink text := by
  rw [execAll_eq_nil_iff]
  constructor
  · rintro h ⟨front, ref, back, htext, href, hstart⟩
    have hnone := h front '[' (ref ++ ']' :: back) htext
    have hstarts := startsRef_iff.mpr hstart
    have hclosing : isRefChar ']' = false := by decide
    rw [linkPattern_cons, startsRef_append_cons hclosing, hstarts,
      dropWhile_append_cons hclosing, List.dropWhile_eq_nil_iff.mpr href] at hnone
    simp at hnone
  · intro h front c back htext
    rw [linkPattern_cons]
    split
    · rename_i hlink
      rw [Bool.and_eq_true, Bool.and_eq_true, decide_eq_true_eq, decide_eq_true_eq] at hlink
      rcases hlink with ⟨⟨hc, hstarts⟩, hclosing⟩
      apply absurd _ h
      cases hdrop : back.dropWhile isRefChar with
      | nil =>
          rw [hdrop] at hclosing
          cases hclosing
      | cons d rest =>
          rw [hdrop, List.head?_cons, Option.some.injEq] at hclosing
          have hback := List.takeWhile_append_dropWhile (p := isRefChar) (l := back)
          rw [hdrop, hclosing] at hback
          refine ⟨front, back.takeWhile isRefChar, rest, ?_, ?_, ?_⟩
          · rw [htext, hc, hback]
          · intro e he
            exact List.mem_takeWhile_imp he
          · apply startsRef_iff.mp
            rw [← startsRef_append_cons (c := ']') (by decide) _ rest, hback]
            exact hstarts
    · rfl

theorem execAll_plainPattern_eq_nil_iff {text : List Char} :
    execAll plainPattern index text = [] <-> ¬ HoldsRef text := by
  rw [execAll_eq_nil_iff]
  constructor
  · rintro h ⟨front, letters, d, back, htext, hboundary, hne, hletters, hdigit⟩
    cases letters with
    | nil =>
        exact hne rfl
    | cons c letters =>
        have hnone := h front c (letters ++ d :: back) htext
        have hstarts : startsRef (c :: (letters ++ d :: back)) = true :=
          startsRef_iff.mpr ⟨c :: letters, d, back, hne, hletters, hdigit, rfl⟩
        unfold plainPattern at hnone
        rw [hstarts] at hnone
        cases hlast : front.getLast? with
        | none =>
            rw [hlast] at hnone
            cases hnone
        | some e =>
            rw [hlast, Option.any_some, hboundary e hlast] at hnone
            cases hnone
  · intro h front c back htext
    unfold plainPattern
    split
    · rename_i hfound
      rw [Bool.and_eq_true, Bool.not_eq_true'] at hfound
      rcases hfound with ⟨hboundary, hstarts⟩
      rcases startsRef_iff.mp hstarts with ⟨letters, d, rest, hne, hletters, hdigit, hback⟩
      apply absurd _ h
      refine ⟨front, letters, d, rest, by rw [htext, hback], ?_, hne, hletters, hdigit⟩
      intro e he
      rw [he] at hboundary
      exact hboundary
    · rfl

theorem HoldsLink.holdsRef {text : List Char} (h : HoldsLink text) : HoldsRef text := by
  rcases h with ⟨front, ref, back, htext, _, letters, d, rest, hne, hletters, hdigit, href⟩
  refine ⟨front ++ ['['], letters, d, rest ++ ']' :: back, ?_, ?_, hne, hletters, hdigit⟩
  · rw [htext, href]
    simp
  · intro c hc
    rw [List.getLast?_concat, Option.some.injEq] at hc
    rw [← hc]
    decide

/-!
## What is found in a reference
-/

theorem Digits.exists_cons (number : Digits) :
    exists d rest, number.chars = d :: rest ∧ d.isDigit = true := by
  cases h : number.chars with
  | nil =>
      exact absurd h number.ne_nil
  | cons d rest =>
      exact ⟨d, rest, rfl, number.digits d (by rw [h]; exact List.mem_cons_self)⟩

theorem Digits.exists_concat (number : Digits) :
    exists front d, number.chars = front ++ [d] ∧ d.isDigit = true := by
  rcases List.eq_nil_or_concat number.chars with h | ⟨front, d, h⟩
  · exact absurd h number.ne_nil
  · rw [List.concat_eq_append] at h
    exact ⟨front, d, h, number.digits d (by rw [h]; simp)⟩

theorem Digits.isRefChar (number : Digits) :
    forall c, c ∈ number.chars -> Importing.isRefChar c = true :=
  fun c hc => isRefChar_of_isDigit (number.digits c hc)

theorem Letters.isRefChar (letters : Letters) :
    forall c, c ∈ letters.chars -> Importing.isRefChar c = true :=
  fun c hc => isRefChar_of_isAlpha (letters.letters c hc)

/-- A direct reference begins with letters and a digit, holds only characters of references
and ends with a digit. -/
theorem Reference.text_of_direct {ref : Reference} (h : ref.Direct) :
    (forall rest, startsRef (ref.text ++ rest) = true) ∧
      (forall c, c ∈ ref.text -> isRefChar c = true) ∧
      exists front d, ref.text = front ++ [d] ∧ d.isDigit = true := by
  cases ref with
  | numbered letters number =>
      refine ⟨?_, ?_, ?_⟩
      · intro rest
        rcases number.exists_cons with ⟨d, others, hnumber, hd⟩
        apply startsRef_iff.mpr
        refine ⟨letters.chars, d, others ++ rest, letters.ne_nil, letters.letters, hd, ?_⟩
        rw [Reference.text, hnumber, List.append_assoc, List.cons_append]
      · intro c hc
        rcases List.mem_append.mp hc with hc | hc
        · exact letters.isRefChar c hc
        · exact number.isRefChar c hc
      · rcases number.exists_concat with ⟨front, d, hnumber, hd⟩
        refine ⟨letters.chars ++ front, d, ?_, hd⟩
        rw [Reference.text, hnumber, List.append_assoc]
  | subnumbered letters number sub =>
      refine ⟨?_, ?_, ?_⟩
      · intro rest
        rcases number.exists_cons with ⟨d, others, hnumber, hd⟩
        apply startsRef_iff.mpr
        refine ⟨letters.chars, d, others ++ '-' :: sub.chars ++ rest, letters.ne_nil,
          letters.letters, hd, ?_⟩
        rw [Reference.text, hnumber, List.append_assoc, List.cons_append, List.cons_append]
      · intro c hc
        rcases List.mem_append.mp hc with hc | hc
        · exact letters.isRefChar c hc
        · rcases List.mem_append.mp hc with hc | hc
          · exact number.isRefChar c hc
          · rcases List.mem_cons.mp hc with hc | hc
            · rw [hc]
              decide
            · exact sub.isRefChar c hc
      · rcases sub.exists_concat with ⟨front, d, hsub, hd⟩
        refine ⟨letters.chars ++ (number.chars ++ '-' :: front), d, ?_, hd⟩
        rw [Reference.text, hsub]
        simp
  | hashed letters number =>
      exact h.elim
  | hyphenated letters number =>
      exact h.elim

theorem Reference.text_of_not_direct {ref : Reference} (h : ¬ ref.Direct) :
    exists sign, sign.isAlpha = false ∧ sign.isDigit = false ∧ sign ≠ '[' ∧
      exists letters : Letters, exists number : Digits,
        ref.text = letters.chars ++ sign :: number.chars := by
  cases ref with
  | numbered letters number =>
      exact absurd trivial h
  | subnumbered letters number sub =>
      exact absurd trivial h
  | hashed letters number =>
      exact ⟨'#', by decide, by decide, by decide, letters, number, rfl⟩
  | hyphenated letters number =>
      exact ⟨'-', by decide, by decide, by decide, letters, number, rfl⟩

theorem Reference.text_ne_nil (ref : Reference) : ref.text ≠ [] := by
  cases ref with
  | numbered letters number =>
      exact List.append_ne_nil_of_left_ne_nil letters.ne_nil _
  | subnumbered letters number sub =>
      exact List.append_ne_nil_of_left_ne_nil letters.ne_nil _
  | hashed letters number =>
      exact List.append_ne_nil_of_left_ne_nil letters.ne_nil _
  | hyphenated letters number =>
      exact List.append_ne_nil_of_left_ne_nil letters.ne_nil _

theorem Reference.not_bracket {ref : Reference} : '[' ∉ ref.text := by
  by_cases h : ref.Direct
  · intro hmem
    have hchar := (Reference.text_of_direct h).2.1 '[' hmem
    revert hchar
    decide
  · rcases Reference.text_of_not_direct h with ⟨sign, _, _, hsign, letters, number, htext⟩
    rw [htext, List.mem_append, List.mem_cons]
    rintro (hmem | hmem | hmem)
    · have hletter := letters.letters '[' hmem
      revert hletter
      decide
    · exact hsign hmem.symm
    · have hdigit := number.digits '[' hmem
      revert hdigit
      decide

theorem Reference.not_holdsRef {ref : Reference} (h : ¬ ref.Direct) : ¬ HoldsRef ref.text := by
  rcases Reference.text_of_not_direct h with
    ⟨sign, hletter, hdigit, _, letters, number, htext⟩
  rintro ⟨front, others, d, back, hholds, _, hne, hothers, hd⟩
  rcases List.eq_nil_or_concat others with hnil | ⟨firsts, c, hconcat⟩
  · exact hne hnil
  · have hc : c.isAlpha = true := hothers c (by rw [hconcat]; simp)
    have hsplit : front ++ others ++ d :: back = letters.chars ++ sign :: number.chars := by
      rw [List.append_assoc, ← hholds, htext]
    rcases List.append_eq_append_iff.mp hsplit with
      ⟨middle, hmiddle, hrest⟩ | ⟨middle, hmiddle, hrest⟩
    · -- The digit would stand among the letters, or be the sign.
      cases middle with
      | nil =>
          rw [List.nil_append] at hrest
          rw [(List.cons.inj hrest).1, hdigit] at hd
          cases hd
      | cons e middle =>
          have hmem : d ∈ letters.chars := by
            rw [hmiddle, (List.cons.inj hrest).1]
            simp
          have hd' := letters.letters d hmem
          rw [not_isAlpha_of_isDigit hd] at hd'
          cases hd'
    · -- The letter before the digit would be the sign, or stand among the digits.
      cases middle with
      | nil =>
          rw [List.nil_append] at hrest
          rw [← (List.cons.inj hrest).1, hdigit] at hd
          cases hd
      | cons e middle =>
          rcases List.cons.inj hrest with ⟨he, hnumber⟩
          have hmem : c ∈ e :: middle := by
            have hlast := congrArg List.getLast? hmiddle
            rw [hconcat, List.concat_eq_append, ← List.append_assoc, List.getLast?_concat,
              List.getLast?_append_cons] at hlast
            exact List.mem_of_getLast? hlast.symm
          rcases List.mem_cons.mp hmem with hmem | hmem
          · rw [hmem, ← he, hletter] at hc
            cases hc
          · rw [not_isAlpha_of_isDigit (number.digits c (by rw [hnumber]; simp [hmem]))] at hc
            cases hc

theorem execAll_plainPattern_text {ref : Reference} (h : ref.Direct) (index : Nat) :
    execAll plainPattern index ref.text = [{ index := index, group := ref.text }] := by
  rcases Reference.text_of_direct h with ⟨hstarts, hchars, front, d, htext, hd⟩
  have hstart := hstarts []
  rw [List.append_nil] at hstart
  have hhyphen : d ≠ '-' := by
    intro hd'
    rw [hd'] at hd
    revert hd
    decide
  apply execAll_whole ref.text_ne_nil
  unfold plainPattern
  rw [hstart, List.takeWhile_eq_self_iff.mpr hchars, htext]
  simp [hhyphen]

theorem execAll_linkPattern_text {ref : Reference} (h : ref.Direct) (index : Nat) :
    execAll linkPattern index ('[' :: ref.text ++ [']']) =
      [{ index := index, group := ref.text }] := by
  rcases Reference.text_of_direct h with ⟨hstarts, hchars, _⟩
  have hclosing : isRefChar ']' = false := by decide
  apply execAll_whole (by simp)
  rw [List.cons_append, linkPattern_cons, hstarts, takeWhile_append_cons hclosing,
    dropWhile_append_cons hclosing, List.takeWhile_eq_self_iff.mpr hchars,
    List.dropWhile_eq_nil_iff.mpr hchars]
  simp

theorem execAll_plainPattern_not_direct {ref : Reference} (h : ¬ ref.Direct) (index : Nat) :
    execAll plainPattern index ref.text = [] :=
  execAll_plainPattern_eq_nil_iff.mpr (Reference.not_holdsRef h)

theorem execAll_linkPattern_unbracketed (ref : Reference) (index : Nat) :
    execAll linkPattern index ref.text = [] := by
  apply execAll_linkPattern_eq_nil_iff.mpr
  rintro ⟨front, inner, back, htext, _⟩
  apply ref.not_bracket
  rw [htext]
  simp

theorem execAll_linkPattern_not_direct {ref : Reference} (h : ¬ ref.Direct) (index : Nat) :
    execAll linkPattern index ('[' :: ref.text ++ [']']) = [] := by
  rcases Reference.text_of_not_direct h with
    ⟨sign, hletter, hdigit, _, letters, number, htext⟩
  have hnone : linkPattern none ('[' :: (ref.text ++ [']'])) = none := by
    have hstart : startsRef (ref.text ++ [']']) = false := by
      rw [htext, List.append_assoc, List.cons_append,
        startsRef_append letters.ne_nil letters.letters hletter, hdigit]
    rw [linkPattern_cons, hstart]
    simp
  unfold execAll
  rw [List.cons_append, execAllFrom_of_none hnone, execAllFrom_eq_nil_iff]
  intro front c back hback
  rw [linkPattern_cons]
  split
  · rename_i hfound
    rw [Bool.and_eq_true, Bool.and_eq_true, decide_eq_true_eq] at hfound
    have hmem : '[' ∈ ref.text ++ [']'] := by
      rw [hback, hfound.1.1]
      simp
    rcases List.mem_append.mp hmem with hmem | hmem
    · exact absurd hmem ref.not_bracket
    · cases List.mem_singleton.mp hmem
  · rfl

theorem execAll_plainPattern_bracketed (ref : Reference) (index : Nat) :
    execAll plainPattern index ('[' :: ref.text ++ [']']) =
      execAll plainPattern (index + 1) ref.text := by
  have hopening : plainPattern.Breaks '[' := IsBreak.plainPattern (by decide)
  have hclosing : plainPattern.Breaks ']' := IsBreak.plainPattern (by decide)
  have hcut : execAll plainPattern index (['['] ++ (ref.text ++ [']'])) =
      execAll plainPattern (index + 1) (ref.text ++ [']']) :=
    execAll_breaks plainPattern_bounded (by simpa using hopening) index _
  have hend : execAll plainPattern (index + 1) (ref.text ++ [']']) =
      execAll plainPattern (index + 1) ref.text :=
    execAll_append_breaks_end plainPattern_bounded (by simpa using hclosing) (index + 1) _
  rw [← hend]
  exact hcut

/-!
## What is found in an entry
-/

/-- The reference of a mention, with its brackets where it is a link. -/
def Mention.spelled : Mention -> List Char
  | .plain ref => ref.text
  | .annotated ref _ _ => ref.text
  | .link ref _ => '[' :: ref.text ++ [']']

theorem isBreak_of_isSpace {c : Char} (h : isSpace c = true) : IsBreak c := by
  have hspace : c.toNat ∈ [0x09, 0x0A, 0x0B, 0x0C, 0x0D, 0x20] ∨ 0xA0 ≤ c.toNat := by
    simp only [isSpace, List.mem_cons, List.not_mem_nil, or_false, Bool.or_eq_true,
      Bool.and_eq_true, decide_eq_true_eq] at h
    simp only [List.mem_cons, List.not_mem_nil, or_false]
    omega
  have hcode : c.toNat < 0x21 ∨ 0xA0 ≤ c.toNat := by
    simp only [List.mem_cons, List.not_mem_nil, or_false] at hspace
    omega
  constructor
  · cases hchar : isRefChar c with
    | false =>
        rfl
    | true =>
        have hbounds := toNat_of_isRefChar hchar
        omega
  · intro hc
    rw [hc] at hcode
    revert hcode
    decide
  · intro hc
    rw [hc] at hcode
    revert hcode
    decide

def foundInNote (pattern : Pattern Char (List Char)) (start : Nat) (mention : Mention) :
    List (PatternMatch (List Char)) :=
  match mention.note with
  | none => []
  | some (offset, note) => execAll pattern (start + offset) note

section Patterns

variable {pattern : Pattern Char (List Char)} (hbounded : pattern.Bounded)
  (hbreaks : forall c, IsBreak c -> pattern.Breaks c)

include hbounded hbreaks

theorem execAll_noted {breaks after : List Char} (hbefore : forall c, c ∈ breaks -> IsBreak c)
    (hne : breaks ≠ []) (hafter : forall c, c ∈ after -> IsBreak c) (start : Nat)
    (text note : List Char) :
    execAll pattern start (text ++ (breaks ++ (note ++ after))) =
      execAll pattern start text ++
        execAll pattern (start + text.length + breaks.length) note := by
  rw [execAll_append_breaks hbounded (fun c hc => hbreaks c (hbefore c hc)) hne,
    execAll_append_breaks_end hbounded (fun c hc => hbreaks c (hafter c hc))]

theorem execAll_entry (start : Nat) (entry : Entry) :
    execAll pattern start entry.text =
      execAll pattern (start + entry.before.chars.length) entry.mention.spelled ++
        foundInNote pattern (start + entry.before.chars.length) entry.mention := by
  have hblank : forall blanks : Blanks, forall c, c ∈ blanks.chars -> IsBreak c :=
    fun blanks c hc => isBreak_of_isSpace (blanks.blank c hc)
  have hopening : IsBreak '(' := ⟨by decide, by decide, by decide⟩
  have hafter : forall c, c ∈ ')' :: entry.after.chars -> IsBreak c := by
    intro c hc
    rcases List.mem_cons.mp hc with hc | hc
    · rw [hc]
      exact ⟨by decide, by decide, by decide⟩
    · exact hblank entry.after c hc
  rw [Entry.text, List.append_assoc,
    execAll_breaks hbounded (fun c hc => hbreaks c (hblank entry.before c hc))]
  generalize start + entry.before.chars.length = start
  cases entry.mention with
  | plain ref =>
      rw [foundInNote, Mention.note, List.append_nil]
      exact execAll_append_breaks_end hbounded
        (fun c hc => hbreaks c (hblank entry.after c hc)) start ref.text
  | annotated ref gap remark =>
      have hbefore : forall c, c ∈ gap.chars ++ ['('] -> IsBreak c := by
        intro c hc
        rcases List.mem_append.mp hc with hc | hc
        · exact hblank gap c hc
        · rw [List.mem_singleton.mp hc]
          exact hopening
      have htext : (Mention.annotated ref gap remark).text ++ entry.after.chars =
          ref.text ++ (gap.chars ++ ['('] ++ (remark ++ ')' :: entry.after.chars)) := by
        simp [Mention.text]
      have hoffset : start + ref.text.length + (gap.chars ++ ['(']).length =
          start + (ref.text.length + gap.chars.length + 1) := by
        rw [List.length_append, List.length_singleton]
        omega
      rw [htext, execAll_noted hbounded hbreaks hbefore (by simp) hafter, hoffset]
      rfl
  | link ref target =>
      have hbefore : forall c, c ∈ ['('] -> IsBreak c := by
        simpa using hopening
      have htext : (Mention.link ref target).text ++ entry.after.chars =
          '[' :: ref.text ++ [']'] ++ (['('] ++ (target ++ ')' :: entry.after.chars)) := by
        simp [Mention.text]
      have hoffset : start + ('[' :: ref.text ++ [']']).length + ['('].length =
          start + (ref.text.length + 3) := by
        simp
        omega
      rw [htext, execAll_noted hbounded hbreaks hbefore (by simp) hafter, hoffset]
      rfl

theorem execAll_cellText (index : Nat) (cell : List Entry) :
    execAll pattern index (cellText cell) =
      (placed index cell).flatMap (fun x => execAll pattern x.1 x.2.text) := by
  induction cell generalizing index with
  | nil =>
      rfl
  | cons entry rest ih =>
      cases rest with
      | nil =>
          simp [cellText, placed]
      | cons next rest =>
          have hcomma : IsBreak ',' := ⟨by decide, by decide, by decide⟩
          have htext : cellText (entry :: next :: rest) =
              entry.text ++ ',' :: cellText (next :: rest) := by
            simp [cellText, List.intercalate_cons_cons]
          rw [htext, execAll_break hbounded (hbreaks ',' hcomma), ih]
          rfl

end Patterns

/-!
## Places
-/

variable {cell : List Entry} {entry : Entry}

theorem index_le_of_mem_placed {start : Nat} (h : (start, entry) ∈ placed index cell) :
    index ≤ start := by
  induction cell generalizing index with
  | nil =>
      cases h
  | cons first rest ih =>
      rw [placed, List.mem_cons] at h
      rcases h with h | h
      · exact Nat.le_of_eq (Prod.mk.inj h).1.symm
      · have hrest := ih h
        omega

theorem placed_disjoint {start start' : Nat} {entry' : Entry}
    (h : (start, entry) ∈ placed index cell) (h' : (start', entry') ∈ placed index cell) :
    (start, entry) = (start', entry') ∨ start + entry.text.length < start' ∨
      start' + entry'.text.length < start := by
  induction cell generalizing index with
  | nil =>
      cases h
  | cons first rest ih =>
      rw [placed, List.mem_cons] at h h'
      rcases h with h | h
      · rcases h' with h' | h'
        · exact Or.inl (h.trans h'.symm)
        · have hstart := index_le_of_mem_placed h'
          rcases Prod.mk.inj h with ⟨hindex, hentry⟩
          rw [hindex, hentry]
          omega
      · rcases h' with h' | h'
        · have hstart := index_le_of_mem_placed h
          rcases Prod.mk.inj h' with ⟨hindex, hentry⟩
          rw [hindex, hentry]
          omega
        · exact ih h h'

theorem mem_of_mem_placed {start : Nat} (h : (start, entry) ∈ placed index cell) :
    entry ∈ cell := by
  induction cell generalizing index with
  | nil =>
      cases h
  | cons first rest ih =>
      rw [placed, List.mem_cons] at h
      rcases h with h | h
      · rw [(Prod.mk.inj h).2]
        exact List.mem_cons_self
      · exact List.mem_cons_of_mem first (ih h)

theorem exists_placed (h : entry ∈ cell) (index : Nat) :
    exists start, (start, entry) ∈ placed index cell := by
  induction cell generalizing index with
  | nil =>
      cases h
  | cons first rest ih =>
      rcases List.mem_cons.mp h with h | h
      · rw [h]
        exact ⟨index, List.mem_cons_self⟩
      · rcases ih h (index + first.text.length + 1) with ⟨start, hstart⟩
        exact ⟨start, List.mem_cons_of_mem _ hstart⟩

theorem length_placed (index : Nat) (cell : List Entry) :
    (placed index cell).length = cell.length := by
  induction cell generalizing index with
  | nil =>
      rfl
  | cons first rest ih =>
      rw [placed, List.length_cons, ih, List.length_cons]

theorem map_placed (f : Entry -> β) (index : Nat) (cell : List Entry) :
    (placed index cell).map (fun x => f x.2) = cell.map f := by
  induction cell generalizing index with
  | nil =>
      rfl
  | cons first rest ih =>
      rw [placed, List.map_cons, ih, List.map_cons]

variable {mention : Mention}

theorem Mention.note_inside {offset : Nat} {note : List Char}
    (h : mention.note = some (offset, note)) :
    0 < offset ∧ offset + note.length ≤ mention.text.length := by
  cases mention with
  | plain ref =>
      cases h
  | annotated ref gap remark =>
      rw [Mention.note, Option.some.injEq, Prod.mk.injEq] at h
      rw [← h.1, ← h.2]
      simp [Mention.text]
      omega
  | link ref target =>
      rw [Mention.note, Option.some.injEq, Prod.mk.injEq] at h
      rw [← h.1, ← h.2]
      simp [Mention.text]
      omega

def ownMatch (x : Nat × Entry) : PatternMatch (List Char) :=
  { index := x.1 + x.2.before.chars.length, group := x.2.mention.ref.text }

theorem not_inNote_ownMatch {x : Nat × Entry} (hx : x ∈ placed 0 cell) :
    ¬ InNote cell (ownMatch x).index := by
  rcases x with ⟨own, first⟩
  rintro ⟨start, entry, offset, note, hplaced, hnote, hfrom, huntil⟩
  have hindex : (ownMatch (own, first)).index = own + first.before.chars.length := rfl
  have hinside := Mention.note_inside hnote
  have hlength : entry.text.length =
      entry.before.chars.length + entry.mention.text.length + entry.after.chars.length := by
    simp [Entry.text, Nat.add_assoc]
  have hown : first.before.chars.length ≤ first.text.length := by
    simp [Entry.text]
  rw [hindex] at hfrom huntil
  rcases placed_disjoint hx hplaced with heq | hless | hless
  · rcases Prod.mk.inj heq with ⟨hstart, hentry⟩
    rw [hstart, hentry] at hfrom
    omega
  · omega
  · omega

/-- Where each entry gives its own match, the cell is read. -/
theorem readsCell_of_ownMatch
    (h : dependencyMatches (cellText cell) = (placed 0 cell).map ownMatch) : ReadsCell cell := by
  constructor
  · unfold extractDependencyRefs
    rw [String.toList_ofList, h, List.map_map]
    exact map_placed (fun entry => String.ofList entry.mention.ref.text) 0 cell
  · intro m hm
    rw [h] at hm
    rcases List.mem_map.mp hm with ⟨x, hx, hown⟩
    rw [← hown]
    exact not_inNote_ownMatch hx

theorem execAll_of_notes_free {pattern : Pattern Char (List Char)} (hbounded : pattern.Bounded)
    (hbreaks : forall c, IsBreak c -> pattern.Breaks c)
    (hnotes : forall x, x ∈ placed 0 cell ->
      foundInNote pattern (x.1 + x.2.before.chars.length) x.2.mention = []) :
    execAll pattern 0 (cellText cell) = (placed 0 cell).flatMap (fun x =>
      execAll pattern (x.1 + x.2.before.chars.length) x.2.mention.spelled) := by
  rw [execAll_cellText hbounded hbreaks]
  apply List.flatMap_congr
  intro x hx
  rw [execAll_entry hbounded hbreaks, hnotes x hx, List.append_nil]

theorem notes_free_of_outside {pattern : Pattern Char (List Char)} (hbounded : pattern.Bounded)
    (hbreaks : forall c, IsBreak c -> pattern.Breaks c)
    (houtside : forall m, m ∈ execAll pattern 0 (cellText cell) -> ¬ InNote cell m.index) :
    forall x, x ∈ placed 0 cell ->
      foundInNote pattern (x.1 + x.2.before.chars.length) x.2.mention = [] := by
  rintro ⟨start, entry⟩ hx
  rw [List.eq_nil_iff_forall_not_mem]
  intro m hm
  have hmem : m ∈ execAll pattern 0 (cellText cell) := by
    rw [execAll_cellText hbounded hbreaks, List.mem_flatMap]
    refine ⟨(start, entry), hx, ?_⟩
    rw [execAll_entry hbounded hbreaks]
    exact List.mem_append_right _ hm
  apply houtside m hmem
  unfold foundInNote at hm
  cases hnote : entry.mention.note with
  | none =>
      rw [hnote] at hm
      cases hm
  | some found =>
      rw [hnote] at hm
      have hindex := index_of_mem_execAll hm
      exact ⟨start, entry, found.1, found.2, hx, hnote, hindex⟩

/-!
## The two searches
-/

theorem two_le_of_mem_plain {text : List Char} {m : PatternMatch (List Char)}
    (h : m ∈ execAll plainPattern index text) : 2 ≤ m.group.length := by
  have hgroup : forall before text group taken,
      plainPattern before text = some (group, taken) -> 2 ≤ group.length := by
    intro before text group taken hfound
    unfold plainPattern at hfound
    split at hfound
    · rename_i hstarts
      rw [Bool.and_eq_true] at hstarts
      rcases startsRef_iff.mp hstarts.2 with ⟨letters, d, rest, hne, hletters, hd, htext⟩
      have hhyphen : decide (d = '-') = false := by
        rw [decide_eq_false_iff_not]
        intro hd'
        rw [hd'] at hd
        revert hd
        decide
      have hrun : text.takeWhile isRefChar = letters ++ d :: rest.takeWhile isRefChar := by
        rw [htext, List.takeWhile_append_of_pos
          (fun c hc => isRefChar_of_isAlpha (hletters c hc)),
          List.takeWhile_cons_of_pos (isRefChar_of_isDigit hd)]
      have hdrop := dropWhile_append_cons (p := fun c => decide (c = '-')) hhyphen
        (rest.takeWhile isRefChar).reverse letters.reverse
      have hlength := List.length_pos_iff.mpr hne
      cases hfound
      rw [hrun, List.reverse_append, List.reverse_cons, List.append_assoc,
        List.singleton_append, hdrop]
      simp
      omega
    · cases hfound
  exact group_of_mem_execAllFrom hgroup h

theorem dependencyMatches_eq (raw : List Char) :
    dependencyMatches raw =
      if (execAll linkPattern 0 raw).isEmpty then execAll plainPattern 0 raw
      else execAll linkPattern 0 raw := by
  have hall : (execAll plainPattern 0 raw).filter (fun m => 2 ≤ m.group.length) =
      execAll plainPattern 0 raw := by
    rw [List.filter_eq_self]
    intro m hm
    simpa using two_le_of_mem_plain hm
  unfold dependencyMatches
  rw [hall]

theorem length_flatMap_le {α : Type} {f : α -> List β} {l : List α}
    (hone : forall x, x ∈ l -> (f x).length ≤ 1) : (l.flatMap f).length ≤ l.length := by
  induction l with
  | nil =>
      rfl
  | cons first rest ih =>
      have hfirst := hone first List.mem_cons_self
      have hrest := ih (fun x hx => hone x (List.mem_cons_of_mem first hx))
      rw [List.flatMap_cons, List.length_append, List.length_cons]
      omega

theorem ne_nil_of_length_flatMap {α : Type} {f : α -> List β} {l : List α}
    (hone : forall x, x ∈ l -> (f x).length ≤ 1) (hlength : l.length ≤ (l.flatMap f).length) :
    forall x, x ∈ l -> f x ≠ [] := by
  induction l with
  | nil =>
      intro x hx
      cases hx
  | cons first rest ih =>
      have hfirst := hone first List.mem_cons_self
      have hones : forall x, x ∈ rest -> (f x).length ≤ 1 :=
        fun x hx => hone x (List.mem_cons_of_mem first hx)
      have hrest := length_flatMap_le hones
      rw [List.flatMap_cons, List.length_append, List.length_cons] at hlength
      intro x hx
      rcases List.mem_cons.mp hx with hx | hx
      · rw [hx, ← List.length_pos_iff]
        omega
      · exact ih hones (by omega) x hx

theorem foundInNote_linkPattern_eq_nil_iff {start : Nat} :
    foundInNote linkPattern start mention = [] <->
      forall offset note, mention.note = some (offset, note) -> ¬ HoldsLink note := by
  unfold foundInNote
  cases mention.note with
  | none =>
      simp
  | some found =>
      rw [execAll_linkPattern_eq_nil_iff]
      constructor
      · intro h offset note hnote
        rw [Option.some.injEq] at hnote
        rw [hnote] at h
        exact h
      · intro h
        exact h found.1 found.2 rfl

theorem foundInNote_plainPattern_eq_nil_iff {start : Nat} :
    foundInNote plainPattern start mention = [] <->
      forall offset note, mention.note = some (offset, note) -> ¬ HoldsRef note := by
  unfold foundInNote
  cases mention.note with
  | none =>
      simp
  | some found =>
      rw [execAll_plainPattern_eq_nil_iff]
      constructor
      · intro h offset note hnote
        rw [Option.some.injEq] at hnote
        rw [hnote] at h
        exact h
      · intro h
        exact h found.1 found.2 rfl

theorem length_spelled_linkPattern (index : Nat) (mention : Mention) :
    (execAll linkPattern index mention.spelled).length ≤ 1 := by
  cases mention with
  | plain ref =>
      rw [Mention.spelled, execAll_linkPattern_unbracketed]
      exact Nat.zero_le 1
  | annotated ref gap remark =>
      rw [Mention.spelled, execAll_linkPattern_unbracketed]
      exact Nat.zero_le 1
  | link ref target =>
      rw [Mention.spelled]
      by_cases hdirect : ref.Direct
      · rw [execAll_linkPattern_text hdirect]
        exact Nat.le_refl 1
      · rw [execAll_linkPattern_not_direct hdirect]
        exact Nat.zero_le 1

theorem length_plainPattern_text (index : Nat) (ref : Reference) :
    (execAll plainPattern index ref.text).length ≤ 1 := by
  by_cases hdirect : ref.Direct
  · rw [execAll_plainPattern_text hdirect]
    exact Nat.le_refl 1
  · rw [execAll_plainPattern_not_direct hdirect]
    exact Nat.zero_le 1

theorem length_spelled_plainPattern (index : Nat) (mention : Mention) :
    (execAll plainPattern index mention.spelled).length ≤ 1 := by
  cases mention with
  | plain ref =>
      exact length_plainPattern_text index ref
  | annotated ref gap remark =>
      exact length_plainPattern_text index ref
  | link ref target =>
      rw [Mention.spelled, execAll_plainPattern_bracketed]
      exact length_plainPattern_text (index + 1) ref

/-- If a search takes nothing from a note and finds as many references as there are entries,
it finds the reference of each entry. -/
theorem spelled_of_outside {pattern : Pattern Char (List Char)} (hbounded : pattern.Bounded)
    (hbreaks : forall c, IsBreak c -> pattern.Breaks c)
    (hone : forall index mention, (execAll pattern index (Mention.spelled mention)).length ≤ 1)
    (houtside : forall m, m ∈ execAll pattern 0 (cellText cell) -> ¬ InNote cell m.index)
    (hlength : (execAll pattern 0 (cellText cell)).length = cell.length) (hentry : entry ∈ cell) :
    exists start, foundInNote pattern start entry.mention = [] ∧
      execAll pattern start entry.mention.spelled ≠ [] := by
  have hnotes := notes_free_of_outside hbounded hbreaks houtside
  rw [execAll_of_notes_free hbounded hbreaks hnotes, ← length_placed 0 cell] at hlength
  have hspelled := ne_nil_of_length_flatMap (fun x _ => hone _ x.2.mention)
    (Nat.le_of_eq hlength.symm)
  rcases exists_placed hentry 0 with ⟨start, hplaced⟩
  exact ⟨start + entry.before.chars.length, hnotes _ hplaced, hspelled _ hplaced⟩

theorem linkPattern_breaks : forall c, IsBreak c -> linkPattern.Breaks c :=
  fun _ hc => hc.linkPattern

theorem plainPattern_breaks : forall c, IsBreak c -> plainPattern.Breaks c :=
  fun _ hc => IsBreak.plainPattern hc.notRef

theorem ReadsCell.length_dependencyMatches (h : ReadsCell cell) :
    (dependencyMatches (cellText cell)).length = cell.length := by
  have hlength := congrArg List.length h.refs
  unfold extractDependencyRefs at hlength
  rw [String.toList_ofList, List.length_map, List.length_map] at hlength
  exact hlength

theorem ReadsCell.allLinks (h : ReadsCell cell)
    (hlinks : (execAll linkPattern 0 (cellText cell)).isEmpty = false) : AllLinks cell := by
  have hlength := h.length_dependencyMatches
  have houtside := h.outside
  rw [dependencyMatches_eq, hlinks, if_neg (by decide)] at hlength houtside
  intro entry hentry
  rcases spelled_of_outside linkPattern_bounded linkPattern_breaks length_spelled_linkPattern
    houtside hlength hentry with ⟨start, hnote, hspelled⟩
  rw [foundInNote_linkPattern_eq_nil_iff] at hnote
  cases hmention : entry.mention with
  | plain ref =>
      rw [hmention] at hspelled
      exact absurd (execAll_linkPattern_unbracketed ref start) hspelled
  | annotated ref gap remark =>
      rw [hmention] at hspelled
      exact absurd (execAll_linkPattern_unbracketed ref start) hspelled
  | link ref target =>
      rw [hmention] at hspelled hnote
      by_cases hdirect : ref.Direct
      · exact ⟨ref, target, rfl, hdirect, hnote _ target rfl⟩
      · exact absurd (execAll_linkPattern_not_direct hdirect start) hspelled

theorem ReadsCell.allPlain (h : ReadsCell cell)
    (hlinks : (execAll linkPattern 0 (cellText cell)).isEmpty = true) : AllPlain cell := by
  have hlength := h.length_dependencyMatches
  have houtside := h.outside
  rw [dependencyMatches_eq, hlinks, if_pos rfl] at hlength houtside
  intro entry hentry
  rcases spelled_of_outside plainPattern_bounded plainPattern_breaks
    length_spelled_plainPattern houtside hlength hentry with ⟨start, hnote, hspelled⟩
  rw [foundInNote_plainPattern_eq_nil_iff] at hnote
  cases hmention : entry.mention with
  | plain ref =>
      rw [hmention] at hspelled
      by_cases hdirect : ref.Direct
      · exact Or.inl ⟨ref, rfl, hdirect⟩
      · exact absurd (execAll_plainPattern_not_direct hdirect start) hspelled
  | annotated ref gap remark =>
      rw [hmention] at hspelled hnote
      by_cases hdirect : ref.Direct
      · exact Or.inr ⟨ref, gap, remark, rfl, hdirect, hnote _ remark rfl⟩
      · exact absurd (execAll_plainPattern_not_direct hdirect start) hspelled
  | link ref target =>
      rw [hmention, Mention.spelled, execAll_plainPattern_bracketed] at hspelled
      by_cases hdirect : ref.Direct
      · -- The link itself would have been found.
        rcases exists_placed hentry 0 with ⟨place, hplaced⟩
        rw [List.isEmpty_iff, execAll_cellText linkPattern_bounded linkPattern_breaks,
          List.flatMap_eq_nil_iff] at hlinks
        have hfound := hlinks _ hplaced
        rw [execAll_entry linkPattern_bounded linkPattern_breaks, hmention, Mention.spelled,
          execAll_linkPattern_text hdirect] at hfound
        cases hfound
      · exact absurd (execAll_plainPattern_not_direct hdirect (start + 1)) hspelled

theorem AllLinks.execAll (h : AllLinks cell) :
    Foundations.execAll linkPattern 0 (cellText cell) = (placed 0 cell).map ownMatch := by
  rw [execAll_of_notes_free linkPattern_bounded linkPattern_breaks]
  · rw [List.map_eq_flatMap]
    apply List.flatMap_congr
    intro x hx
    rcases h x.2 (mem_of_mem_placed hx) with ⟨ref, target, hmention, hdirect, _⟩
    rw [ownMatch, hmention, Mention.spelled, execAll_linkPattern_text hdirect]
    rfl
  · intro x hx
    rcases h x.2 (mem_of_mem_placed hx) with ⟨ref, target, hmention, _, hfree⟩
    rw [hmention, foundInNote_linkPattern_eq_nil_iff]
    intro offset note hnote
    cases hnote
    exact hfree

theorem AllPlain.execAll_linkPattern (h : AllPlain cell) :
    Foundations.execAll linkPattern 0 (cellText cell) = [] := by
  rw [execAll_cellText linkPattern_bounded linkPattern_breaks, List.flatMap_eq_nil_iff]
  intro x hx
  rw [execAll_entry linkPattern_bounded linkPattern_breaks, List.append_eq_nil_iff,
    foundInNote_linkPattern_eq_nil_iff]
  rcases h x.2 (mem_of_mem_placed hx) with ⟨ref, hmention, _⟩ |
    ⟨ref, gap, remark, hmention, _, hfree⟩
  · rw [hmention]
    refine ⟨execAll_linkPattern_unbracketed ref _, ?_⟩
    intro offset note hnote
    cases hnote
  · rw [hmention]
    refine ⟨execAll_linkPattern_unbracketed ref _, ?_⟩
    intro offset note hnote
    cases hnote
    exact fun hholds => hfree hholds.holdsRef

theorem AllPlain.execAll_plainPattern (h : AllPlain cell) :
    Foundations.execAll plainPattern 0 (cellText cell) = (placed 0 cell).map ownMatch := by
  rw [execAll_of_notes_free plainPattern_bounded plainPattern_breaks]
  · rw [List.map_eq_flatMap]
    apply List.flatMap_congr
    intro x hx
    rcases h x.2 (mem_of_mem_placed hx) with ⟨ref, hmention, hdirect⟩ |
      ⟨ref, gap, remark, hmention, hdirect, _⟩
    · rw [ownMatch, hmention, Mention.spelled, execAll_plainPattern_text hdirect]
      rfl
    · rw [ownMatch, hmention, Mention.spelled, execAll_plainPattern_text hdirect]
      rfl
  · intro x hx
    rw [foundInNote_plainPattern_eq_nil_iff]
    intro offset note hnote
    rcases h x.2 (mem_of_mem_placed hx) with ⟨ref, hmention, _⟩ |
      ⟨ref, gap, remark, hmention, _, hfree⟩
    · rw [hmention] at hnote
      cases hnote
    · rw [hmention] at hnote
      cases hnote
      exact hfree

/-- The references of a cell are read, and nothing else, exactly if all are links or none
is, each is direct, and no note holds what the search would find. -/
theorem readsCell_iff (cell : List Entry) :
    ReadsCell cell <-> AllLinks cell ∨ AllPlain cell := by
  constructor
  · intro h
    cases hlinks : (execAll linkPattern 0 (cellText cell)).isEmpty with
    | false =>
        exact Or.inl (h.allLinks hlinks)
    | true =>
        exact Or.inr (h.allPlain hlinks)
  · rintro (h | h)
    · apply readsCell_of_ownMatch
      rw [dependencyMatches_eq, h.execAll]
      cases cell with
      | nil =>
          rfl
      | cons entry rest =>
          rfl
    · apply readsCell_of_ownMatch
      rw [dependencyMatches_eq, h.execAll_linkPattern, h.execAll_plainPattern]
      rfl

/-- Nothing is read from the cell "JIRA-42", and from "[T1](a), T2" only the link. -/
theorem not_readsCell_jira :
    let none : Blanks := { chars := [], blank := by simp }
    let one : Digits := { chars := ['1'], ne_nil := by decide, digits := by simp }
    let two : Digits := { chars := ['2'], ne_nil := by decide, digits := by simp }
    let number : Digits := { chars := ['4', '2'], ne_nil := by decide, digits := by simp }
    let t : Letters := { chars := ['T'], ne_nil := by decide, letters := by simp }
    let jira : Letters :=
      { chars := ['J', 'I', 'R', 'A'], ne_nil := by decide, letters := by simp }
    ¬ ReadsCell
        [{ before := none, mention := .plain (.hyphenated jira number), after := none }] ∧
      ¬ ReadsCell
        [{ before := none, mention := .link (.numbered t one) ['a'], after := none },
          { before := none, mention := .plain (.numbered t two), after := none }] := by
  constructor
  · intro h
    have hrefs := congrArg List.length h.refs
    revert hrefs
    decide +kernel
  · intro h
    have hrefs := congrArg List.length h.refs
    revert hrefs
    decide +kernel

end Importing
end CopilotFactory
