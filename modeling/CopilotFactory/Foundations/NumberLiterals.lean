import Mathlib.Data.List.Basic

/-!
# Number literals

A literal is written with an optional sign, at least one digit, an optional fraction and
an optional exponent.  No zero leads other digits.  A literal is read back from the text
that it is written as.
-/

namespace CopilotFactory
namespace Foundations

/-!
## Digits
-/

def digitChar (d : Fin 10) : Char :=
  Char.ofNat ('0'.toNat + d.val)

def digit? (c : Char) : Option (Fin 10) :=
  if h : '0'.toNat ≤ c.toNat ∧ c.toNat - '0'.toNat < 10 then
    some ⟨c.toNat - '0'.toNat, h.2⟩
  else
    none

@[simp] theorem digit?_digitChar (d : Fin 10) : digit? (digitChar d) = some d := by
  revert d
  decide

structure Digits where
  first : Fin 10
  others : List (Fin 10)
deriving DecidableEq

def Digits.chars (digits : Digits) : List Char :=
  digitChar digits.first :: digits.others.map digitChar

def takeDigits : List Char -> List (Fin 10) × List Char
  | [] => ([], [])
  | c :: rest =>
      match digit? c with
      | some d => (d :: (takeDigits rest).1, (takeDigits rest).2)
      | none => ([], c :: rest)

def takeDigits? (text : List Char) : Option (Digits × List Char) :=
  match takeDigits text with
  | ([], _) => none
  | (d :: others, rest) => some ({ first := d, others := others }, rest)

def EndsDigits (text : List Char) : Prop :=
  forall c, c ∈ text.head? -> digit? c = none

theorem takeDigits_append {rest : List Char} (h : EndsDigits rest) (digits : List (Fin 10)) :
    takeDigits (digits.map digitChar ++ rest) = (digits, rest) := by
  induction digits with
  | nil =>
      cases rest with
      | nil =>
          rfl
      | cons c cs =>
          have hc : digit? c = none := h c rfl
          simp [takeDigits, hc]
  | cons d others ih =>
      simp [takeDigits, ih]

theorem takeDigits?_append {rest : List Char} (h : EndsDigits rest) (digits : Digits) :
    takeDigits? (digits.chars ++ rest) = some (digits, rest) := by
  have htake := takeDigits_append h (digits.first :: digits.others)
  unfold takeDigits?
  rw [Digits.chars, ← List.map_cons, htake]

/-!
## Literals
-/

structure NumberLiteral where
  negative : Bool
  whole : Digits
  fraction : Option Digits
  /-- Whether the exponent is negative, and its digits. -/
  exponent : Option (Bool × Digits)
  canonical : whole.first = 0 -> whole.others = []
deriving DecidableEq

def NumberLiteral.ofDigit (d : Fin 10) : NumberLiteral where
  negative := false
  whole := { first := d, others := [] }
  fraction := none
  exponent := none
  canonical := fun _ => rfl

def signText (negative : Bool) : List Char :=
  if negative then ['-'] else []

def fractionText : Option Digits -> List Char
  | none => []
  | some digits => '.' :: digits.chars

def exponentText : Option (Bool × Digits) -> List Char
  | none => []
  | some (negative, digits) => 'e' :: (if negative then '-' else '+') :: digits.chars

def NumberLiteral.chars (literal : NumberLiteral) : List Char :=
  signText literal.negative ++
    (literal.whole.chars ++ (fractionText literal.fraction ++ exponentText literal.exponent))

def readSign : List Char -> Bool × List Char
  | '-' :: rest => (true, rest)
  | text => (false, text)

def readFraction : List Char -> Option (Option Digits × List Char)
  | '.' :: rest => (takeDigits? rest).map fun found => (some found.1, found.2)
  | text => some (none, text)

def readExponentSign : List Char -> Bool × List Char
  | '-' :: rest => (true, rest)
  | '+' :: rest => (false, rest)
  | text => (false, text)

def readExponent : List Char -> Option (Option (Bool × Digits))
  | [] => some none
  | c :: rest =>
      if c = 'e' ∨ c = 'E' then
        match takeDigits? (readExponentSign rest).2 with
        | some (digits, []) => some (some ((readExponentSign rest).1, digits))
        | _ => none
      else
        none

def readLiteral (text : List Char) : Option NumberLiteral := do
  let found ← takeDigits? (readSign text).2
  let fraction ← readFraction found.2
  let exponent ← readExponent fraction.2
  if h : found.1.first = 0 -> found.1.others = [] then
    some
      { negative := (readSign text).1
        whole := found.1
        fraction := fraction.1
        exponent := exponent
        canonical := h }
  else
    none

/-!
## Reading what was written
-/

theorem Digits.exists_cons (digits : Digits) :
    exists c rest, digits.chars = c :: rest ∧ (digit? c).isSome = true :=
  ⟨_, _, rfl, by simp⟩

theorem readSign_append {text : List Char} (negative : Bool)
    (h : forall c, c ∈ text.head? -> c ≠ '-') :
    readSign (signText negative ++ text) = (negative, text) := by
  cases negative with
  | true =>
      rfl
  | false =>
      cases text with
      | nil =>
          rfl
      | cons c rest =>
          have hc : c ≠ '-' := h c rfl
          show readSign (c :: rest) = (false, c :: rest)
          unfold readSign
          split
          · rename_i heq
            exact absurd (List.cons.inj heq).1 hc
          · rfl

theorem endsDigits_exponentText (exponent : Option (Bool × Digits)) :
    EndsDigits (exponentText exponent) := by
  intro c hc
  cases exponent with
  | none =>
      cases hc
  | some e =>
      cases hc
      decide

theorem endsDigits_fractionText (fraction : Option Digits)
    (exponent : Option (Bool × Digits)) :
    EndsDigits (fractionText fraction ++ exponentText exponent) := by
  cases fraction with
  | none =>
      exact endsDigits_exponentText exponent
  | some digits =>
      intro c hc
      cases hc
      decide

theorem readFraction_append (fraction : Option Digits) (exponent : Option (Bool × Digits)) :
    readFraction (fractionText fraction ++ exponentText exponent) =
      some (fraction, exponentText exponent) := by
  cases fraction with
  | none =>
      cases exponent with
      | none =>
          rfl
      | some e =>
          rfl
  | some digits =>
      show (takeDigits? (digits.chars ++ exponentText exponent)).map _ = _
      rw [takeDigits?_append (endsDigits_exponentText exponent)]
      rfl

theorem readExponent_exponentText (exponent : Option (Bool × Digits)) :
    readExponent (exponentText exponent) = some exponent := by
  cases exponent with
  | none =>
      rfl
  | some e =>
      rcases e with ⟨negative, digits⟩
      have hdigits : takeDigits? digits.chars = some (digits, []) := by
        have h := @takeDigits?_append [] (fun c hc => nomatch hc) digits
        rwa [List.append_nil] at h
      cases negative with
      | true =>
          simp [exponentText, readExponent, readExponentSign, hdigits]
      | false =>
          simp [exponentText, readExponent, readExponentSign, hdigits]

theorem readLiteral_chars (literal : NumberLiteral) :
    readLiteral literal.chars = some literal := by
  have hsign : readSign literal.chars =
      (literal.negative,
        literal.whole.chars ++
          (fractionText literal.fraction ++ exponentText literal.exponent)) := by
    apply readSign_append
    intro c hc
    rcases literal.whole.exists_cons with ⟨first, rest, hchars, hfirst⟩
    rw [hchars] at hc
    cases hc
    intro hminus
    rw [hminus] at hfirst
    revert hfirst
    decide
  have hwhole :=
    takeDigits?_append (endsDigits_fractionText literal.fraction literal.exponent)
      literal.whole
  simp only [readLiteral, hsign, hwhole, readFraction_append, readExponent_exponentText,
    Option.bind_eq_bind, Option.bind_some]
  rw [dif_pos literal.canonical]

/-!
## The characters of a literal
-/

def isLiteralChar (c : Char) : Bool :=
  (digit? c).isSome || c ∈ ['-', '+', '.', 'e']

theorem isLiteralChar_digitChar (d : Fin 10) : isLiteralChar (digitChar d) = true := by
  simp [isLiteralChar]

theorem Digits.isLiteralChar_of_mem {digits : Digits} {c : Char} (h : c ∈ digits.chars) :
    isLiteralChar c = true := by
  rcases List.mem_cons.mp h with h | h
  · rw [h]
    exact isLiteralChar_digitChar digits.first
  · rcases List.mem_map.mp h with ⟨d, _, hd⟩
    rw [← hd]
    exact isLiteralChar_digitChar d

theorem NumberLiteral.isLiteralChar_of_mem {literal : NumberLiteral} {c : Char}
    (h : c ∈ literal.chars) : isLiteralChar c = true := by
  rcases literal with ⟨negative, whole, fraction, exponent, _⟩
  simp only [NumberLiteral.chars, List.mem_append] at h
  rcases h with hsign | hwhole | hfraction | hexponent
  · cases negative with
    | true =>
        rw [List.mem_singleton.mp hsign]
        decide
    | false =>
        cases hsign
  · exact Digits.isLiteralChar_of_mem hwhole
  · cases fraction with
    | none =>
        cases hfraction
    | some digits =>
        rcases List.mem_cons.mp hfraction with hdot | hdigits
        · rw [hdot]
          decide
        · exact Digits.isLiteralChar_of_mem hdigits
  · cases exponent with
    | none =>
        cases hexponent
    | some e =>
        rcases e with ⟨minus, digits⟩
        rcases List.mem_cons.mp hexponent with he | hrest
        · rw [he]
          decide
        · rcases List.mem_cons.mp hrest with hsign | hdigits
          · rw [hsign]
            cases minus <;> decide
          · exact Digits.isLiteralChar_of_mem hdigits

def EndsInDigit (text : List Char) : Prop :=
  exists front d, text = front ++ [digitChar d]

theorem EndsInDigit.append_left {text : List Char} (h : EndsInDigit text)
    (front : List Char) : EndsInDigit (front ++ text) := by
  rcases h with ⟨middle, d, htext⟩
  exact ⟨front ++ middle, d, by rw [htext, List.append_assoc]⟩

theorem Digits.endsInDigit (digits : Digits) : EndsInDigit digits.chars := by
  rcases digits with ⟨first, others⟩
  rcases List.eq_nil_or_concat others with hnil | ⟨front, last, hlast⟩
  · exact ⟨[], first, by rw [Digits.chars, hnil]; rfl⟩
  · exact ⟨digitChar first :: front.map digitChar, last, by simp [Digits.chars, hlast]⟩

theorem EndsInDigit.append_fraction {text : List Char} (h : EndsInDigit text)
    (fraction : Option Digits) : EndsInDigit (text ++ fractionText fraction) := by
  cases fraction with
  | none =>
      simpa [fractionText] using h
  | some digits =>
      exact (digits.endsInDigit.append_left ['.']).append_left text

theorem EndsInDigit.append_exponent {text : List Char} (h : EndsInDigit text)
    (exponent : Option (Bool × Digits)) : EndsInDigit (text ++ exponentText exponent) := by
  cases exponent with
  | none =>
      simpa [exponentText] using h
  | some e =>
      exact (e.2.endsInDigit.append_left ['e', if e.1 then '-' else '+']).append_left text

theorem NumberLiteral.endsInDigit (literal : NumberLiteral) :
    EndsInDigit literal.chars := by
  have h := ((literal.whole.endsInDigit.append_fraction literal.fraction).append_exponent
    literal.exponent).append_left (signText literal.negative)
  rwa [List.append_assoc] at h

end Foundations
end CopilotFactory
