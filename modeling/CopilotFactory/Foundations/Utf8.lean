import Mathlib.Data.List.Chain
import Mathlib.Data.List.Infix

/-!
# Decoding UTF-8

Bytes are decoded with a replacement character for every part of a sequence that is not
continued.  A text is decoded byte by byte exactly if no byte of it continues a sequence,
and only then it does not matter where it is cut.
-/

namespace CopilotFactory
namespace Foundations
namespace Utf8

variable {bytes : List UInt8}

def replacement : Char :=
  Char.ofNat 0xFFFD

/-- Between characters, or within a sequence: its value so far, how many bytes it still
needs, and the bounds of the next one. -/
inductive DecodeState where
  | idle
  | pending (value needed lower upper : Nat)
deriving DecidableEq

def firstByte (b : UInt8) : List Char × DecodeState :=
  let n := b.toNat
  if n < 0x80 then
    ([Char.ofNat n], .idle)
  else if 0xC2 ≤ n ∧ n ≤ 0xDF then
    ([], .pending (n - 0xC0) 1 0x80 0xBF)
  else if 0xE0 ≤ n ∧ n ≤ 0xEF then
    ([], .pending (n - 0xE0) 2 (if n = 0xE0 then 0xA0 else 0x80)
      (if n = 0xED then 0x9F else 0xBF))
  else if 0xF0 ≤ n ∧ n ≤ 0xF4 then
    ([], .pending (n - 0xF0) 3 (if n = 0xF0 then 0x90 else 0x80)
      (if n = 0xF4 then 0x8F else 0xBF))
  else
    ([replacement], .idle)

def continues : DecodeState -> UInt8 -> Bool
  | .idle, _ => false
  | .pending _ _ lower upper, b => lower ≤ b.toNat && b.toNat ≤ upper

/-- A byte that continues a sequence, which ends with it when no more are needed. -/
def nextByte (b : UInt8) : DecodeState -> List Char × DecodeState
  | .idle => ([], .idle)
  | .pending value needed _ _ =>
      if needed = 1 then
        ([Char.ofNat (value * 64 + (b.toNat - 0x80))], .idle)
      else
        ([], .pending (value * 64 + (b.toNat - 0x80)) (needed - 1) 0x80 0xBF)

/-- What is written for a sequence that is not continued. -/
def broken : DecodeState -> List Char
  | .idle => []
  | .pending _ _ _ _ => [replacement]

def decodeStep (state : DecodeState) (b : UInt8) : List Char × DecodeState :=
  if continues state b then
    nextByte b state
  else
    (broken state ++ (firstByte b).1, (firstByte b).2)

def decodeFrom : DecodeState -> List UInt8 -> List Char
  | state, [] => broken state
  | state, b :: rest => (decodeStep state b).1 ++ decodeFrom (decodeStep state b).2 rest

def decode (bytes : List UInt8) : List Char :=
  decodeFrom .idle bytes

/-- The second byte continues the sequence that the first one begins. -/
def joins (b c : UInt8) : Bool :=
  continues (firstByte b).2 c

def NoSequence (bytes : List UInt8) : Prop :=
  bytes.IsChain fun b c => joins b c = false

instance (bytes : List UInt8) : Decidable (NoSequence bytes) :=
  inferInstanceAs (Decidable (List.IsChain _ bytes))

/-- What a byte is decoded as by itself. -/
def byteChar (b : UInt8) : Char :=
  if b.toNat < 0x80 then Char.ofNat b.toNat else replacement

/-!
## Bytes that do not continue a sequence
-/

theorem decodeFrom_of_not_continues {state : DecodeState}
    (h : forall b, b ∈ bytes.head? -> continues state b = false) :
    decodeFrom state bytes = broken state ++ decode bytes := by
  cases bytes with
  | nil =>
      show broken state = broken state ++ []
      rw [List.append_nil]
  | cons b rest =>
      have hb : ¬ continues state b = true := by
        simp [h b rfl]
      have hidle : decode (b :: rest) = (firstByte b).1 ++ decodeFrom (firstByte b).2 rest :=
        rfl
      rw [decodeFrom, decodeStep, if_neg hb, hidle]
      exact List.append_assoc _ _ _

theorem broken_firstByte (b : UInt8) :
    (firstByte b).1 ++ broken (firstByte b).2 = [byteChar b] := by
  unfold firstByte byteChar
  by_cases hascii : b.toNat < 0x80
  · simp [hascii, broken]
  · simp only [hascii, if_false]
    split
    · rfl
    · split
      · rfl
      · split <;> rfl

@[simp] theorem decode_nil : decode [] = [] :=
  rfl

theorem decode_singleton (b : UInt8) : decode [b] = [byteChar b] :=
  broken_firstByte b

theorem decode_cons {b : UInt8} {rest : List UInt8}
    (h : forall c, c ∈ rest.head? -> joins b c = false) :
    decode (b :: rest) = byteChar b :: decode rest := by
  have hrest := decodeFrom_of_not_continues h
  show (firstByte b).1 ++ decodeFrom (firstByte b).2 rest = _
  rw [hrest, ← List.append_assoc, broken_firstByte]
  rfl

theorem decode_eq_map (h : NoSequence bytes) : decode bytes = bytes.map byteChar := by
  induction bytes with
  | nil =>
      rfl
  | cons b rest ih =>
      rcases List.isChain_cons.mp h with ⟨hhead, hrest⟩
      rw [decode_cons hhead, ih hrest]
      rfl

/-!
## Sequences make a text shorter
-/

def opened : DecodeState -> Nat
  | .idle => 0
  | .pending _ _ _ _ => 1

theorem length_broken (state : DecodeState) : (broken state).length = opened state := by
  cases state <;> rfl

theorem length_firstByte (b : UInt8) :
    (firstByte b).1.length + opened (firstByte b).2 = 1 := by
  rw [← length_broken, ← List.length_append, broken_firstByte]
  rfl

theorem length_nextByte (b : UInt8) (state : DecodeState) :
    (nextByte b state).1.length + opened (nextByte b state).2 = opened state := by
  cases state with
  | idle =>
      rfl
  | pending value needed lower upper =>
      by_cases hlast : needed = 1
      · simp [nextByte, hlast, opened]
      · simp [nextByte, hlast, opened]

theorem length_decodeStep (state : DecodeState) (b : UInt8) :
    (decodeStep state b).1.length + opened (decodeStep state b).2 =
      opened state + if continues state b then 0 else 1 := by
  unfold decodeStep
  split
  · exact length_nextByte b state
  · have hfirst := length_firstByte b
    simp only [List.length_append, length_broken]
    omega

theorem length_decodeFrom_le (state : DecodeState) (bytes : List UInt8) :
    (decodeFrom state bytes).length ≤ opened state + bytes.length := by
  induction bytes generalizing state with
  | nil =>
      exact (length_broken state).le
  | cons b rest ih =>
      have hstep := length_decodeStep state b
      have hrest := ih (decodeStep state b).2
      rw [decodeFrom, List.length_append, List.length_cons]
      split at hstep <;> omega

structure Bounded (state : DecodeState) : Prop where
  upper : forall b, continues state b = true -> b.toNat ≤ 0xBF

theorem bounded_firstByte (b : UInt8) : Bounded (firstByte b).2 := by
  constructor
  intro c hc
  unfold firstByte at hc
  simp only at hc
  split at hc
  · cases hc
  · split at hc
    · simp only [continues, Bool.and_eq_true, decide_eq_true_eq] at hc
      exact hc.2
    · split at hc
      · simp only [continues, Bool.and_eq_true, decide_eq_true_eq] at hc
        have hupper := hc.2
        split at hupper <;> omega
      · split at hc
        · simp only [continues, Bool.and_eq_true, decide_eq_true_eq] at hc
          have hupper := hc.2
          split at hupper <;> omega
        · cases hc

theorem bounded_nextByte (b : UInt8) (state : DecodeState) :
    Bounded (nextByte b state).2 := by
  constructor
  intro c hc
  cases state with
  | idle =>
      cases hc
  | pending value needed lower upper =>
      by_cases hlast : needed = 1
      · rw [nextByte, if_pos hlast] at hc
        cases hc
      · rw [nextByte, if_neg hlast] at hc
        simp only [continues, Bool.and_eq_true, decide_eq_true_eq] at hc
        exact hc.2

theorem bounded_decodeStep (state : DecodeState) (b : UInt8) :
    Bounded (decodeStep state b).2 := by
  unfold decodeStep
  split
  · exact bounded_nextByte b state
  · exact bounded_firstByte b

/-- What begins a sequence continues none. -/
theorem toNat_of_joins {b c : UInt8} (h : joins b c = true) : 0xC2 ≤ b.toNat := by
  by_contra hlow
  have hidle : (firstByte b).2 = .idle := by
    unfold firstByte
    simp only
    split
    · rfl
    · rw [if_neg (by omega), if_neg (by omega), if_neg (by omega)]
  rw [joins, hidle] at h
  cases h

theorem length_decodeFrom_lt {state : DecodeState} (hstate : Bounded state)
    {b c : UInt8} (h : joins b c = true) (front back : List UInt8) :
    (decodeFrom state (front ++ b :: c :: back)).length <
      opened state + (front ++ b :: c :: back).length := by
  induction front generalizing state with
  | nil =>
      have hb : ¬ continues state b = true := by
        intro hcontinues
        have hupper := hstate.upper b hcontinues
        have hlower := toNat_of_joins h
        omega
      have hstep : decodeStep state b = (broken state ++ (firstByte b).1, (firstByte b).2) :=
        if_neg hb
      have hfirst := length_decodeStep state b
      have hsecond := length_decodeStep (firstByte b).2 c
      have hrest := length_decodeFrom_le (decodeStep (firstByte b).2 c).2 back
      rw [if_neg hb] at hfirst
      rw [if_pos (show continues (firstByte b).2 c = true from h)] at hsecond
      simp only [List.nil_append, decodeFrom, List.length_append, List.length_cons]
      rw [hstep] at hfirst ⊢
      simp only at hfirst ⊢
      omega
  | cons d front ih =>
      have hstep := length_decodeStep state d
      have hrest := ih (bounded_decodeStep state d)
      rw [List.cons_append, decodeFrom, List.length_append, List.length_cons]
      split at hstep <;> omega

theorem length_decode_lt (h : ¬ NoSequence bytes) : (decode bytes).length < bytes.length := by
  have hpair : exists front b c back,
      bytes = front ++ b :: c :: back ∧ joins b c = true := by
    unfold NoSequence at h
    rw [List.isChain_iff_forall_rel_of_append_cons_cons] at h
    simp only [not_forall, Bool.not_eq_false] at h
    rcases h with ⟨b, c, front, back, hbytes, hjoins⟩
    exact ⟨front, b, c, back, hbytes, hjoins⟩
  rcases hpair with ⟨front, b, c, back, hbytes, hjoins⟩
  have hlt := @length_decodeFrom_lt .idle ⟨fun b hb => nomatch hb⟩ b c hjoins front back
  rw [hbytes]
  simpa [decode, opened] using hlt

end Utf8
end Foundations
end CopilotFactory
