import CopilotFactory.Foundations.NumberLiterals
import CopilotFactory.Foundations.Records
import Mathlib.Data.List.Infix

/-!
# JSON texts

A value is written as a text without any white space, and a text is read in two passes:
into tokens, and from these into a value, with a stack of the arrays and objects that are
still open.  Strings are sequences of UTF-16 code units.  What is written is read back,
and white space around a text makes no difference.
-/

namespace CopilotFactory
namespace Foundations
namespace JsonText

open Records

/-!
## Code units
-/

variable {u : UInt16} {c : Char}

abbrev Units :=
  List UInt16

def utf16 (c : Char) : Units :=
  if c.toNat < 0x10000 then
    [UInt16.ofNat c.toNat]
  else
    [UInt16.ofNat (0xD800 + (c.toNat - 0x10000) / 0x400),
      UInt16.ofNat (0xDC00 + (c.toNat - 0x10000) % 0x400)]

def isHighSurrogate (u : UInt16) : Bool :=
  0xD800 ≤ u.toNat && u.toNat < 0xDC00

def isLowSurrogate (u : UInt16) : Bool :=
  0xDC00 ≤ u.toNat && u.toNat < 0xE000

def pairChar (high low : UInt16) : Char :=
  Char.ofNat (0x10000 + (high.toNat - 0xD800) * 0x400 + (low.toNat - 0xDC00))

theorem toNat_ofNat_of_valid {n : Nat} (h : n.isValidChar) : (Char.ofNat n).toNat = n := by
  rw [Char.ofNat, dif_pos h]
  rfl

theorem toNat_pairChar {high low : UInt16} (hhigh : isHighSurrogate high = true)
    (hlow : isLowSurrogate low = true) :
    (pairChar high low).toNat =
      0x10000 + (high.toNat - 0xD800) * 0x400 + (low.toNat - 0xDC00) := by
  simp only [isHighSurrogate, isLowSurrogate, Bool.and_eq_true, decide_eq_true_eq]
    at hhigh hlow
  apply toNat_ofNat_of_valid
  right
  omega

theorem utf16_pairChar {high low : UInt16} (hhigh : isHighSurrogate high = true)
    (hlow : isLowSurrogate low = true) : utf16 (pairChar high low) = [high, low] := by
  have htoNat := toNat_pairChar hhigh hlow
  simp only [isHighSurrogate, isLowSurrogate, Bool.and_eq_true, decide_eq_true_eq]
    at hhigh hlow
  have hbig : ¬ (pairChar high low).toNat < 0x10000 := by
    omega
  have hfirst : 0xD800 + ((pairChar high low).toNat - 0x10000) / 0x400 = high.toNat := by
    omega
  have hsecond : 0xDC00 + ((pairChar high low).toNat - 0x10000) % 0x400 = low.toNat := by
    omega
  rw [utf16, if_neg hbig, hfirst, hsecond, UInt16.ofNat_toNat, UInt16.ofNat_toNat]

theorem toNat_unitChar (hhigh : isHighSurrogate u = false) (hlow : isLowSurrogate u = false) :
    (Char.ofNat u.toNat).toNat = u.toNat := by
  have hlt := u.toNat_lt
  simp only [isHighSurrogate, isLowSurrogate, Bool.and_eq_false_iff, decide_eq_false_iff_not]
    at hhigh hlow
  apply toNat_ofNat_of_valid
  simp only [Nat.isValidChar]
  omega

theorem utf16_unitChar (hhigh : isHighSurrogate u = false) (hlow : isLowSurrogate u = false) :
    utf16 (Char.ofNat u.toNat) = [u] := by
  have hlt := u.toNat_lt
  rw [utf16, toNat_unitChar hhigh hlow, if_pos (by omega), UInt16.ofNat_toNat]

/-!
## Values
-/

inductive JsonTree (N : Type) where
  | null
  | boolean (value : Bool)
  | number (value : N)
  | string (value : Units)
  | array (items : List (JsonTree N))
  | object (entries : List (Units × JsonTree N))

/-- How numbers are written and read.  What is not finite is written as null. -/
structure NumberFormat (N : Type) where
  print : N -> Option NumberLiteral
  /-- The number closest to a literal. -/
  read : NumberLiteral -> N
  read_print : forall x literal, print x = some literal -> read literal = x

variable {N : Type}

mutual

/-- Numbers are finite, and the keys of an object differ. -/
def WellFormed (fmt : NumberFormat N) : JsonTree N -> Prop
  | .number value => (fmt.print value).isSome
  | .array items => WellFormedItems fmt items
  | .object entries => (entries.map Prod.fst).Nodup ∧ WellFormedEntries fmt entries
  | _ => True

def WellFormedItems (fmt : NumberFormat N) : List (JsonTree N) -> Prop
  | [] => True
  | item :: rest => WellFormed fmt item ∧ WellFormedItems fmt rest

def WellFormedEntries (fmt : NumberFormat N) : List (Units × JsonTree N) -> Prop
  | [] => True
  | (_, value) :: rest => WellFormed fmt value ∧ WellFormedEntries fmt rest

end

structure JsonValue (fmt : NumberFormat N) where
  tree : JsonTree N
  wellFormed : WellFormed fmt tree

/-!
## Writing
-/

/-- The units that are written as a backslash and a character. -/
def shortEscapes : List (UInt16 × Char) :=
  [(0x08, 'b'), (0x09, 't'), (0x0A, 'n'), (0x0C, 'f'), (0x0D, 'r'), (0x22, '"'), (0x5C, '\\')]

def unicodeEscape (u : UInt16) : List Char :=
  ['\\', 'u', Nat.digitChar (u.toNat / 4096), Nat.digitChar (u.toNat / 256 % 16),
    Nat.digitChar (u.toNat / 16 % 16), Nat.digitChar (u.toNat % 16)]

def quoteUnit (u : UInt16) : List Char :=
  match shortEscapes.lookup u with
  | some c => ['\\', c]
  | none =>
      if u.toNat < 0x20 || isHighSurrogate u || isLowSurrogate u then
        unicodeEscape u
      else
        [Char.ofNat u.toNat]

def quoteUnits : Units -> List Char
  | [] => []
  | [u] => quoteUnit u
  | u :: v :: rest =>
      if isHighSurrogate u && isLowSurrogate v then
        pairChar u v :: quoteUnits rest
      else
        quoteUnit u ++ quoteUnits (v :: rest)

def quote (value : Units) : List Char :=
  '"' :: (quoteUnits value ++ ['"'])

def numberText (fmt : NumberFormat N) (value : N) : List Char :=
  match fmt.print value with
  | none => "null".toList
  | some literal => literal.chars

mutual

def stringify (fmt : NumberFormat N) : JsonTree N -> List Char
  | .null => "null".toList
  | .boolean true => "true".toList
  | .boolean false => "false".toList
  | .number value => numberText fmt value
  | .string value => quote value
  | .array items => '[' :: (stringifyItems fmt items ++ [']'])
  | .object entries => '\x7b' :: (stringifyEntries fmt entries ++ ['\x7d'])

def stringifyItems (fmt : NumberFormat N) : List (JsonTree N) -> List Char
  | [] => []
  | [item] => stringify fmt item
  | item :: next :: rest => stringify fmt item ++ ',' :: stringifyItems fmt (next :: rest)

def stringifyEntries (fmt : NumberFormat N) : List (Units × JsonTree N) -> List Char
  | [] => []
  | [(key, value)] => quote key ++ ':' :: stringify fmt value
  | (key, value) :: next :: rest =>
      quote key ++ ':' :: (stringify fmt value ++ ',' :: stringifyEntries fmt (next :: rest))

end

/-!
## Tokens
-/

inductive Mark where
  | beginArray
  | endArray
  | beginObject
  | endObject
  | comma
  | colon
deriving DecidableEq

def marks : List (Char × Mark) :=
  [('[', .beginArray), (']', .endArray), ('\x7b', .beginObject), ('\x7d', .endObject),
    (',', .comma), (':', .colon)]

/-- A punctuation mark, or a value that is neither an array nor an object. -/
inductive Token (N : Type) where
  | mark (mark : Mark)
  | scalar (value : JsonTree N)

inductive LexState where
  | between
  | atom (text : List Char)
  | string (value : Units)
  | escape (value : Units)
  | hex (value : Units) (digits : List Nat)

def isJsonSpace (c : Char) : Bool :=
  c ∈ [' ', '\t', '\n', '\r']

/-- The characters of numbers and of the words true, false and null. -/
def isAtomChar (c : Char) : Bool :=
  c.isAlphanum || c ∈ ['-', '+', '.']

def atomValue (fmt : NumberFormat N) (text : List Char) : Option (JsonTree N) :=
  if text = "null".toList then
    some .null
  else if text = "true".toList then
    some (.boolean true)
  else if text = "false".toList then
    some (.boolean false)
  else
    (readLiteral text).map fun literal => .number (fmt.read literal)

def unescape? (c : Char) : Option UInt16 :=
  [('b', 0x08), ('t', 0x09), ('n', 0x0A), ('f', 0x0C), ('r', 0x0D), ('"', 0x22),
    ('\\', 0x5C), ('/', 0x2F)].lookup c

def hexValue? (c : Char) : Option Nat :=
  if c.isDigit then
    some (c.toNat - '0'.toNat)
  else if 'a' ≤ c ∧ c ≤ 'f' then
    some (c.toNat - 'a'.toNat + 10)
  else if 'A' ≤ c ∧ c ≤ 'F' then
    some (c.toNat - 'A'.toNat + 10)
  else
    none

def hexUnit (digits : List Nat) : UInt16 :=
  UInt16.ofNat (digits.foldl (fun number digit => 16 * number + digit) 0)

def lexBegin (c : Char) : Option (List (Token N) × LexState) :=
  if isJsonSpace c then
    some ([], .between)
  else if c = '"' then
    some ([], .string [])
  else if isAtomChar c then
    some ([], .atom [c])
  else
    (marks.lookup c).map fun mark => ([.mark mark], .between)

def lexStep (fmt : NumberFormat N) : LexState -> Char -> Option (List (Token N) × LexState)
  | .between, c => lexBegin c
  | .atom text, c =>
      if isAtomChar c then
        some ([], .atom (text ++ [c]))
      else do
        let value ← atomValue fmt text
        let next ← lexBegin c
        some (.scalar value :: next.1, next.2)
  | .string value, c =>
      if c = '"' then
        some ([.scalar (.string value)], .between)
      else if c = '\\' then
        some ([], .escape value)
      else if c.toNat < 0x20 then
        none
      else
        some ([], .string (value ++ utf16 c))
  | .escape value, c =>
      if c = 'u' then
        some ([], .hex value [])
      else
        (unescape? c).map fun u => ([], .string (value ++ [u]))
  | .hex value digits, c =>
      (hexValue? c).map fun digit =>
        if digits.length = 3 then
          ([], .string (value ++ [hexUnit (digits ++ [digit])]))
        else
          ([], .hex value (digits ++ [digit]))

def lexEnd (fmt : NumberFormat N) : LexState -> Option (List (Token N))
  | .between => some []
  | .atom text => (atomValue fmt text).map fun value => [.scalar value]
  | _ => none

def lexFrom (fmt : NumberFormat N) : LexState -> List Char -> Option (List (Token N))
  | state, [] => lexEnd fmt state
  | state, c :: rest => do
      let next ← lexStep fmt state c
      let tokens ← lexFrom fmt next.2 rest
      some (next.1 ++ tokens)

def lex (fmt : NumberFormat N) (text : List Char) : Option (List (Token N)) :=
  lexFrom fmt .between text

/-!
## Reading
-/

/-- An array or an object that is still open, with what was read of it. -/
inductive Frame (N : Type) where
  | array (items : List (JsonTree N))
  | object (entries : List (Units × JsonTree N)) (key : Units)

inductive ParseState (N : Type) where
  | value (frames : List (Frame N))
  | itemOrEnd (frames : List (Frame N))
  | keyOrEnd (frames : List (Frame N))
  | key (entries : List (Units × JsonTree N)) (frames : List (Frame N))
  | colon (entries : List (Units × JsonTree N)) (key : Units) (frames : List (Frame N))
  | after (value : JsonTree N) (frames : List (Frame N))

def parseValue (frames : List (Frame N)) : Token N -> Option (ParseState N)
  | .scalar value => some (.after value frames)
  | .mark .beginArray => some (.itemOrEnd frames)
  | .mark .beginObject => some (.keyOrEnd frames)
  | _ => none

def parseKey (entries : List (Units × JsonTree N)) (frames : List (Frame N)) :
    Token N -> Option (ParseState N)
  | .scalar (.string key) => some (.colon entries key frames)
  | _ => none

def parseStep : ParseState N -> Token N -> Option (ParseState N)
  | .value frames, token => parseValue frames token
  | .itemOrEnd frames, .mark .endArray => some (.after (.array []) frames)
  | .itemOrEnd frames, token => parseValue (.array [] :: frames) token
  | .keyOrEnd frames, .mark .endObject => some (.after (.object []) frames)
  | .keyOrEnd frames, token => parseKey [] frames token
  | .key entries frames, token => parseKey entries frames token
  | .colon entries key frames, .mark .colon => some (.value (.object entries key :: frames))
  | .after value (.array items :: frames), .mark .comma =>
      some (.value (.array (items ++ [value]) :: frames))
  | .after value (.array items :: frames), .mark .endArray =>
      some (.after (.array (items ++ [value])) frames)
  | .after value (.object entries key :: frames), .mark .comma =>
      some (.key (setEntry key value entries) frames)
  | .after value (.object entries key :: frames), .mark .endObject =>
      some (.after (.object (setEntry key value entries)) frames)
  | _, _ => none

def parseEnd : ParseState N -> Option (JsonTree N)
  | .after value [] => some value
  | _ => none

def parseFrom : ParseState N -> List (Token N) -> Option (JsonTree N)
  | state, [] => parseEnd state
  | state, token :: rest => (parseStep state token).bind fun next => parseFrom next rest

def parse (fmt : NumberFormat N) (text : List Char) : Option (JsonTree N) :=
  (lex fmt text).bind (parseFrom (.value []))

/-!
## Strings are read back
-/

variable {fmt : NumberFormat N}

theorem lexFrom_cons {state next : LexState} {tokens : List (Token N)}
    (h : lexStep fmt state c = some (tokens, next)) (rest : List Char) :
    lexFrom fmt state (c :: rest) = (lexFrom fmt next rest).map (tokens ++ ·) := by
  rw [lexFrom, h, Option.bind_eq_bind, Option.bind_some]
  cases lexFrom fmt next rest with
  | none =>
      rfl
  | some _ =>
      rfl

theorem lexFrom_cons_silent {state next : LexState} (h : lexStep fmt state c = some ([], next))
    (rest : List Char) : lexFrom fmt state (c :: rest) = lexFrom fmt next rest := by
  rw [lexFrom_cons h]
  simp

theorem hexValue?_digitChar {n : Nat} (h : n < 16) : hexValue? (Nat.digitChar n) = some n := by
  have hall : forall m : Fin 16, hexValue? (Nat.digitChar m.val) = some m.val := by
    decide
  exact hall ⟨n, h⟩

theorem lexFrom_unicodeEscape (value : Units) (u : UInt16) (rest : List Char) :
    lexFrom fmt (.string value) (unicodeEscape u ++ rest) =
      lexFrom fmt (.string (value ++ [u])) rest := by
  have hlt := u.toNat_lt
  have hunit : hexUnit [u.toNat / 4096, u.toNat / 256 % 16, u.toNat / 16 % 16,
      u.toNat % 16] = u := by
    have hnumber : 16 * (16 * (16 * (16 * 0 + u.toNat / 4096) + u.toNat / 256 % 16) +
        u.toNat / 16 % 16) + u.toNat % 16 = u.toNat := by
      omega
    show UInt16.ofNat _ = u
    simp only [List.foldl_cons, List.foldl_nil]
    rw [hnumber, UInt16.ofNat_toNat]
  have hbackslash : lexStep fmt (.string value) '\\' = some ([], .escape value) := by
    simp [lexStep]
  have hletter : lexStep fmt (.escape value) 'u' = some ([], .hex value []) := by
    simp [lexStep]
  have hdigit : forall (digits : List Nat) (n : Nat), n < 16 -> digits.length < 3 ->
      lexStep fmt (.hex value digits) (Nat.digitChar n) =
        some ([], .hex value (digits ++ [n])) := by
    intro digits n hn hlength
    rw [lexStep, hexValue?_digitChar hn, Option.map_some, if_neg (by omega)]
  have hlast : lexStep fmt
      (.hex value [u.toNat / 4096, u.toNat / 256 % 16, u.toNat / 16 % 16])
        (Nat.digitChar (u.toNat % 16)) = some ([], .string (value ++ [u])) := by
    rw [lexStep, hexValue?_digitChar (by omega), Option.map_some, if_pos (by simp)]
    simp only [List.cons_append, List.nil_append]
    rw [hunit]
  have hfirst := hdigit [] (u.toNat / 4096) (by omega) (by simp)
  have hsecond := hdigit [u.toNat / 4096] (u.toNat / 256 % 16) (by omega) (by simp)
  have hthird := hdigit [u.toNat / 4096, u.toNat / 256 % 16] (u.toNat / 16 % 16) (by omega)
    (by simp)
  simp only [List.nil_append, List.cons_append] at hfirst hsecond hthird
  show lexFrom fmt (.string value) ('\\' :: 'u' :: _ :: _ :: _ :: _ :: rest) = _
  rw [lexFrom_cons_silent hbackslash, lexFrom_cons_silent hletter,
    lexFrom_cons_silent hfirst, lexFrom_cons_silent hsecond, lexFrom_cons_silent hthird]
  exact lexFrom_cons_silent hlast rest

theorem unescape?_of_shortEscape (h : shortEscapes.lookup u = some c) :
    c ≠ 'u' ∧ unescape? c = some u := by
  have hall : forall entry, entry ∈ shortEscapes ->
      entry.2 ≠ 'u' ∧ unescape? entry.2 = some entry.1 := by
    decide
  rcases List.lookup_eq_some_iff.mp h with ⟨before, later, hsplit, _⟩
  exact hall (u, c) (hsplit ▸ List.mem_append_right before List.mem_cons_self)

theorem lexStep_plain {value : Units} {c : Char} (hquote : c ≠ '"') (hbackslash : c ≠ '\\')
    (hcontrol : 0x20 ≤ c.toNat) :
    lexStep fmt (.string value) c = some ([], .string (value ++ utf16 c)) := by
  rw [lexStep, if_neg hquote, if_neg hbackslash, if_neg (by omega)]

theorem lexFrom_quoteUnit (value : Units) (u : UInt16) (rest : List Char) :
    lexFrom fmt (.string value) (quoteUnit u ++ rest) =
      lexFrom fmt (.string (value ++ [u])) rest := by
  unfold quoteUnit
  cases hshort : shortEscapes.lookup u with
  | some c =>
      have hc := unescape?_of_shortEscape hshort
      have hbackslash : lexStep fmt (.string value) '\\' = some ([], .escape value) := by
        simp [lexStep]
      have hletter :
          lexStep fmt (.escape value) c = some ([], .string (value ++ [u])) := by
        rw [lexStep, if_neg hc.1, hc.2, Option.map_some]
      show lexFrom fmt (.string value) ('\\' :: c :: rest) = _
      rw [lexFrom_cons_silent hbackslash, lexFrom_cons_silent hletter]
  | none =>
      split
      · rename_i heq
        cases heq
      split
      · exact lexFrom_unicodeEscape value u rest
      · rename_i hplain
        simp only [Bool.or_eq_true, decide_eq_true_eq, not_or, Bool.not_eq_true,
          Nat.not_lt] at hplain
        rcases hplain with ⟨⟨hcontrol, hhigh⟩, hlow⟩
        have htoNat := toNat_unitChar hhigh hlow
        have hkept : forall c, Char.ofNat u.toNat = c ->
            shortEscapes.lookup (UInt16.ofNat c.toNat) = none := by
          intro c hc
          rw [← hc, htoNat, UInt16.ofNat_toNat, hshort]
        have hstep := @lexStep_plain N fmt value (Char.ofNat u.toNat)
          (fun h => nomatch hkept _ h) (fun h => nomatch hkept _ h) (by omega)
        rw [utf16_unitChar hhigh hlow] at hstep
        exact lexFrom_cons_silent hstep rest

theorem lexFrom_quoteUnits (value units : Units) (rest : List Char) :
    lexFrom fmt (.string value) (quoteUnits units ++ rest) =
      lexFrom fmt (.string (value ++ units)) rest := by
  induction units using quoteUnits.induct generalizing value with
  | case1 =>
      simp [quoteUnits]
  | case2 u =>
      exact lexFrom_quoteUnit value u rest
  | case3 high low units hpair ih =>
      have hsurrogates := Bool.and_eq_true_iff.mp hpair
      have htoNat := toNat_pairChar hsurrogates.1 hsurrogates.2
      have hplain : forall c : Char, c.toNat < 0x10000 -> pairChar high low ≠ c := by
        intro c hc heq
        rw [heq] at htoNat
        omega
      have hstep := @lexStep_plain N fmt value (pairChar high low) (hplain _ (by decide))
        (hplain _ (by decide)) (by omega)
      rw [utf16_pairChar hsurrogates.1 hsurrogates.2] at hstep
      rw [quoteUnits, if_pos hpair, List.cons_append, lexFrom_cons_silent hstep, ih]
      simp
  | case4 u v units hpair ih =>
      rw [quoteUnits, if_neg hpair, List.append_assoc, lexFrom_quoteUnit, ih]
      simp

theorem lexFrom_quote (value : Units) (rest : List Char) :
    lexFrom fmt .between (quote value ++ rest) =
      (lexFrom fmt .between rest).map (Token.scalar (.string value) :: ·) := by
  have hopen : lexStep fmt .between '"' = some ([], .string []) := by
    simp [lexStep, lexBegin, isJsonSpace]
  have hclose : lexStep fmt (.string value) '"' =
      some ([Token.scalar (.string value)], .between) := by
    simp [lexStep]
  rw [quote, List.cons_append, List.append_assoc, lexFrom_cons_silent hopen,
    lexFrom_quoteUnits, List.nil_append, List.cons_append, lexFrom_cons hclose]
  rfl

/-!
## What is written is cut into its tokens
-/

def EndsAtom (text : List Char) : Prop :=
  forall c, c ∈ text.head? -> isAtomChar c = false

theorem lexBegin_atom (h : isAtomChar c = true) : lexBegin (N := N) c = some ([], .atom [c]) := by
  have hspace : isJsonSpace c ≠ true := by
    intro hspace
    simp only [isJsonSpace, List.mem_cons, List.not_mem_nil, or_false, decide_eq_true_eq]
      at hspace
    rcases hspace with rfl | rfl | rfl | rfl <;> exact absurd h (by decide)
  have hquote : c ≠ '"' := by
    intro hquote
    rw [hquote] at h
    exact absurd h (by decide)
  rw [lexBegin, if_neg hspace, if_neg hquote, if_pos h]

theorem lexBegin_mark {mark : Mark} (h : (c, mark) ∈ marks) :
    lexBegin (N := N) c = some ([.mark mark], .between) ∧ isAtomChar c = false := by
  simp only [marks, List.mem_cons, Prod.mk.injEq, List.not_mem_nil, or_false] at h
  rcases h with ⟨rfl, rfl⟩ | ⟨rfl, rfl⟩ | ⟨rfl, rfl⟩ | ⟨rfl, rfl⟩ | ⟨rfl, rfl⟩ |
    ⟨rfl, rfl⟩ <;>
    exact ⟨rfl, by decide⟩

/-- The text is cut into the tokens, unless it goes on with a character of an atom. -/
def Lexes (fmt : NumberFormat N) (text : List Char) (tokens : List (Token N)) : Prop :=
  forall rest, EndsAtom rest ->
    lexFrom fmt .between (text ++ rest) = (lexFrom fmt .between rest).map (tokens ++ ·)

theorem Lexes.nil : Lexes fmt [] [] := by
  intro rest _
  simp

theorem Lexes.mark {mark : Mark} {text : List Char} {tokens : List (Token N)}
    (hmark : (c, mark) ∈ marks) (h : Lexes fmt text tokens) :
    Lexes fmt (c :: text) (.mark mark :: tokens) := by
  intro rest hrest
  have hstep : lexStep fmt .between c = some ([.mark mark], .between) :=
    (lexBegin_mark hmark).1
  rw [List.cons_append, lexFrom_cons hstep, h rest hrest, Option.map_map]
  rfl

theorem Lexes.quote {text : List Char} {tokens : List (Token N)} (key : Units)
    (h : Lexes fmt text tokens) :
    Lexes fmt (JsonText.quote key ++ text) (.scalar (.string key) :: tokens) := by
  intro rest hrest
  rw [List.append_assoc, lexFrom_quote, h rest hrest, Option.map_map]
  rfl

theorem Lexes.append_mark {mark : Mark} {text text' : List Char}
    {tokens tokens' : List (Token N)} (h : Lexes fmt text tokens) (hmark : (c, mark) ∈ marks)
    (h' : Lexes fmt text' tokens') :
    Lexes fmt (text ++ c :: text') (tokens ++ .mark mark :: tokens') := by
  intro rest hrest
  have hends : EndsAtom (c :: text' ++ rest) := by
    intro d hd
    cases hd
    exact (lexBegin_mark (N := N) hmark).2
  rw [List.append_assoc, h _ hends, h'.mark hmark rest hrest, Option.map_map]
  congr 1
  funext tokens''
  simp

variable {value : JsonTree N}

theorem lexFrom_atom {text rest : List Char} (front : List Char)
    (hvalue : atomValue fmt (front ++ text) = some value)
    (hchars : forall c, c ∈ text -> isAtomChar c = true) (hrest : EndsAtom rest) :
    lexFrom fmt (.atom front) (text ++ rest) =
      (lexFrom fmt .between rest).map (Token.scalar value :: ·) := by
  induction text generalizing front with
  | nil =>
      rw [List.append_nil] at hvalue
      cases rest with
      | nil =>
          show lexEnd fmt (.atom front) = (lexEnd fmt .between).map _
          simp [lexEnd, hvalue]
      | cons c cs =>
          have hc : isAtomChar c ≠ true := by
            simp [hrest c rfl]
          cases hbegin : lexBegin (N := N) c with
          | none =>
              simp [lexFrom, lexStep, hc, hvalue, hbegin]
          | some next =>
              have hatom : lexStep fmt (.atom front) c =
                  some (.scalar value :: next.1, next.2) := by
                simp [lexStep, hc, hvalue, hbegin]
              have hbetween : lexStep fmt .between c = some (next.1, next.2) :=
                hbegin
              rw [List.nil_append, lexFrom_cons hatom, lexFrom_cons hbetween, Option.map_map]
              rfl
  | cons c cs ih =>
      have hstep : lexStep fmt (.atom front) c = some ([], .atom (front ++ [c])) := by
        rw [lexStep, if_pos (hchars c List.mem_cons_self)]
      rw [List.cons_append, lexFrom_cons_silent hstep]
      apply ih
      · rwa [List.append_assoc]
      · intro d hd
        exact hchars d (List.mem_cons_of_mem c hd)

theorem Lexes.atom {text : List Char} (hvalue : atomValue fmt text = some value)
    (hne : text ≠ []) (hchars : forall c, c ∈ text -> isAtomChar c = true) :
    Lexes fmt text [.scalar value] := by
  intro rest hrest
  cases text with
  | nil =>
      exact absurd rfl hne
  | cons c cs =>
      have hstep : lexStep fmt .between c = some ([], .atom [c]) :=
        lexBegin_atom (hchars c List.mem_cons_self)
      rw [List.cons_append, lexFrom_cons_silent hstep]
      apply lexFrom_atom [c] hvalue _ hrest
      intro d hd
      exact hchars d (List.mem_cons_of_mem c hd)

theorem lexes_word (word : List Char)
    (hword : word ∈ ["null".toList, "true".toList, "false".toList])
    (hvalue : atomValue fmt word = some value) : Lexes fmt word [.scalar value] := by
  have hchars : word ≠ [] ∧ word.all isAtomChar = true := by
    revert hword
    clear hvalue
    revert word
    decide
  exact Lexes.atom hvalue hchars.1 (List.all_eq_true.mp hchars.2)

theorem isAtomChar_of_isLiteralChar (h : isLiteralChar c = true) : isAtomChar c = true := by
  rw [isLiteralChar, Bool.or_eq_true] at h
  rcases h with hdigit | hother
  · unfold digit? at hdigit
    split at hdigit
    · rename_i hrange
      have hc : c.isDigit = true := by
        simp only [Char.isDigit, Bool.and_eq_true, decide_eq_true_eq]
        have hlow := hrange.1
        have hhigh := hrange.2
        simp only [Char.toNat] at hlow hhigh
        constructor
        · exact hlow
        · show c.val.toNat ≤ 57
          have hzero : '0'.val.toNat = 48 := rfl
          omega
      simp [isAtomChar, Char.isAlphanum, hc]
    · cases hdigit
  · simp only [List.mem_cons, List.not_mem_nil, or_false, decide_eq_true_eq] at hother
    rcases hother with rfl | rfl | rfl | rfl <;> decide

theorem atomValue_literal (literal : NumberLiteral) :
    atomValue fmt literal.chars = some (.number (fmt.read literal)) := by
  have hword : forall word, readLiteral word = none -> literal.chars ≠ word := by
    intro word hword heq
    rw [← heq, readLiteral_chars] at hword
    cases hword
  rw [atomValue, if_neg (hword _ (by decide)), if_neg (hword _ (by decide)),
    if_neg (hword _ (by decide)), readLiteral_chars, Option.map_some]

theorem lexes_number {value : N} (h : WellFormed fmt (.number value)) :
    Lexes fmt (numberText fmt value) [.scalar (.number value)] := by
  cases hprint : fmt.print value with
  | none =>
      rw [WellFormed, hprint] at h
      cases h
  | some literal =>
      have htext : numberText fmt value = literal.chars := by
        rw [numberText, hprint]
      rw [htext, ← fmt.read_print value literal hprint]
      apply Lexes.atom (atomValue_literal literal)
      · intro hnil
        rcases literal.endsInDigit with ⟨front, d, hend⟩
        rw [hnil] at hend
        cases front <;> cases hend
      · intro c hc
        exact isAtomChar_of_isLiteralChar (NumberLiteral.isLiteralChar_of_mem hc)

mutual

def tokens : JsonTree N -> List (Token N)
  | .array items => .mark .beginArray :: (itemTokens items ++ [.mark .endArray])
  | .object entries => .mark .beginObject :: (entryTokens entries ++ [.mark .endObject])
  | value => [.scalar value]

def itemTokens : List (JsonTree N) -> List (Token N)
  | [] => []
  | [item] => tokens item
  | item :: next :: rest => tokens item ++ .mark .comma :: itemTokens (next :: rest)

def entryTokens : List (Units × JsonTree N) -> List (Token N)
  | [] => []
  | [(key, value)] => .scalar (.string key) :: .mark .colon :: tokens value
  | (key, value) :: next :: rest =>
      .scalar (.string key) :: .mark .colon ::
        (tokens value ++ .mark .comma :: entryTokens (next :: rest))

end

mutual

theorem lexes_stringify : forall value : JsonTree N, WellFormed fmt value ->
    Lexes fmt (stringify fmt value) (tokens value)
  | .null, _ => lexes_word "null".toList (by decide) (by simp [atomValue])
  | .boolean true, _ => lexes_word "true".toList (by decide) (by simp [atomValue])
  | .boolean false, _ => lexes_word "false".toList (by decide) (by simp [atomValue])
  | .number _, h => lexes_number h
  | .string value, _ => by
      have hquote := @Lexes.quote _ fmt [] [] value Lexes.nil
      rw [List.append_nil] at hquote
      exact hquote
  | .array items, h => by
      rw [stringify, tokens]
      exact ((lexes_items items h).append_mark (by decide) Lexes.nil).mark (by decide)
  | .object entries, h => by
      rw [stringify, tokens]
      exact ((lexes_entries entries h.2).append_mark (by decide) Lexes.nil).mark (by decide)

theorem lexes_items : forall items : List (JsonTree N), WellFormedItems fmt items ->
    Lexes fmt (stringifyItems fmt items) (itemTokens items)
  | [], _ => Lexes.nil
  | [item], h => lexes_stringify item h.1
  | item :: next :: rest, h => by
      rw [stringifyItems, itemTokens]
      exact (lexes_stringify item h.1).append_mark (by decide) (lexes_items (next :: rest) h.2)

theorem lexes_entries : forall entries : List (Units × JsonTree N),
    WellFormedEntries fmt entries -> Lexes fmt (stringifyEntries fmt entries) (entryTokens entries)
  | [], _ => Lexes.nil
  | [(key, value)], h => by
      rw [stringifyEntries, entryTokens]
      exact ((lexes_stringify value h.1).mark (by decide)).quote key
  | (key, value) :: next :: rest, h => by
      rw [stringifyEntries, entryTokens]
      exact (((lexes_stringify value h.1).append_mark (by decide)
        (lexes_entries (next :: rest) h.2)).mark (by decide)).quote key

end

/-!
## The tokens of a value are read as the value
-/

theorem notMem_keys {key : Units} {before later : List (Units × JsonTree N)}
    (h : ((before ++ (key, value) :: later).map Prod.fst).Nodup) : key ∉ before.map Prod.fst := by
  rw [List.map_append, List.nodup_append] at h
  intro hmem
  exact h.2.2 key hmem key List.mem_cons_self rfl

theorem parseFrom_itemOrEnd (value : JsonTree N) (frames : List (Frame N))
    (rest : List (Token N)) :
    parseFrom (.itemOrEnd frames) (tokens value ++ rest) =
      parseFrom (.value (.array [] :: frames)) (tokens value ++ rest) := by
  cases value <;> rfl

theorem itemTokens_cons (item : JsonTree N) (rest : List (JsonTree N)) :
    exists others, itemTokens (item :: rest) = tokens item ++ others := by
  cases rest with
  | nil =>
      exact ⟨[], (List.append_nil _).symm⟩
  | cons next rest =>
      exact ⟨_, rfl⟩

theorem parseFrom_keyOrEnd (entry : Units × JsonTree N) (entries : List (Units × JsonTree N))
    (frames : List (Frame N)) (rest : List (Token N)) :
    parseFrom (.keyOrEnd frames) (entryTokens (entry :: entries) ++ rest) =
      parseFrom (.key [] frames) (entryTokens (entry :: entries) ++ rest) := by
  cases entries <;> rfl

mutual

theorem parseFrom_tokens : forall value : JsonTree N, WellFormed fmt value ->
    forall frames rest,
      parseFrom (.value frames) (tokens value ++ rest) = parseFrom (.after value frames) rest
  | .null, _, _, _ => rfl
  | .boolean _, _, _, _ => rfl
  | .number _, _, _, _ => rfl
  | .string _, _, _, _ => rfl
  | .array items, h, frames, rest => by
      cases items with
      | nil =>
          rfl
      | cons item items =>
          rcases itemTokens_cons item items with ⟨others, hothers⟩
          have hread := parseFrom_items (item :: items) h (List.cons_ne_nil _ _) [] frames rest
          rw [hothers, List.append_assoc] at hread
          rw [tokens, hothers, List.cons_append, List.append_assoc, List.append_assoc]
          show parseFrom (.itemOrEnd frames) _ = _
          rw [parseFrom_itemOrEnd]
          exact hread
  | .object entries, h, frames, rest => by
      cases entries with
      | nil =>
          rfl
      | cons entry entries =>
          have hread := parseFrom_entries (entry :: entries) h.2 (List.cons_ne_nil _ _) []
            h.1 frames rest
          rw [tokens, List.cons_append, List.append_assoc]
          show parseFrom (.keyOrEnd frames) _ = _
          rw [parseFrom_keyOrEnd]
          exact hread

theorem parseFrom_items : forall items : List (JsonTree N), WellFormedItems fmt items ->
    items ≠ [] -> forall before frames rest,
      parseFrom (.value (.array before :: frames))
          (itemTokens items ++ .mark .endArray :: rest) =
        parseFrom (.after (.array (before ++ items)) frames) rest
  | [], _, hne, _, _, _ => absurd rfl hne
  | [item], h, _, before, frames, rest => by
      rw [itemTokens, parseFrom_tokens item h.1]
      rfl
  | item :: next :: items, h, _, before, frames, rest => by
      have hnext := parseFrom_items (next :: items) h.2 (List.cons_ne_nil _ _)
        (before ++ [item]) frames rest
      rw [List.append_assoc] at hnext
      rw [itemTokens, List.append_assoc, parseFrom_tokens item h.1]
      exact hnext

theorem parseFrom_entries : forall entries : List (Units × JsonTree N),
    WellFormedEntries fmt entries -> entries ≠ [] -> forall before,
    ((before ++ entries).map Prod.fst).Nodup -> forall frames rest,
      parseFrom (.key before frames) (entryTokens entries ++ .mark .endObject :: rest) =
        parseFrom (.after (.object (before ++ entries)) frames) rest
  | [], _, hne, _, _, _, _ => absurd rfl hne
  | [(key, value)], h, _, before, hkeys, frames, rest => by
      show parseFrom (.value (.object before key :: frames)) (tokens value ++ _) = _
      rw [parseFrom_tokens value h.1]
      show parseFrom (.after (.object (setEntry key value before)) frames) rest = _
      rw [setEntry_of_notMem (notMem_keys hkeys)]
  | (key, value) :: next :: entries, h, _, before, hkeys, frames, rest => by
      have hrest : ((before ++ [(key, value)] ++ next :: entries).map Prod.fst).Nodup := by
        rwa [List.append_assoc]
      have hnext := parseFrom_entries (next :: entries) h.2 (List.cons_ne_nil _ _)
        (before ++ [(key, value)]) hrest frames rest
      rw [List.append_assoc] at hnext
      show parseFrom (.value (.object before key :: frames))
        ((tokens value ++ .mark .comma :: entryTokens (next :: entries)) ++ _) = _
      rw [List.append_assoc, parseFrom_tokens value h.1]
      show parseFrom (.key (setEntry key value before) frames) _ = _
      rw [setEntry_of_notMem (notMem_keys hkeys)]
      exact hnext

end

/-- What is written is read back. -/
theorem parse_stringify (value : JsonValue fmt) :
    parse fmt (stringify fmt value.tree) = some value.tree := by
  have hlex := lexes_stringify value.tree value.wellFormed [] (fun c hc => nomatch hc)
  have htokens := parseFrom_tokens value.tree value.wellFormed [] []
  rw [List.append_nil] at hlex htokens
  have hend : lexFrom fmt .between [] = some [] :=
    rfl
  rw [hend, Option.map_some, List.append_nil] at hlex
  rw [parse, lex, hlex, Option.bind_some, htokens]
  rfl

/-!
## Space around a text

The characters of the class need not be white space for JSON; where they are not, they are
no part of any text outside of its strings.
-/

/-- Characters that no token begins with, that end an atom, and that end no string. -/
structure IsFiller (p : Char -> Bool) : Prop where
  quote : forall c, p c = true -> c ≠ '"'
  atom : forall c, p c = true -> isAtomChar c = false
  mark : forall c, p c = true -> marks.lookup c = none

variable {p : Char -> Bool}

theorem IsFiller.lexBegin (h : IsFiller p) (hc : p c = true) {next : List (Token N) × LexState}
    (hbegin : JsonText.lexBegin c = some next) : next = ([], .between) := by
  rw [JsonText.lexBegin, if_neg (h.quote c hc), h.atom c hc, h.mark c hc] at hbegin
  split at hbegin
  · exact (Option.some.inj hbegin).symm
  · simp at hbegin

variable {found : List (Token N)}

theorem IsFiller.lex_dropWhile (h : IsFiller p) {text : List Char}
    (hlex : lex fmt text = some found) : lex fmt (text.dropWhile p) = some found := by
  induction text with
  | nil =>
      exact hlex
  | cons c rest ih =>
      rw [List.dropWhile_cons]
      split
      · rename_i hc
        apply ih
        unfold lex lexFrom at hlex
        rcases Option.bind_eq_some_iff.mp hlex with ⟨next, hnext, hrest⟩
        rw [h.lexBegin hc hnext] at hrest
        show lexFrom fmt .between rest = _
        simpa using hrest
      · exact hlex

theorem IsFiller.lexEnd_string (h : IsFiller p) (hc : p c = true) {state : LexState}
    {next : List (Token N) × LexState} (hstep : lexStep fmt state c = some next)
    (hbetween : state ≠ .between) (hatom : forall text, state ≠ .atom text) :
    lexEnd fmt next.2 = none := by
  cases state with
  | between =>
      exact absurd rfl hbetween
  | atom text =>
      exact absurd rfl (hatom text)
  | string value =>
      rw [lexStep, if_neg (h.quote c hc)] at hstep
      split at hstep
      · cases hstep
        rfl
      · split at hstep
        · cases hstep
        · cases hstep
          rfl
  | escape value =>
      rw [lexStep] at hstep
      split at hstep
      · cases hstep
        rfl
      · rcases Option.map_eq_some_iff.mp hstep with ⟨u, _, hnext⟩
        rw [← hnext]
        rfl
  | hex value digits =>
      rcases Option.map_eq_some_iff.mp hstep with ⟨digit, _, hnext⟩
      rw [← hnext]
      split <;> rfl

theorem IsFiller.lexFrom_concat (h : IsFiller p) (hc : p c = true) {text : List Char}
    {state : LexState} (hlex : lexFrom fmt state (text ++ [c]) = some found) :
    lexFrom fmt state text = some found := by
  induction text generalizing state found with
  | nil =>
      rcases Option.bind_eq_some_iff.mp hlex with ⟨next, hnext, hrest⟩
      rcases Option.bind_eq_some_iff.mp hrest with ⟨others, hothers, hfound⟩
      have hend : lexEnd fmt next.2 = some others :=
        hothers
      by_cases hbetween : state = .between
      · rw [hbetween] at hnext
        rw [h.lexBegin hc hnext] at hend hfound
        cases hend
        rw [hbetween]
        exact hfound
      · by_cases hatom : exists front, state = .atom front
        · rcases hatom with ⟨front, hfront⟩
          rw [hfront, lexStep, if_neg (by simp [h.atom c hc])] at hnext
          rcases Option.bind_eq_some_iff.mp hnext with ⟨value, hvalue, hbegin⟩
          rcases Option.bind_eq_some_iff.mp hbegin with ⟨begun, hbegun, hnext⟩
          rw [h.lexBegin hc hbegun] at hnext
          cases hnext
          cases hend
          rw [hfront]
          show (atomValue fmt front).map _ = _
          rw [hvalue]
          exact hfound
        · rw [h.lexEnd_string hc hnext hbetween (not_exists.mp hatom)] at hend
          cases hend
  | cons d rest ih =>
      rw [List.cons_append] at hlex
      rcases Option.bind_eq_some_iff.mp hlex with ⟨next, hnext, hrest⟩
      rcases Option.bind_eq_some_iff.mp hrest with ⟨others, hothers, hfound⟩
      rw [lexFrom, hnext]
      show (lexFrom fmt next.2 rest).bind _ = _
      rw [ih hothers]
      exact hfound

theorem IsFiller.lex_append (h : IsFiller p) {text after : List Char}
    (hafter : forall c, c ∈ after -> p c = true) (hlex : lex fmt (text ++ after) = some found) :
    lex fmt text = some found := by
  induction after using List.reverseRecOn with
  | nil =>
      rwa [List.append_nil] at hlex
  | append_singleton front c ih =>
      rw [← List.append_assoc] at hlex
      apply ih
      · intro d hd
        exact hafter d (List.mem_append_left [c] hd)
      · exact h.lexFrom_concat (hafter c (by simp)) hlex

/-- A text is read as it is without the fillers around it. -/
theorem IsFiller.parse_trim (h : IsFiller p) {text : List Char}
    (hparse : parse fmt text = some value) :
    parse fmt ((text.dropWhile p).reverse.dropWhile p).reverse = some value := by
  rcases Option.bind_eq_some_iff.mp hparse with ⟨found, hlex, hread⟩
  have hbegin := h.lex_dropWhile hlex
  have hsplit : text.dropWhile p =
      ((text.dropWhile p).reverse.dropWhile p).reverse ++
        ((text.dropWhile p).reverse.takeWhile p).reverse := by
    rw [← List.reverse_append, List.takeWhile_append_dropWhile, List.reverse_reverse]
  rw [hsplit] at hbegin
  have hend := h.lex_append (fun c hc => by
    exact List.all_eq_true.mp List.all_takeWhile c (List.mem_reverse.mp hc)) hbegin
  rw [parse, hend]
  exact hread

end JsonText
end Foundations
end CopilotFactory
