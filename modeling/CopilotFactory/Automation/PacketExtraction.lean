import CopilotFactory.Automation.CopilotCliAdapter
import CopilotFactory.Foundations.JsonText

/-!
# Packet extraction

The output validator and the adapter both look for the packet of a worker in its output
file and between two delimiters on stdout.  The validator reports a file that is no JSON;
the adapter looks on stdout instead, and takes null for no packet.
-/

namespace CopilotFactory
namespace Automation

open Foundations
open Foundations.JsonText

/-!
## The validator
-/

structure WorkerOutputSource where
  outputFileContent : Option String
  stdoutContent : String
deriving DecidableEq

inductive PacketSource where
  | file
  | stdout
deriving DecidableEq

inductive ExtractionResult (J : Type) where
  | found (packet : J) (source : PacketSource)
  | jsonParseError (rawContent : String) (source : PacketSource) (error : String)
  | notFound

def fileText (outputFileContent : Option String) : Option String :=
  outputFileContent.bind fun content =>
    if trim content.toList = [] then
      none
    else
      some (String.ofList (trim content.toList))

def delimitedText (stdout : String) : Option String := do
  let rest ← afterFirst resultPacketStartDelimiter.toList stdout.toList
  let content ← beforeFirst resultPacketEndDelimiter.toList rest
  if trim content = [] then
    none
  else
    some (String.ofList (trim content))

variable {J : Type}

def parsedPacket (parse : String -> Except String J) (text : String)
    (source : PacketSource) : ExtractionResult J :=
  match parse text with
  | .ok packet => .found packet source
  | .error error => .jsonParseError text source error

def extractPacket (parse : String -> Except String J) (source : WorkerOutputSource) :
    ExtractionResult J :=
  match fileText source.outputFileContent with
  | some text => parsedPacket parse text .file
  | none =>
      match delimitedText source.stdoutContent with
      | some text => parsedPacket parse text .stdout
      | none => .notFound

theorem parsedPacket_eq_found {parse : String -> Except String J} {text : String}
    {source source' : PacketSource} {packet : J} :
    parsedPacket parse text source = .found packet source' <->
      parse text = .ok packet ∧ source' = source := by
  unfold parsedPacket
  cases parse text with
  | error e =>
      simp
  | ok found =>
      simp [eq_comm]

/-!
## The adapter
-/

def locatedPacket (tools : PacketTools J) (state : CopilotCliRunState) :
    Option (J × PacketSource) :=
  match state.outputFile.bind tools.parse with
  | some packet => some (packet, .file)
  | none =>
      (extractPacketFromStdout tools state.stdoutBuffer).map fun packet => (packet, .stdout)

theorem producedPacket_eq (tools : PacketTools J) (state : CopilotCliRunState) :
    producedPacket tools state = (locatedPacket tools state).map Prod.fst := by
  unfold producedPacket locatedPacket
  cases state.outputFile.bind tools.parse with
  | some packet =>
      rfl
  | none =>
      rw [Option.map_map]
      exact Option.map_id'.symm

theorem packetOutput_of_collectArtifacts {tools : PacketTools J}
    {expectedType runId : String} {state : CopilotCliRunState}
    {artifacts : CollectedArtifacts J}
    (h : collectArtifacts tools expectedType runId state = .ok artifacts) :
    artifacts.packetOutput = (locatedPacket tools state).map Prod.fst := by
  rw [← producedPacket_eq]
  unfold collectArtifacts at h
  split at h
  · cases h
  · cases h
  · cases h
  · split at h
    · rename_i hnone
      cases h
      exact hnone.symm
    · rename_i packet hpacket
      cases h
      exact hpacket.symm

theorem extractPacketFromStdout_eq (tools : PacketTools J) (stdout : String) :
    extractPacketFromStdout tools stdout = (delimitedText stdout).bind tools.parse := by
  unfold extractPacketFromStdout delimitedText
  cases afterFirst resultPacketStartDelimiter.toList stdout.toList with
  | none =>
      rfl
  | some rest =>
      cases hcontent : beforeFirst resultPacketEndDelimiter.toList rest with
      | none =>
          simp [hcontent]
      | some content =>
          by_cases hblank : trim content = []
          · simp [hcontent, hblank]
          · simp [hcontent, hblank]

/-!
## The parsers of both
-/

variable {N : Type} {fmt : NumberFormat N}

variable {value : JsonTree N}

/-- Parsing throws an error with a message where the text is no JSON. -/
def jsonParse (fmt : NumberFormat N) (syntaxError : String -> String) (text : String) :
    Except String (JsonTree N) :=
  match parse fmt text.toList with
  | some value => .ok value
  | none => .error (syntaxError text)

/-- The value null is no packet. -/
def packetOf : JsonTree N -> Option (JsonTree N)
  | .null => none
  | value => some value

def adapterTools (fmt : NumberFormat N) (accepts : PacketSchema -> JsonTree N -> Bool)
    (status : JsonTree N -> Option String) : PacketTools (JsonTree N) where
  parse := fun text => (parse fmt text.toList).bind packetOf
  accepts := accepts
  status := status

theorem jsonParse_eq_ok {syntaxError : String -> String} {text : String} :
    jsonParse fmt syntaxError text = .ok value <-> parse fmt text.toList = some value := by
  unfold jsonParse
  cases parse fmt text.toList with
  | none =>
      simp
  | some found =>
      simp

theorem packetOf_eq_some {packet : JsonTree N} :
    packetOf value = some packet <-> value = packet ∧ packet ≠ .null := by
  cases value with
  | null =>
      simp only [packetOf, reduceCtorEq, false_iff, not_and]
      intro hnull
      simp [← hnull]
  | _ =>
      simp only [packetOf, Option.some.injEq, iff_self_and]
      intro h
      simp [← h]

theorem isFiller_isSpace : IsFiller isSpace := by
  have hcases : forall c, isSpace c = true ->
      exists n, n ∈ [0x09, 0x0A, 0x0B, 0x0C, 0x0D, 0x20, 0xA0, 0x1680, 0x2028, 0x2029, 0x202F,
        0x205F, 0x3000, 0xFEFF, 0x2000, 0x2001, 0x2002, 0x2003, 0x2004, 0x2005, 0x2006, 0x2007,
        0x2008, 0x2009, 0x200A] ∧ c = Char.ofNat n := by
    intro c hc
    refine ⟨c.toNat, ?_, (Char.ofNat_toNat c).symm⟩
    simp only [isSpace, List.mem_cons, List.not_mem_nil, or_false, Bool.or_eq_true,
      Bool.and_eq_true, decide_eq_true_eq] at hc ⊢
    omega
  have hfiller : forall n, n ∈ [0x09, 0x0A, 0x0B, 0x0C, 0x0D, 0x20, 0xA0, 0x1680, 0x2028,
      0x2029, 0x202F, 0x205F, 0x3000, 0xFEFF, 0x2000, 0x2001, 0x2002, 0x2003, 0x2004, 0x2005,
      0x2006, 0x2007, 0x2008, 0x2009, 0x200A] ->
      Char.ofNat n ≠ '"' ∧ isAtomChar (Char.ofNat n) = false ∧
        marks.lookup (Char.ofNat n) = none := by
    decide +kernel
  constructor
  · intro c hc
    rcases hcases c hc with ⟨n, hn, rfl⟩
    exact (hfiller n hn).1
  · intro c hc
    rcases hcases c hc with ⟨n, hn, rfl⟩
    exact (hfiller n hn).2.1
  · intro c hc
    rcases hcases c hc with ⟨n, hn, rfl⟩
    exact (hfiller n hn).2.2

/-- What is JSON is the same JSON when it is trimmed. -/
theorem parse_of_trim {text : List Char} (h : parse fmt text = some value) :
    parse fmt (trim text) = some value :=
  isFiller_isSpace.parse_trim h

theorem trim_ne_nil_of_parse {text : List Char} (h : parse fmt text = some value) :
    trim text ≠ [] := by
  intro hblank
  have htrim := parse_of_trim h
  rw [hblank] at htrim
  cases htrim

/-!
## Where both find the same packet
-/

def stdoutValue (fmt : NumberFormat N) (state : CopilotCliRunState) : Option (JsonTree N) :=
  (delimitedText state.stdoutBuffer).bind fun text => parse fmt text.toList

def CopilotCliRunState.output (state : CopilotCliRunState) : WorkerOutputSource where
  outputFileContent := state.outputFile
  stdoutContent := state.stdoutBuffer

/-- The validator finds a packet exactly if the adapter does, the same one from the same
source. -/
def PipelinesAgree (fmt : NumberFormat N) (syntaxError : String -> String)
    (tools : PacketTools (JsonTree N)) (state : CopilotCliRunState) : Prop :=
  forall packet source,
    extractPacket (jsonParse fmt syntaxError) state.output = .found packet source <->
      locatedPacket tools state = some (packet, source)

inductive AgreementCase (fmt : NumberFormat N) (state : CopilotCliRunState) : Prop where
  /-- There is no file, or a blank one, and the value on stdout is not null. -/
  | noFile (hfile : fileText state.outputFile = none)
      (hstdout : stdoutValue fmt state ≠ some .null)
  /-- The file is JSON as it stands, and not null. -/
  | file (content : String) (value : JsonTree N) (hfile : state.outputFile = some content)
      (hvalue : parse fmt content.toList = some value) (hnull : value ≠ .null)
  /-- The file is no JSON even without white space around it, and no packet is on stdout. -/
  | neither (text : String) (hfile : fileText state.outputFile = some text)
      (hvalue : parse fmt text.toList = none)
      (hstdout : forall value, stdoutValue fmt state = some value -> value = .null)

theorem fileText_of_parse {content : String} (h : parse fmt content.toList = some value) :
    exists text, fileText (some content) = some text ∧ parse fmt text.toList = some value := by
  have hne := trim_ne_nil_of_parse h
  refine ⟨String.ofList (trim content.toList), ?_, ?_⟩
  · rw [fileText, Option.bind_some, if_neg hne]
  · rw [String.toList_ofList]
    exact parse_of_trim h

section Agreement

variable {syntaxError : String -> String} {accepts : PacketSchema -> JsonTree N -> Bool}
variable {status : JsonTree N -> Option String} {state : CopilotCliRunState}
variable {packet : JsonTree N} {source : PacketSource}

theorem extractPacket_file {text : String} (h : fileText state.outputFile = some text) :
    extractPacket (jsonParse fmt syntaxError) state.output = .found packet source <->
      parse fmt text.toList = some packet ∧ source = .file := by
  have hfile : fileText state.output.outputFileContent = some text :=
    h
  rw [extractPacket, hfile]
  exact parsedPacket_eq_found.trans (and_congr_left fun _ => jsonParse_eq_ok)

theorem extractPacket_stdout (h : fileText state.outputFile = none) :
    extractPacket (jsonParse fmt syntaxError) state.output = .found packet source <->
      stdoutValue fmt state = some packet ∧ source = .stdout := by
  have hfile : fileText state.output.outputFileContent = none :=
    h
  have hstdout : state.output.stdoutContent = state.stdoutBuffer :=
    rfl
  rw [extractPacket, hfile, hstdout, stdoutValue]
  cases delimitedText state.stdoutBuffer with
  | none =>
      simp
  | some text =>
      exact parsedPacket_eq_found.trans (and_congr_left fun _ => jsonParse_eq_ok)

theorem bind_parse_eq_some {content : Option String} :
    content.bind (adapterTools fmt accepts status).parse = some packet <->
      content.bind (fun text => parse fmt text.toList) = some packet ∧ packet ≠ .null := by
  cases content with
  | none =>
      simp
  | some text =>
      simp only [Option.bind_some, adapterTools]
      rw [Option.bind_eq_some_iff]
      constructor
      · intro h
        rcases h with ⟨value, hvalue, hpacket⟩
        rcases packetOf_eq_some.mp hpacket with ⟨heq, hnull⟩
        exact ⟨heq ▸ hvalue, hnull⟩
      · intro h
        exact ⟨packet, h.1, packetOf_eq_some.mpr ⟨rfl, h.2⟩⟩

theorem locatedPacket_file {content : String} (hfile : state.outputFile = some content)
    (hvalue : parse fmt content.toList = some value) (hnull : value ≠ .null) :
    locatedPacket (adapterTools fmt accepts status) state = some (value, .file) := by
  have hparsed :
      state.outputFile.bind (adapterTools fmt accepts status).parse = some value := by
    rw [bind_parse_eq_some, hfile]
    exact ⟨hvalue, hnull⟩
  rw [locatedPacket, hparsed]

theorem locatedPacket_stdout
    (h : forall content value, state.outputFile = some content ->
      parse fmt content.toList = some value -> value = .null) :
    locatedPacket (adapterTools fmt accepts status) state = some (packet, source) <->
      stdoutValue fmt state = some packet ∧ packet ≠ .null ∧ source = .stdout := by
  have hnone : state.outputFile.bind (adapterTools fmt accepts status).parse = none := by
    rw [Option.eq_none_iff_forall_ne_some]
    intro value hvalue
    rcases bind_parse_eq_some.mp hvalue with ⟨hparsed, hnull⟩
    rcases Option.bind_eq_some_iff.mp hparsed with ⟨content, hcontent, hparse⟩
    exact hnull (h content value hcontent hparse)
  rw [locatedPacket, hnone]
  simp only [Option.map_eq_some_iff, Prod.mk.injEq]
  rw [extractPacketFromStdout_eq]
  constructor
  · intro h
    rcases h with ⟨found, hfound, heq, hsource⟩
    rcases bind_parse_eq_some.mp hfound with ⟨hvalue, hnull⟩
    rw [heq] at hvalue hnull
    exact ⟨hvalue, hnull, hsource.symm⟩
  · intro h
    exact ⟨packet, bind_parse_eq_some.mpr ⟨h.1, h.2.1⟩, rfl, h.2.2.symm⟩

theorem noPacket_of_fileText {text : String} (hfile : fileText state.outputFile = some text)
    (hvalue : parse fmt text.toList = none) {content : String}
    (hcontent : state.outputFile = some content)
    (hparse : parse fmt content.toList = some value) : value = .null := by
  rcases fileText_of_parse hparse with ⟨text', htext', hparse'⟩
  rw [hcontent, htext'] at hfile
  cases hfile
  rw [hvalue] at hparse'
  cases hparse'

theorem noPacket_of_blank (hfile : fileText state.outputFile = none) {content : String}
    (hcontent : state.outputFile = some content)
    (hparse : parse fmt content.toList = some value) : value = .null := by
  rcases fileText_of_parse hparse with ⟨text', htext', _⟩
  rw [hcontent, htext'] at hfile
  cases hfile

theorem agreementCase_of_agree
    (h : PipelinesAgree fmt syntaxError (adapterTools fmt accepts status) state) :
    AgreementCase fmt state := by
  cases hfile : fileText state.outputFile with
  | none =>
      apply AgreementCase.noFile hfile
      intro hnull
      have hfound := (h .null .stdout).mp ((extractPacket_stdout hfile).mpr ⟨hnull, rfl⟩)
      have hstdout := (locatedPacket_stdout (fun content value =>
        noPacket_of_blank hfile)).mp hfound
      exact hstdout.2.1 rfl
  | some text =>
      cases hvalue : parse fmt text.toList with
      | none =>
          apply AgreementCase.neither text hfile hvalue
          intro value hstdout
          by_contra hnull
          have hfound := (h value .stdout).mpr ((locatedPacket_stdout (fun content value =>
            noPacket_of_fileText hfile hvalue)).mpr ⟨hstdout, hnull, rfl⟩)
          have hsource := ((extractPacket_file hfile).mp hfound).2
          cases hsource
      | some value =>
          have hfound := (h value .file).mp ((extractPacket_file hfile).mpr ⟨hvalue, rfl⟩)
          by_contra hno
          have hstdout := (locatedPacket_stdout (fun content value' hcontent hparse => by
            by_contra hnull
            exact hno (AgreementCase.file content value' hcontent hparse hnull))).mp hfound
          cases hstdout.2.2

theorem agree_of_agreementCase (h : AgreementCase fmt state) :
    PipelinesAgree fmt syntaxError (adapterTools fmt accepts status) state := by
  intro packet source
  cases h with
  | noFile hfile hstdout =>
      rw [extractPacket_stdout hfile,
        locatedPacket_stdout (fun content value => noPacket_of_blank hfile)]
      constructor
      · intro hfound
        refine ⟨hfound.1, ?_, hfound.2⟩
        intro hnull
        exact hstdout (hnull ▸ hfound.1)
      · intro hfound
        exact ⟨hfound.1, hfound.2.2⟩
  | file content value hfile hvalue hnull =>
      rcases fileText_of_parse hvalue with ⟨text, htext, hparse⟩
      rw [← hfile] at htext
      rw [extractPacket_file htext, locatedPacket_file hfile hvalue hnull, hparse]
      simp [eq_comm]
  | neither text hfile hvalue hstdout =>
      rw [extractPacket_file hfile, hvalue,
        locatedPacket_stdout (fun content value => noPacket_of_fileText hfile hvalue)]
      constructor
      · intro hfound
        cases hfound.1
      · intro hfound
        exact absurd (hstdout packet hfound.1) hfound.2.1

end Agreement

/-!
## Packets between delimiters
-/

theorem isPrefixOf_append {needle text : List Char} (c : Char) (rest : List Char) :
    needle.isPrefixOf (c :: text ++ needle ++ rest) =
      needle.isPrefixOf (c :: text ++ needle) := by
  rw [Bool.eq_iff_iff, List.isPrefixOf_iff_prefix, List.isPrefixOf_iff_prefix]
  constructor
  · intro h
    apply List.prefix_of_prefix_length_le h (List.prefix_append _ rest)
    rw [List.length_append]
    exact Nat.le_add_left _ _
  · intro h
    exact h.trans (List.prefix_append _ rest)

theorem beforeFirst_append {needle text : List Char}
    (h : beforeFirst needle (text ++ needle) = some text) (rest : List Char) :
    beforeFirst needle (text ++ needle ++ rest) = some text ∧
      afterFirst needle (text ++ needle ++ rest) = some rest := by
  induction text with
  | nil =>
      have hprefix : needle.isPrefixOf (needle ++ rest) = true :=
        List.isPrefixOf_iff_prefix.mpr (List.prefix_append needle rest)
      rw [List.nil_append]
      cases hshape : needle ++ rest with
      | nil =>
          rcases List.append_eq_nil_iff.mp hshape with ⟨hneedle, hrest⟩
          simp [beforeFirst, afterFirst, hneedle, hrest]
      | cons c cs =>
          rw [hshape] at hprefix
          rw [beforeFirst, if_pos hprefix, afterFirst, if_pos hprefix, ← hshape]
          simp
  | cons c text ih =>
      rw [List.cons_append, beforeFirst] at h
      split at h
      · cases h
      · rename_i hprefix
        rcases Option.map_eq_some_iff.mp h with ⟨before, hbefore, heq⟩
        cases heq
        have hrest := ih hbefore
        have hno : ¬ needle.isPrefixOf (c :: (text ++ needle ++ rest)) = true := by
          have hlater := @isPrefixOf_append needle text c rest
          simp only [List.cons_append] at hlater
          rwa [hlater]
        simp only [List.cons_append]
        rw [beforeFirst, if_neg hno, afterFirst, if_neg hno, hrest.1]
        exact ⟨rfl, hrest.2⟩

theorem overlap_endDelimiter : forall k, k < 22 ->
    resultPacketEndDelimiter.toList.drop (k + 1) <+: resultPacketEndDelimiter.toList ->
    (resultPacketEndDelimiter.toList.take (k + 1)).getLast? = some 'T' ∨
      (resultPacketEndDelimiter.toList.take (k + 1)).getLast? = some '-' := by
  decide +kernel

/-- In a text without the delimiter, that cannot overlap with it, the delimiter after the
text is the first one. -/
theorem beforeFirst_endDelimiter {text : List Char}
    (hfree : ¬ resultPacketEndDelimiter.toList <:+: text)
    (hlast : forall c, c ∈ text.getLast? -> c ≠ 'T' ∧ c ≠ '-') :
    beforeFirst resultPacketEndDelimiter.toList
      (text ++ resultPacketEndDelimiter.toList) = some text := by
  induction text with
  | nil =>
      decide
  | cons c rest ih =>
      have hprefix : ¬ resultPacketEndDelimiter.toList <+:
          (c :: rest) ++ resultPacketEndDelimiter.toList := by
        intro hprefix
        rcases Nat.lt_or_ge (c :: rest).length resultPacketEndDelimiter.toList.length
          with hshort | hlong
        · rcases List.prefix_of_prefix_length_le (List.prefix_append (c :: rest) _) hprefix
            hshort.le with ⟨later, hlater⟩
          have htake : resultPacketEndDelimiter.toList.take (rest.length + 1) = c :: rest := by
            rw [← hlater]
            exact @List.take_left _ (c :: rest) later
          have hdrop : resultPacketEndDelimiter.toList.drop (rest.length + 1) = later := by
            rw [← hlater]
            exact @List.drop_left _ (c :: rest) later
          have hbound : rest.length < 22 := by
            have hlength : resultPacketEndDelimiter.toList.length = 23 := by
              decide
            rw [hlength, List.length_cons] at hshort
            omega
          have hagain : later <+: resultPacketEndDelimiter.toList := by
            have hprefix' := hprefix
            rw [← hlater] at hprefix'
            have hrest := (List.prefix_append_right_inj (c :: rest)).mp hprefix'
            rwa [hlater] at hrest
          have hoverlap := overlap_endDelimiter rest.length hbound (hdrop ▸ hagain)
          rw [htake] at hoverlap
          rcases hoverlap with hT | hdash
          · exact (hlast 'T' hT).1 rfl
          · exact (hlast '-' hdash).2 rfl
        · exact hfree (List.prefix_of_prefix_length_le hprefix (List.prefix_append _ _)
            hlong).isInfix
      have hrest := ih (fun hinfix => hfree (List.infix_cons hinfix)) (by
        intro d hd
        apply hlast
        cases rest with
        | nil =>
            cases hd
        | cons e others =>
            rwa [List.getLast?_cons_cons])
      rw [List.cons_append] at hprefix ⊢
      rw [beforeFirst, if_neg (fun h => hprefix (List.isPrefixOf_iff_prefix.mp h)), hrest]
      rfl

theorem getLast_stringify (value : JsonValue fmt) {c : Char}
    (h : c ∈ (stringify fmt value.tree).getLast?) : c ≠ 'T' ∧ c ≠ '-' := by
  rcases value with ⟨tree, hformed⟩
  have hclose : forall (front : List Char) (last : Char), last ≠ 'T' ∧ last ≠ '-' ->
      c ∈ (front ++ [last]).getLast? -> c ≠ 'T' ∧ c ≠ '-' := by
    intro front last hlast hc
    rw [List.getLast?_concat] at hc
    cases hc
    exact hlast
  cases tree with
  | null =>
      exact hclose ['n', 'u', 'l'] 'l' (by decide) h
  | boolean value =>
      cases value with
      | true =>
          exact hclose ['t', 'r', 'u'] 'e' (by decide) h
      | false =>
          exact hclose ['f', 'a', 'l', 's'] 'e' (by decide) h
  | number value =>
      have hwritten : (fmt.print value).isSome = true :=
        hformed
      rcases Option.isSome_iff_exists.mp hwritten with ⟨literal, hliteral⟩
      have htext : stringify fmt (.number value) = literal.chars := by
        show numberText fmt value = _
        rw [numberText, hliteral]
      rcases literal.endsInDigit with ⟨front, d, hend⟩
      rw [htext, hend] at h
      have hdigit : forall d : Fin 10, digitChar d ≠ 'T' ∧ digitChar d ≠ '-' := by
        decide
      exact hclose front (digitChar d) (hdigit d) h
  | string value =>
      exact hclose ('"' :: quoteUnits value) '"' (by decide) h
  | array items =>
      exact hclose ('[' :: stringifyItems fmt items) ']' (by decide) h
  | object entries =>
      exact hclose ('\x7b' :: stringifyEntries fmt entries) '\x7d' (by decide) h

def printed (before text after : List Char) : String :=
  String.ofList (before ++ resultPacketStartDelimiter.toList ++
    (text ++ resultPacketEndDelimiter.toList ++ after))

theorem delimitedText_printed {before : List Char}
    (hbefore : beforeFirst resultPacketStartDelimiter.toList
      (before ++ resultPacketStartDelimiter.toList) = some before)
    {value : JsonValue fmt}
    (hfree : ¬ resultPacketEndDelimiter.toList <:+: stringify fmt value.tree)
    (after : List Char) :
    (delimitedText (printed before (stringify fmt value.tree) after)).bind
      (fun text => parse fmt text.toList) = some value.tree := by
  have hstart := (beforeFirst_append hbefore
    (stringify fmt value.tree ++ resultPacketEndDelimiter.toList ++ after)).2
  have hend := (beforeFirst_append (beforeFirst_endDelimiter hfree
    (fun c => getLast_stringify value)) after).1
  have hparse := parse_stringify value
  rw [delimitedText, printed, String.toList_ofList, hstart, Option.bind_eq_bind,
    Option.bind_some, hend, Option.bind_some, if_neg (trim_ne_nil_of_parse hparse),
    Option.bind_some, String.toList_ofList]
  exact parse_of_trim hparse

/-- The pipelines agree exactly on the outputs of the three kinds, whatever the phase of the
run in which the adapter collects its packet; and both read back a packet that is printed
between the delimiters without an end delimiter in its text, after a text in which and
across whose end no start delimiter begins. -/
theorem pipelines_agree_and_read_back (fmt : NumberFormat N)
    (syntaxError : String -> String) (accepts : PacketSchema -> JsonTree N -> Bool)
    (status : JsonTree N -> Option String) :
    (forall state,
      (PipelinesAgree fmt syntaxError (adapterTools fmt accepts status) state <->
        AgreementCase fmt state) ∧
      forall expectedType runId artifacts,
        collectArtifacts (adapterTools fmt accepts status) expectedType runId state =
          .ok artifacts ->
        artifacts.packetOutput =
          (locatedPacket (adapterTools fmt accepts status) state).map Prod.fst) ∧
    (forall (value : JsonValue fmt) (before after : List Char),
      ¬ resultPacketEndDelimiter.toList <:+: stringify fmt value.tree ->
      beforeFirst resultPacketStartDelimiter.toList
        (before ++ resultPacketStartDelimiter.toList) = some before ->
      extractPacket (jsonParse fmt syntaxError)
          { outputFileContent := none
            stdoutContent := printed before (stringify fmt value.tree) after } =
        .found value.tree .stdout ∧
      extractPacketFromStdout (adapterTools fmt accepts status)
          (printed before (stringify fmt value.tree) after) = packetOf value.tree) := by
  constructor
  · intro state
    constructor
    · exact ⟨agreementCase_of_agree, agree_of_agreementCase⟩
    · intro expectedType runId artifacts h
      exact packetOutput_of_collectArtifacts h
  · intro value before after hfree hbefore
    have htext := delimitedText_printed hbefore hfree after
    rcases Option.bind_eq_some_iff.mp htext with ⟨text, hdelimited, hparse⟩
    constructor
    · have hjson : jsonParse fmt syntaxError text = .ok value.tree :=
        jsonParse_eq_ok.mpr hparse
      simp only [extractPacket, fileText, Option.bind_none, hdelimited, parsedPacket, hjson]
    · rw [extractPacketFromStdout_eq, hdelimited, Option.bind_some]
      simp only [adapterTools, hparse, Option.bind_some]

/-!
## A packet between delimiters, and one with a delimiter in it
-/

def smallNumbers : NumberFormat Nat where
  print := fun n =>
    if h : n < 10 then
      some (NumberLiteral.ofDigit ⟨n, h⟩)
    else
      none
  read := fun literal =>
    (literal.whole.first :: literal.whole.others).foldl (fun n d => 10 * n + d.val) 0
  read_print := by
    intro n literal h
    split at h
    · cases h
      simp [NumberLiteral.ofDigit]
    · cases h

def units (text : String) : Units :=
  text.toList.flatMap utf16

def smallTools : PacketTools (JsonTree Nat) :=
  adapterTools smallNumbers (fun _ _ => false) (fun _ => none)

def smallPacket : JsonValue smallNumbers where
  tree :=
    .object
      [(units "refs", .array [.number 7, .null]), (units "summary", .string (units "done"))]
  wellFormed := ⟨by decide, ⟨⟨rfl, trivial, trivial⟩, trivial, trivial⟩⟩

theorem small_packet_read_back :
    extractPacket (jsonParse smallNumbers id)
        { outputFileContent := none
          stdoutContent :=
            printed "working".toList (stringify smallNumbers smallPacket.tree) "bye".toList } =
      .found smallPacket.tree .stdout ∧
    extractPacketFromStdout smallTools
        (printed "working".toList (stringify smallNumbers smallPacket.tree) "bye".toList) =
      packetOf smallPacket.tree :=
  (pipelines_agree_and_read_back smallNumbers id (fun _ _ => false) (fun _ => none)).2
    smallPacket "working".toList "bye".toList (by decide +kernel) (by decide +kernel)

def runWith (outputFile : Option String) (stdout : String) : CopilotCliRunState where
  phase := .completed
  stdoutBuffer := stdout
  stderrBuffer := ""
  exitCode := some 0
  outputFile := outputFile
  logEntries := []

def emptyPacket : JsonValue smallNumbers where
  tree := .array []
  wellFormed := trivial

def nullPacket : JsonValue smallNumbers where
  tree := .null
  wellFormed := trivial

def delimiterPacket : JsonValue smallNumbers where
  tree := .string (units resultPacketEndDelimiter)
  wellFormed := trivial

theorem stdoutValue_printed {outputFile : Option String} {value : JsonValue smallNumbers}
    (hfree : ¬ resultPacketEndDelimiter.toList <:+: stringify smallNumbers value.tree) :
    stdoutValue smallNumbers
        (runWith outputFile (printed [] (stringify smallNumbers value.tree) [])) =
      some value.tree :=
  delimitedText_printed (by decide +kernel) hfree []

theorem differ_on_malformed_file :
    ¬ PipelinesAgree smallNumbers id smallTools
      (runWith (some "[") (printed [] (stringify smallNumbers emptyPacket.tree) [])) := by
  have hfile : fileText (some "[") = some "[" := by
    decide +kernel
  have hbad : parse smallNumbers "[".toList = none := by
    rw [← Option.isNone_iff_eq_none]
    decide +kernel
  intro h
  cases agreementCase_of_agree h with
  | noFile hnone _ =>
      cases hfile.symm.trans hnone
  | file content value hcontent hvalue _ =>
      cases hcontent
      cases hbad.symm.trans hvalue
  | neither text _ _ hnull =>
      cases hnull (.array []) (stdoutValue_printed (by decide))

theorem differ_on_null :
    ¬ PipelinesAgree smallNumbers id smallTools
      (runWith none (printed [] (stringify smallNumbers nullPacket.tree) [])) := by
  intro h
  cases agreementCase_of_agree h with
  | noFile _ hstdout =>
      exact hstdout (stdoutValue_printed (by decide))
  | file content value hcontent _ _ =>
      cases hcontent
  | neither text htext _ _ =>
      cases htext

theorem differ_on_space :
    ¬ PipelinesAgree smallNumbers id smallTools (runWith (some "\u00a0[]") "") := by
  have hfile : fileText (some "\u00a0[]") = some "[]" := by
    decide +kernel
  have hbad : parse smallNumbers "\u00a0[]".toList = none := by
    rw [← Option.isNone_iff_eq_none]
    decide +kernel
  have hgood : parse smallNumbers "[]".toList = some (.array []) :=
    parse_stringify emptyPacket
  intro h
  cases agreementCase_of_agree h with
  | noFile hnone _ =>
      cases hfile.symm.trans hnone
  | file content value hcontent hvalue _ =>
      cases hcontent
      cases hbad.symm.trans hvalue
  | neither text htext hvalue _ =>
      cases hfile.symm.trans htext
      cases hgood.symm.trans hvalue

theorem not_found_of_parse_none {stdout text : String} (htext : delimitedText stdout = some text)
    (hparse : parse smallNumbers text.toList = none) {value : JsonTree Nat} :
    extractPacket (jsonParse smallNumbers id)
        { outputFileContent := none, stdoutContent := stdout } ≠ .found value .stdout := by
  simp only [extractPacket, fileText, Option.bind_none, htext, parsedPacket, jsonParse, hparse]
  exact fun h => nomatch h

/-- The pipelines differ on a malformed file, on the value null and on white space that is
none in JSON; and a packet is not read back that holds the end delimiter, or that is printed
after the beginning of a start delimiter. -/
theorem pipelines_differ_and_lose_packets :
    (¬ PipelinesAgree smallNumbers id smallTools
        (runWith (some "[") (printed [] (stringify smallNumbers emptyPacket.tree) [])) ∧
      ¬ PipelinesAgree smallNumbers id smallTools
        (runWith none (printed [] (stringify smallNumbers nullPacket.tree) [])) ∧
      ¬ PipelinesAgree smallNumbers id smallTools (runWith (some "\u00a0[]") "")) ∧
    (¬ resultPacketStartDelimiter.toList <:+: [] ∧
      extractPacket (jsonParse smallNumbers id)
          { outputFileContent := none
            stdoutContent := printed [] (stringify smallNumbers delimiterPacket.tree) [] } ≠
        .found delimiterPacket.tree .stdout) ∧
    (¬ resultPacketStartDelimiter.toList <:+: "---BEGIN_RESULT_PACKET".toList ∧
      extractPacket (jsonParse smallNumbers id)
          { outputFileContent := none
            stdoutContent :=
              printed "---BEGIN_RESULT_PACKET".toList (stringify smallNumbers emptyPacket.tree)
                [] } ≠
        .found emptyPacket.tree .stdout) := by
  have hquote : parse smallNumbers "\"".toList = none := by
    rw [← Option.isNone_iff_eq_none]
    decide +kernel
  have hbegin : parse smallNumbers "BEGIN_RESULT_PACKET---[]".toList = none := by
    rw [← Option.isNone_iff_eq_none]
    decide +kernel
  refine ⟨⟨differ_on_malformed_file, differ_on_null, differ_on_space⟩, ⟨by decide, ?_⟩,
    by decide, ?_⟩
  · exact not_found_of_parse_none (by decide +kernel) hquote
  · exact not_found_of_parse_none (by decide +kernel) hbegin

end Automation
end CopilotFactory
