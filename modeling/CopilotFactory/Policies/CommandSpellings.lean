import CopilotFactory.Policies.CommandPolicy

/-!
# Spellings of a command

The decision on a command is taken on its text and on its tokens, and the tokens are what
is executed.  Two texts with the same tokens can therefore be decided differently, and they
are not exactly if the text has no say or says the same as the canonical spelling.
-/

namespace CopilotFactory
namespace Policies

open Foundations

variable {compile : RegExpCompiler} {policy : CommandPolicy} {raw raw₁ raw₂ : String}

/-!
## Tokens and canonical spelling
-/

def canonical (parsed : ParsedCommand) : String :=
  " ".intercalate (parsed.command :: parsed.args)

structure SameTokens (raw₁ raw₂ : String) : Prop where
  command : (parseCommandString raw₁).command = (parseCommandString raw₂).command
  args : (parseCommandString raw₁).args = (parseCommandString raw₂).args

theorem SameTokens.canonical_eq (h : SameTokens raw₁ raw₂) :
    canonical (parseCommandString raw₁) = canonical (parseCommandString raw₂) := by
  unfold canonical
  rw [h.command, h.args]

theorem parseCommandString_raw (raw : String) :
    (parseCommandString raw).raw = String.ofList (trim raw.toList) := by
  unfold parseCommandString
  dsimp only
  split <;> rfl

theorem words_of_parse (h : (parseCommandString raw).command ≠ "") :
    words isSpace (trim raw.toList) =
      (parseCommandString raw).command.toList ::
        (parseCommandString raw).args.map String.toList := by
  unfold parseCommandString at h ⊢
  dsimp only at h ⊢
  cases hwords : words isSpace (trim raw.toList) with
  | nil =>
      rw [String.toList_ofList, hwords] at h
      exact absurd rfl h
  | cons word rest =>
      rw [String.toList_ofList, hwords]
      simp [Function.comp_def]

theorem trim_eq_self {text before after : List Char} {first last : Char}
    (hfirst : text = first :: after) (hlast : text = before ++ [last])
    (hf : isSpace first = false) (hl : isSpace last = false) :
    trim text = text := by
  have hbegin : text.dropWhile isSpace = text := by
    rw [hfirst, List.dropWhile_cons_of_neg (by simp [hf])]
  have hend : text.reverse.dropWhile isSpace = text.reverse := by
    rw [hlast, List.reverse_append, List.reverse_singleton, List.singleton_append,
      List.dropWhile_cons_of_neg (by simp [hl])]
  unfold trim
  rw [hbegin, hend, List.reverse_reverse]

theorem parse_of_words {text command : String} {args : List String}
    (htrim : trim text.toList = text.toList)
    (hwords : words isSpace text.toList = command.toList :: args.map String.toList) :
    parseCommandString text = { command := command, args := args, raw := text } := by
  unfold parseCommandString
  dsimp only
  rw [htrim, String.ofList_toList, hwords]
  simp [Function.comp_def]

theorem parse_canonical (h : (parseCommandString raw).command ≠ "") :
    parseCommandString (canonical (parseCommandString raw)) =
      { parseCommandString raw with raw := canonical (parseCommandString raw) } := by
  have hwords := words_of_parse h
  have hparts : forall word, word ∈ (parseCommandString raw).command.toList ::
      (parseCommandString raw).args.map String.toList -> IsWord isSpace word := by
    intro word hword
    rw [← hwords] at hword
    exact isWord_of_mem_words hword
  have htext : (canonical (parseCommandString raw)).toList =
      [' '].intercalate ((parseCommandString raw).command.toList ::
        (parseCommandString raw).args.map String.toList) := by
    unfold canonical
    rw [String.toList_intercalate]
    rfl
  rcases intercalate_begins ' ' ((parseCommandString raw).args.map String.toList)
    (hparts _ List.mem_cons_self) with ⟨first, after, hfirst, hf⟩
  rcases intercalate_ends ' ' hparts with ⟨before, last, hlast, hl⟩
  have htrim : trim (canonical (parseCommandString raw)).toList =
      (canonical (parseCommandString raw)).toList := by
    rw [htext]
    exact trim_eq_self hfirst hlast hf hl
  apply parse_of_words htrim
  rw [htext]
  exact words_intercalate (by decide) hparts

/-!
## Text and tokens decide
-/

def decision (compile : RegExpCompiler) (policy : CommandPolicy) (raw : String) :
    Except PolicyError Bool :=
  (evaluateCommandPolicy compile raw policy).map CommandPolicyEvaluation.allowed

/-- The text alone is denied, for its operators or by a pattern. -/
def textDenied (policy : CommandPolicy) (text : String) : Bool :=
  (!policy.allowShellOperators && containsShellOperators text) ||
    (matchingDenied policy text).isSome

def tokensDecision (compile : RegExpCompiler) (policy : CommandPolicy)
    (parsed : ParsedCommand) : Except PolicyError Bool :=
  match allowlistViolation policy parsed with
  | some _ => .ok false
  | none =>
      (matchingForbidden compile parsed.args policy.forbiddenArgPatterns).map Option.isNone

theorem decision_eq (compile : RegExpCompiler) (policy : CommandPolicy) (raw : String) :
    decision compile policy raw =
      if (parseCommandString raw).command = "" ∨
          textDenied policy (parseCommandString raw).raw = true then
        .ok false
      else
        tokensDecision compile policy (parseCommandString raw) := by
  unfold decision evaluateCommandPolicy textDenied tokensDecision
  dsimp only
  by_cases hempty : (parseCommandString raw).command = ""
  · rw [if_pos hempty, if_pos (Or.inl hempty)]
    rfl
  rw [if_neg hempty]
  by_cases hshell : (!policy.allowShellOperators &&
      containsShellOperators (parseCommandString raw).raw) = true
  · rw [if_pos hshell, if_pos (Or.inr (by rw [hshell]; rfl))]
    rfl
  rw [if_neg hshell]
  cases hdenied : matchingDenied policy (parseCommandString raw).raw with
  | some denied =>
      rw [if_pos (Or.inr (by simp))]
      rfl
  | none =>
      rw [if_neg (by simpa [hempty] using hshell)]
      cases hviolation : allowlistViolation policy (parseCommandString raw) with
      | some violation =>
          rfl
      | none =>
          cases hforbidden : matchingForbidden compile (parseCommandString raw).args
              policy.forbiddenArgPatterns with
          | error e =>
              rfl
          | ok found =>
              cases found with
              | none =>
                  rfl
              | some match_ =>
                  rfl

theorem tokensDecision_congr {parsed parsed' : ParsedCommand}
    (hcommand : parsed.command = parsed'.command) (hargs : parsed.args = parsed'.args) :
    tokensDecision compile policy parsed = tokensDecision compile policy parsed' := by
  unfold tokensDecision allowlistViolation
  rw [hcommand, hargs]

/-- There is no command, or the tokens are denied anyway, or the text is denied exactly if
its canonical spelling is. -/
def SpacingIrrelevant (compile : RegExpCompiler) (policy : CommandPolicy) (raw : String) :
    Prop :=
  (parseCommandString raw).command = "" ∨
    tokensDecision compile policy (parseCommandString raw) = .ok false ∨
    textDenied policy (parseCommandString raw).raw =
      textDenied policy (canonical (parseCommandString raw))

theorem canonical_of_empty (h : (parseCommandString raw).command = "") :
    canonical (parseCommandString raw) = "" := by
  have hargs : (parseCommandString raw).args = [] := by
    unfold parseCommandString at h ⊢
    dsimp only at h ⊢
    cases hwords : words isSpace (trim raw.toList) with
    | nil =>
        rw [String.toList_ofList, hwords]
        rfl
    | cons word rest =>
        have hmem : word ∈ words isSpace (trim raw.toList) := by
          rw [hwords]
          exact List.mem_cons_self
        have hword := isWord_of_mem_words hmem
        rw [String.toList_ofList, hwords] at h
        exact absurd (String.ofList_eq_empty_iff.mp h) hword.ne_nil
  unfold canonical
  rw [h, hargs]
  rfl

theorem decision_empty : decision compile policy "" = .ok false := by
  rw [decision_eq, if_pos (Or.inl (by decide +kernel))]

theorem ite_denied_eq_iff {denied denied' : Bool} {d : Except PolicyError Bool} :
    (if denied = true then .ok false else d) = (if denied' = true then .ok false else d) <->
      d = .ok false ∨ denied = denied' := by
  cases denied <;> cases denied' <;> simp [eq_comm]

/-- A text is decided as its canonical spelling exactly if its spacing is irrelevant. -/
theorem decision_canonical_iff :
    decision compile policy raw =
        decision compile policy (canonical (parseCommandString raw)) <->
      SpacingIrrelevant compile policy raw := by
  unfold SpacingIrrelevant
  by_cases hempty : (parseCommandString raw).command = ""
  · rw [canonical_of_empty hempty, decision_empty, decision_eq, if_pos (Or.inl hempty)]
    simp [hempty]
  · have hparse := parse_canonical hempty
    have hcommand := congrArg ParsedCommand.command hparse
    have hargs := congrArg ParsedCommand.args hparse
    have hraw := congrArg ParsedCommand.raw hparse
    dsimp only at hcommand hargs hraw
    rw [decision_eq compile policy raw, decision_eq compile policy (canonical _),
      tokensDecision_congr hcommand hargs, hcommand, hraw]
    simp only [hempty, false_or]
    exact ite_denied_eq_iff

/-!
## Spellings of one command
-/

def handsOver (compile : RegExpCompiler) (policy : CommandPolicy) (timestamp raw : String) :
    Option (String × List String) :=
  (commandToRun compile timestamp raw policy).toOption

/-- The two texts get one decision, which is that of their canonical spelling, and neither is
executed where a denied pattern matches that spelling. -/
structure DecidedAlike (compile : RegExpCompiler) (policy : CommandPolicy)
    (raw₁ raw₂ : String) : Prop where
  alike : decision compile policy raw₁ = decision compile policy raw₂
  asCanonical : decision compile policy raw₁ =
    decision compile policy (canonical (parseCommandString raw₁))
  notExecuted : (matchingDenied policy (canonical (parseCommandString raw₁))).isSome = true ->
    forall timestamp, handsOver compile policy timestamp raw₁ = none ∧
      handsOver compile policy timestamp raw₂ = none

theorem handsOver_of_not_allowed {timestamp : String}
    (h : decision compile policy raw ≠ .ok true) :
    handsOver compile policy timestamp raw = none := by
  unfold handsOver commandToRun
  unfold decision at h
  cases heval : evaluateCommandPolicy compile raw policy with
  | error e =>
      rfl
  | ok evaluation =>
      rw [heval] at h
      have hallowed : evaluation.allowed ≠ true := by
        intro hallowed
        apply h
        simp [Except.map, hallowed]
      simp [hallowed, Except.toOption]

theorem decision_of_denied (compile : RegExpCompiler)
    (h : (matchingDenied policy (canonical (parseCommandString raw))).isSome = true) :
    decision compile policy (canonical (parseCommandString raw)) ≠ .ok true := by
  by_cases hempty : (parseCommandString raw).command = ""
  · rw [canonical_of_empty hempty, decision_empty]
    simp
  · have hraw := congrArg ParsedCommand.raw (parse_canonical hempty)
    dsimp only at hraw
    rw [decision_eq, if_pos (Or.inr _)]
    · simp
    · rw [hraw]
      simp [textDenied, h]

/-- Two texts with the same tokens are decided alike exactly if the spacing of both is
irrelevant: the tokens are denied anyway, or operators and denied patterns find in the text
what they find in the canonical spelling. -/
theorem decided_alike_iff (compile : RegExpCompiler) (policy : CommandPolicy)
    (raw₁ raw₂ : String) (hsame : SameTokens raw₁ raw₂) :
    DecidedAlike compile policy raw₁ raw₂ <->
      SpacingIrrelevant compile policy raw₁ ∧ SpacingIrrelevant compile policy raw₂ := by
  rw [← decision_canonical_iff, ← decision_canonical_iff, ← hsame.canonical_eq]
  constructor
  · intro h
    exact ⟨h.asCanonical, h.alike.symm.trans h.asCanonical⟩
  · intro h
    rcases h with ⟨hfirst, hsecond⟩
    refine ⟨hfirst.trans hsecond.symm, hfirst, ?_⟩
    intro hdenied timestamp
    have hnot := decision_of_denied compile hdenied
    constructor
    · apply handsOver_of_not_allowed
      rw [hfirst]
      exact hnot
    · apply handsOver_of_not_allowed
      rw [hsecond]
      exact hnot

def noSudo : CommandPolicy where
  mode := .denylist
  allowedCommands := []
  deniedPatterns := [{ pattern := "sudo *", reason := "no superuser" }]
  forbiddenArgPatterns := []
  allowShellOperators := false
  onViolation := .failRun

def noRegExp : RegExpCompiler :=
  fun _ => none

theorem decided_alike_listing :
    DecidedAlike noRegExp noSudo "ls  -l" "ls -l" <->
      SpacingIrrelevant noRegExp noSudo "ls  -l" ∧ SpacingIrrelevant noRegExp noSudo "ls -l" :=
  decided_alike_iff noRegExp noSudo "ls  -l" "ls -l" ⟨by decide +kernel, by decide +kernel⟩

/-- With a tab in place of a space, a denied command is allowed and executed. -/
theorem tab_evades_pattern :
    SameTokens "sudo\treboot" "sudo reboot" ∧
      decision noRegExp noSudo "sudo reboot" = .ok false ∧
      decision noRegExp noSudo "sudo\treboot" = .ok true ∧
      handsOver noRegExp noSudo "2026-01-01T00:00:00Z" "sudo\treboot" =
        some ("sudo", ["reboot"]) ∧
      ¬ DecidedAlike noRegExp noSudo "sudo\treboot" "sudo reboot" := by
  have hdenied : decision noRegExp noSudo "sudo reboot" = .ok false := by
    decide +kernel
  have hallowed : decision noRegExp noSudo "sudo\treboot" = .ok true := by
    decide +kernel
  refine ⟨⟨by decide +kernel, by decide +kernel⟩, hdenied, hallowed, by decide +kernel, ?_⟩
  intro h
  have halike := h.alike
  rw [hdenied, hallowed] at halike
  cases halike

/-!
## Shell operators
-/

/-- What has no white space occurs in a text exactly if it does in the trimmed one. -/
theorem infix_trim {part text : List Char} (hne : part ≠ [])
    (hfree : forall c, c ∈ part -> isSpace c = false) (h : part <:+: text) :
    part <:+: trim text := by
  have hbegin : part <:+: text.dropWhile isSpace := infix_dropWhile hne hfree h
  have hend : part.reverse <:+: ((text.dropWhile isSpace).reverse).dropWhile isSpace := by
    apply infix_dropWhile
    · simpa using hne
    · intro c hc
      exact hfree c (List.mem_reverse.mp hc)
    · exact List.reverse_infix.mpr hbegin
  rw [← List.reverse_infix, trim, List.reverse_reverse]
  exact hend

theorem operator_has_no_space {op : String} (h : op ∈ ["&&", "||", "$(", "`", ";"]) :
    op ∈ shellOperators ∧ op.toList ≠ [] ∧ op.toList.any isSpace = false := by
  simp only [List.mem_cons, List.not_mem_nil, or_false] at h
  rcases h with rfl | rfl | rfl | rfl | rfl <;> decide

/-- A policy without shell operators allows a command only if its text holds none of the
operators "&&", "||", "$(", "`" and ";" anywhere, and no pipe between two spaces. -/
theorem allowed_has_no_operator (compile : RegExpCompiler) {policy : CommandPolicy}
    {raw : String} {evaluation : CommandPolicyEvaluation}
    (hpolicy : policy.allowShellOperators = false)
    (h : evaluateCommandPolicy compile raw policy = .ok evaluation)
    (hallowed : evaluation.allowed = true) :
    (forall op, op ∈ ["&&", "||", "$(", "`", ";"] -> ¬ op.toList <:+: raw.toList) ∧
      ¬ " | ".toList <:+: trim raw.toList := by
  have hdecision : decision compile policy raw = .ok true := by
    unfold decision
    rw [h]
    simp [Except.map, hallowed]
  have hnone : containsShellOperators (parseCommandString raw).raw = false := by
    rw [decision_eq] at hdecision
    split at hdecision
    · cases hdecision
    · rename_i hnot
      rw [not_or] at hnot
      have htext := hnot.2
      unfold textDenied at htext
      rw [hpolicy] at htext
      simp only [Bool.not_false, Bool.true_and, Bool.or_eq_true, not_or] at htext
      exact Bool.eq_false_iff.mpr htext.1
  have habsent : forall op, op ∈ shellOperators -> ¬ op.toList <:+: trim raw.toList := by
    intro op hop hinfix
    have hall := List.any_eq_false.mp hnone op hop
    apply hall
    rw [includes_iff, parseCommandString_raw, String.toList_ofList]
    exact hinfix
  constructor
  · intro op hop hinfix
    rcases operator_has_no_space hop with ⟨hmem, hne, hfree⟩
    refine habsent op hmem (infix_trim hne ?_ hinfix)
    intro c hc
    exact Bool.eq_false_iff.mpr (List.any_eq_false.mp hfree c hc)
  · exact habsent " | " (by decide)

theorem allowed_has_no_operator_listing :
    (forall op, op ∈ ["&&", "||", "$(", "`", ";"] -> ¬ op.toList <:+: "ls  -l".toList) ∧
      ¬ " | ".toList <:+: trim "ls  -l".toList := by
  have heval : evaluateCommandPolicy noRegExp "ls  -l" noSudo =
      .ok
        { allowed := true
          explanation := "Command \"ls  -l\" is allowed by policy."
          parsed := { command := "ls", args := ["-l"], raw := "ls  -l" } } := by
    decide +kernel
  exact allowed_has_no_operator noRegExp rfl heval rfl

/-- A pipe without its spaces, a redirection and a second line are allowed. -/
theorem operators_allowed :
    ¬ (forall (compile : RegExpCompiler) (policy : CommandPolicy) (raw : String),
      policy.allowShellOperators = false -> decision compile policy raw = .ok true ->
      forall op, op ∈ ["|", ";", "&&", "||", "<", ">", "$(", "`", "\n"] ->
        ¬ op.toList <:+: raw.toList) ∧
    decision noRegExp noSudo "cat notes|sh" = .ok true ∧
    decision noRegExp noSudo "cat notes > /etc/hosts" = .ok true ∧
    decision noRegExp noSudo "cat notes\nreboot" = .ok true := by
  have hpipe : decision noRegExp noSudo "cat notes|sh" = .ok true := by
    decide +kernel
  refine ⟨?_, hpipe, by decide +kernel, by decide +kernel⟩
  intro h
  exact h noRegExp noSudo "cat notes|sh" rfl hpipe "|" (by decide) (by decide +kernel)

end Policies
end CopilotFactory
