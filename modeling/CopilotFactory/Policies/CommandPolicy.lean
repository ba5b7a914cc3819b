import CopilotFactory.Foundations.Texts
import CopilotFactory.Foundations.Result
import CopilotFactory.Foundations.Words

/-!
# Command policy

What workers may execute.  A command is a text that is split at its white space; the
shell operators and the denied patterns are looked for in the text, the allowlist and the
forbidden arguments in the tokens, and the tokens are what is executed.
-/

namespace CopilotFactory
namespace Policies

open Foundations

inductive CommandPolicyMode where
  | allowlist
  | denylist
deriving DecidableEq

inductive CommandViolationAction where
  | failRun
  | denyCommand
  | auditOnly
deriving DecidableEq

structure AllowedCommand where
  command : String
  argPrefixes : List String
deriving DecidableEq

structure DeniedPattern where
  pattern : String
  reason : String
deriving DecidableEq

structure ForbiddenArgPattern where
  pattern : String
  reason : String
deriving DecidableEq

structure CommandPolicy where
  mode : CommandPolicyMode
  allowedCommands : List AllowedCommand
  deniedPatterns : List DeniedPattern
  forbiddenArgPatterns : List ForbiddenArgPattern
  allowShellOperators : Bool
  onViolation : CommandViolationAction
deriving DecidableEq

structure ParsedCommand where
  command : String
  args : List String
  raw : String
deriving DecidableEq

inductive CommandViolationReason where
  | notInAllowlist
  | argPrefixNotAllowed
  | matchesDeniedPattern
  | forbiddenArgPattern
  | shellOperatorsDenied
  | invalidCommand
deriving DecidableEq

structure CommandPolicyEvaluation where
  allowed : Bool
  reason : Option CommandViolationReason := none
  explanation : String
  action : Option CommandViolationAction := none
  parsed : ParsedCommand
deriving DecidableEq

/-!
## Reading a command
-/

/-- The operators that are looked for as parts of the text.  The pipe has its spaces, not
to be found in file paths. -/
def shellOperators : List String :=
  ["&&", "||", "$(", "`", " | ", ";"]

def containsShellOperators (raw : String) : Bool :=
  shellOperators.any (fun op => includes raw op)

def parseCommandString (raw : String) : ParsedCommand :=
  let trimmed := String.ofList (trim raw.toList)
  match (words isSpace trimmed.toList).map String.ofList with
  | [] => { command := "", args := [], raw := trimmed }
  | command :: args => { command := command, args := args, raw := trimmed }

/-- The characters that a dot of a regular expression does not match. -/
def isLineTerminator (c : Char) : Bool :=
  c.toNat ∈ [0x0A, 0x0D, 0x2028, 0x2029]

/-- What is left of a text after a wildcard has matched its beginning. -/
def afterWildcard : List Char -> List (List Char)
  | [] => [[]]
  | c :: rest => (c :: rest) :: if isLineTerminator c then [] else afterWildcard rest

def globMatchChars : List Char -> List Char -> Bool
  | [], text => text.isEmpty
  | '*' :: pattern, text => (afterWildcard text).any (globMatchChars pattern)
  | c :: pattern, text =>
      match text with
      | [] => false
      | d :: rest => c = d && globMatchChars pattern rest

/-- The whole text matches the pattern, in which a star stands for any characters of one
line and all others for themselves. -/
def globMatch (text pattern : String) : Bool :=
  globMatchChars pattern.toList text.toList

/-!
## Evaluation

A regular expression is compiled when it is needed, and one that is invalid throws.
-/

inductive PolicyError where
  | syntaxError (pattern : String)
deriving DecidableEq

abbrev RegExpCompiler :=
  String -> Option (String -> Bool)

def deny (policy : CommandPolicy) (parsed : ParsedCommand) (reason : CommandViolationReason)
    (explanation : String) : CommandPolicyEvaluation where
  allowed := false
  reason := some reason
  explanation := explanation
  action := some policy.onViolation
  parsed := parsed

def matchingDenied (policy : CommandPolicy) (raw : String) : Option DeniedPattern :=
  policy.deniedPatterns.find? (fun denied => globMatch raw denied.pattern)

def allowlistViolation (policy : CommandPolicy) (parsed : ParsedCommand) :
    Option (CommandViolationReason × String) :=
  match policy.mode with
  | .denylist => none
  | .allowlist =>
      match policy.allowedCommands.find? (fun rule => rule.command = parsed.command) with
      | none =>
          some (.notInAllowlist, s!"Command \"{parsed.command}\" is not in the allowlist.")
      | some matchingRule =>
          match matchingRule.argPrefixes, parsed.args with
          | [], _ => none
          | _, [] => none
          | argPrefixes, firstArg :: _ =>
              if argPrefixes.any (fun argPrefix => argPrefix.toList.isPrefixOf firstArg.toList) then
                none
              else
                some (.argPrefixNotAllowed,
                  s!"Argument \"{firstArg}\" does not match any allowed " ++
                    s!"prefix for command \"{parsed.command}\". Allowed prefixes: " ++
                    ", ".intercalate argPrefixes)

def matchingForbidden (compile : RegExpCompiler) (args : List String) :
    List ForbiddenArgPattern -> Except PolicyError (Option (ForbiddenArgPattern × String))
  | [] => .ok none
  | forbidden :: rest =>
      match compile forbidden.pattern with
      | none => .error (.syntaxError forbidden.pattern)
      | some regex =>
          match args.find? regex with
          | some arg => .ok (some (forbidden, arg))
          | none => matchingForbidden compile args rest

def evaluateCommandPolicy (compile : RegExpCompiler) (rawCommand : String)
    (policy : CommandPolicy) : Except PolicyError CommandPolicyEvaluation :=
  let parsed := parseCommandString rawCommand
  if parsed.command = "" then
    .ok (deny policy parsed .invalidCommand
      "Command string is empty or contains only whitespace.")
  else if !policy.allowShellOperators && containsShellOperators parsed.raw then
    .ok (deny policy parsed .shellOperatorsDenied
      (s!"Command contains shell compound operators which are not allowed by policy: " ++
        s!"\"{parsed.raw}\""))
  else
    match matchingDenied policy parsed.raw with
    | some denied =>
        .ok (deny policy parsed .matchesDeniedPattern
          s!"Command matches denied pattern \"{denied.pattern}\": {denied.reason}")
    | none =>
        match allowlistViolation policy parsed with
        | some (reason, explanation) => .ok (deny policy parsed reason explanation)
        | none =>
            match matchingForbidden compile parsed.args policy.forbiddenArgPatterns with
            | .error e => .error e
            | .ok (some (forbidden, arg)) =>
                .ok (deny policy parsed .forbiddenArgPattern
                  (s!"Argument \"{arg}\" matches forbidden pattern " ++
                    s!"\"{forbidden.pattern}\": {forbidden.reason}"))
            | .ok none =>
                .ok
                  { allowed := true
                    explanation := s!"Command \"{parsed.raw}\" is allowed by policy."
                    parsed := parsed }

/-!
## Execution
-/

structure CommandExecutionOptions where
  cwd : Option String := none
  env : Option (List (String × String)) := none
  timeoutMs : Nat := 300000
  maxOutputBytes : Nat := 10485760
deriving DecidableEq

structure ProcessResult where
  exitCode : Option Int
  stdout : String
  stderr : String
deriving DecidableEq

structure PolicyViolationArtifact where
  timestamp : String
  rawCommand : String
  parsedCommand : String
  parsedArgs : List String
  violationReason : Option CommandViolationReason
  explanation : String
  action : Option CommandViolationAction
deriving DecidableEq

structure CommandExecutionResult where
  command : String
  args : List String
  exitCode : Int
  stdout : String
  stderr : String
  durationMs : Nat
deriving DecidableEq

inductive CommandError where
  | policyViolation (evaluation : CommandPolicyEvaluation) (artifact : PolicyViolationArtifact)
  | commandExecution (command : String) (args : List String) (exitCode : Option Int)
      (stdout stderr : String)
  | evaluation (error : PolicyError)
deriving DecidableEq

def createPolicyViolationArtifact (timestamp : String)
    (evaluation : CommandPolicyEvaluation) : PolicyViolationArtifact where
  timestamp := timestamp
  rawCommand := evaluation.parsed.raw
  parsedCommand := evaluation.parsed.command
  parsedArgs := evaluation.parsed.args
  violationReason := evaluation.reason
  explanation := evaluation.explanation
  action := evaluation.action

/-- What a process is started with, or the error that is thrown instead. -/
def commandToRun (compile : RegExpCompiler) (timestamp rawCommand : String)
    (policy : CommandPolicy) : Except CommandError (String × List String) :=
  match evaluateCommandPolicy compile rawCommand policy with
  | .error e => .error (.evaluation e)
  | .ok evaluation =>
      if evaluation.allowed then
        .ok (evaluation.parsed.command, evaluation.parsed.args)
      else
        .error (.policyViolation evaluation (createPolicyViolationArtifact timestamp evaluation))

def executeCommand (compile : RegExpCompiler)
    (runProcess : String -> List String -> CommandExecutionOptions -> ProcessResult)
    (timestamp : String) (durationMs : Nat) (rawCommand : String) (policy : CommandPolicy)
    (options : CommandExecutionOptions) : Except CommandError CommandExecutionResult := do
  let (command, args) ← commandToRun compile timestamp rawCommand policy
  let result := runProcess command args options
  if result.exitCode = some 0 then
    pure
      { command := command, args := args, exitCode := 0, stdout := result.stdout
        stderr := result.stderr, durationMs := durationMs }
  else
    .error (.commandExecution command args result.exitCode result.stdout result.stderr)

end Policies
end CopilotFactory
