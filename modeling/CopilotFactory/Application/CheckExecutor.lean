import CopilotFactory.Application.ValidationRunner
import CopilotFactory.Policies.CommandPolicy
import Mathlib.Algebra.GroupWithZero.Nat

/-!
# Check executor

A check is executed as a command under the command policy.  The runner of processes turns
the error of `execFile` into an exit code, and the executor turns what the command throws
into the status of the check.
-/

namespace CopilotFactory
namespace Application

open Foundations
open Infrastructure
open Policies

/-!
## Processes
-/

/-- How a process that was asked for has come to its end.  `killed` says that `execFile` has
sent a signal because the time was up. -/
inductive ProcessEnd where
  | exited (code : Nat) (killed : Bool)
  | signalled (killed : Bool)
  /-- It wrote more than it may.  It is sent a signal then, and may still exit by itself. -/
  | oversized (code : Option Nat)
  /-- It was to be killed, and the operating system refused with the name of an error. -/
  | unkilled (code : String)
  /-- The operating system did not start it, which it reports with the name of an error. -/
  | unstarted (code : String)
deriving DecidableEq

structure ProcessEnding where
  ending : ProcessEnd
  stdout : String
  stderr : String
deriving DecidableEq

inductive ErrorCode where
  | number (code : Nat)
  | name (code : String)
deriving DecidableEq

structure ExecFileError where
  code : Option ErrorCode
  killed : Bool
deriving DecidableEq

/-- The error that the callback of `execFile` gets. -/
def ProcessEnd.error : ProcessEnd -> Option ExecFileError
  | .exited 0 _ => none
  | .exited code killed => some { code := some (.number code), killed := killed }
  | .signalled killed => some { code := none, killed := killed }
  | .oversized _ =>
      some { code := some (.name "ERR_CHILD_PROCESS_STDIO_MAXBUFFER"), killed := false }
  | .unkilled code => some { code := some (.name code), killed := false }
  | .unstarted code => some { code := some (.name code), killed := false }

def ExecFileError.exitCode (error : ExecFileError) : Option Int :=
  match error.code with
  | some (.number code) => some code
  | _ => if error.killed then none else some 1

def defaultProcessRunner (process : ProcessEnding) : ProcessResult where
  exitCode :=
    match process.ending.error with
    | some error => error.exitCode
    | none => some 0
  stdout := process.stdout
  stderr := process.stderr

/-- The machine on which checks are executed.  Where `execFile` refuses its arguments, it
throws an error with a message. -/
structure Machine (σ : Type) where
  compile : RegExpCompiler
  syntaxMessage : String -> String
  timestamp : σ -> String
  /-- What the timer of a check shows when it is read. -/
  durationMs : σ -> Nat
  execFile : String -> List String -> CommandExecutionOptions -> σ ->
    Except String ProcessEnding × σ

/-!
## Execution
-/

structure CheckExecutorConfig where
  timeoutMs : Option Nat := none
  maxOutputBytes : Option Nat := none
  maxOutputChars : Option Nat := none

def defaultMaxOutputChars : Nat :=
  50000

def CheckExecutorConfig.executionOptions (config : CheckExecutorConfig)
    (workspacePath : String) : CommandExecutionOptions where
  cwd := some workspacePath
  timeoutMs := config.timeoutMs.getD 300000
  maxOutputBytes := config.maxOutputBytes.getD 10485760

def unitsOfChar (c : Char) : Nat :=
  if c.toNat < 0x10000 then 1 else 2

/-- The first code units of a text.  Half a pair is shown as a replacement character. -/
def sliceUnits : Nat -> List Char -> List Char
  | _, [] => []
  | 0, _ => []
  | n + 1, c :: rest =>
      if unitsOfChar c ≤ n + 1 then c :: sliceUnits (n + 1 - unitsOfChar c) rest
      else ['\uFFFD']

def combineOutput (stdout stderr : String) (maxChars : Nat) : String :=
  let combined := stdout ++
    if stderr = "" then "" else (if stdout = "" then "" else "\n--- stderr ---\n") ++ stderr
  if (combined.toList.map unitsOfChar).sum ≤ maxChars then
    combined
  else
    String.ofList (sliceUnits maxChars combined.toList) ++
      s!"\n... [truncated at {maxChars} chars]"

inductive CommandFailure where
  | command (error : CommandError)
  | thrown (message : String)
deriving DecidableEq

section

variable {σ : Type} (machine : Machine σ) (policy : CommandPolicy)
  (config : CheckExecutorConfig)

def executeCommandOn (options : CommandExecutionOptions) (command : String) (s : σ) :
    Except CommandFailure CommandExecutionResult × σ :=
  match commandToRun machine.compile (machine.timestamp s) command policy with
  | .error e => (.error (.command e), s)
  | .ok (binary, args) =>
      let (process, s') := machine.execFile binary args options s
      match process with
      | .error message => (.error (.thrown message), s')
      | .ok process =>
          ((executeCommand machine.compile (fun _ _ _ => defaultProcessRunner process)
            (machine.timestamp s) (machine.durationMs s') command policy options).mapError
              .command, s')

def failedWith (params : ExecuteCheckParams) (durationMs : Nat) (maxOutputChars : Nat) :
    CommandFailure -> CheckExecutionResult
  | .command (.commandExecution _ _ exitCode stdout stderr) =>
      let output := combineOutput stdout stderr maxOutputChars
      let exitInfo := match exitCode with
        | some code => s!"exit code {code}"
        | none => "killed by signal (possible timeout)"
      { checkName := params.checkName
        command := params.command
        status := .failed
        durationMs := durationMs
        output := if output = "" then none else some output
        errorMessage := some s!"Check \"{params.checkName}\" failed with {exitInfo}" }
  | .command (.policyViolation evaluation _) =>
      { checkName := params.checkName
        command := params.command
        status := .error
        durationMs := durationMs
        errorMessage := some s!"Policy violation: {evaluation.explanation}" }
  | .command (.evaluation (.syntaxError pattern)) =>
      unexpected (machine.syntaxMessage pattern)
  | .thrown message => unexpected message
where
  unexpected (message : String) : CheckExecutionResult :=
    { checkName := params.checkName
      command := params.command
      status := .error
      durationMs := durationMs
      errorMessage :=
        some s!"Unexpected error executing check \"{params.checkName}\": {message}" }

def createCheckExecutor : CheckExecutorPort σ := fun params s =>
  let maxOutputChars := config.maxOutputChars.getD defaultMaxOutputChars
  match params.command with
  | .inherited =>
      (failedWith machine params (machine.durationMs s) maxOutputChars
        (.thrown "raw.trim is not a function"), s)
  | .text command =>
      let (executed, s') :=
        executeCommandOn machine policy (config.executionOptions params.workspacePath) command s
      match executed with
      | .error failure =>
          (failedWith machine params (machine.durationMs s') maxOutputChars failure, s')
      | .ok result =>
          let output := combineOutput result.stdout result.stderr maxOutputChars
          ({ checkName := params.checkName
             command := params.command
             status := .passed
             durationMs := machine.durationMs s'
             output := if output = "" then none else some output }, s')

/-!
## Verdicts
-/

/-- The process that executing a command comes to, if the policy lets it come to one. -/
def processOf (options : CommandExecutionOptions) (command : String) (s : σ) :
    Option (Except String ProcessEnding) :=
  match commandToRun machine.compile (machine.timestamp s) command policy with
  | .error _ => none
  | .ok (binary, args) => some (machine.execFile binary args options s).1

def processOfCheck (workspacePath : String) (check : PlannedCheck) (s : σ) :
    Option (Except String ProcessEnding) :=
  match check.command with
  | .own command => processOf machine policy (config.executionOptions workspacePath) command s
  | _ => none

end

/-- The process ran, and it exited with a code other than zero or was killed. -/
def ProcessEnd.RanInVain : ProcessEnd -> Prop
  | .exited code _ => code ≠ 0
  | .signalled _ => True
  | .oversized code => code ≠ some 0
  | .unkilled _ => False
  | .unstarted _ => False

/-- `execFile` reports an error, but the process did not start, was not killed, or exited with
zero after it had written too much. -/
def ProcessEnd.Belied : ProcessEnd -> Prop
  | .oversized code => code = some 0
  | .unkilled _ => True
  | .unstarted _ => True
  | _ => False

/-- The policy denied the command, or it could not be started. -/
def NeverRan (process : Option (Except String ProcessEnding)) : Prop :=
  forall p, process = some (.ok p) -> exists code, p.ending = .unstarted code

structure Judged (process : Option (Except String ProcessEnding)) (status : CheckStatus) :
    Prop where
  passed : status = .passed -> exists p killed, process = some (.ok p) ∧
    p.ending = .exited 0 killed
  failed : status = .failed -> exists p, process = some (.ok p) ∧ p.ending.RanInVain
  error : status = .error <-> NeverRan process

def statusOf : Option (Except String ProcessEnding) -> CheckStatus
  | some (.ok p) => if (defaultProcessRunner p).exitCode = some 0 then .passed else .failed
  | _ => .error

theorem exitCode_eq_zero {p : ProcessEnding} :
    (defaultProcessRunner p).exitCode = some 0 <-> exists killed, p.ending = .exited 0 killed := by
  unfold defaultProcessRunner
  cases hending : p.ending with
  | exited code killed =>
      cases code with
      | zero =>
          exact ⟨fun _ => ⟨killed, rfl⟩, fun _ => rfl⟩
      | succ code =>
          simp [ProcessEnd.error, ExecFileError.exitCode]
          omega
  | signalled killed =>
      cases killed <;> simp [ProcessEnd.error, ExecFileError.exitCode]
  | oversized code =>
      simp [ProcessEnd.error, ExecFileError.exitCode]
  | unkilled code =>
      simp [ProcessEnd.error, ExecFileError.exitCode]
  | unstarted code =>
      simp [ProcessEnd.error, ExecFileError.exitCode]

theorem not_exited_of_belied {ending : ProcessEnd} (h : ending.Belied) (killed : Bool) :
    ending ≠ .exited 0 killed := by
  rintro rfl
  exact h

theorem not_ranInVain_of_belied {ending : ProcessEnd} (h : ending.Belied) :
    ¬ ending.RanInVain := by
  intro hvain
  cases ending with
  | exited code killed =>
      exact h
  | signalled killed =>
      exact h
  | oversized code =>
      exact hvain h
  | unkilled code =>
      exact hvain
  | unstarted code =>
      exact hvain

theorem ranInVain_of_not_belied {ending : ProcessEnd} (h : ¬ ending.Belied)
    (hexited : forall killed, ending ≠ .exited 0 killed) : ending.RanInVain := by
  cases ending with
  | exited code killed =>
      rintro rfl
      exact hexited killed rfl
  | signalled killed =>
      trivial
  | oversized code =>
      exact h
  | unkilled code =>
      exact h trivial
  | unstarted code =>
      exact h trivial

/-- A process whose end is belied counts as one that failed, and nothing else is judged
wrongly. -/
theorem judged_iff (process : Option (Except String ProcessEnding)) :
    Judged process (statusOf process) <->
      forall p, process = some (.ok p) -> ¬ p.ending.Belied := by
  constructor
  · rintro ⟨_, hfailed, _⟩ p hprocess hbelied
    rw [hprocess] at hfailed
    have hcode : (defaultProcessRunner p).exitCode ≠ some 0 := by
      rw [Ne, exitCode_eq_zero]
      rintro ⟨killed, hexited⟩
      exact not_exited_of_belied hbelied killed hexited
    rcases hfailed (if_neg hcode) with ⟨p', hp', hvain⟩
    cases hp'
    exact not_ranInVain_of_belied hbelied hvain
  · intro h
    match process with
    | none =>
        exact ⟨nofun, nofun, ⟨fun _ _ hp => (Option.some_ne_none _ hp.symm).elim, fun _ => rfl⟩⟩
    | some (.error message) =>
        refine ⟨nofun, nofun, ⟨fun _ p hp => ?_, fun _ => rfl⟩⟩
        cases hp
    | some (.ok p) =>
        have hran : ¬ NeverRan (some (.ok p)) := by
          intro hnever
          rcases hnever p rfl with ⟨code, hcode⟩
          apply h p rfl
          rw [hcode]
          trivial
        by_cases hzero : (defaultProcessRunner p).exitCode = some 0
        · have hstatus : statusOf (some (.ok p)) = .passed := if_pos hzero
          rcases exitCode_eq_zero.mp hzero with ⟨killed, hkilled⟩
          rw [hstatus]
          exact ⟨fun _ => ⟨p, killed, rfl, hkilled⟩, nofun,
            ⟨nofun, fun hnever => absurd hnever hran⟩⟩
        · have hstatus : statusOf (some (.ok p)) = .failed := if_neg hzero
          have hvain : p.ending.RanInVain :=
            ranInVain_of_not_belied (h p rfl) fun killed hexited =>
              hzero (exitCode_eq_zero.mpr ⟨killed, hexited⟩)
          rw [hstatus]
          exact ⟨nofun, fun _ => ⟨p, rfl, hvain⟩, ⟨nofun, fun hnever => absurd hnever hran⟩⟩

section

variable {σ : Type} (machine : Machine σ) (policy : CommandPolicy)
  (config : CheckExecutorConfig)

theorem failedWith_not_run {timestamp command : String} {e : CommandError}
    (h : commandToRun machine.compile timestamp command policy = .error e)
    (params : ExecuteCheckParams) (durationMs maxOutputChars : Nat) :
    (failedWith machine params durationMs maxOutputChars (.command e)).status = .error := by
  unfold commandToRun at h
  split at h
  · rename_i error _
    cases h
    cases error
    rfl
  · split at h
    · cases h
    · cases h
      rfl

/-- The status of an executed check depends on the process alone. -/
theorem status_createCheckExecutor {params : ExecuteCheckParams} {command : String}
    (hcommand : params.command = .text command) (s : σ) :
    (createCheckExecutor machine policy config params s).1.status =
      statusOf (processOf machine policy (config.executionOptions params.workspacePath) command
        s) := by
  unfold createCheckExecutor processOf executeCommandOn
  rw [hcommand]
  dsimp only
  cases hrun : commandToRun machine.compile (machine.timestamp s) command policy with
  | error e =>
      exact failedWith_not_run machine policy hrun _ _ _
  | ok handed =>
      dsimp only
      cases hprocess : (machine.execFile handed.1 handed.2
          (config.executionOptions params.workspacePath) s).1 with
      | error message =>
          rfl
      | ok process =>
          unfold executeCommand statusOf
          rw [hrun]
          dsimp only [Bind.bind, Except.bind]
          by_cases hzero : (defaultProcessRunner process).exitCode = some 0
          · rw [if_pos hzero, if_pos hzero]
            rfl
          · rw [if_neg hzero, if_neg hzero]
            rfl

def logged (executor : CheckExecutorPort σ) : CheckExecutorPort (σ × List ExecuteCheckParams) :=
  fun params s => ((executor params s.1).1, ((executor params s.1).2, s.2 ++ [params]))

theorem runCheck_of_params (executor : CheckExecutorPort σ) (profileName : String)
    {workspacePath : String} {check : PlannedCheck} {params : ExecuteCheckParams}
    (h : check.params workspacePath = some params) (s : σ) :
    runCheck executor profileName workspacePath check s =
      ({ (executor params s).1 with category := check.category }, (executor params s).2) := by
  unfold runCheck
  rw [h]

theorem judged_runCheck (profileName workspacePath : String) {check : PlannedCheck}
    (hcommand : check.command ≠ .missing) (s : σ) :
    (runCheck (createCheckExecutor machine policy config) profileName workspacePath check
        s).1.status =
      statusOf (processOfCheck machine policy config workspacePath check s) := by
  unfold processOfCheck
  cases hvalue : check.command with
  | own command =>
      have hparams : check.params workspacePath =
          some ⟨check.checkName, .text command, workspacePath⟩ := by
        unfold PlannedCheck.params
        rw [hvalue]
      have hstatus := @status_createCheckExecutor σ machine policy config
        ⟨check.checkName, .text command, workspacePath⟩ command rfl s
      rw [runCheck_of_params _ _ hparams, <- hstatus]
  | inherited =>
      have hparams : check.params workspacePath =
          some ⟨check.checkName, .inherited, workspacePath⟩ := by
        unfold PlannedCheck.params
        rw [hvalue]
      rw [runCheck_of_params _ _ hparams]
      rfl
  | missing =>
      exact absurd hvalue hcommand

theorem checkName_failedWith (params : ExecuteCheckParams) (durationMs maxOutputChars : Nat)
    (failure : CommandFailure) :
    (failedWith machine params durationMs maxOutputChars failure).checkName =
      params.checkName := by
  unfold failedWith
  split <;> rfl

theorem checkName_createCheckExecutor (params : ExecuteCheckParams) (s : σ) :
    (createCheckExecutor machine policy config params s).1.checkName = params.checkName := by
  unfold createCheckExecutor
  split
  · exact checkName_failedWith machine _ _ _ _
  · dsimp only
    split
    · exact checkName_failedWith machine _ _ _ _
    · rfl

theorem checkName_runCheck (profileName workspacePath : String) (check : PlannedCheck) (s : σ) :
    (runCheck (createCheckExecutor machine policy config) profileName workspacePath check
        s).1.checkName = check.checkName := by
  unfold runCheck
  split
  · rfl
  · rename_i params hparams
    rw [checkName_createCheckExecutor]
    unfold PlannedCheck.params at hparams
    split at hparams <;> cases hparams <;> rfl

theorem category_runCheck (executor : CheckExecutorPort σ) (profileName workspacePath : String)
    (check : PlannedCheck) (s : σ) :
    (runCheck executor profileName workspacePath check s).1.category = check.category := by
  unfold runCheck
  split <;> rfl

/-!
## The verdict of a run
-/

variable (now : σ -> Millis) (params : RunValidationParams) (profile : ValidationProfile)

def checksTakenUp (s : σ) : List (PlannedCheck × σ) :=
  takenUp (runCheck (createCheckExecutor machine policy config) params.profileName
    params.workspacePath) (plannedChecks profile) s

structure ReportedRightly (taken : PlannedCheck × σ) (outcome : CheckOutcome) : Prop where
  checkName : outcome.checkName = taken.1.checkName
  category : outcome.category = taken.1.category
  skipped : taken.1.command = .missing -> outcome.status = .skipped
  judged : taken.1.command ≠ .missing ->
    Judged (processOfCheck machine policy config params.workspacePath taken.1 taken.2)
      outcome.status

/-- Two runs in which the required checks come out alike. -/
def SameRequired (run run' : ValidationRun) : Prop :=
  (ofCategory .required run.checkOutcomes).map (fun outcome => outcome.status) =
    (ofCategory .required run'.checkOutcomes).map (fun outcome => outcome.status)

structure RightVerdict (s : σ) (run : ValidationRun) : Prop where
  executed : exists logs s', runValidation (logged (createCheckExecutor machine policy config))
      (fun s => now s.1) params (s, []) = .ok (logs, s') ∧
    s'.2 = (plannedChecks profile).filterMap (fun check => check.params params.workspacePath)
  reported : List.Forall₂ (ReportedRightly machine policy config params)
    (checksTakenUp machine policy config params profile s) run.checkOutcomes
  overall : run.overallStatus = .passed <->
    forall outcome, outcome ∈ run.checkOutcomes -> outcome.category = .required ->
      outcome.status = .passed ∨
        outcome.status = .skipped ∧ profile.failOnSkippedRequiredCheck = false
  optionalIrrelevant : forall {τ : Type} (executor : CheckExecutorPort τ) now' t run' t',
    runValidation executor now' params t = .ok (run', t') -> SameRequired run run' ->
      run'.overallStatus = run.overallStatus ∧
        run'.requiredPassedCount = run.requiredPassedCount ∧
        run'.requiredFailedCount = run.requiredFailedCount

theorem sameRequired_report {run run' : ValidationRun} (h : SameRequired run run')
    (p : CheckStatus -> Bool) :
    (ofCategory .required run.checkOutcomes).countP (fun outcome => p outcome.status) =
      (ofCategory .required run'.checkOutcomes).countP (fun outcome => p outcome.status) := by
  have hcount := congrArg (List.countP p) h
  rw [List.countP_map, List.countP_map] at hcount
  exact hcount

theorem optional_irrelevant {outcomes outcomes' : List CheckOutcome} {duration duration' : Millis}
    (h : SameRequired (validationReport params profile outcomes duration)
      (validationReport params profile outcomes' duration')) :
    (validationReport params profile outcomes' duration').overallStatus =
        (validationReport params profile outcomes duration).overallStatus ∧
      (validationReport params profile outcomes' duration').requiredPassedCount =
        (validationReport params profile outcomes duration).requiredPassedCount ∧
      (validationReport params profile outcomes' duration').requiredFailedCount =
        (validationReport params profile outcomes duration).requiredFailedCount := by
  have hpassed := sameRequired_report h (fun status => status = .passed)
  have hskipped := sameRequired_report h (fun status => status = .skipped)
  have hfailed := sameRequired_report h (fun status => status = .failed ∨ status = .error)
  refine ⟨?_, hpassed.symm, hfailed.symm⟩
  exact (congrArg₂ (fun failed skipped => computeOverallStatus failed skipped
    profile.failOnSkippedRequiredCheck) hfailed hskipped).symm

/-- Every check that has a command is executed once for each time that it is listed. -/
theorem calls_runValidation (executor : CheckExecutorPort σ)
    (hprofile : params.validationPolicy.profiles.lookup params.profileName = some profile)
    (s : σ) :
    exists run s', runValidation (logged executor) (fun s => now s.1) params (s, []) =
        .ok (run, s') ∧
      s'.2 = (plannedChecks profile).filterMap
        (fun check => check.params params.workspacePath) := by
  rw [runValidation_of_lookup _ _ hprofile]
  refine ⟨_, _, rfl, ?_⟩
  have hlog : forall check t, (runCheck (logged executor) params.profileName
      params.workspacePath check t).2.2 =
        t.2 ++ (check.params params.workspacePath).toList := by
    intro check t
    unfold runCheck
    cases check.params params.workspacePath with
    | none =>
        exact (List.append_nil t.2).symm
    | some call =>
        rfl
  exact log_collectOver _ hlog _ _

theorem reported_iff (taken : PlannedCheck × σ) :
    ReportedRightly machine policy config params taken
        (runCheck (createCheckExecutor machine policy config) params.profileName
          params.workspacePath taken.1 taken.2).1 <->
      forall p, processOfCheck machine policy config params.workspacePath taken.1
        taken.2 = some (.ok p) -> ¬ p.ending.Belied := by
  by_cases hcommand : taken.1.command = .missing
  · have hnone : processOfCheck machine policy config params.workspacePath taken.1 taken.2 =
        none := by
      unfold processOfCheck
      rw [hcommand]
    have hskipped : (runCheck (createCheckExecutor machine policy config) params.profileName
        params.workspacePath taken.1 taken.2).1.status = .skipped := by
      unfold runCheck PlannedCheck.params
      rw [hcommand]
      rfl
    rw [hnone]
    exact ⟨fun _ _ hp => (Option.some_ne_none _ hp.symm).elim, fun _ =>
      ⟨checkName_runCheck machine policy config _ _ _ _, category_runCheck _ _ _ _ _,
        fun _ => hskipped, fun hpresent => absurd hcommand hpresent⟩⟩
  · rw [<- judged_iff, <- judged_runCheck machine policy config params.profileName _ hcommand]
    exact ⟨fun h => h.judged hcommand, fun h =>
      ⟨checkName_runCheck machine policy config _ _ _ _, category_runCheck _ _ _ _ _,
        fun hmissing => absurd hmissing hcommand, fun _ => h⟩⟩

theorem not_belied_of_rightVerdict
    (hprofile : params.validationPolicy.profiles.lookup params.profileName = some profile)
    {s s' : σ} {run : ValidationRun}
    (hrun : runValidation (createCheckExecutor machine policy config) now params s =
      .ok (run, s'))
    (hright : RightVerdict machine policy config now params profile s run)
    {taken : PlannedCheck × σ}
    (htaken : taken ∈ checksTakenUp machine policy config params profile s) :
    forall p, processOfCheck machine policy config params.workspacePath taken.1
      taken.2 = some (.ok p) -> ¬ p.ending.Belied := by
  rw [runValidation_of_lookup _ _ hprofile] at hrun
  cases hrun
  have hreported := hright.reported
  rw [validationReport, collectOver_fst, checksTakenUp, List.forall₂_map_right_iff,
    List.forall₂_same] at hreported
  exact (reported_iff machine policy config params taken).mp (hreported taken htaken)

end

def machineEnding (ending : ProcessEnd) : Machine Unit where
  compile := fun _ => none
  syntaxMessage := fun pattern => pattern
  timestamp := fun _ => ""
  durationMs := fun _ => 5
  execFile := fun _ _ _ s => (.ok { ending := ending, stdout := "", stderr := "" }, s)

def permissivePolicy : CommandPolicy where
  mode := .denylist
  allowedCommands := []
  deniedPatterns := []
  forbiddenArgPatterns := []
  allowShellOperators := false
  onViolation := .denyCommand

def defaultDevParams : RunValidationParams where
  taskId := "task-1"
  profileName := defaultDevProfileName
  validationPolicy := createDefaultValidationPolicy
  workspacePath := "/workspaces/task-1"

end Application
end CopilotFactory
