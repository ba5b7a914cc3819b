import Mathlib.Data.Fintype.EquivFin
import Mathlib.Data.Finset.Dedup
import CopilotFactory.Scheduling.RecurringJobs

/-!
# Chains of recurring jobs

A chain is alive when exactly one of its jobs is not over and a later run can
still claim one.  Abstractly this job is a token: it is queued, held by the
instance whose run has claimed it, or owed by the instance that is about to
create it.  Calls move the token on as long as no run breaks off while it holds
the token, and no call looks for the token while an instance owes it.
-/

namespace CopilotFactory
namespace Scheduling

open Foundations
open Infrastructure
open Application

variable {jobType : JobType} {jobs jobs' : JobTable} {job : Job} {now : Millis} {jobId : JobId}
  {service : RecurringService} {w : Chain} {pid : InstanceId}

/-- Some run of an idle instance claims a job after some more steps. -/
def Claimable (service : RecurringService) (w : Chain) : Prop :=
  exists steps pid now,
    ((callSystem service).run w steps).phase pid = .idle ∧
      (claimJob service.jobType service.leaseOwner now
        ((callSystem service).run w steps).shared).isSome = true

def ChainAlive (service : RecurringService) (w : Chain) : Prop :=
  countNonTerminalByType service.jobType w.shared = 1 ∧ Claimable service w

/-- After each completed call the chain is alive. -/
def KeepsChain (service : RecurringService) (steps : List CallStep) : Prop :=
  forall x, x ∈ (callSystem service).arrivals start steps ->
    (perform service x.1 x.2).2 ≠ none -> ChainAlive service (perform service x.1 x.2).1

def Phase.Creates : Phase -> Prop
  | .seeding => True
  | .renewing _ => True
  | _ => False

/-- The step does not count jobs while an instance is about to create one, does not look for
a job while there is none, does not break off a run that has claimed a job, and does not
fail a job of its own chain. -/
def Undisturbed (service : RecurringService) (w : Chain) : CallStep -> Prop
  | .count _ => forall other, ¬ (w.phase other).Creates
  | .claim _ _ => 0 < countNonTerminalByType service.jobType w.shared
  | .work _ (.dispatch _ jobId _) => w.shared.find? jobId = none
  | .work _ (.failOrphan jobId) =>
      forall job, w.shared.find? jobId = some job -> job.jobType ≠ service.jobType
  | .interrupt pid => forall jobId, w.phase pid ≠ .working jobId
  | _ => True

/-!
## The live jobs of a chain
-/

theorem mem_liveJobs :
    job ∈ liveJobs jobType jobs <->
      job ∈ jobs ∧ job.jobType = jobType ∧ job.status ∈ jobNonTerminalStatuses := by
  simp [liveJobs, Table.mem_def]

theorem liveJobs_create {data : CreateJobData}
    (h : createJob now jobId data jobs = .ok (jobs', job)) :
    liveJobs jobType jobs' =
      liveJobs jobType jobs ++ if data.jobType = jobType then [job] else [] := by
  rcases createJob_spec h with ⟨hjob, hrows⟩
  unfold liveJobs
  rw [hrows, List.filter_append]
  congr 1
  rw [hjob]
  by_cases htype : data.jobType = jobType
  · simp [newJob, htype, jobNonTerminalStatuses]
  · simp [newJob, htype]

theorem liveJobs_complete {job' : Job} (hlive : liveJobs jobType jobs = [job])
    (h : completeJob job.jobId jobs = .ok (jobs', job')) : liveJobs jobType jobs' = [] := by
  rw [finishJob_spec h]
  unfold liveJobs at hlive ⊢
  rw [Table.filter_modify_of_eq _ hlive rfl]
  simp [withStatus, jobNonTerminalStatuses]

theorem liveJobs_failOther
    (hother : forall job, jobs.find? jobId = some job -> job.jobType ≠ jobType)
    (h : failJob jobId jobs = .ok (jobs', job)) :
    liveJobs jobType jobs' = liveJobs jobType jobs := by
  rw [finishJob_spec h]
  apply Table.filter_modify_of_not
  intro row hrow hid
  have htype : row.jobType ≠ jobType := by
    apply hother row
    rw [← hid]
    exact Table.find?_key_of_mem hrow
  simp [withStatus, htype]

theorem liveJobs_claim {leaseOwner : String} {claimed : Job}
    (hlive : liveJobs jobType jobs = [job])
    (h : claimJob jobType leaseOwner now jobs = some (jobs', claimed)) :
    claimed = claimedJob leaseOwner job ∧
      liveJobs jobType jobs' = [claimedJob leaseOwner job] := by
  rcases claimJob_spec h with ⟨candidate, hmem, hstatus, htype, hclaimed, hjobs'⟩
  have hcandidate : candidate ∈ liveJobs jobType jobs := by
    rw [mem_liveJobs, hstatus]
    exact ⟨hmem, htype, by decide⟩
  rw [hlive, List.mem_singleton] at hcandidate
  rw [hcandidate] at hclaimed hjobs' htype
  refine ⟨hclaimed, ?_⟩
  rw [hjobs']
  unfold liveJobs at hlive ⊢
  rw [Table.filter_modify_of_eq _ hlive rfl]
  simp [claimedJob, htype, jobNonTerminalStatuses]

theorem liveJobs_work {op : JobWork} (h : Undisturbed service w (.work pid op)) :
    exists jobs, op.run w.shared = .ok jobs ∧
      liveJobs service.jobType jobs = liveJobs service.jobType w.shared := by
  cases op with
  | dispatch now jobId payload =>
      rcases createJob_of_fresh now { jobType := .workerDispatch, payload := some payload } h
        with ⟨⟨jobs, job⟩, hcreate⟩
      refine ⟨jobs, ?_, ?_⟩
      · simp only [JobWork.run, hcreate, Except.map]
      · rw [liveJobs_create hcreate, if_neg service.notDispatch.symm, List.append_nil]
  | failOrphan jobId =>
      cases hfail : failJob jobId w.shared with
      | error e =>
          refine ⟨w.shared, ?_, rfl⟩
          simp only [JobWork.run, hfail]
      | ok r =>
          refine ⟨r.1, ?_, liveJobs_failOther h hfail⟩
          simp only [JobWork.run, hfail]

/-!
## The token of a chain
-/

/-- Where the one job of a chain that is not over may be. -/
inductive Token where
  | absent
  | queued
  | held (pid : InstanceId)
  | owed (pid : InstanceId)

/-- A job exists that is not over. -/
def Token.Present : Token -> Prop
  | .queued => True
  | .held _ => True
  | _ => False

inductive TokenMove : Token -> Token -> Prop where
  | stay (token : Token) : TokenMove token token
  | seed (pid : InstanceId) : TokenMove .absent (.owed pid)
  | claim (pid : InstanceId) : TokenMove .queued (.held pid)
  | complete (pid : InstanceId) : TokenMove (.held pid) (.owed pid)
  | create (pid : InstanceId) : TokenMove (.owed pid) .queued
  | drop (pid : InstanceId) : TokenMove (.owed pid) .absent

def TokenAt (jobType : JobType) (w : Chain) : Token -> Prop
  | .absent => liveJobs jobType w.shared = [] ∧ forall pid, w.phase pid = .idle
  | .queued =>
      (exists job, liveJobs jobType w.shared = [job] ∧ job.status = .pending ∧
        job.dependsOnJobIds = []) ∧
      forall pid, w.phase pid = .idle
  | .held pid =>
      (exists job, liveJobs jobType w.shared = [job] ∧ job.status = .claimed ∧
        w.phase pid = .working job.jobId) ∧
      forall other, other ≠ pid -> w.phase other = .idle
  | .owed pid =>
      liveJobs jobType w.shared = [] ∧ (w.phase pid).Creates ∧
      forall other, other ≠ pid -> w.phase other = .idle

theorem tokenAt_start (jobType : JobType) : TokenAt jobType start .absent :=
  ⟨rfl, fun _ => rfl⟩

variable {token : Token}

theorem count_pos_iff_present (h : TokenAt jobType w token) :
    0 < countNonTerminalByType jobType w.shared <-> token.Present := by
  unfold countNonTerminalByType
  cases token with
  | absent =>
      simp [h.1, Token.Present]
  | queued =>
      rcases h.1 with ⟨job, hlive, _⟩
      simp [hlive, Token.Present]
  | held pid =>
      rcases h.1 with ⟨job, hlive, _⟩
      simp [hlive, Token.Present]
  | owed pid =>
      simp [h.1, Token.Present]

theorem count_of_present (h : TokenAt jobType w token) (hpresent : token.Present) :
    countNonTerminalByType jobType w.shared = 1 := by
  unfold countNonTerminalByType
  cases token with
  | queued | held pid =>
      rcases h.1 with ⟨job, hlive, _⟩
      rw [hlive]
      rfl
  | absent | owed pid =>
      cases hpresent

theorem held_of_working (h : TokenAt jobType w token) (hphase : w.phase pid = .working jobId) :
    token = .held pid := by
  cases token with
  | absent | queued =>
      rw [h.2 pid] at hphase
      cases hphase
  | held other =>
      by_cases hpid : pid = other
      · rw [hpid]
      · rw [h.2 pid hpid] at hphase
        cases hphase
  | owed other =>
      by_cases hpid : pid = other
      · have hcreates := h.2.1
        rw [← hpid, hphase] at hcreates
        cases hcreates
      · rw [h.2.2 pid hpid] at hphase
        cases hphase

theorem owed_of_creates (h : TokenAt jobType w token) (hcreates : (w.phase pid).Creates) :
    token = .owed pid := by
  cases token with
  | absent | queued =>
      rw [h.2 pid] at hcreates
      cases hcreates
  | held other =>
      rcases h.1 with ⟨job, _, _, hworking⟩
      by_cases hpid : pid = other
      · rw [hpid, hworking] at hcreates
        cases hcreates
      · rw [h.2 pid hpid] at hcreates
        cases hcreates
  | owed other =>
      by_cases hpid : pid = other
      · rw [hpid]
      · rw [h.2.2 pid hpid] at hcreates
        cases hcreates

theorem idle_of_advance (jobs : JobTable)
    (h : forall other, other ≠ pid -> w.phase other = .idle) (other : InstanceId) :
    (w.advance pid jobs .idle).phase other = .idle := by
  by_cases hpid : other = pid
  · rw [hpid, Instances.advance_phase_self]
  · rw [Instances.advance_phase_of_ne _ _ hpid]
    exact h other hpid

theorem others_idle_of_advance (jobs : JobTable) (phase : Phase)
    (h : forall other, other ≠ pid -> w.phase other = .idle) :
    forall other, other ≠ pid -> (w.advance pid jobs phase).phase other = .idle := by
  intro other hpid
  rw [Instances.advance_phase_of_ne _ _ hpid]
  exact h other hpid

/-!
## Steps that are not disturbed move the token
-/

/-- The token moves on, and a call that completes leaves it present. -/
def MovesToken (service : RecurringService) (token : Token)
    (outcome : Chain × Option CallResult) : Prop :=
  exists token', TokenMove token token' ∧ TokenAt service.jobType outcome.1 token' ∧
    (outcome.2 ≠ none -> token'.Present)

theorem movesToken_stay (h : TokenAt service.jobType w token) :
    MovesToken service token (w, none) :=
  ⟨token, .stay token, h, fun hresult => absurd rfl hresult⟩

theorem movesToken_count (h : TokenAt service.jobType w token)
    (hquiet : Undisturbed service w (.count pid)) :
    MovesToken service token (perform service w (.count pid)) := by
  cases hphase : w.phase pid with
  | idle =>
      simp only [perform, hphase]
      split
      · rename_i hcount
        exact ⟨token, .stay token, h, fun _ => (count_pos_iff_present h).mp hcount⟩
      · rename_i hcount
        rw [count_pos_iff_present h] at hcount
        cases token with
        | absent =>
            refine ⟨.owed pid, .seed pid, ⟨h.1, ?_, ?_⟩, fun hresult => absurd rfl hresult⟩
            · rw [Instances.advance_phase_self]
              trivial
            · exact others_idle_of_advance _ _ (fun other _ => h.2 other)
        | queued | held other =>
            exact absurd trivial hcount
        | owed other =>
            exact absurd h.2.1 (hquiet other)
  | seeding | working jobId | renewing jobId =>
      simp only [perform, hphase]
      exact movesToken_stay h

theorem movesToken_create (h : TokenAt service.jobType w (.owed pid)) (now : Millis)
    (jobId : JobId) {data : CreateJobData} (htype : data.jobType = service.jobType)
    (hfree : data.dependsOnJobIds = []) (result : Job -> CallResult) :
    MovesToken service (.owed pid)
      (match createJob now jobId data w.shared with
        | .ok (jobs, job) => (w.advance pid jobs .idle, some (result job))
        | .error _ => (w.advance pid w.shared .idle, none)) := by
  cases hcreate : createJob now jobId data w.shared with
  | error e =>
      exact ⟨.absent, .drop pid, ⟨h.1, idle_of_advance _ h.2.2⟩,
        fun hresult => absurd rfl hresult⟩
  | ok r =>
      rcases r with ⟨jobs, job⟩
      refine ⟨.queued, .create pid, ⟨⟨job, ?_, ?_, ?_⟩, idle_of_advance _ h.2.2⟩,
        fun _ => trivial⟩
      · rw [Instances.advance_shared, liveJobs_create hcreate, h.1, if_pos htype]
        rfl
      · rw [(createJob_spec hcreate).1]
        rfl
      · rw [(createJob_spec hcreate).1]
        exact hfree

theorem movesToken_seed (h : TokenAt service.jobType w token) :
    MovesToken service token (perform service w (.seed pid now jobId)) := by
  cases hphase : w.phase pid with
  | seeding =>
      have howed : token = .owed pid := by
        apply owed_of_creates h
        rw [hphase]
        trivial
      rw [howed] at h ⊢
      simp only [perform, hphase]
      exact movesToken_create h _ _ rfl rfl (fun job => .initialized (some job.jobId))
  | idle | working jobId | renewing jobId =>
      simp only [perform, hphase]
      exact movesToken_stay h

theorem movesToken_renew {reading : Millis} {nextJobId : JobId}
    (h : TokenAt service.jobType w token) :
    MovesToken service token (perform service w (.renew pid reading now nextJobId)) := by
  cases hphase : w.phase pid with
  | renewing jobId =>
      have howed : token = .owed pid := by
        apply owed_of_creates h
        rw [hphase]
        trivial
      rw [howed] at h ⊢
      simp only [perform, hphase]
      exact movesToken_create h _ _ rfl rfl (fun next => .processed jobId next.jobId)
  | idle | seeding | working jobId =>
      simp only [perform, hphase]
      exact movesToken_stay h

theorem movesToken_claim (h : TokenAt service.jobType w token)
    (hquiet : Undisturbed service w (.claim pid now)) :
    MovesToken service token (perform service w (.claim pid now)) := by
  have hpresent : token.Present := (count_pos_iff_present h).mp hquiet
  cases hphase : w.phase pid with
  | idle =>
      simp only [perform, hphase]
      cases hclaim : claimJob service.jobType service.leaseOwner now w.shared with
      | none =>
          exact ⟨token, .stay token, h, fun _ => hpresent⟩
      | some r =>
          rcases r with ⟨jobs, claimed⟩
          cases token with
          | absent | owed other =>
              cases hpresent
          | queued =>
              rcases h.1 with ⟨job, hlive, _⟩
              rcases liveJobs_claim hlive hclaim with ⟨hclaimed, hlive'⟩
              refine ⟨.held pid, .claim pid, ⟨⟨_, hlive', rfl, ?_⟩, ?_⟩,
                fun hresult => absurd rfl hresult⟩
              · rw [Instances.advance_phase_self, hclaimed]
              · exact others_idle_of_advance _ _ (fun other _ => h.2 other)
          | held other =>
              -- The one live job is claimed already.
              rcases h.1 with ⟨job, hlive, hstatus, _⟩
              rcases claimJob_spec hclaim with ⟨candidate, hmem, hpending, htype, _⟩
              have hcandidate : candidate ∈ liveJobs service.jobType w.shared := by
                rw [mem_liveJobs, hpending]
                exact ⟨hmem, htype, by decide⟩
              rw [hlive, List.mem_singleton] at hcandidate
              rw [hcandidate, hstatus] at hpending
              cases hpending
  | seeding | working jobId | renewing jobId =>
      simp only [perform, hphase]
      exact movesToken_stay h

theorem movesToken_work {op : JobWork} (h : TokenAt service.jobType w token)
    (hquiet : Undisturbed service w (.work pid op)) :
    MovesToken service token (perform service w (.work pid op)) := by
  cases hphase : w.phase pid with
  | working jobId =>
      simp only [perform, hphase]
      split
      · rcases liveJobs_work hquiet with ⟨jobs, hrun, hsame⟩
        rw [hrun]
        have hheld := held_of_working h hphase
        rw [hheld] at h ⊢
        rcases h.1 with ⟨job, hlive, hstatus, hworking⟩
        refine ⟨.held pid, .stay _, ⟨⟨job, ?_, hstatus, ?_⟩, ?_⟩,
          fun hresult => absurd rfl hresult⟩
        · rw [Instances.advance_shared, hsame]
          exact hlive
        · rw [Instances.advance_phase_self, ← hphase, hworking]
        · exact others_idle_of_advance _ _ h.2
      · exact movesToken_stay h
  | idle | seeding | renewing jobId =>
      simp only [perform, hphase]
      exact movesToken_stay h

/-- A run that holds the token completes its job and then owes the token. -/
theorem perform_complete (h : TokenAt service.jobType w (.held pid)) :
    exists jobs jobId,
      perform service w (.complete pid) = (w.advance pid jobs (.renewing jobId), none) ∧
        TokenAt service.jobType (w.advance pid jobs (.renewing jobId)) (.owed pid) := by
  rcases h.1 with ⟨job, hlive, hstatus, hworking⟩
  have hfind : w.shared.find? job.jobId = some job := by
    apply Table.find?_key_of_mem
    have hmem : job ∈ liveJobs service.jobType w.shared := by
      rw [hlive]
      exact List.mem_singleton_self job
    exact (mem_liveJobs.mp hmem).1
  have hcompletes : exists r, completeJob job.jobId w.shared = .ok r :=
    finishJob_of_claimed hfind hstatus
  rcases hcompletes with ⟨⟨jobs, completed⟩, hcomplete⟩
  refine ⟨jobs, job.jobId, ?_, ?_, ?_, ?_⟩
  · simp only [perform, hworking, hcomplete]
  · rw [Instances.advance_shared]
    exact liveJobs_complete hlive hcomplete
  · rw [Instances.advance_phase_self]
    trivial
  · exact others_idle_of_advance _ _ h.2

theorem movesToken_complete (h : TokenAt service.jobType w token) :
    MovesToken service token (perform service w (.complete pid)) := by
  cases hphase : w.phase pid with
  | working jobId =>
      have hheld := held_of_working h hphase
      rw [hheld] at h ⊢
      rcases perform_complete h with ⟨jobs, jobId, hperform, howed⟩
      rw [hperform]
      exact ⟨.owed pid, .complete pid, howed, fun hresult => absurd rfl hresult⟩
  | idle | seeding | renewing jobId =>
      simp only [perform, hphase]
      exact movesToken_stay h

theorem movesToken_interrupt (h : TokenAt service.jobType w token)
    (hquiet : Undisturbed service w (.interrupt pid)) :
    MovesToken service token (perform service w (.interrupt pid)) := by
  show MovesToken service token (w.advance pid w.shared .idle, none)
  by_cases hcreates : (w.phase pid).Creates
  · have howed := owed_of_creates h hcreates
    rw [howed] at h ⊢
    exact ⟨.absent, .drop pid, ⟨h.1, idle_of_advance _ h.2.2⟩,
      fun hresult => absurd rfl hresult⟩
  · have hidle : w.phase pid = .idle := by
      cases hphase : w.phase pid with
      | idle =>
          rfl
      | working jobId =>
          exact absurd hphase (hquiet jobId)
      | seeding | renewing jobId =>
          rw [hphase] at hcreates
          exact absurd trivial hcreates
    rw [← hidle, Instances.advance_self]
    exact movesToken_stay h

theorem movesToken {step : CallStep} (h : TokenAt service.jobType w token)
    (hquiet : Undisturbed service w step) :
    MovesToken service token (perform service w step) := by
  cases step with
  | count pid =>
      exact movesToken_count h hquiet
  | seed pid now jobId =>
      exact movesToken_seed h
  | claim pid now =>
      exact movesToken_claim h hquiet
  | work pid op =>
      exact movesToken_work h hquiet
  | complete pid =>
      exact movesToken_complete h
  | renew pid reading now jobId =>
      exact movesToken_renew h
  | interrupt pid =>
      exact movesToken_interrupt h hquiet

/-!
## A present token can be claimed

A queued job is claimed once it is due.  A held one is completed and renewed
first.
-/

theorem claimable_of_queued (h : TokenAt service.jobType w .queued) : Claimable service w := by
  rcases h.1 with ⟨job, hlive, hstatus, hfree⟩
  have hmem : job ∈ liveJobs service.jobType w.shared := by
    rw [hlive]
    exact List.mem_singleton_self job
  rcases mem_liveJobs.mp hmem with ⟨hrow, htype, _⟩
  have hdue : exists now, isDue job.runAfter now = true := by
    cases job.runAfter with
    | none =>
        exact ⟨0, rfl⟩
    | some t =>
        exact ⟨ofColumn t, by simp [isDue]⟩
  rcases hdue with ⟨now, hdue⟩
  exact ⟨[], 0, now, h.2 0, claimJob_of_due _ hrow hstatus htype hdue hfree⟩

theorem claimable_of_next (step : CallStep) (h : Claimable service (perform service w step).1) :
    Claimable service w := by
  rcases h with ⟨steps, pid, now, hidle, hclaim⟩
  exact ⟨step :: steps, pid, now, hidle, hclaim⟩

theorem exists_fresh_jobId (jobs : JobTable) :
    exists jobId, jobs.find? jobId = none := by
  rcases Infinite.exists_notMem_finset (jobs.rows.map Job.jobId).toFinset with ⟨jobId, hnew⟩
  refine ⟨jobId, Table.find?_eq_none_iff.mpr ?_⟩
  intro job hjob hid
  apply hnew
  rw [List.mem_toFinset, ← hid]
  exact List.mem_map_of_mem hjob

theorem claimable_of_held (h : TokenAt service.jobType w (.held pid)) : Claimable service w := by
  rcases perform_complete h with ⟨jobs, jobId, hperform, howed⟩
  apply claimable_of_next (.complete pid)
  rw [hperform]
  rcases exists_fresh_jobId jobs with ⟨nextJobId, hfresh⟩
  rcases createJob_of_fresh 0 (nextJob service 0) hfresh with
    ⟨⟨jobs', next⟩, hcreate⟩
  apply claimable_of_next (.renew pid 0 0 nextJobId)
  have hmoves : MovesToken service (.owed pid)
      (match createJob 0 nextJobId (nextJob service 0) jobs with
        | .ok (jobs', next) =>
            ((w.advance pid jobs (.renewing jobId)).advance pid jobs' .idle,
              some (.processed jobId next.jobId))
        | .error _ => ((w.advance pid jobs (.renewing jobId)).advance pid jobs .idle, none)) :=
    movesToken_create howed 0 nextJobId rfl rfl (fun next => .processed jobId next.jobId)
  have hrenew : perform service (w.advance pid jobs (.renewing jobId))
      (.renew pid 0 0 nextJobId) =
        ((w.advance pid jobs (.renewing jobId)).advance pid jobs' .idle,
          some (.processed jobId next.jobId)) := by
    simp only [perform, Instances.advance_phase_self, Instances.advance_shared, hcreate]
  rw [hcreate] at hmoves
  rcases hmoves with ⟨token, hmove, htoken, hpresent⟩
  have hpresent := hpresent (by simp)
  rw [hrenew]
  cases hmove with
  | create =>
      exact claimable_of_queued htoken
  | stay | drop =>
      cases hpresent

theorem alive_of_present (h : TokenAt service.jobType w token) (hpresent : token.Present) :
    ChainAlive service w := by
  refine ⟨count_of_present h hpresent, ?_⟩
  cases token with
  | queued =>
      exact claimable_of_queued h
  | held pid =>
      exact claimable_of_held h
  | absent | owed pid =>
      cases hpresent

theorem tokenAt_of_undisturbed {steps : List CallStep}
    (h : forall x, x ∈ (callSystem service).arrivals start steps -> Undisturbed service x.1 x.2) :
    (forall x, x ∈ (callSystem service).arrivals start steps ->
      exists token, TokenAt service.jobType x.1 token) ∧
    exists token, TokenAt service.jobType ((callSystem service).run start steps) token := by
  have hstep : forall w step, (exists token, TokenAt service.jobType w token) ->
      Undisturbed service w step ->
      exists token, TokenAt service.jobType ((callSystem service).next w step) token := by
    intro w step hw hquiet
    rcases hw with ⟨token, htoken⟩
    rcases movesToken htoken hquiet with ⟨token', _, htoken', _⟩
    exact ⟨token', htoken'⟩
  exact TransitionSystem.run_of_arrivals hstep ⟨.absent, tokenAt_start _⟩ h

/-- In a run whose steps are not disturbed, the chain is alive after each completed
call. -/
theorem chain_kept_of_undisturbed (service : RecurringService) (steps : List CallStep)
    (h : forall x, x ∈ (callSystem service).arrivals start steps ->
      Undisturbed service x.1 x.2) :
    KeepsChain service steps := by
  intro x hx hresult
  rcases (tokenAt_of_undisturbed h).1 x hx with ⟨token, htoken⟩
  rcases movesToken htoken (h x hx) with ⟨token', _, htoken', hpresent⟩
  exact alive_of_present htoken' (hpresent hresult)

def firstSteps : List CallStep :=
  [.count 1, .seed 1 0 "job-1", .claim 1 1000]

theorem firstSteps_undisturbed (x : Chain × CallStep)
    (hx : x ∈ (callSystem (schedulerTickService {})).arrivals start firstSteps) :
    Undisturbed (schedulerTickService {}) x.1 x.2 := by
  simp only [firstSteps, TransitionSystem.arrivals, List.mem_cons, List.not_mem_nil,
    or_false] at hx
  rcases hx with hx | hx | hx
  · rw [hx]
    exact fun _ hcreates => hcreates
  · rw [hx]
    trivial
  · rw [hx]
    show 0 < countNonTerminalByType .schedulerTick _
    decide

/-- A whole tick in which one task is assigned. -/
theorem chain_kept_by_one_tick :
    KeepsChain (schedulerTickService {})
      (firstSteps ++
        [.work 1 (.dispatch 1000 "job-2"
          { taskId := "task-1", leaseId := "lease-1", poolId := "pool-1",
            workerId := "worker-1" }),
        .complete 1, .renew 1 2000 2000 "job-3"]) := by
  apply chain_kept_of_undisturbed
  intro x hx
  rw [TransitionSystem.arrivals_append, List.mem_append] at hx
  rcases hx with hx | hx
  · exact firstSteps_undisturbed x hx
  · simp only [TransitionSystem.arrivals, List.mem_cons, List.not_mem_nil, or_false] at hx
    rcases hx with hx | hx | hx
    · rw [hx]
      show Table.find? _ "job-2" = none
      decide +kernel
    · rw [hx]
      trivial
    · rw [hx]
      trivial

/-!
## A run that breaks off while it holds the token

Its job stays claimed for good: it is not over, so no initialization creates
another one, and it is not pending, so no run claims it.
-/

/-- No call is under way, and there are live jobs, none of which can be claimed. -/
structure Stranded (service : RecurringService) (w : Chain) : Prop where
  idle : forall pid, w.phase pid = .idle
  blocked : 0 < countNonTerminalByType service.jobType w.shared
  unclaimable : forall job, job ∈ liveJobs service.jobType w.shared -> job.status ≠ .pending

theorem claimJob_of_stranded (h : Stranded service w) (leaseOwner : String) (now : Millis) :
    claimJob service.jobType leaseOwner now w.shared = none := by
  cases hclaim : claimJob service.jobType leaseOwner now w.shared with
  | none =>
      rfl
  | some r =>
      rcases claimJob_spec hclaim with ⟨candidate, hmem, hpending, htype, _⟩
      apply absurd hpending
      apply h.unclaimable candidate
      rw [mem_liveJobs, hpending]
      exact ⟨hmem, htype, by decide⟩

theorem stranded_step (h : Stranded service w) (step : CallStep) :
    (perform service w step).1 = w := by
  cases step with
  | count pid =>
      simp only [perform, h.idle pid, if_pos h.blocked]
  | claim pid now =>
      simp only [perform, h.idle pid, claimJob_of_stranded h]
  | seed pid now jobId | work pid op | complete pid | renew pid reading now jobId =>
      simp only [perform, h.idle pid]
  | interrupt pid =>
      show w.advance pid w.shared .idle = w
      rw [← h.idle pid]
      exact w.advance_self pid

theorem stranded_run (h : Stranded service w) (steps : List CallStep) :
    (callSystem service).run w steps = w := by
  induction steps with
  | nil =>
      rfl
  | cons step rest ih =>
      rw [TransitionSystem.run_cons, next_eq, stranded_step h step]
      exact ih

/-- Whatever happens afterwards, no run claims a job of the chain again. -/
theorem not_claimable_of_stranded (h : Stranded service w) : ¬ Claimable service w := by
  intro hclaimable
  rcases hclaimable with ⟨steps, pid, now, _, hclaim⟩
  rw [stranded_run h, claimJob_of_stranded h] at hclaim
  cases hclaim

theorem stranded_of_interrupt (h : TokenAt service.jobType w token)
    (hworking : w.phase pid = .working jobId) :
    Stranded service (perform service w (.interrupt pid)).1 := by
  have hheld := held_of_working h hworking
  rw [hheld] at h
  rcases h.1 with ⟨job, hlive, hstatus, _⟩
  refine ⟨idle_of_advance _ h.2, (count_pos_iff_present h).mpr trivial, ?_⟩
  intro live hmem
  show live.status ≠ .pending
  have hmem' : live ∈ liveJobs service.jobType w.shared := hmem
  rw [hlive, List.mem_singleton] at hmem'
  rw [hmem', hstatus]
  decide

/-- `scheduleNext` throws in the first tick, and `initialize` is called again when the
process has been restarted. -/
theorem thrown_tick_strands_chain :
    ¬ KeepsChain (schedulerTickService {}) ((firstSteps ++ [.interrupt 1]) ++ [.count 1]) := by
  intro h
  rcases (tokenAt_of_undisturbed firstSteps_undisturbed).2 with ⟨token, htoken⟩
  have hworking : ((callSystem (schedulerTickService {})).run start firstSteps).phase 1 =
      .working "job-1" := by
    decide +kernel
  have hstranded := stranded_of_interrupt htoken hworking
  have hend : (callSystem (schedulerTickService {})).run start
      (firstSteps ++ [.interrupt 1]) =
        (perform (schedulerTickService {})
          ((callSystem (schedulerTickService {})).run start firstSteps) (.interrupt 1)).1 := by
    rw [TransitionSystem.run_append]
    rfl
  have harrives := (callSystem (schedulerTickService {})).mem_arrivals_append start
    (firstSteps ++ [.interrupt 1]) (.count 1) []
  rw [hend] at harrives
  have hcompletes : (perform (schedulerTickService {})
      (perform (schedulerTickService {})
        ((callSystem (schedulerTickService {})).run start firstSteps) (.interrupt 1)).1
      (.count 1)).2 ≠ none := by
    rw [perform, hstranded.idle 1]
    simp only [if_pos hstranded.blocked]
    exact Option.some_ne_none _
  have halive := h _ harrives hcompletes
  rw [stranded_step hstranded] at halive
  exact not_claimable_of_stranded hstranded halive.2

end Scheduling
end CopilotFactory
