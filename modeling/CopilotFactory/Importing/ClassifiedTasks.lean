import Mathlib.Algebra.Order.Archimedean.Basic
import CopilotFactory.Foundations.Collecting
import CopilotFactory.Importing.AiTaskClassifier

/-!
# Classified tasks

The results of the classifier are aligned with the tasks, whatever the service answers.
Their fields are of the allowed ones unless the rules look up the name of a member that
every object has, and the classifier returns unless it may ask a busy service for ever.
-/

namespace CopilotFactory
namespace Importing

open Foundations

variable {raw : Option Json} {value : String} {result : TaskClassificationResult}
  {decided : Option (List TaskClassificationResult)}

def FieldValue.isOneOf (values : List String) : FieldValue -> Prop
  | .text value => value ∈ values
  | .inherited _ => False

structure TaskClassificationResult.Allowed (result : TaskClassificationResult) : Prop where
  taskType : result.taskType.isOneOf validTaskTypes
  status : result.status.isOneOf validStatuses

variable (toLowerCase toUpperCase : String -> String)
variable (jsonParse : String -> Except String Json)

/-- Neither raw word is, once it is trimmed and in lower case, the name of a member that
every object has. -/
structure PlainWords (task : TaskClassificationInput) : Prop where
  rawType : mapKey toLowerCase task.rawType ∉ Records.inheritedMembers
  rawStatus : mapKey toLowerCase task.rawStatus ∉ Records.inheritedMembers

/-!
## The rules
-/

variable {toLowerCase toUpperCase jsonParse}

/-- A lookup finds something allowed unless it finds an inherited member. -/
theorem lookupOr_isOneOf_iff {map : List (String × String)} {key default : String}
    {values : List String} (hmap : forall entry, entry ∈ map -> entry.2 ∈ values)
    (hplain : forall entry, entry ∈ map -> entry.1 ∉ Records.inheritedMembers)
    (hdefault : default ∈ values) :
    (lookupOr map key default).isOneOf values <-> key ∉ Records.inheritedMembers := by
  unfold lookupOr Records.member
  cases hfound : map.lookup key with
  | some value =>
      have hmem : (key, value) ∈ map := by
        rcases List.lookup_eq_some_iff.mp hfound with ⟨before, after, hsplit, _⟩
        rw [hsplit]
        simp
      exact iff_of_true (hmap _ hmem) (hplain _ hmem)
  | none =>
      by_cases hmember : key ∈ Records.inheritedMembers
      · simp only [hmember, if_true]
        exact iff_of_false (fun h => h) (fun h => h trivial)
      · simp only [hmember, if_false]
        exact iff_of_true hdefault (fun h => h)

theorem allowed_deterministicFallback_iff {task : TaskClassificationInput} :
    (deterministicFallback toLowerCase task).Allowed <-> PlainWords toLowerCase task := by
  have htype : (deterministicFallback toLowerCase task).taskType.isOneOf validTaskTypes <->
      mapKey toLowerCase task.rawType ∉ Records.inheritedMembers :=
    lookupOr_isOneOf_iff (by decide) (by decide) (by decide)
  have hstatus : (deterministicFallback toLowerCase task).status.isOneOf validStatuses <->
      mapKey toLowerCase task.rawStatus ∉ Records.inheritedMembers :=
    lookupOr_isOneOf_iff (by decide) (by decide) (by decide)
  constructor
  · intro h
    exact ⟨htype.mp h.taskType, hstatus.mp h.status⟩
  · intro h
    exact ⟨htype.mpr h.rawType, hstatus.mpr h.rawStatus⟩

/-!
## The entries of an answer
-/

theorem withText_eq_some {method : String} {f : String -> Option String}
    (h : withText method f raw = .ok (some value)) : exists text, f text = some value := by
  unfold withText at h
  split at h
  · cases h
  · cases h
  · cases h
  · rename_i text
    split at h
    · cases h
    · exact ⟨text, by simpa using h⟩
  · split at h
    · cases h
    · cases h
  · cases h
  · cases h
  · cases h

theorem mem_of_normalizeTaskType (h : normalizeTaskType toLowerCase raw = .ok (some value)) :
    value ∈ validTaskTypes := by
  rcases withText_eq_some h with ⟨text, htext⟩
  dsimp only at htext
  split at htext
  · rename_i hmem
    rw [← Option.some.inj htext]
    exact hmem
  · split at htext
    · rw [← Option.some.inj htext]
      decide
    · split at htext
      · rw [← Option.some.inj htext]
        decide
      · split at htext
        · rw [← Option.some.inj htext]
          decide
        · cases htext

theorem mem_of_normalizeStatus (h : normalizeStatus toUpperCase raw = .ok (some value)) :
    value ∈ validStatuses := by
  rcases withText_eq_some h with ⟨text, htext⟩
  dsimp only at htext
  split at htext
  · rename_i hmem
    rw [← Option.some.inj htext]
    exact hmem
  · cases htext

theorem allowed_normalizeEntry {entry : Json}
    (h : normalizeEntry toLowerCase toUpperCase entry = .ok result) : result.Allowed := by
  unfold normalizeEntry at h
  split at h
  · cases h
  · rcases bind_eq_ok.mp h with ⟨taskType, htype, hrest⟩
    rcases bind_eq_ok.mp hrest with ⟨status, hstatus, hpure⟩
    rw [← (pure_eq_ok _ _).mp hpure]
    constructor
    · cases taskType with
      | none =>
          show "chore" ∈ validTaskTypes
          decide
      | some value =>
          exact mem_of_normalizeTaskType htype
    · cases status with
      | none =>
          show "BACKLOG" ∈ validStatuses
          decide
      | some value =>
          exact mem_of_normalizeStatus hstatus

theorem allowed_of_answerResults {answer : HttpAnswer} {parsed : List TaskClassificationResult}
    (h : answerResults toLowerCase toUpperCase jsonParse answer = .ok parsed)
    (hresult : result ∈ parsed) : result.Allowed := by
  unfold answerResults at h
  split at h
  · cases h
  · cases h
  · rcases bind_eq_ok.mp (mapError_eq_ok.mp h) with ⟨data, _, hcontent⟩
    rcases bind_eq_ok.mp hcontent with ⟨content, _, hparse⟩
    unfold parseClassificationResponse at hparse
    split at hparse
    · cases hparse
    · rcases bind_eq_ok.mp hparse with ⟨value, _, hvalue⟩
      split at hvalue
      · rcases exists_of_mem_mapM hvalue hresult with ⟨entry, _, hentry⟩
        exact allowed_normalizeEntry hentry
      · cases hvalue

/-!
## What a batch is decided by
-/

section

variable (toLowerCase toUpperCase jsonParse)
variable (maxRetries : RetryLimit) (answers : Nat -> HttpAnswer)

def AskedAgain (attempt : Nat) : Prop :=
  exists err, answerResults toLowerCase toUpperCase jsonParse (answers attempt) = .error err ∧
    (!err.retryable || maxRetries.equals attempt) = false

/-- From an attempt on, a batch comes to be decided by the entries of an answer, or by none.
Only an answer that counts is looked at: the ones before it have failed. -/
inductive Decided : Nat -> Option (List TaskClassificationResult) -> Prop where
  | spent {attempt : Nat} (h : maxRetries.allows attempt = false) : Decided attempt none
  | answered {attempt : Nat} {parsed : List TaskClassificationResult}
      (hallows : maxRetries.allows attempt = true)
      (h : answerResults toLowerCase toUpperCase jsonParse (answers attempt) = .ok parsed) :
      Decided attempt (some parsed)
  | givenUp {attempt : Nat} {err : ClassificationError}
      (hallows : maxRetries.allows attempt = true)
      (h : answerResults toLowerCase toUpperCase jsonParse (answers attempt) = .error err)
      (hend : (!err.retryable || maxRetries.equals attempt) = true) : Decided attempt none
  | retried {attempt : Nat} {decided : Option (List TaskClassificationResult)}
      (hallows : maxRetries.allows attempt = true)
      (hbusy : AskedAgain toLowerCase toUpperCase jsonParse maxRetries answers attempt)
      (hnext : Decided (attempt + 1) decided) : Decided attempt decided

def settle (batch : List TaskClassificationInput) :
    Option (List TaskClassificationResult) -> List TaskClassificationResult
  | none => batch.map (deterministicFallback toLowerCase)
  | some parsed => fillBatch toLowerCase batch parsed

end

variable {maxRetries : RetryLimit} {answers : Nat -> HttpAnswer}

theorem length_settle (batch : List TaskClassificationInput)
    (decided : Option (List TaskClassificationResult)) :
    (settle toLowerCase batch decided).length = batch.length := by
  cases decided with
  | none =>
      exact List.length_map _
  | some parsed =>
      unfold settle fillBatch
      rw [List.length_take, List.length_append, List.length_map, List.length_drop]
      omega

theorem getElem?_settle {batch : List TaskClassificationInput} {j : Nat}
    {task : TaskClassificationInput} (hj : batch[j]? = some task) :
    (settle toLowerCase batch decided)[j]? =
      some (((decided.getD [])[j]?).getD (deterministicFallback toLowerCase task)) := by
  have hlt : j < batch.length := (List.getElem?_eq_some_iff.mp hj).choose
  cases decided with
  | none =>
      rw [settle, List.getElem?_map, hj]
      rfl
  | some parsed =>
      rw [settle, fillBatch, List.getElem?_take_of_lt hlt, Option.getD_some]
      by_cases hparsed : j < parsed.length
      · rw [List.getElem?_append_left hparsed, List.getElem?_eq_getElem hparsed]
        rfl
      · rw [List.getElem?_append_right (by omega), List.getElem?_map, List.getElem?_drop,
          Nat.add_sub_cancel' (by omega), hj, List.getElem?_eq_none (l := parsed) (by omega)]
        rfl

theorem decided_of_classifyAttempts {batchNumber fuel attempt : Nat}
    {batch : List TaskClassificationInput} {c : Classification}
    (h : classifyAttempts toLowerCase toUpperCase jsonParse maxRetries batchNumber batch answers
      fuel attempt = some c) :
    exists decided,
      Decided toLowerCase toUpperCase jsonParse maxRetries answers attempt decided ∧
        c.results = settle toLowerCase batch decided := by
  induction fuel generalizing attempt with
  | zero =>
      cases h
  | succ fuel ih =>
      unfold classifyAttempts classifyBatch at h
      dsimp only at h
      cases hallows : maxRetries.allows attempt with
      | false =>
          simp only [hallows, Bool.false_eq_true, if_false, Option.some.injEq] at h
          exact ⟨none, .spent hallows, by rw [← h]; rfl⟩
      | true =>
          cases hanswer :
              answerResults toLowerCase toUpperCase jsonParse (answers attempt) with
          | ok parsed =>
              rw [hallows, if_pos rfl, hanswer] at h
              exact ⟨some parsed, .answered hallows hanswer, by cases h; rfl⟩
          | error err =>
              rw [hallows, if_pos rfl, hanswer, error_bind] at h
              dsimp only at h
              cases hend : (!err.retryable || maxRetries.equals attempt) with
              | true =>
                  rw [hend, if_pos rfl] at h
                  exact ⟨none, .givenUp hallows hanswer hend, by cases h; rfl⟩
              | false =>
                  rw [hend, if_neg Bool.false_ne_true] at h
                  rcases ih h with ⟨decided, hdecided, hresults⟩
                  exact ⟨decided, .retried hallows ⟨err, hanswer, hend⟩ hdecided, hresults⟩

theorem exists_classifyAttempts {attempt : Nat}
    (h : Decided toLowerCase toUpperCase jsonParse maxRetries answers attempt decided)
    (batchNumber : Nat) (batch : List TaskClassificationInput) :
    exists fuel, forall more, fuel ≤ more ->
      (classifyAttempts toLowerCase toUpperCase jsonParse maxRetries batchNumber batch answers
        more attempt).isSome = true := by
  induction h with
  | spent hallows =>
      refine ⟨1, ?_⟩
      intro more hmore
      obtain ⟨fuel, rfl⟩ := Nat.exists_eq_add_of_le' hmore
      simp [classifyAttempts, hallows]
  | answered hallows hanswer =>
      refine ⟨1, ?_⟩
      intro more hmore
      obtain ⟨fuel, rfl⟩ := Nat.exists_eq_add_of_le' hmore
      simp only [classifyAttempts, classifyBatch, hallows, hanswer, if_true, ok_bind]
      rfl
  | givenUp hallows hanswer hend =>
      refine ⟨1, ?_⟩
      intro more hmore
      obtain ⟨fuel, rfl⟩ := Nat.exists_eq_add_of_le' hmore
      simp [classifyAttempts, classifyBatch, hallows, hanswer, hend]
  | retried hallows hbusy hnext ih =>
      rcases ih with ⟨fuel, hfuel⟩
      rcases hbusy with ⟨err, hanswer, hend⟩
      refine ⟨fuel + 1, ?_⟩
      intro more hmore
      obtain ⟨extra, rfl⟩ := Nat.exists_eq_add_of_le' hmore
      have hmade := hfuel (extra + fuel) (Nat.le_add_left fuel extra)
      have hnumber : extra + (fuel + 1) = (extra + fuel) + 1 := rfl
      rw [hnumber, classifyAttempts, classifyBatch, hanswer, error_bind]
      simp only [hallows, if_true, hend, Bool.false_eq_true, if_false]
      exact hmade

theorem exists_decided {last : Nat}
    (h : maxRetries.allows last = false ∨
      ¬ AskedAgain toLowerCase toUpperCase jsonParse maxRetries answers last)
    {attempt : Nat} (hle : attempt ≤ last) :
    exists decided,
      Decided toLowerCase toUpperCase jsonParse maxRetries answers attempt decided := by
  have hend : forall attempt, (maxRetries.allows attempt = false ∨
      ¬ AskedAgain toLowerCase toUpperCase jsonParse maxRetries answers attempt) ->
      exists decided,
        Decided toLowerCase toUpperCase jsonParse maxRetries answers attempt decided := by
    intro attempt hattempt
    cases hallows : maxRetries.allows attempt with
    | false =>
        exact ⟨none, .spent hallows⟩
    | true =>
        rw [hallows] at hattempt
        have hnot := hattempt.resolve_left (by decide)
        cases hanswer : answerResults toLowerCase toUpperCase jsonParse (answers attempt) with
        | ok parsed =>
            exact ⟨some parsed, .answered hallows hanswer⟩
        | error err =>
            refine ⟨none, .givenUp hallows hanswer ?_⟩
            cases hbool : (!err.retryable || maxRetries.equals attempt) with
            | true =>
                rfl
            | false =>
                exact absurd ⟨err, hanswer, hbool⟩ hnot
  induction hle using Nat.decreasingInduction with
  | self =>
      exact hend last h
  | of_succ attempt _ ih =>
      by_cases hattempt : maxRetries.allows attempt = false ∨
          ¬ AskedAgain toLowerCase toUpperCase jsonParse maxRetries answers attempt
      · exact hend attempt hattempt
      · rw [not_or, not_not] at hattempt
        rcases ih with ⟨decided, hdecided⟩
        exact ⟨decided, .retried (by simpa using hattempt.1) hattempt.2 hdecided⟩

theorem exists_not_allowed (h : maxRetries ≠ .infinity) :
    exists attempt, maxRetries.allows attempt = false := by
  cases maxRetries with
  | finite value =>
      rcases exists_nat_gt value with ⟨attempt, hattempt⟩
      refine ⟨attempt, ?_⟩
      simpa [RetryLimit.allows] using hattempt
  | infinity =>
      exact absurd rfl h
  | negativeInfinity =>
      exact ⟨0, rfl⟩
  | nan =>
      exact ⟨0, rfl⟩

theorem Decided.exists_not_askedAgain {attempt : Nat}
    (h : Decided toLowerCase toUpperCase jsonParse maxRetries answers attempt decided)
    (hinfinity : maxRetries = .infinity) :
    exists last, ¬ AskedAgain toLowerCase toUpperCase jsonParse maxRetries answers last := by
  induction h with
  | spent hallows =>
      rw [hinfinity] at hallows
      cases hallows
  | @answered last parsed hallows hanswer =>
      refine ⟨last, ?_⟩
      rintro ⟨err, herr, _⟩
      rw [hanswer] at herr
      cases herr
  | @givenUp last err hallows hanswer hend =>
      refine ⟨last, ?_⟩
      rintro ⟨err, herr, hno⟩
      rw [hanswer] at herr
      cases herr
      rw [hend] at hno
      cases hno
  | retried _ _ _ ih =>
      exact ih

/-- A batch comes to an end unless a busy service may be asked for ever. -/
theorem exists_decided_iff :
    (exists decided,
      Decided toLowerCase toUpperCase jsonParse maxRetries answers 0 decided) <->
      (maxRetries = .infinity ->
        exists attempt,
          ¬ AskedAgain toLowerCase toUpperCase jsonParse maxRetries answers attempt) := by
  constructor
  · rintro ⟨decided, hdecided⟩ hinfinity
    exact hdecided.exists_not_askedAgain hinfinity
  · intro h
    by_cases hinfinity : maxRetries = .infinity
    · rcases h hinfinity with ⟨last, hlast⟩
      exact exists_decided (Or.inr hlast) (Nat.zero_le last)
    · rcases exists_not_allowed hinfinity with ⟨last, hlast⟩
      exact exists_decided (Or.inl hlast) (Nat.zero_le last)

theorem Decided.allowed {attempt : Nat} {parsed : List TaskClassificationResult}
    (h : Decided toLowerCase toUpperCase jsonParse maxRetries answers attempt (some parsed))
    (hresult : result ∈ parsed) : result.Allowed := by
  generalize hdecided : some parsed = decided at h
  induction h with
  | spent _ | givenUp _ _ _ =>
      cases hdecided
  | answered _ hanswer =>
      cases hdecided
      exact allowed_of_answerResults hanswer hresult
  | retried _ _ _ ih =>
      exact ih hdecided

theorem Decided.unique {attempt : Nat} {decided' : Option (List TaskClassificationResult)}
    (h : Decided toLowerCase toUpperCase jsonParse maxRetries answers attempt decided)
    (h' : Decided toLowerCase toUpperCase jsonParse maxRetries answers attempt decided') :
    decided = decided' := by
  induction h with
  | spent hallows =>
      cases h' with
      | spent _ | givenUp _ _ _ => rfl
      | answered hallows' _ | retried hallows' _ _ =>
          rw [hallows] at hallows'
          cases hallows'
  | answered hallows hanswer =>
      cases h' with
      | spent hallows' =>
          rw [hallows] at hallows'
          cases hallows'
      | answered _ hanswer' =>
          rw [hanswer] at hanswer'
          exact congrArg some (Except.ok.inj hanswer')
      | givenUp _ hanswer' _ =>
          rw [hanswer] at hanswer'
          cases hanswer'
      | retried _ hbusy _ =>
          rcases hbusy with ⟨err, herr, _⟩
          rw [hanswer] at herr
          cases herr
  | givenUp hallows hanswer hend =>
      cases h' with
      | spent _ => rfl
      | answered _ hanswer' =>
          rw [hanswer] at hanswer'
          cases hanswer'
      | givenUp _ _ _ => rfl
      | retried _ hbusy _ =>
          rcases hbusy with ⟨err, herr, hno⟩
          rw [hanswer] at herr
          cases herr
          rw [hend] at hno
          cases hno
  | retried hallows hbusy hnext ih =>
      rcases hbusy with ⟨err, herr, hno⟩
      cases h' with
      | spent hallows' =>
          rw [hallows] at hallows'
          cases hallows'
      | answered _ hanswer' =>
          rw [herr] at hanswer'
          cases hanswer'
      | givenUp _ hanswer' hend =>
          rw [herr] at hanswer'
          cases hanswer'
          rw [hend] at hno
          cases hno
      | retried _ _ hnext' =>
          exact ih hnext'

/-!
## All batches
-/

theorem foldlM_append_eq_some {classify : Nat -> Option Classification} {batches : List Nat}
    {start final : Classification}
    (h : batches.foldlM (fun all b => do
      let classified ← classify b
      some (all.append classified)) start = some final) :
    (forall b, b ∈ batches -> (classify b).isSome = true) ∧
      final.results = start.results ++
        batches.flatMap fun b => ((classify b).map Classification.results).getD [] := by
  induction batches generalizing start with
  | nil =>
      cases h
      exact ⟨fun b hb => absurd hb List.not_mem_nil, by simp⟩
  | cons first rest ih =>
      rw [List.foldlM_cons] at h
      cases hfirst : classify first with
      | none =>
          rw [hfirst] at h
          cases h
      | some classified =>
          rw [hfirst] at h
          rcases ih h with ⟨hrest, hresults⟩
          constructor
          · intro b hb
            rcases List.mem_cons.mp hb with hb | hb
            · rw [hb, hfirst]
              rfl
            · exact hrest b hb
          · rw [hresults, List.flatMap_cons, hfirst]
            simp [Classification.append]

theorem isSome_foldlM_append {classify : Nat -> Option Classification} {batches : List Nat}
    {start : Classification} (h : forall b, b ∈ batches -> (classify b).isSome = true) :
    (batches.foldlM (fun (all : Classification) b => do
      let classified ← classify b
      some (all.append classified)) start).isSome = true := by
  induction batches generalizing start with
  | nil =>
      rfl
  | cons first rest ih =>
      rw [List.foldlM_cons]
      rcases Option.isSome_iff_exists.mp (h first List.mem_cons_self) with ⟨classified, hfirst⟩
      rw [hfirst]
      exact ih (fun b hb => h b (List.mem_cons_of_mem first hb))

section

variable (toLowerCase toUpperCase : String -> String)
variable (jsonParse : String -> Except String Json)
variable (token : Option String) (retries : Option RetryLimit)
variable (answers : Nat -> Nat -> HttpAnswer) (tasks : List TaskClassificationInput)

def EntryFor (b j : Nat) (result : TaskClassificationResult) : Prop :=
  exists parsed,
    Decided toLowerCase toUpperCase jsonParse (retries.getD defaultMaxRetries) (answers b) 0
      (some parsed) ∧ parsed[j]? = some result

/-- There is one result for each task in its place: that of the rules for this task, or the
entry in this place of the answer to its batch.  All results are of the allowed ones. -/
structure Aligned (results : List TaskClassificationResult) : Prop where
  length : results.length = tasks.length
  source : forall b j task, j < batchSize -> tasks[batchSize * b + j]? = some task ->
    exists result, results[batchSize * b + j]? = some result ∧
      (result = deterministicFallback toLowerCase task ∨
        (token.getD "" ≠ "" ∧
          EntryFor toLowerCase toUpperCase jsonParse retries answers b j result))
  allowed : forall result, result ∈ results -> result.Allowed

structure Classifiable : Prop where
  /-- An unlimited number of attempts comes to an end for every batch that is sent. -/
  ends : token.getD "" ≠ "" -> retries = some .infinity ->
    forall b, b < Batches.batchCount batchSize tasks ->
      exists attempt,
        ¬ AskedAgain toLowerCase toUpperCase jsonParse .infinity (answers b) attempt
  /-- Every task for which there is no entry has plain words. -/
  plain : forall b j task, j < batchSize -> tasks[batchSize * b + j]? = some task ->
    (token.getD "" = "" ∨ forall result,
      ¬ EntryFor toLowerCase toUpperCase jsonParse retries answers b j result) ->
    PlainWords toLowerCase task

end

variable {token : Option String} {retries : Option RetryLimit}
variable {answers : Nat -> Nat -> HttpAnswer} {tasks : List TaskClassificationInput}

theorem aligned_fallback_iff (htoken : token.getD "" = "") :
    Aligned toLowerCase toUpperCase jsonParse token retries answers tasks
        (tasks.map (deterministicFallback toLowerCase)) <->
      Classifiable toLowerCase toUpperCase jsonParse token retries answers tasks := by
  constructor
  · intro h
    refine ⟨fun hsent => absurd htoken hsent, ?_⟩
    intro b j task _ htask _
    rw [← allowed_deterministicFallback_iff]
    exact h.allowed _ (List.mem_map_of_mem (List.mem_of_getElem? htask))
  · intro h
    refine ⟨List.length_map _, ?_, ?_⟩
    · intro b j task _ htask
      refine ⟨deterministicFallback toLowerCase task, ?_, Or.inl rfl⟩
      rw [List.getElem?_map, htask]
      rfl
    · intro result hresult
      rcases List.mem_map.mp hresult with ⟨task, htask, heq⟩
      rcases List.getElem?_of_mem htask with ⟨i, hi⟩
      rw [← heq, allowed_deterministicFallback_iff]
      apply h.plain (i / batchSize) (i % batchSize) task (Nat.mod_lt i (by decide))
      · rw [Nat.div_add_mod]
        exact hi
      · exact Or.inl htoken

theorem aligned_settled_iff (htoken : token.getD "" ≠ "")
    {decided : Nat -> Option (List TaskClassificationResult)}
    (hdecided : forall b, b < Batches.batchCount batchSize tasks ->
      Decided toLowerCase toUpperCase jsonParse (retries.getD defaultMaxRetries) (answers b) 0
        (decided b)) :
    Aligned toLowerCase toUpperCase jsonParse token retries answers tasks
        ((List.range (Batches.batchCount batchSize tasks)).flatMap fun b =>
          settle toLowerCase (Batches.batch batchSize tasks b) (decided b)) <->
      Classifiable toLowerCase toUpperCase jsonParse token retries answers tasks := by
  have hlength : forall b, (settle toLowerCase (Batches.batch batchSize tasks b)
      (decided b)).length = (Batches.batch batchSize tasks b).length :=
    fun b => length_settle _ _
  have hbatch : forall b j task, tasks[batchSize * b + j]? = some task ->
      b < Batches.batchCount batchSize tasks := by
    intro b j task htask
    exact Batches.batch_lt_batchCount (by decide) (List.getElem?_eq_some_iff.mp htask).choose
  have hplace : forall b j task, j < batchSize ->
      tasks[batchSize * b + j]? = some task ->
      ((List.range (Batches.batchCount batchSize tasks)).flatMap fun b =>
        settle toLowerCase (Batches.batch batchSize tasks b) (decided b))[batchSize * b + j]? =
        some ((((decided b).getD [])[j]?).getD (deterministicFallback toLowerCase task)) := by
    intro b j task hj htask
    rw [Batches.getElem?_flatMap_range hlength (hbatch b j task htask) hj]
    apply getElem?_settle
    rw [Batches.getElem?_batch hj, htask]
  have hentry : forall b j task, tasks[batchSize * b + j]? = some task -> forall result,
      EntryFor toLowerCase toUpperCase jsonParse retries answers b j result <->
        ((decided b).getD [])[j]? = some result := by
    intro b j task htask result
    have hb := hdecided b (hbatch b j task htask)
    constructor
    · rintro ⟨parsed, hparsed, hfound⟩
      rw [hb.unique hparsed]
      exact hfound
    · intro hfound
      cases hkind : decided b with
      | none =>
          rw [hkind] at hfound
          cases hfound
      | some parsed =>
          rw [hkind] at hfound hb
          exact ⟨parsed, hb, hfound⟩
  constructor
  · intro h
    constructor
    · intro _ hinfinity b hb
      have hends := (hdecided b hb).exists_not_askedAgain
      rw [hinfinity] at hends
      exact hends rfl
    · intro b j task hj htask hnone
      have hno := hnone.resolve_left htoken
      have hmissing : ((decided b).getD [])[j]? = none := by
        rw [Option.eq_none_iff_forall_ne_some]
        intro result hfound
        exact hno result ((hentry b j task htask result).mpr hfound)
      have hresult := hplace b j task hj htask
      rw [hmissing] at hresult
      rw [← allowed_deterministicFallback_iff]
      exact h.allowed _ (List.mem_of_getElem? hresult)
  · intro h
    refine ⟨Batches.length_flatMap_batches (by decide) hlength, ?_, ?_⟩
    · intro b j task hj htask
      refine ⟨_, hplace b j task hj htask, ?_⟩
      cases hfound : ((decided b).getD [])[j]? with
      | none =>
          exact Or.inl rfl
      | some result =>
          exact Or.inr ⟨htoken, (hentry b j task htask result).mpr hfound⟩
    · intro result hresult
      rcases List.mem_flatMap.mp hresult with ⟨b, hb, hmem⟩
      rcases List.getElem?_of_mem hmem with ⟨j, hj⟩
      have hlt : j < (Batches.batch batchSize tasks b).length := by
        rw [← hlength b]
        exact (List.getElem?_eq_some_iff.mp hj).choose
      have hsize : j < batchSize := by
        rw [Batches.length_batch] at hlt
        omega
      have htask : tasks[batchSize * b + j]? =
          some ((Batches.batch batchSize tasks b)[j]) := by
        rw [← Batches.getElem?_batch hsize]
        exact List.getElem?_eq_getElem hlt
      rw [getElem?_settle (List.getElem?_eq_getElem hlt)] at hj
      cases hfound : ((decided b).getD [])[j]? with
      | none =>
          rw [hfound] at hj
          rw [← Option.some.inj hj, Option.getD_none, allowed_deterministicFallback_iff]
          apply h.plain b j _ hsize htask
          refine Or.inr ?_
          intro entry hentry'
          rw [(hentry b j _ htask entry).mp hentry'] at hfound
          cases hfound
      | some entry =>
          rw [hfound] at hj
          rw [← Option.some.inj hj, Option.getD_some]
          cases hkind : decided b with
          | none =>
              rw [hkind] at hfound
              cases hfound
          | some parsed =>
              have hb' := hdecided b (List.mem_range.mp hb)
              rw [hkind] at hfound hb'
              exact hb'.allowed (List.mem_of_getElem? hfound)

theorem settled_of_classifyImportedTasks {fuel : Nat} {c : Classification}
    (htasks : tasks ≠ []) (htoken : token.getD "" ≠ "")
    (h : classifyImportedTasks toLowerCase toUpperCase jsonParse fuel token retries answers tasks
      = some c) :
    exists decided : Nat -> Option (List TaskClassificationResult),
      (forall b, b < Batches.batchCount batchSize tasks ->
        Decided toLowerCase toUpperCase jsonParse (retries.getD defaultMaxRetries) (answers b)
          0 (decided b)) ∧
      c.results = (List.range (Batches.batchCount batchSize tasks)).flatMap fun b =>
        settle toLowerCase (Batches.batch batchSize tasks b) (decided b) := by
  unfold classifyImportedTasks at h
  rw [if_neg htasks, if_neg htoken] at h
  rcases foldlM_append_eq_some h with ⟨hended, hresults⟩
  have hbatch : forall b, exists decided, b < Batches.batchCount batchSize tasks ->
      Decided toLowerCase toUpperCase jsonParse (retries.getD defaultMaxRetries) (answers b) 0
          decided ∧
        ((classifyAttempts toLowerCase toUpperCase jsonParse
          (retries.getD defaultMaxRetries) (b + 1) (Batches.batch batchSize tasks b)
          (answers b) fuel 0).map Classification.results).getD [] =
        settle toLowerCase (Batches.batch batchSize tasks b) decided := by
    intro b
    by_cases hb : b < Batches.batchCount batchSize tasks
    · rcases Option.isSome_iff_exists.mp (hended b (List.mem_range.mpr hb)) with ⟨cb, hcb⟩
      rcases decided_of_classifyAttempts hcb with ⟨decided, hdecided, hsettled⟩
      refine ⟨decided, fun _ => ⟨hdecided, ?_⟩⟩
      rw [hcb]
      exact hsettled
    · exact ⟨none, fun hlt => absurd hlt hb⟩
  choose decided hdecided using hbatch
  refine ⟨decided, fun b hb => (hdecided b hb).1, ?_⟩
  rw [hresults, List.nil_append]
  apply List.flatMap_congr
  intro b hb
  exact (hdecided b (List.mem_range.mp hb)).2

theorem exists_classifyImportedTasks
    (h : forall b, b < Batches.batchCount batchSize tasks -> exists decided,
      Decided toLowerCase toUpperCase jsonParse (retries.getD defaultMaxRetries) (answers b) 0
        decided) :
    exists fuel c,
      classifyImportedTasks toLowerCase toUpperCase jsonParse fuel token retries answers tasks =
        some c := by
  have hfuel : forall count, count ≤ Batches.batchCount batchSize tasks ->
      exists fuel, forall more, fuel ≤ more -> forall b, b < count ->
        (classifyAttempts toLowerCase toUpperCase jsonParse (retries.getD defaultMaxRetries)
          (b + 1) (Batches.batch batchSize tasks b) (answers b) more 0).isSome = true := by
    intro count
    induction count with
    | zero =>
        exact fun _ => ⟨0, fun _ _ b hb => absurd hb (Nat.not_lt_zero b)⟩
    | succ count ih =>
        intro hcount
        rcases ih (by omega) with ⟨fuel, hbefore⟩
        rcases h count hcount with ⟨decided, hdecided⟩
        rcases exists_classifyAttempts hdecided (count + 1)
          (Batches.batch batchSize tasks count) with ⟨last, hlast⟩
        refine ⟨max fuel last, ?_⟩
        intro more hmore b hb
        rcases Nat.lt_succ_iff_lt_or_eq.mp hb with hb | hb
        · exact hbefore more (by omega) b hb
        · rw [hb]
          exact hlast more (by omega)
  rcases hfuel _ (Nat.le_refl _) with ⟨fuel, henough⟩
  refine ⟨fuel, ?_⟩
  unfold classifyImportedTasks
  split
  · exact ⟨_, rfl⟩
  · split
    · exact ⟨_, rfl⟩
    · apply Option.isSome_iff_exists.mp
      apply isSome_foldlM_append
      intro b hb
      exact henough fuel (Nat.le_refl fuel) b (List.mem_range.mp hb)

/-- The classifier returns results that are aligned with the tasks and allowed exactly if an
unlimited number of attempts ends, and the tasks that are left to the rules have plain
words. -/
theorem classified_iff_classifiable (toLowerCase toUpperCase : String -> String)
    (jsonParse : String -> Except String Json) (token : Option String)
    (retries : Option RetryLimit) (answers : Nat -> Nat -> HttpAnswer)
    (tasks : List TaskClassificationInput) :
    (exists fuel c,
      classifyImportedTasks toLowerCase toUpperCase jsonParse fuel token retries answers tasks =
          some c ∧
        Aligned toLowerCase toUpperCase jsonParse token retries answers tasks c.results) <->
      Classifiable toLowerCase toUpperCase jsonParse token retries answers tasks := by
  by_cases htasks : tasks = []
  · rw [htasks]
    constructor
    · intro _
      constructor
      · intro _ _ b hb
        exact absurd hb (Nat.not_lt_zero b)
      · intro b j task _ htask _
        cases htask
    · intro _
      refine ⟨0, { results := [], warnings := [] }, rfl, rfl, ?_, ?_⟩
      · intro b j task _ htask
        cases htask
      · intro result hresult
        cases hresult
  · by_cases htoken : token.getD "" = ""
    · have hreturned : forall fuel, exists c,
          classifyImportedTasks toLowerCase toUpperCase jsonParse fuel token retries answers
            tasks = some c ∧ c.results = tasks.map (deterministicFallback toLowerCase) := by
        intro fuel
        unfold classifyImportedTasks
        rw [if_neg htasks, if_pos htoken]
        exact ⟨_, rfl, rfl⟩
      rw [← aligned_fallback_iff htoken]
      constructor
      · rintro ⟨fuel, c, hc, haligned⟩
        rcases hreturned fuel with ⟨c', hc', hresults⟩
        rw [hc] at hc'
        rw [← hresults, ← Option.some.inj hc']
        exact haligned
      · intro haligned
        rcases hreturned 0 with ⟨c, hc, hresults⟩
        rw [← hresults] at haligned
        exact ⟨0, c, hc, haligned⟩
    · constructor
      · rintro ⟨fuel, c, hc, haligned⟩
        rcases settled_of_classifyImportedTasks htasks htoken hc with
          ⟨decided, hdecided, hresults⟩
        rw [hresults] at haligned
        exact (aligned_settled_iff htoken hdecided).mp haligned
      · intro h
        have hends : forall b, b < Batches.batchCount batchSize tasks -> exists decided,
            Decided toLowerCase toUpperCase jsonParse (retries.getD defaultMaxRetries)
              (answers b) 0 decided := by
          intro b hb
          rw [exists_decided_iff]
          intro hinfinity
          cases retries with
          | none =>
              cases hinfinity
          | some limit =>
              have hlimit : limit = .infinity := hinfinity
              rw [Option.getD_some, hlimit]
              exact h.ends htoken (by rw [hlimit]) b hb
        have hreturned : exists fuel c,
            classifyImportedTasks toLowerCase toUpperCase jsonParse fuel token retries answers
              tasks = some c :=
          exists_classifyImportedTasks hends
        rcases hreturned with ⟨fuel, c, hc⟩
        rcases settled_of_classifyImportedTasks htasks htoken hc with
          ⟨decided, hdecided, hresults⟩
        refine ⟨fuel, c, hc, ?_⟩
        rw [hresults]
        exact (aligned_settled_iff htoken hdecided).mpr h

/-- Without a token, a task whose raw type is the word "constructor" gets a member that every
object has for its type. -/
theorem not_classified_constructor :
    ¬ exists fuel c,
      classifyImportedTasks String.toLower String.toUpper (fun _ => .error "") fuel none none
          (fun _ _ => .failed "fetch failed")
          [{ rawType := some "constructor", rawStatus := none }] = some c ∧
        Aligned String.toLower String.toUpper (fun _ => .error "") none none
          (fun _ _ => .failed "fetch failed")
          [{ rawType := some "constructor", rawStatus := none }] c.results := by
  rintro ⟨fuel, c, hc, haligned⟩
  have hresult := (haligned.allowed
    { taskType := .inherited "constructor", status := .text "BACKLOG" } (by
      cases hc
      decide +kernel)).taskType
  exact hresult

end Importing
end CopilotFactory
