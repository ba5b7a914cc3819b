import CopilotFactory.Foundations.Texts

/-!
# File scope policy

Which files workers may read and write.  A path is normalized as a text and compared
with the normalized roots of the policy: deny roots first, then write roots, then read
roots.
-/

namespace CopilotFactory
namespace Policies

open Foundations

inductive FileScopeViolationAction where
  | failRun
  | denyAccess
  | auditOnly
deriving DecidableEq

inductive FileScopeViolationReason where
  | deniedByDenyRoot
  | writeInReadOnlyRoot
  | outsideAllRoots
  | writeOutsideScope
  | readOutsideScope
  | invalidPath
deriving DecidableEq

inductive FileScopeRootMatch where
  | denyRoot
  | writeRoot
  | readRoot
  | outside
deriving DecidableEq

structure FileScopePolicy where
  readRoots : List String
  writeRoots : List String
  denyRoots : List String
  allowReadOutsideScope : Bool
  allowWriteOutsideScope : Bool
  onViolation : FileScopeViolationAction
deriving DecidableEq

structure FileScopeEvaluation where
  allowed : Bool
  reason : Option FileScopeViolationReason := none
  explanation : String
  action : Option FileScopeViolationAction := none
  normalizedPath : String
  matchedRoot : FileScopeRootMatch
  matchedRootValue : Option String := none
deriving DecidableEq

structure PostRunDiffValidation where
  valid : Bool
  evaluations : List FileScopeEvaluation
  violations : List FileScopeEvaluation
  summary : String
deriving DecidableEq

/-!
## Normalization
-/

def collapseSlashes : List Char -> List Char
  | [] => []
  | c :: rest =>
      if c = '/' ∧ rest.head? = some '/' then
        collapseSlashes rest
      else
        c :: collapseSlashes rest

def stripDotSlashes : List Char -> List Char
  | '.' :: '/' :: rest => stripDotSlashes rest
  | text => text

def stripSlashes : List Char -> List Char
  | '/' :: rest => stripSlashes rest
  | text => text

def normalizePath (rawPath : String) : String :=
  String.ofList (stripSlashes (stripDotSlashes (collapseSlashes (trim rawPath.toList))))

def normalizeRoot (rawRoot : String) : String :=
  let p := normalizePath rawRoot
  if p = "" then ""
  else if p.toList.getLast? = some '/' then p
  else p ++ "/"

/-!
## Classification
-/

def underRoot (normalizedPath rawRoot : String) : Bool :=
  let root := normalizeRoot rawRoot
  root ≠ "" && root.toList.isPrefixOf normalizedPath.toList

def classifyPath (normalizedPath : String) (policy : FileScopePolicy) :
    FileScopeRootMatch × Option String :=
  match policy.denyRoots.find? (underRoot normalizedPath) with
  | some root => (.denyRoot, some root)
  | none =>
      match policy.writeRoots.find? (underRoot normalizedPath) with
      | some root => (.writeRoot, some root)
      | none =>
          match policy.readRoots.find? (underRoot normalizedPath) with
          | some root => (.readRoot, some root)
          | none => (.outside, none)

/-!
## Access
-/

def invalidPath (normalizedPath : String) (policy : FileScopePolicy) :
    FileScopeEvaluation where
  allowed := false
  reason := some .invalidPath
  explanation := "Path is empty or whitespace-only."
  action := some policy.onViolation
  normalizedPath := normalizedPath
  matchedRoot := .outside

def printRoot (rootValue : Option String) : String :=
  rootValue.getD "undefined"

def checkReadAccess (path : String) (policy : FileScopePolicy) : FileScopeEvaluation :=
  let normalizedPath := normalizePath path
  if normalizedPath = "" then
    invalidPath normalizedPath policy
  else
    match classifyPath normalizedPath policy with
    | (.denyRoot, rootValue) =>
        { allowed := false
          reason := some .deniedByDenyRoot
          explanation := s!"Read access denied: path \"{normalizedPath}\" falls under " ++
            s!"deny root \"{printRoot rootValue}\"."
          action := some policy.onViolation
          normalizedPath := normalizedPath
          matchedRoot := .denyRoot
          matchedRootValue := rootValue }
    | (.writeRoot, rootValue) =>
        { allowed := true
          explanation := s!"Read access permitted: path \"{normalizedPath}\" is within " ++
            s!"write root \"{printRoot rootValue}\" (write roots grant read+write)."
          normalizedPath := normalizedPath
          matchedRoot := .writeRoot
          matchedRootValue := rootValue }
    | (.readRoot, rootValue) =>
        { allowed := true
          explanation := s!"Read access permitted: path \"{normalizedPath}\" is within " ++
            s!"read root \"{printRoot rootValue}\"."
          normalizedPath := normalizedPath
          matchedRoot := .readRoot
          matchedRootValue := rootValue }
    | (.outside, _) =>
        if policy.allowReadOutsideScope then
          { allowed := true
            explanation := s!"Read access permitted: path \"{normalizedPath}\" is outside " ++
              "all roots but allow_read_outside_scope is true."
            normalizedPath := normalizedPath
            matchedRoot := .outside }
        else
          { allowed := false
            reason := some .readOutsideScope
            explanation := s!"Read access denied: path \"{normalizedPath}\" is outside " ++
              "all configured roots and allow_read_outside_scope is false."
            action := some policy.onViolation
            normalizedPath := normalizedPath
            matchedRoot := .outside }

def checkWriteAccess (path : String) (policy : FileScopePolicy) : FileScopeEvaluation :=
  let normalizedPath := normalizePath path
  if normalizedPath = "" then
    invalidPath normalizedPath policy
  else
    match classifyPath normalizedPath policy with
    | (.denyRoot, rootValue) =>
        { allowed := false
          reason := some .deniedByDenyRoot
          explanation := s!"Write access denied: path \"{normalizedPath}\" falls under " ++
            s!"deny root \"{printRoot rootValue}\"."
          action := some policy.onViolation
          normalizedPath := normalizedPath
          matchedRoot := .denyRoot
          matchedRootValue := rootValue }
    | (.writeRoot, rootValue) =>
        { allowed := true
          explanation := s!"Write access permitted: path \"{normalizedPath}\" is within " ++
            s!"write root \"{printRoot rootValue}\"."
          normalizedPath := normalizedPath
          matchedRoot := .writeRoot
          matchedRootValue := rootValue }
    | (.readRoot, rootValue) =>
        { allowed := false
          reason := some .writeInReadOnlyRoot
          explanation := s!"Write access denied: path \"{normalizedPath}\" is within " ++
            s!"read root \"{printRoot rootValue}\" which only permits reads."
          action := some policy.onViolation
          normalizedPath := normalizedPath
          matchedRoot := .readRoot
          matchedRootValue := rootValue }
    | (.outside, _) =>
        if policy.allowWriteOutsideScope then
          { allowed := true
            explanation := s!"Write access permitted: path \"{normalizedPath}\" is outside " ++
              "all roots but allow_write_outside_scope is true."
            normalizedPath := normalizedPath
            matchedRoot := .outside }
        else
          { allowed := false
            reason := some .writeOutsideScope
            explanation := s!"Write access denied: path \"{normalizedPath}\" is outside " ++
              "all configured roots and allow_write_outside_scope is false."
            action := some policy.onViolation
            normalizedPath := normalizedPath
            matchedRoot := .outside }

def validatePostRunDiff (modifiedFiles : List String) (policy : FileScopePolicy) :
    PostRunDiffValidation :=
  let evaluations := modifiedFiles.map (fun file => checkWriteAccess file policy)
  let violations := evaluations.filter (fun evaluation => !evaluation.allowed)
  if violations.isEmpty then
    { valid := true
      evaluations := evaluations
      violations := []
      summary := s!"Post-run diff validation passed: all {evaluations.length} modified " ++
        "file(s) are within allowed write scope." }
  else
    { valid := false
      evaluations := evaluations
      violations := violations
      summary := s!"Post-run diff validation failed: {violations.length} of " ++
        s!"{evaluations.length} modified file(s) violate write scope policy. Violations: " ++
        ", ".intercalate (violations.map FileScopeEvaluation.normalizedPath) }

/-!
## What the checks depend on
-/

theorem checkReadAccess_congr {path path' : String}
    (h : normalizePath path = normalizePath path') (policy : FileScopePolicy) :
    checkReadAccess path policy = checkReadAccess path' policy := by
  unfold checkReadAccess
  rw [h]

theorem checkWriteAccess_congr {path path' : String}
    (h : normalizePath path = normalizePath path') (policy : FileScopePolicy) :
    checkWriteAccess path policy = checkWriteAccess path' policy := by
  unfold checkWriteAccess
  rw [h]

theorem classifyPath_of_denyRoot {normalizedPath root : String} {policy : FileScopePolicy}
    (hroot : root ∈ policy.denyRoots) (h : underRoot normalizedPath root = true) :
    exists matching, classifyPath normalizedPath policy = (.denyRoot, some matching) := by
  unfold classifyPath
  cases hfind : policy.denyRoots.find? (underRoot normalizedPath) with
  | none => exact absurd h (List.find?_eq_none.mp hfind root hroot)
  | some matching => exact ⟨matching, rfl⟩

theorem denied_of_denyRoot {path root : String} {policy : FileScopePolicy}
    (hroot : root ∈ policy.denyRoots) (h : underRoot (normalizePath path) root = true) :
    (checkReadAccess path policy).allowed = false ∧
      (checkWriteAccess path policy).allowed = false := by
  rcases classifyPath_of_denyRoot hroot h with ⟨matching, hclass⟩
  by_cases hempty : normalizePath path = ""
  · simp only [checkReadAccess, checkWriteAccess, hempty, if_true]
    exact ⟨rfl, rfl⟩
  · simp only [checkReadAccess, checkWriteAccess, hempty, if_false, hclass, and_self]

theorem validatePostRunDiff_of_denied {modifiedFiles : List String} {file : String}
    {policy : FileScopePolicy} (hfile : file ∈ modifiedFiles)
    (h : (checkWriteAccess file policy).allowed = false) :
    (validatePostRunDiff modifiedFiles policy).valid = false ∧
      checkWriteAccess file policy ∈ (validatePostRunDiff modifiedFiles policy).violations := by
  have hviolation : checkWriteAccess file policy ∈
      (modifiedFiles.map (fun file => checkWriteAccess file policy)).filter
        (fun evaluation => !evaluation.allowed) :=
    List.mem_filter.mpr ⟨List.mem_map_of_mem hfile, by rw [h]; rfl⟩
  have hsome : ((modifiedFiles.map (fun file => checkWriteAccess file policy)).filter
      (fun evaluation => !evaluation.allowed)).isEmpty = false := by
    rw [List.isEmpty_eq_false_iff]
    exact List.ne_nil_of_mem hviolation
  simp only [validatePostRunDiff, hsome, Bool.false_eq_true, if_false, true_and]
  exact hviolation

end Policies
end CopilotFactory
