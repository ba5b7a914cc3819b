import CopilotFactory.Foundations.Paths
import CopilotFactory.Policies.FileScopePolicy

/-!
# Spellings of a path

Normalization works on the text of a path, while a path leads to a file component by
component.  The two agree as long as "." stands only in front of the path and ".."
nowhere: then the normal form spells the names on the way to the file.
-/

namespace CopilotFactory
namespace Policies

open Foundations

/-!
## Components of the normal form

Each step of the normalization, as an operation on the texts between the slashes.
-/

variable {part : List Char} {rest parts front : List (List Char)} {path : String}

def dropEmptyParts : List (List Char) -> List (List Char)
  | [] => []
  | [part] => [part]
  | part :: next :: rest =>
      if part = [] then dropEmptyParts (next :: rest)
      else part :: dropEmptyParts (next :: rest)

/-- The first part stays, as it says whether the path begins with a slash. -/
def squeezeParts : List (List Char) -> List (List Char)
  | [] => []
  | part :: rest => part :: dropEmptyParts rest

/-- Without the leading parts of this text, as long as another part follows. -/
def dropLeading (text : List Char) : List (List Char) -> List (List Char)
  | [] => []
  | [part] => [part]
  | part :: next :: rest =>
      if part = text then dropLeading text (next :: rest) else part :: next :: rest

theorem splitOn_cons_slash (text : List Char) :
    ('/' :: text).splitOn '/' = [] :: text.splitOn '/' := by
  rw [List.splitOn_cons_eq_if_modifyHead, if_pos (beq_self_eq_true '/')]

theorem splitOn_cons_of_ne {c : Char} (hc : c ≠ '/') (text : List Char) :
    (c :: text).splitOn '/' = (text.splitOn '/').modifyHead (List.cons c) := by
  rw [List.splitOn_cons_eq_if_modifyHead, if_neg (by simpa using hc)]

theorem squeezeParts_modifyHead (f : List Char -> List Char) (parts : List (List Char)) :
    squeezeParts (parts.modifyHead f) = (squeezeParts parts).modifyHead f := by
  cases parts with
  | nil => rfl
  | cons part rest => rfl

theorem splitOn_of_head {text : List Char} (h : text.head? ≠ some '/') :
    text.splitOn '/' = [[]] ∨ exists c part rest, text.splitOn '/' = (c :: part) :: rest := by
  cases text with
  | nil =>
      exact Or.inl (List.splitOn_nil '/')
  | cons c rest =>
      right
      have hc : c ≠ '/' := by
        intro hc
        exact h (by rw [hc]; rfl)
      rw [splitOn_cons_of_ne hc]
      cases hsplit : rest.splitOn '/' with
      | nil => exact absurd hsplit (List.splitOn_ne_nil '/' rest)
      | cons part others => exact ⟨c, part, others, rfl⟩

theorem splitOn_collapseSlashes (text : List Char) :
    (collapseSlashes text).splitOn '/' = squeezeParts (text.splitOn '/') := by
  induction text with
  | nil =>
      simp [collapseSlashes, squeezeParts, dropEmptyParts]
  | cons c rest ih =>
      by_cases hc : c = '/'
      · rw [hc, splitOn_cons_slash]
        by_cases hnext : rest.head? = some '/'
        · -- The first slash goes, and with it one of two empty parts.
          rw [collapseSlashes, if_pos ⟨rfl, hnext⟩, ih]
          cases rest with
          | nil => cases hnext
          | cons d rest =>
              cases hnext
              rw [splitOn_cons_slash]
              cases hsplit : rest.splitOn '/' with
              | nil => exact absurd hsplit (List.splitOn_ne_nil '/' rest)
              | cons part others =>
                  simp only [squeezeParts, dropEmptyParts, if_true]
        · rw [collapseSlashes, if_neg (fun h => hnext h.2), splitOn_cons_slash, ih]
          rcases splitOn_of_head hnext with hsplit | ⟨d, part, others, hsplit⟩
          · rw [hsplit]
            rfl
          · rw [hsplit]
            cases others with
            | nil => rfl
            | cons next others => simp [squeezeParts, dropEmptyParts]
      · rw [collapseSlashes, if_neg (fun h => hc h.1), splitOn_cons_of_ne hc,
          splitOn_cons_of_ne hc, ih, squeezeParts_modifyHead]

theorem eq_of_splitOn_cons {text next : List Char} (h : text.splitOn '/' = part :: next :: rest) :
    exists after, text = part ++ '/' :: after ∧ after.splitOn '/' = next :: rest := by
  refine ⟨['/'].intercalate (next :: rest), ?_, ?_⟩
  · have hjoin : ['/'].intercalate (text.splitOn '/') = text :=
      List.intercalate_splitOn '/'
    rw [h] at hjoin
    rw [← hjoin]
    simp [List.intercalate]
  · apply List.splitOn_intercalate
    · intro l hl
      have hmem : l ∈ text.splitOn '/' := by
        rw [h]
        exact List.mem_cons_of_mem part hl
      exact Path.noSlash_of_mem_splitOn hmem
    · exact List.cons_ne_nil next rest

theorem splitOn_stripDotSlashes (text : List Char) :
    (stripDotSlashes text).splitOn '/' = dropLeading ['.'] (text.splitOn '/') := by
  fun_induction stripDotSlashes text with
  | case1 rest ih =>
      rw [ih, splitOn_cons_of_ne (by decide), splitOn_cons_slash]
      cases hsplit : rest.splitOn '/' with
      | nil => exact absurd hsplit (List.splitOn_ne_nil '/' rest)
      | cons part others => simp [dropLeading]
  | case2 text hother =>
      cases hsplit : text.splitOn '/' with
      | nil => rfl
      | cons part rest =>
          cases rest with
          | nil => rfl
          | cons next rest =>
              have hdot : part ≠ ['.'] := by
                intro hdot
                rcases eq_of_splitOn_cons hsplit with ⟨after, htext, _⟩
                rw [hdot] at htext
                exact hother after htext
              rw [dropLeading, if_neg hdot]

theorem splitOn_stripSlashes (text : List Char) :
    (stripSlashes text).splitOn '/' = dropLeading [] (text.splitOn '/') := by
  fun_induction stripSlashes text with
  | case1 rest ih =>
      rw [ih, splitOn_cons_slash]
      cases hsplit : rest.splitOn '/' with
      | nil => exact absurd hsplit (List.splitOn_ne_nil '/' rest)
      | cons part others => simp [dropLeading]
  | case2 text hother =>
      cases hsplit : text.splitOn '/' with
      | nil => rfl
      | cons part rest =>
          cases rest with
          | nil => rfl
          | cons next rest =>
              have hempty : part ≠ [] := by
                intro hempty
                rcases eq_of_splitOn_cons hsplit with ⟨after, htext, _⟩
                rw [hempty] at htext
                exact hother after htext
              rw [dropLeading, if_neg hempty]

/-!
## Plain paths
-/

theorem dropEmptyParts_append (front : List (List Char)) (h : rest ≠ []) :
    dropEmptyParts (front ++ rest) =
      front.filter (fun part => part ≠ []) ++ dropEmptyParts rest := by
  induction front with
  | nil => rfl
  | cons part front ih =>
      cases hsplit : front ++ rest with
      | nil => exact absurd (List.append_eq_nil_iff.mp hsplit).2 h
      | cons next others =>
          rw [List.cons_append, hsplit, dropEmptyParts, ← hsplit, ih]
          by_cases hpart : part = []
          · rw [if_pos hpart, List.filter_cons_of_neg (by simp [hpart])]
          · rw [if_neg hpart, List.filter_cons_of_pos (by simp [hpart]), List.cons_append]

theorem dropEmptyParts_eq (h : parts ≠ []) :
    dropEmptyParts parts = parts.filter (fun part => part ≠ []) ++
      if parts.getLast? = some [] then [[]] else [] := by
  rcases List.eq_nil_or_concat parts with hnil | ⟨front, last, hparts⟩
  · exact absurd hnil h
  · rw [hparts, List.concat_eq_append, dropEmptyParts_append front (List.cons_ne_nil last []),
      List.filter_append, List.append_assoc, List.getLast?_concat]
    by_cases hlast : last = []
    · simp [dropEmptyParts, hlast]
    · simp [dropEmptyParts, hlast]

theorem dropEmptyParts_ne_nil (h : parts ≠ []) : dropEmptyParts parts ≠ [] := by
  fun_induction dropEmptyParts parts with
  | case1 => exact absurd rfl h
  | case2 part => exact h
  | case3 next rest ih => exact ih (List.cons_ne_nil next rest)
  | case4 part next rest hpart ih => exact List.cons_ne_nil part _

theorem dropLeading_append {text : List Char}
    (hfront : forall part, part ∈ front -> part = text) (h : rest ≠ []) :
    dropLeading text (front ++ rest) = dropLeading text rest := by
  induction front with
  | nil => rfl
  | cons part front ih =>
      have hrest := ih (fun other hother => hfront other (List.mem_cons_of_mem part hother))
      cases hsplit : front ++ rest with
      | nil => exact absurd (List.append_eq_nil_iff.mp hsplit).2 h
      | cons next others =>
          rw [List.cons_append, hsplit, dropLeading,
            if_pos (hfront part List.mem_cons_self), ← hsplit, hrest]

theorem dropLeading_of_not_mem {text : List Char} (h : text ∉ parts) :
    dropLeading text parts = parts := by
  cases parts with
  | nil => rfl
  | cons part rest =>
      cases rest with
      | nil => rfl
      | cons next rest =>
          rw [dropLeading, if_neg]
          intro hpart
          exact h (by rw [hpart]; exact List.mem_cons_self)

theorem dropLeading_dropEmptyParts (parts : List (List Char)) :
    dropLeading [] (dropEmptyParts parts) = dropEmptyParts parts := by
  fun_induction dropEmptyParts parts with
  | case1 => rfl
  | case2 part => rfl
  | case3 next rest ih => exact ih
  | case4 part next rest hpart ih =>
      cases dropEmptyParts (next :: rest) with
      | nil => rfl
      | cons other others => rw [dropLeading, if_neg hpart]

theorem not_mem_dropEmptyParts {text : List Char} (hne : parts ≠ []) (h : text ∉ parts) :
    text ∉ dropEmptyParts parts := by
  rw [dropEmptyParts_eq hne, List.mem_append]
  intro hmem
  rcases hmem with hmem | hmem
  · exact h (List.mem_filter.mp hmem).1
  · split at hmem
    · rename_i hlast
      rw [List.mem_singleton] at hmem
      rw [hmem] at h
      exact h (List.mem_of_getLast? hlast)
    · cases hmem

def partsOf (path : String) : List (List Char) :=
  (trim path.toList).splitOn '/'

/-- No part is "..", and "." stands only in parts before all names, in a path that begins
with one. -/
structure SplitsPlainly (path : String) (front rest : List (List Char)) : Prop where
  parts : partsOf path = front ++ rest
  rest_ne_nil : rest ≠ []
  no_dot : ['.'] ∉ rest
  no_dots : ['.', '.'] ∉ rest
  front_dots : forall part, part ∈ front -> part = ['.'] ∨ part = []
  front_begins : front = [] ∨ front.head? = some ['.']

def IsPlain (path : String) : Prop :=
  exists front rest, SplitsPlainly path front rest

/-- The file that a path names: the directories on the way from the repository root. -/
def fileOf (path : String) : List String :=
  Path.locate [] (String.ofList (trim path.toList))

def EndsInSlash (path : String) : Prop :=
  (trim path.toList).getLast? = some '/'

instance (path : String) : Decidable (EndsInSlash path) :=
  inferInstanceAs (Decidable (_ = _))

theorem dropLeading_cons_of_ne {text : List Char} (h : part ≠ text) (rest : List (List Char)) :
    dropLeading text (part :: rest) = part :: rest := by
  cases rest with
  | nil => rfl
  | cons next rest => rw [dropLeading, if_neg h]

/-- Without "." in front, the normalization drops the empty parts. -/
theorem stripped_parts_of_no_dot (hparts : parts ≠ []) (h : ['.'] ∉ parts) :
    dropLeading [] (dropLeading ['.'] (squeezeParts parts)) = dropEmptyParts parts := by
  cases parts with
  | nil => exact absurd rfl hparts
  | cons part rest =>
      have hdot : part ≠ ['.'] := by
        intro hpart
        apply h
        rw [hpart]
        exact List.mem_cons_self
      rw [squeezeParts, dropLeading_cons_of_ne hdot]
      cases rest with
      | nil => rfl
      | cons next rest =>
          have hsome := dropEmptyParts_ne_nil (List.cons_ne_nil next rest)
          rw [dropEmptyParts]
          by_cases hpart : part = []
          · have hempty : forall other, other ∈ [part] -> other = [] := by
              simp [hpart]
            have hsplit := dropLeading_append hempty hsome
            rw [if_pos hpart, ← List.singleton_append, hsplit, dropLeading_dropEmptyParts]
          · rw [if_neg hpart, dropLeading_cons_of_ne hpart]

theorem stripped_parts (h : SplitsPlainly path front rest) :
    dropLeading [] (dropLeading ['.'] (squeezeParts (front ++ rest))) =
      dropEmptyParts rest := by
  cases hsplit : front with
  | nil =>
      exact stripped_parts_of_no_dot h.rest_ne_nil h.no_dot
  | cons part others =>
      have hpart : part = ['.'] := by
        rcases h.front_begins with hfront | hfront
        · rw [hsplit] at hfront
          cases hfront
        · rw [hsplit] at hfront
          exact Option.some.inj hfront
      -- All parts in front that are not empty are dots, and go.
      have hdots : forall p, p ∈ part :: others.filter (fun part => part ≠ []) ->
          p = ['.'] := by
        intro p hp
        rcases List.mem_cons.mp hp with hp | hp
        · rw [hp, hpart]
        · rcases List.mem_filter.mp hp with ⟨hmem, hne⟩
          rcases h.front_dots p (by rw [hsplit]; exact List.mem_cons_of_mem _ hmem)
            with hdot | hempty
          · exact hdot
          · rw [hempty] at hne
            cases hne
      rw [List.cons_append, squeezeParts, dropEmptyParts_append others h.rest_ne_nil,
        ← List.cons_append, dropLeading_append hdots (dropEmptyParts_ne_nil h.rest_ne_nil),
        dropLeading_of_not_mem (not_mem_dropEmptyParts h.rest_ne_nil h.no_dot),
        dropLeading_dropEmptyParts]

theorem splitOn_normalizePath (h : SplitsPlainly path front rest) :
    (normalizePath path).toList.splitOn '/' = dropEmptyParts rest := by
  unfold normalizePath
  rw [String.toList_ofList, splitOn_stripSlashes, splitOn_stripDotSlashes,
    splitOn_collapseSlashes, ← stripped_parts h, ← h.parts]
  rfl

/-!
## Where a plain path leads
-/

theorem ofList_eq_iff {text : String} : String.ofList part = text <-> part = text.toList := by
  constructor
  · intro h
    rw [← h, String.toList_ofList]
  · intro h
    rw [h, String.ofList_toList]

theorem foldl_enter_front (h : forall part, part ∈ front -> part = ['.'] ∨ part = [])
    (location : List String) :
    (front.map String.ofList).foldl Path.enter location = location := by
  induction front with
  | nil => rfl
  | cons part front ih =>
      have hpart : String.ofList part = "" ∨ String.ofList part = "." := by
        rcases h part List.mem_cons_self with hpart | hpart
        · exact Or.inr (ofList_eq_iff.mpr hpart)
        · exact Or.inl (ofList_eq_iff.mpr hpart)
      rw [List.map_cons, List.foldl_cons, Path.enter, if_pos hpart,
        ih (fun p hp => h p (List.mem_cons_of_mem part hp))]

theorem foldl_enter_rest (hdot : ['.'] ∉ rest) (hdots : ['.', '.'] ∉ rest)
    (location : List String) :
    (rest.map String.ofList).foldl Path.enter location =
      location ++ (rest.filter (fun part => part ≠ [])).map String.ofList := by
  induction rest generalizing location with
  | nil => simp
  | cons part rest ih =>
      rw [List.mem_cons, not_or] at hdot hdots
      rw [List.map_cons, List.foldl_cons, ih hdot.2 hdots.2]
      by_cases hpart : part = []
      · rw [List.filter_cons_of_neg (by simp [hpart]), Path.enter,
          if_pos (Or.inl (ofList_eq_iff.mpr hpart))]
      · have hname : ¬ (String.ofList part = "" ∨ String.ofList part = ".") := by
          intro hname
          rcases hname with hname | hname
          · exact hpart (ofList_eq_iff.mp hname)
          · exact hdot.1 (ofList_eq_iff.mp hname).symm
        have hup : String.ofList part ≠ ".." :=
          fun hup => hdots.1 (ofList_eq_iff.mp hup).symm
        rw [List.filter_cons_of_pos (by simp [hpart]), Path.enter, if_neg hname, if_neg hup,
          List.map_cons, List.append_assoc, List.singleton_append]

theorem fileOf_of_plain (h : SplitsPlainly path front rest) :
    fileOf path = (rest.filter (fun part => part ≠ [])).map String.ofList := by
  have hcomponents : Path.components (String.ofList (trim path.toList)) =
      (front ++ rest).map String.ofList := by
    unfold Path.components
    rw [String.toList_ofList, ← h.parts]
    rfl
  unfold fileOf Path.locate
  rw [hcomponents, List.map_append, List.foldl_append, ite_self,
    foldl_enter_front h.front_dots, foldl_enter_rest h.no_dot h.no_dots, List.nil_append]

theorem intercalate_append (separator : Char) (hfront : front ≠ []) (hrest : rest ≠ []) :
    [separator].intercalate (front ++ rest) =
      [separator].intercalate front ++ separator :: [separator].intercalate rest := by
  induction front with
  | nil => exact absurd rfl hfront
  | cons part front ih =>
      cases front with
      | nil =>
          rw [List.singleton_append, List.intercalate_cons_of_ne_nil hrest,
            List.intercalate_singleton, List.append_assoc, List.singleton_append]
      | cons next front =>
          rw [List.cons_append, List.intercalate_cons_of_ne_nil (by simp),
            List.intercalate_cons_cons, ih (List.cons_ne_nil next front)]
          simp

theorem getLast?_splitOn_iff {text : List Char} (h : text ≠ []) :
    (text.splitOn '/').getLast? = some [] <-> text.getLast? = some '/' := by
  constructor
  · intro hempty
    have hjoin : ['/'].intercalate (text.splitOn '/') = text :=
      List.intercalate_splitOn '/'
    rcases List.eq_nil_or_concat (text.splitOn '/') with hnil | ⟨parts, part, hparts⟩
    · exact absurd hnil (List.splitOn_ne_nil '/' text)
    · rw [hparts, List.concat_eq_append, List.getLast?_concat, Option.some.injEq] at hempty
      rw [hparts, hempty, List.concat_eq_append] at hjoin
      by_cases hsingle : parts = []
      · rw [hsingle] at hjoin
        exact absurd hjoin.symm h
      · rw [intercalate_append '/' hsingle (List.cons_ne_nil _ _)] at hjoin
        rw [← hjoin]
        exact List.getLast?_concat
  · intro hslash
    rcases List.getLast?_eq_some_iff.mp hslash with ⟨before, htext⟩
    rw [htext, List.splitOn_append_cons_self, List.splitOn_nil]
    exact List.getLast?_concat

theorem getLast?_rest (h : SplitsPlainly path front rest) :
    (partsOf path).getLast? = rest.getLast? := by
  rw [h.parts, List.getLast?_append_of_ne_nil front h.rest_ne_nil]

/-- The names on the way to the file, and the slash at the end, determine the normal form. -/
theorem normalParts (h : SplitsPlainly path front rest) :
    dropEmptyParts rest = (fileOf path).map String.toList ++
      if fileOf path = [] ∨ EndsInSlash path then [[]] else [] := by
  have hnames : (fileOf path).map String.toList = rest.filter (fun part => part ≠ []) := by
    rw [fileOf_of_plain h, List.map_map]
    simp [Function.comp_def]
  have hlast : rest.getLast? = some [] <-> fileOf path = [] ∨ EndsInSlash path := by
    rw [← getLast?_rest h]
    by_cases htext : trim path.toList = []
    · have hfile : fileOf path = [] := by
        unfold fileOf
        rw [htext]
        exact Path.locate_empty []
      rw [partsOf, htext, List.splitOn_nil]
      simp [hfile]
    · rw [partsOf, getLast?_splitOn_iff htext]
      constructor
      · exact Or.inr
      · intro hopen
        rcases hopen with hfile | hslash
        · -- Without names every part is empty, the last one too.
          rw [← getLast?_splitOn_iff htext]
          have hmem := List.getLast_mem h.rest_ne_nil
          rw [hfile, List.map_nil, eq_comm, List.filter_eq_nil_iff] at hnames
          have hempty := hnames _ hmem
          rw [decide_eq_true_iff, not_not] at hempty
          have hrest := getLast?_rest h
          rw [List.getLast?_eq_some_getLast h.rest_ne_nil, hempty] at hrest
          exact hrest
        · exact hslash
  rw [dropEmptyParts_eq h.rest_ne_nil, hnames]
  by_cases hopen : fileOf path = [] ∨ EndsInSlash path
  · rw [if_pos hopen, if_pos (hlast.mpr hopen)]
  · rw [if_neg hopen, if_neg (mt hlast.mp hopen)]

/-!
## Spellings of one file
-/

theorem normalizePath_toList (h : IsPlain path) :
    (normalizePath path).toList = ['/'].intercalate ((fileOf path).map String.toList ++
      if fileOf path = [] ∨ EndsInSlash path then [[]] else []) := by
  rcases h with ⟨front, rest, h⟩
  rw [← normalParts h, ← splitOn_normalizePath h, List.intercalate_splitOn]

theorem normalizePath_eq_of_file {path' : String} (h : IsPlain path) (h' : IsPlain path')
    (hfile : fileOf path = fileOf path') (hslash : EndsInSlash path <-> EndsInSlash path') :
    normalizePath path = normalizePath path' := by
  apply String.toList_injective
  rw [normalizePath_toList h, normalizePath_toList h', hfile]
  simp only [hslash]

theorem ne_nil_of_mem_file (h : IsPlain path) {name : List Char}
    (hname : name ∈ (fileOf path).map String.toList) : name ≠ [] := by
  rcases h with ⟨front, rest, h⟩
  rw [fileOf_of_plain h, List.map_map] at hname
  rcases List.mem_map.mp hname with ⟨part, hpart, hsame⟩
  rw [Function.comp_apply, String.toList_ofList] at hsame
  rw [← hsame]
  simpa using (List.mem_filter.mp hpart).2

theorem normalizeRoot_toList {root : String} (h : IsPlain root) (hroot : fileOf root ≠ []) :
    (normalizeRoot root).toList =
      ['/'].intercalate ((fileOf root).map String.toList) ++ ['/'] := by
  have hnames : (fileOf root).map String.toList ≠ [] := by
    simpa using hroot
  have htext := normalizePath_toList h
  by_cases hslash : EndsInSlash root
  · rw [if_pos (Or.inr hslash), intercalate_append '/' hnames (List.cons_ne_nil _ _)] at htext
    have hempty : normalizePath root ≠ "" := by
      intro hempty
      rw [hempty] at htext
      simp at htext
    unfold normalizeRoot
    rw [if_neg hempty, if_pos (by rw [htext]; exact List.getLast?_concat)]
    exact htext
  · rw [if_neg (by simp [hroot, hslash]), List.append_nil] at htext
    rcases h with ⟨front, rest, hsplit⟩
    have hparts := splitOn_normalizePath hsplit
    rw [normalParts hsplit, if_neg (by simp [hroot, hslash]), List.append_nil] at hparts
    have hlast : ((normalizePath root).toList.splitOn '/').getLast? ≠ some [] := by
      rw [hparts]
      intro hlast
      exact ne_nil_of_mem_file ⟨front, rest, hsplit⟩ (List.mem_of_getLast? hlast) rfl
    have hempty : normalizePath root ≠ "" := by
      intro hempty
      rw [hempty] at hlast
      exact hlast rfl
    have hopen : (normalizePath root).toList.getLast? ≠ some '/' := by
      intro hopen
      refine hlast ((getLast?_splitOn_iff ?_).mpr hopen)
      intro hnil
      rw [hnil] at hopen
      cases hopen
    unfold normalizeRoot
    rw [if_neg hempty, if_neg hopen, String.toList_append, htext]
    rfl

theorem underRoot_of_below {root : String} {below : List String} (hpath : IsPlain path)
    (h : IsPlain root) (hroot : fileOf root ≠ []) (hbelow : fileOf path = fileOf root ++ below)
    (hinside : below ≠ [] ∨ EndsInSlash path) : underRoot (normalizePath path) root = true := by
  have htext := normalizeRoot_toList h hroot
  have hnames : (fileOf root).map String.toList ≠ [] := by
    simpa using hroot
  have hnonempty : normalizeRoot root ≠ "" := by
    intro hempty
    rw [hempty] at htext
    simp at htext
  unfold underRoot
  dsimp only
  rw [Bool.and_eq_true, decide_eq_true_iff, List.isPrefixOf_iff_prefix]
  refine ⟨hnonempty, ?_⟩
  have hrest : below.map String.toList ++
      (if fileOf path = [] ∨ EndsInSlash path then [[]] else []) ≠ [] := by
    rcases hinside with hbelow | hslash
    · simp [hbelow]
    · simp [hslash]
  rw [htext, normalizePath_toList hpath, hbelow, List.map_append, List.append_assoc]
  rw [hbelow] at hrest
  rw [intercalate_append '/' hnames hrest]
  exact ⟨_, by rw [List.append_assoc, List.singleton_append]⟩

/-- Plain spellings of one file get the same verdict, and no plain path below a deny root
is read, written or left in a diff. -/
theorem plain_paths_enforced (policy : FileScopePolicy) :
    (forall path path', IsPlain path -> IsPlain path' -> fileOf path = fileOf path' ->
      (EndsInSlash path <-> EndsInSlash path') ->
      checkReadAccess path policy = checkReadAccess path' policy ∧
        checkWriteAccess path policy = checkWriteAccess path' policy) ∧
    (forall path root below, IsPlain path -> IsPlain root -> root ∈ policy.denyRoots ->
      fileOf root ≠ [] -> fileOf path = fileOf root ++ below ->
      (below ≠ [] ∨ EndsInSlash path) ->
      (checkReadAccess path policy).allowed = false ∧
        (checkWriteAccess path policy).allowed = false ∧
        forall modifiedFiles, path ∈ modifiedFiles ->
          (validatePostRunDiff modifiedFiles policy).valid = false ∧
            checkWriteAccess path policy ∈
              (validatePostRunDiff modifiedFiles policy).violations) := by
  constructor
  · intro path path' h h' hfile hslash
    have hnormal := normalizePath_eq_of_file h h' hfile hslash
    exact ⟨checkReadAccess_congr hnormal policy, checkWriteAccess_congr hnormal policy⟩
  · intro path root below hpath hplain hroot hdir hbelow hinside
    rcases denied_of_denyRoot hroot (underRoot_of_below hpath hplain hdir hbelow hinside) with
      ⟨hread, hwrite⟩
    exact ⟨hread, hwrite, fun modifiedFiles hfile =>
      validatePostRunDiff_of_denied hfile hwrite⟩

/-!
## Secrets
-/

def permissivePolicy : FileScopePolicy where
  readRoots := []
  writeRoots := []
  denyRoots := ["secrets/"]
  allowReadOutsideScope := true
  allowWriteOutsideScope := true
  onViolation := .auditOnly

theorem isPlain_dotted : IsPlain "././/secrets//key" :=
  ⟨[['.'], ['.'], []], [['s', 'e', 'c', 'r', 'e', 't', 's'], [], ['k', 'e', 'y']],
    by decide +kernel, by decide, by decide, by decide, by decide, by decide⟩

theorem isPlain_absolute : IsPlain "/secrets/key" :=
  ⟨[], [[], ['s', 'e', 'c', 'r', 'e', 't', 's'], ['k', 'e', 'y']],
    by decide +kernel, by decide, by decide, by decide, by decide, by decide⟩

theorem isPlain_root : IsPlain "secrets/" :=
  ⟨[], [['s', 'e', 'c', 'r', 'e', 't', 's'], []],
    by decide +kernel, by decide, by decide, by decide, by decide, by decide⟩

theorem secret_key_denied :
    checkReadAccess "././/secrets//key" permissivePolicy =
        checkReadAccess "/secrets/key" permissivePolicy ∧
      (checkReadAccess "/secrets/key" permissivePolicy).allowed = false :=
  ⟨((plain_paths_enforced permissivePolicy).1 _ _ isPlain_dotted isPlain_absolute
      (by decide +kernel) (by decide +kernel)).1,
    ((plain_paths_enforced permissivePolicy).2 _ "secrets/" ["key"] isPlain_absolute
      isPlain_root (by decide) (by decide +kernel) (by decide +kernel)
      (Or.inl (List.cons_ne_nil _ _))).1⟩

/-- A detour through another directory leads to a secret, past the deny root. -/
theorem detour_evades_deny_root :
    fileOf "docs/../secrets/key" = fileOf "secrets/key" ∧
      (checkReadAccess "secrets/key" permissivePolicy).allowed = false ∧
      (checkReadAccess "docs/../secrets/key" permissivePolicy).allowed = true ∧
      (checkWriteAccess "docs/../secrets/key" permissivePolicy).allowed = true ∧
      (validatePostRunDiff ["docs/../secrets/key"] permissivePolicy).valid = true := by
  decide +kernel

end Policies
end CopilotFactory
