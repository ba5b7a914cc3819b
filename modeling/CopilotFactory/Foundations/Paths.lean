import Mathlib.Data.List.Basic

/-!
# File paths

Paths are texts, and the location that a path leads to is the list of directories
passed on the way from the root.  Joining paths resolves the components "." and
".." as far as the texts allow, and leads to the same location as the components
taken one by one.
-/

namespace CopilotFactory
namespace Foundations
namespace Path

variable {component part name : String} {parts names workingDirectory : List String}
  {absolute trailing : Bool}

def components (path : String) : List String :=
  (path.toList.splitOn '/').map String.ofList

def isAbsolute (path : String) : Bool :=
  path.toList.head? == some '/'

/-- A component that stands for an entry of a directory. -/
structure IsName (component : String) : Prop where
  noSlash : '/' ∉ component.toList
  ne_empty : component ≠ ""
  ne_dot : component ≠ "."
  ne_dots : component ≠ ".."

def enter (location : List String) (component : String) : List String :=
  if component = "" ∨ component = "." then
    location
  else if component = ".." then
    location.dropLast
  else
    location ++ [component]

def locate (workingDirectory : List String) (path : String) : List String :=
  (components path).foldl enter (if isAbsolute path then [] else workingDirectory)

/-- Add a component to resolved ones.  The components of a relative path may begin with
some "..". -/
def descend (absolute : Bool) (parts : List String) (component : String) : List String :=
  if component = "" ∨ component = "." then
    parts
  else if component = ".." then
    match parts.getLast? with
    | none => if absolute then [] else [".."]
    | some last => if last = ".." then parts ++ [".."] else parts.dropLast
  else
    parts ++ [component]

def resolve (absolute : Bool) (parts : List String) : List String :=
  parts.foldl (descend absolute) []

def render (absolute trailing : Bool) (parts : List String) : String :=
  if parts = [] then
    if absolute then "/" else if trailing then "./" else "."
  else
    (if absolute then "/" else "") ++ "/".intercalate parts ++ (if trailing then "/" else "")

def normalize (path : String) : String :=
  render (isAbsolute path) (path.toList.getLast? == some '/')
    (resolve (isAbsolute path) (components path))

/-- Empty parts are left out. -/
def join (parts : List String) : String :=
  normalize ("/".intercalate (parts.filter (fun part => part ≠ "")))

/-- The last component that is not empty. -/
def basename (path : String) : String :=
  (((components path).filter (fun component => component ≠ "")).getLast?).getD ""

/-!
## Components of texts
-/

theorem components_append (first second : String) :
    components (first ++ "/" ++ second) = components first ++ components second := by
  have htext : (first ++ "/" ++ second).toList = first.toList ++ '/' :: second.toList := by
    simp
  unfold components
  rw [htext, List.splitOn_append_cons_self, List.map_append]

theorem components_of_noSlash (h : '/' ∉ component.toList) :
    components component = [component] := by
  unfold components
  rw [List.splitOn_eq_singleton h]
  simp

theorem noSlash_of_mem_splitOn {part text : List Char} (h : part ∈ text.splitOn '/') :
    '/' ∉ part := by
  induction text generalizing part with
  | nil =>
      rw [List.splitOn_nil, List.mem_singleton] at h
      rw [h]
      exact List.not_mem_nil
  | cons c rest ih =>
      rw [List.splitOn_cons_eq_if_modifyHead] at h
      split at h
      · rcases List.mem_cons.mp h with h | h
        · rw [h]
          exact List.not_mem_nil
        · exact ih h
      · rename_i hslash
        cases hsplit : rest.splitOn '/' with
        | nil =>
            exact absurd hsplit (List.splitOn_ne_nil '/' rest)
        | cons first others =>
            rw [hsplit, List.modifyHead_cons] at h
            rcases List.mem_cons.mp h with h | h
            · have hfirst : '/' ∉ first := by
                apply ih
                rw [hsplit]
                exact List.mem_cons_self
              rw [h, List.mem_cons]
              intro hmem
              rcases hmem with hc | hmem
              · rw [← hc] at hslash
                exact hslash (beq_self_eq_true '/')
              · exact hfirst hmem
            · apply ih
              rw [hsplit]
              exact List.mem_cons_of_mem _ h

theorem noSlash_of_mem_components {path : String} (h : component ∈ components path) :
    '/' ∉ component.toList := by
  rcases List.mem_map.mp h with ⟨part, hpart, hcomponent⟩
  rw [← hcomponent, String.toList_ofList]
  exact noSlash_of_mem_splitOn hpart

theorem components_intercalate (h : parts ≠ []) :
    components ("/".intercalate parts) = parts.flatMap components := by
  induction parts with
  | nil =>
      exact absurd rfl h
  | cons part rest ih =>
      cases rest with
      | nil =>
          simp
      | cons next rest =>
          rw [String.intercalate_cons_cons, components_append,
            ih (List.cons_ne_nil next rest), List.flatMap_cons, List.flatMap_cons,
            List.flatMap_cons]

theorem flatMap_components (h : forall p, p ∈ parts -> '/' ∉ p.toList) :
    parts.flatMap components = parts := by
  induction parts with
  | nil =>
      rfl
  | cons part rest ih =>
      rw [List.flatMap_cons, components_of_noSlash (h part List.mem_cons_self),
        ih (fun p hp => h p (List.mem_cons_of_mem part hp))]
      rfl

/-!
## Resolved components
-/

structure IsStep (component : String) : Prop where
  noSlash : '/' ∉ component.toList
  ne_empty : component ≠ ""
  ne_dot : component ≠ "."

def Resolved (parts : List String) : Prop :=
  forall part, part ∈ parts -> IsStep part

theorem resolved_append {first second : List String} (hfirst : Resolved first)
    (hsecond : Resolved second) :
    Resolved (first ++ second) := by
  intro part hpart
  rcases List.mem_append.mp hpart with h | h
  · exact hfirst part h
  · exact hsecond part h

theorem resolved_singleton (h : IsStep part) : Resolved [part] := by
  intro p hp
  rw [List.mem_singleton.mp hp]
  exact h

theorem isStep_dots : IsStep ".." where
  noSlash := by decide
  ne_empty := by decide
  ne_dot := by decide

theorem descend_resolved (h : Resolved parts) (hslash : '/' ∉ component.toList) :
    Resolved (descend absolute parts component) := by
  unfold descend
  split
  · exact h
  · rename_i hempty
    split
    · split
      · split
        · exact fun part hpart => absurd hpart List.not_mem_nil
        · exact resolved_singleton isStep_dots
      · split
        · exact resolved_append h (resolved_singleton isStep_dots)
        · exact fun part hpart => h part (List.dropLast_subset _ hpart)
    · refine resolved_append h (resolved_singleton ⟨hslash, ?_, ?_⟩)
      · exact fun he => hempty (Or.inl he)
      · exact fun hd => hempty (Or.inr hd)

theorem foldl_descend_resolved {rest : List String} (h : Resolved parts)
    (hrest : forall p, p ∈ rest -> '/' ∉ p.toList) :
    Resolved (rest.foldl (descend absolute) parts) := by
  induction rest generalizing parts with
  | nil =>
      exact h
  | cons component rest ih =>
      exact ih (descend_resolved h (hrest component List.mem_cons_self))
        (fun p hp => hrest p (List.mem_cons_of_mem component hp))

theorem resolve_resolved (absolute : Bool) (path : String) :
    Resolved (resolve absolute (components path)) :=
  foldl_descend_resolved (fun _ h => absurd h List.not_mem_nil)
    (fun _ h => noSlash_of_mem_components h)

theorem enter_foldl {start : List String} (hstart : absolute = true -> start = [])
    (hparts : Resolved parts) :
    enter (parts.foldl enter start) component =
      (descend absolute parts component).foldl enter start := by
  unfold descend
  split
  · rename_i h
    rw [enter, if_pos h]
  · rename_i h
    split
    · rename_i hdots
      rw [enter, if_neg h, if_pos hdots]
      cases hlast : parts.getLast? with
      | none =>
          rw [List.getLast?_eq_none_iff.mp hlast]
          cases absolute with
          | true =>
              rw [hstart rfl]
              rfl
          | false =>
              rfl
      | some last =>
          rcases List.getLast?_eq_some_iff.mp hlast with ⟨init, hinit⟩
          by_cases hd : last = ".."
          · simp only [hd, if_true, List.foldl_append]
            rfl
          · have hstep : IsStep last := hparts last (by rw [hinit]; simp)
            have hnot : ¬ (last = "" ∨ last = ".") := by
              intro hor
              rcases hor with he | hdot
              · exact hstep.ne_empty he
              · exact hstep.ne_dot hdot
            simp only [hd, if_false, hinit, List.foldl_append, List.foldl_cons,
              List.foldl_nil, List.dropLast_concat]
            rw [enter, if_neg hnot, if_neg hd, List.dropLast_concat]
    · rename_i hdots
      rw [List.foldl_append, List.foldl_cons, List.foldl_nil]

theorem foldl_enter_foldl {start : List String} (hstart : absolute = true -> start = [])
    (hparts : Resolved parts) {rest : List String}
    (hrest : forall p, p ∈ rest -> '/' ∉ p.toList) :
    rest.foldl enter (parts.foldl enter start) =
      (rest.foldl (descend absolute) parts).foldl enter start := by
  induction rest generalizing parts with
  | nil =>
      rfl
  | cons component rest ih =>
      have hcomponent := hrest component List.mem_cons_self
      rw [List.foldl_cons, enter_foldl hstart hparts, List.foldl_cons]
      exact ih (descend_resolved hparts hcomponent)
        (fun p hp => hrest p (List.mem_cons_of_mem component hp))

/-- Resolving components does not change where they lead. -/
theorem foldl_enter_resolve {start : List String} (hstart : absolute = true -> start = [])
    (path : String) :
    (resolve absolute (components path)).foldl enter start =
      (components path).foldl enter start :=
  (foldl_enter_foldl hstart (fun _ (h : _ ∈ []) => absurd h List.not_mem_nil)
    (fun _ h => noSlash_of_mem_components h)).symm

/-!
## Texts of resolved components
-/

theorem isAbsolute_of_noSlash {rest : String} (hslash : '/' ∉ part.toList) (hempty : part ≠ "") :
    isAbsolute (part ++ rest) = false := by
  unfold isAbsolute
  cases hlist : part.toList with
  | nil =>
      exact absurd (String.toList_eq_nil_iff.mp hlist) hempty
  | cons c cs =>
      rw [hlist, List.mem_cons] at hslash
      rw [String.toList_append, hlist, List.cons_append, List.head?_cons]
      have hc : c ≠ '/' := fun hc => hslash (Or.inl hc.symm)
      simpa using hc

theorem isAbsolute_append {rest : String} (hempty : part ≠ "") :
    isAbsolute (part ++ rest) = isAbsolute part := by
  unfold isAbsolute
  cases hlist : part.toList with
  | nil =>
      exact absurd (String.toList_eq_nil_iff.mp hlist) hempty
  | cons c cs =>
      rw [String.toList_append, hlist]
      rfl

theorem components_render {absolute trailing : Bool} {parts : List String}
    (h : Resolved parts) (hparts : parts ≠ []) :
    components (render absolute trailing parts) =
      (if absolute then [""] else []) ++ parts ++ (if trailing then [""] else []) := by
  have hbody : components ("/".intercalate parts) = parts := by
    rw [components_intercalate hparts, flatMap_components (fun p hp => (h p hp).noSlash)]
  have hlead : components ((if absolute then "/" else "") ++ "/".intercalate parts) =
      (if absolute then [""] else []) ++ parts := by
    cases absolute with
    | true =>
        have hfirst := components_append "" ("/".intercalate parts)
        rw [String.empty_append, hbody] at hfirst
        exact hfirst
    | false =>
        simp only [Bool.false_eq_true, if_false, String.empty_append, List.nil_append]
        exact hbody
  unfold render
  rw [if_neg hparts]
  cases trailing with
  | true =>
      have hlast := components_append
        ((if absolute then "/" else "") ++ "/".intercalate parts) ""
      rw [String.append_empty, hlead] at hlast
      exact hlast
  | false =>
      simp only [Bool.false_eq_true, if_false, String.append_empty, List.append_nil]
      exact hlead

theorem isAbsolute_render (h : Resolved parts) :
    isAbsolute (render absolute trailing parts) = absolute := by
  unfold render
  split
  · cases absolute with
    | true =>
        show isAbsolute "/" = true
        decide
    | false =>
        cases trailing with
        | true =>
            show isAbsolute "./" = false
            decide
        | false =>
            show isAbsolute "." = false
            decide
  · rename_i hparts
    cases absolute with
    | true =>
        rw [String.append_assoc]
        exact isAbsolute_append (by decide)
    | false =>
        rcases List.exists_cons_of_ne_nil hparts with ⟨part, rest, hcons⟩
        have hstep : IsStep part := h part (by rw [hcons]; exact List.mem_cons_self)
        have hbody : exists tail, "/".intercalate parts = part ++ tail := by
          rw [hcons]
          cases rest with
          | nil =>
              exact ⟨"", by simp⟩
          | cons next rest =>
              rw [String.intercalate_cons_cons, String.append_assoc]
              exact ⟨_, rfl⟩
        rcases hbody with ⟨tail, htail⟩
        simp only [Bool.false_eq_true, if_false, String.empty_append]
        rw [htail, String.append_assoc]
        exact isAbsolute_of_noSlash hstep.noSlash hstep.ne_empty

theorem foldl_enter_render {start : List String} (h : Resolved parts) :
    (components (render absolute trailing parts)).foldl enter start =
      parts.foldl enter start := by
  have hempty : forall location, enter location "" = location := fun _ => rfl
  by_cases hparts : parts = []
  · have hdot : forall location, enter location "." = location := fun _ => rfl
    have hnone : components "" = [""] := components_of_noSlash (by decide)
    have hone : components "." = ["."] := components_of_noSlash (by decide)
    rw [hparts]
    cases absolute with
    | true =>
        show (components ("" ++ "/" ++ "")).foldl enter start = start
        rw [components_append, hnone]
        simp [hempty]
    | false =>
        cases trailing with
        | true =>
            show (components ("." ++ "/" ++ "")).foldl enter start = start
            rw [components_append, hnone, hone]
            simp [hempty, hdot]
        | false =>
            show (components ".").foldl enter start = start
            rw [hone]
            simp [hdot]
  · rw [components_render h hparts]
    cases absolute with
    | true =>
        cases trailing with
        | true =>
            simp [hempty]
        | false =>
            simp [hempty]
    | false =>
        cases trailing with
        | true =>
            simp [hempty]
        | false =>
            simp

theorem locate_normalize (workingDirectory : List String) (path : String) :
    locate workingDirectory (normalize path) = locate workingDirectory path := by
  have hresolved := resolve_resolved (isAbsolute path) path
  unfold locate normalize
  rw [isAbsolute_render hresolved, foldl_enter_render hresolved]
  apply foldl_enter_resolve
  intro habsolute
  rw [if_pos habsolute]

/-!
## Joining names
-/

theorem enter_of_isName {location : List String} (h : IsName name) :
    enter location name = location ++ [name] := by
  unfold enter
  rw [if_neg (by simp [h.ne_empty, h.ne_dot]), if_neg h.ne_dots]

theorem foldl_enter_names {location : List String}
    (h : forall name, name ∈ names -> IsName name) :
    names.foldl enter location = location ++ names := by
  induction names generalizing location with
  | nil =>
      simp
  | cons name rest ih =>
      rw [List.foldl_cons, enter_of_isName (h name List.mem_cons_self),
        ih (fun n hn => h n (List.mem_cons_of_mem name hn)), List.append_assoc]
      rfl

theorem filter_names (h : forall name, name ∈ names -> IsName name) :
    names.filter (fun part => part ≠ "") = names := by
  apply List.filter_eq_self.mpr
  intro name hname
  simp [(h name hname).ne_empty]

theorem locate_empty (workingDirectory : List String) :
    locate workingDirectory "" = workingDirectory := by
  have hnone : components "" = [""] := components_of_noSlash (by decide)
  unfold locate
  rw [hnone]
  rfl

theorem locate_name (h : IsName name) :
    locate workingDirectory name = workingDirectory ++ [name] := by
  have habsolute : isAbsolute (name ++ "") = false :=
    isAbsolute_of_noSlash h.noSlash h.ne_empty
  rw [String.append_empty] at habsolute
  unfold locate
  rw [habsolute, components_of_noSlash h.noSlash]
  exact enter_of_isName h

theorem locate_intercalate {first : String} (hfirst : first ≠ "")
    (h : forall name, name ∈ names -> IsName name) :
    locate workingDirectory ("/".intercalate (first :: names)) =
      locate workingDirectory first ++ names := by
  have habsolute : isAbsolute ("/".intercalate (first :: names)) = isAbsolute first := by
    cases names with
    | nil =>
        simp
    | cons name rest =>
        rw [String.intercalate_cons_cons, String.append_assoc]
        exact isAbsolute_append hfirst
  unfold locate
  rw [habsolute, components_intercalate (List.cons_ne_nil first names), List.flatMap_cons,
    flatMap_components (fun p hp => (h p hp).noSlash), List.foldl_append]
  exact foldl_enter_names h

/-- Joined names lead from the location of the first path down by the names. -/
theorem locate_join {root : String} (h : forall name, name ∈ names -> IsName name) :
    locate workingDirectory (join (root :: names)) =
      locate workingDirectory root ++ names := by
  unfold join
  rw [locate_normalize]
  by_cases hroot : root = ""
  · rw [hroot, List.filter_cons_of_neg (by simp), filter_names h, locate_empty]
    cases names with
    | nil =>
        rw [String.intercalate_nil, locate_empty, List.append_nil]
    | cons name rest =>
        have hname : IsName name := h name List.mem_cons_self
        rw [locate_intercalate hname.ne_empty (fun n hn => h n (List.mem_cons_of_mem name hn)),
          locate_name hname, List.append_assoc]
        rfl
  · rw [List.filter_cons_of_pos (by simpa using hroot), filter_names h,
      locate_intercalate hroot h]

theorem filter_resolved (h : Resolved parts) :
    parts.filter (fun component => component ≠ "") = parts := by
  apply List.filter_eq_self.mpr
  intro part hpart
  simpa using (h part hpart).ne_empty

theorem basename_join (others : List String) (hname : IsName name) :
    basename (join (others ++ [name])) = name := by
  have hcomponents : exists before,
      components ("/".intercalate ((others ++ [name]).filter (fun part => part ≠ ""))) =
        before ++ [name] := by
    have hkept : [name].filter (fun part => part ≠ "") = [name] := by
      simp [hname.ne_empty]
    have htaken : [name].flatMap components = [name] := by
      simp [components_of_noSlash hname.noSlash]
    rw [List.filter_append, hkept, components_intercalate (by simp), List.flatMap_append,
      htaken]
    exact ⟨_, rfl⟩
  rcases hcomponents with ⟨before, hbefore⟩
  unfold join normalize
  generalize htext : "/".intercalate ((others ++ [name]).filter (fun part => part ≠ "")) =
    text
  rw [htext] at hbefore
  have hresolved := resolve_resolved (isAbsolute text) text
  have hlast : exists parts,
      resolve (isAbsolute text) (components text) = parts ++ [name] := by
    unfold resolve
    rw [hbefore, List.foldl_append, List.foldl_cons, List.foldl_nil, descend,
      if_neg (by simp [hname.ne_empty, hname.ne_dot]), if_neg hname.ne_dots]
    exact ⟨_, rfl⟩
  rcases hlast with ⟨parts, hparts⟩
  unfold basename
  rw [components_render hresolved (by rw [hparts]; simp), List.filter_append,
    List.filter_append, filter_resolved hresolved, hparts]
  have hlead : forall flag : Bool,
      ((if flag then [""] else []) : List String).filter (fun component => component ≠ "") =
        [] := by
    intro flag
    cases flag with
    | true =>
        rfl
    | false =>
        rfl
  rw [hlead, hlead]
  simp

theorem render_ne_empty (h : Resolved parts) : render absolute trailing parts ≠ "" := by
  by_cases hparts : parts = []
  · rw [hparts]
    cases absolute <;> cases trailing <;> decide
  · intro hempty
    have hcomponents := @components_render absolute trailing parts h hparts
    rw [hempty] at hcomponents
    have hall : forall part, part ∈ parts -> part = "" := by
      intro part hpart
      have hmem : part ∈ components "" := by
        rw [hcomponents]
        exact List.mem_append_left _ (List.mem_append_right _ hpart)
      simpa [components] using hmem
    rcases List.exists_mem_of_ne_nil parts hparts with ⟨part, hpart⟩
    exact (h part hpart).ne_empty (hall part hpart)

theorem join_ne_empty (parts : List String) :
    join parts ≠ "" :=
  render_ne_empty (resolve_resolved _ _)

/-!
Paths are used by the lemmas above, and not by computing their texts.
-/

attribute [irreducible] join basename locate

end Path
end Foundations
end CopilotFactory
