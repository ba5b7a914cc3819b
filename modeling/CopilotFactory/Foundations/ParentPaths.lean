import CopilotFactory.Foundations.Paths

/-!
# Parents, siblings and resolved paths

Where the parent directory of a path leads, where a path with a suffix leads, and what the
text of a resolved path says about its location.
-/

namespace CopilotFactory
namespace Foundations
namespace Path

variable {workingDirectory before location : List String} {path last name : String}

/-- A path without its last component that is not empty. -/
def dirname (path : String) : String :=
  let body := path.toList.reverse.dropWhile (fun c => c == '/')
  let parent := ((body.dropWhile (fun c => c != '/')).drop 1).reverse
  if parent = [] then
    if isAbsolute path then "/" else "."
  else if parent = ['/'] then
    "//"
  else
    String.ofList parent

/-- The directory that the working directory and then each path lead to. -/
def resolveFrom (workingDirectory : List String) (paths : List String) : List String :=
  paths.foldl locate workingDirectory

def resolvePath (workingDirectory : List String) (paths : List String) : String :=
  render true false (resolveFrom workingDirectory paths)

def LeadsInto (workingDirectory : List String) (root path : String) : Prop :=
  locate workingDirectory root <+: locate workingDirectory path

instance (workingDirectory : List String) (root path : String) :
    Decidable (LeadsInto workingDirectory root path) :=
  inferInstanceAs (Decidable (_ <+: _))

/-!
## The last component
-/

def approach (workingDirectory : List String) (path : String) : List String :=
  (components path).dropLast.foldl enter (if isAbsolute path then [] else workingDirectory)

theorem exists_last_component (path : String) :
    exists last, '/' ∉ last.toList ∧
      ((path = last ∧ components path = [last]) ∨
        exists before, path = before ++ "/" ++ last ∧
          components path = components before ++ [last]) := by
  by_cases hslash : '/' ∈ path.toList
  · have hsplit : exists before last : List Char,
        path.toList = before ++ '/' :: last ∧ '/' ∉ last := by
      generalize path.toList = text at hslash
      induction text with
      | nil =>
          cases hslash
      | cons c rest ih =>
          by_cases hrest : '/' ∈ rest
          · rcases ih hrest with ⟨before, last, htext, hlast⟩
            exact ⟨c :: before, last, by rw [htext]; rfl, hlast⟩
          · rcases List.mem_cons.mp hslash with hc | hmem
            · exact ⟨[], rest, by rw [← hc]; rfl, hrest⟩
            · exact absurd hmem hrest
    rcases hsplit with ⟨before, last, htext, hlast⟩
    have hpath : path = String.ofList before ++ "/" ++ String.ofList last := by
      apply String.toList_injective
      rw [htext]
      simp
    have hname : components (String.ofList last) = [String.ofList last] :=
      components_of_noSlash (by simpa using hlast)
    refine ⟨String.ofList last, by simpa using hlast, Or.inr ⟨String.ofList before, hpath, ?_⟩⟩
    rw [hpath, components_append, hname]
  · exact ⟨path, hslash, Or.inl ⟨rfl, components_of_noSlash hslash⟩⟩

theorem locate_eq_enter (h : components path = before ++ [last]) :
    locate workingDirectory path = enter (approach workingDirectory path) last := by
  unfold locate approach
  rw [h, List.foldl_append, List.dropLast_concat]
  rfl

theorem isName_of_length {text : String} (hslash : '/' ∉ text.toList)
    (hlong : 2 < text.toList.length) : IsName text := by
  constructor
  · exact hslash
  · intro heq
    rw [heq] at hlong
    revert hlong
    decide
  · intro heq
    rw [heq] at hlong
    revert hlong
    decide
  · intro heq
    rw [heq] at hlong
    revert hlong
    decide

theorem locate_append {workingDirectory : List String} {path suffix : String}
    (hpath : path ≠ "") (hsuffix : '/' ∉ suffix.toList)
    (hlong : 2 < suffix.toList.length) :
    exists before last, components path = before ++ [last] ∧
      locate workingDirectory (path ++ suffix) =
        approach workingDirectory path ++ [last ++ suffix] := by
  rcases exists_last_component path with ⟨last, hlast, hcases⟩
  have hslash : '/' ∉ (last ++ suffix).toList := by
    rw [String.toList_append, List.mem_append, not_or]
    exact ⟨hlast, hsuffix⟩
  have hname : IsName (last ++ suffix) := by
    apply isName_of_length hslash
    rw [String.toList_append, List.length_append]
    omega
  unfold locate approach
  rw [isAbsolute_append hpath]
  rcases hcases with ⟨hwhole, hcomponents⟩ | ⟨before, hwhole, hcomponents⟩
  · refine ⟨[], last, hcomponents, ?_⟩
    rw [hcomponents, hwhole, components_of_noSlash hslash]
    exact enter_of_isName hname
  · refine ⟨components before, last, hcomponents, ?_⟩
    have happended : components (path ++ suffix) = components before ++ [last ++ suffix] := by
      rw [hwhole, String.append_assoc, components_append, components_of_noSlash hslash]
    rw [hcomponents, List.dropLast_concat, happended, List.foldl_append]
    exact enter_of_isName hname

theorem locate_append_ne {suffix : String} (hpath : path ≠ "") (hsuffix : '/' ∉ suffix.toList)
    (hlong : 2 < suffix.toList.length) :
    locate workingDirectory (path ++ suffix) ≠ locate workingDirectory path := by
  rcases @locate_append workingDirectory path suffix hpath hsuffix hlong with
    ⟨before, last, hcomponents, happended⟩
  intro hsame
  rw [happended, locate_eq_enter hcomponents] at hsame
  unfold enter at hsame
  have hlength := congrArg List.length hsame
  split at hsame
  · simp only [List.append_right_eq_self, List.cons_ne_self] at hsame
  · split at hsame
    · rw [hsame, List.length_dropLast] at hlength
      have hmore := congrArg List.length hsame
      simp only [List.length_append, List.length_singleton, List.length_dropLast] at hmore
      omega
    · have hlast := List.singleton_inj.mp (List.append_cancel_left hsame)
      have htext := congrArg String.length hlast
      rw [String.length_append] at htext
      have hpos : suffix.toList.length = suffix.length := String.length_toList
      omega

theorem locate_root (workingDirectory : List String) :
    locate workingDirectory "/" = [] ∧ locate workingDirectory "//" = [] := by
  unfold locate
  exact ⟨rfl, rfl⟩

theorem dropWhile_name (hslash : '/' ∉ last.toList) (hlast : last ≠ "") (rest : List Char) :
    (last.toList.reverse ++ rest).dropWhile (fun c => c == '/') =
        last.toList.reverse ++ rest ∧
      (last.toList.reverse ++ rest).dropWhile (fun c => c != '/') =
        rest.dropWhile (fun c => c != '/') := by
  have hfree : forall c, c ∈ last.toList.reverse -> (c != '/') = true := by
    intro c hc
    rw [bne_iff_ne]
    intro heq
    exact hslash (heq ▸ List.mem_reverse.mp hc)
  constructor
  · cases hrev : last.toList.reverse with
    | nil =>
        exact absurd (List.reverse_eq_nil_iff.mp hrev) (by simpa using hlast)
    | cons c cs =>
        have hc := hfree c (by rw [hrev]; exact List.mem_cons_self)
        rw [List.cons_append, List.dropWhile_cons, if_neg (by simpa using hc)]
  · exact List.dropWhile_append_of_pos hfree

theorem isAbsolute_name (hslash : '/' ∉ last.toList) (hlast : last ≠ "") :
    isAbsolute last = false := by
  rw [← String.append_empty (s := last)]
  exact isAbsolute_of_noSlash hslash hlast

theorem dirname_name (hslash : '/' ∉ last.toList) (hlast : last ≠ "") : dirname last = "." := by
  have hdrop := dropWhile_name hslash hlast []
  rw [List.append_nil] at hdrop
  unfold dirname
  dsimp only
  rw [hdrop.1, hdrop.2, isAbsolute_name hslash hlast]
  rfl

theorem dirname_append {front : String} (hslash : '/' ∉ last.toList) (hlast : last ≠ "") :
    dirname (front ++ "/" ++ last) =
      if front = "" then "/" else if front = "/" then "//" else front := by
  have hdrop := dropWhile_name hslash hlast ('/' :: front.toList.reverse)
  have htext : (front ++ "/" ++ last).toList.reverse =
      last.toList.reverse ++ '/' :: front.toList.reverse := by
    simp
  unfold dirname
  dsimp only
  have hparent : (('/' :: front.toList.reverse).dropWhile (fun c => c != '/')).drop 1 =
      front.toList.reverse :=
    rfl
  rw [htext, hdrop.1, hdrop.2, hparent, List.reverse_reverse, String.ofList_toList]
  by_cases hempty : front = ""
  · rw [hempty]
    simp [isAbsolute]
  · have hroot : front.toList = ['/'] <-> front = "/" := by
      constructor
      · intro h
        apply String.toList_injective
        exact h
      · intro h
        rw [h]
        rfl
    simp only [String.toList_eq_nil_iff, hempty, if_false, hroot]

theorem locate_dirname (h : components path = before ++ [last]) (hlast : last ≠ "") :
    locate workingDirectory (dirname path) = approach workingDirectory path := by
  have hend : (components path).getLast? = some last := by
    rw [h, List.getLast?_concat]
  rcases exists_last_component path with ⟨last', hslash, hcases⟩
  have hsame : last' = last := by
    rcases hcases with ⟨_, hcomponents⟩ | ⟨_, _, hcomponents⟩
    · rw [hcomponents] at hend
      simpa using hend
    · rw [hcomponents, List.getLast?_concat] at hend
      simpa using hend
  rw [hsame] at hslash hcases
  unfold approach
  rcases hcases with ⟨hwhole, hcomponents⟩ | ⟨front, hwhole, hcomponents⟩
  · have habsolute : isAbsolute path = false := by
      rw [hwhole]
      exact isAbsolute_name hslash hlast
    have hparent : dirname path = "." := by
      rw [hwhole]
      exact dirname_name hslash hlast
    have hone : components "." = ["."] := components_of_noSlash (by decide)
    rw [hparent, hcomponents, habsolute]
    unfold locate
    rw [hone]
    rfl
  · have hparent : dirname path =
        if front = "" then "/" else if front = "/" then "//" else front := by
      rw [hwhole]
      exact dirname_append hslash hlast
    rw [hparent, hcomponents, List.dropLast_concat]
    by_cases hempty : front = ""
    · have habsolute : isAbsolute path = true := by
        rw [hwhole, hempty]
        simp [isAbsolute]
      rw [if_pos hempty, hempty, habsolute]
      exact (locate_root workingDirectory).1
    · have habsolute : isAbsolute path = isAbsolute front := by
        rw [hwhole, String.append_assoc]
        exact isAbsolute_append hempty
      rw [if_neg hempty, habsolute]
      split
      · rename_i hroot
        rw [hroot]
        exact (locate_root workingDirectory).2
      · unfold locate
        rfl

theorem LeadsInto.append {root suffix : String} (h : LeadsInto workingDirectory root path)
    (hparent : LeadsInto workingDirectory root (dirname path)) (hpath : path ≠ "")
    (hsuffix : '/' ∉ suffix.toList) (hlong : 2 < suffix.toList.length) :
    LeadsInto workingDirectory root (path ++ suffix) := by
  rcases exists_last_component path with ⟨last, _, hcases⟩
  have hcomponents : exists before, components path = before ++ [last] := by
    rcases hcases with ⟨_, hcomponents⟩ | ⟨before, _, hcomponents⟩
    · exact ⟨[], hcomponents⟩
    · exact ⟨components before, hcomponents⟩
  rcases hcomponents with ⟨before, hcomponents⟩
  rcases locate_append hpath hsuffix hlong with ⟨_, name, _, hname⟩
  unfold LeadsInto at *
  rw [hname]
  apply List.IsPrefix.trans _ (List.prefix_append _ [name ++ suffix])
  by_cases hempty : last = ""
  · rw [locate_eq_enter hcomponents, hempty] at h
    exact h
  · rw [locate_dirname hcomponents hempty] at hparent
    exact hparent

/-!
## Joined and resolved paths
-/

/-- A relative path that is joined leads on from where the first one leads. -/
theorem locate_join_relative {root : String} (h : isAbsolute path = false) :
    locate workingDirectory (join [root, path]) =
      locate (locate workingDirectory root) path := by
  unfold join
  rw [locate_normalize]
  by_cases hroot : root = ""
  · rw [hroot, locate_empty]
    by_cases hpath : path = ""
    · rw [hpath, locate_empty]
      exact locate_empty workingDirectory
    · simp [hpath]
  · by_cases hpath : path = ""
    · rw [hpath, locate_empty]
      simp [hroot]
    · have hkept : [root, path].filter (fun part => part ≠ "") = [root, path] := by
        simp [hroot, hpath]
      rw [hkept, String.intercalate_cons_cons]
      have htext : "/".intercalate [path] = path := by
        simp
      rw [htext]
      unfold locate
      rw [components_append, List.foldl_append, h, String.append_assoc,
        isAbsolute_append hroot]
      rfl

theorem locate_join_concat (others : List String) (hname : IsName name) :
    locate workingDirectory (join (others ++ [name])) =
      locate workingDirectory (join others) ++ [name] := by
  unfold join
  rw [locate_normalize, locate_normalize, List.filter_append]
  have hkept : [name].filter (fun part => part ≠ "") = [name] := by
    simp [hname.ne_empty]
  rw [hkept]
  cases hothers : others.filter (fun part => part ≠ "") with
  | nil =>
      have htext : "/".intercalate [name] = name := by
        simp
      rw [List.nil_append, htext, locate_name hname, String.intercalate_nil, locate_empty]
  | cons first rest =>
      have hfirst : first ≠ "" := by
        have hmem : first ∈ others.filter (fun part => part ≠ "") := by
          rw [hothers]
          exact List.mem_cons_self
        simpa using (List.mem_filter.mp hmem).2
      have habsolute : forall parts : List String,
          isAbsolute ("/".intercalate (first :: parts)) = isAbsolute first := by
        intro parts
        cases parts with
        | nil =>
            simp
        | cons next others =>
            rw [String.intercalate_cons_cons, String.append_assoc, isAbsolute_append hfirst]
      have hcomponents : [name].flatMap components = [name] := by
        simp [components_of_noSlash hname.noSlash]
      unfold locate
      rw [List.cons_append, habsolute, habsolute, ← List.cons_append,
        components_intercalate (by simp), components_intercalate (by simp),
        List.flatMap_append, List.foldl_append, hcomponents]
      exact enter_of_isName hname

theorem getLast?_ne_slash (h : components path = before ++ [last]) (hlast : last ≠ "") :
    path.toList.getLast? ≠ some '/' := by
  have hend : (components path).getLast? = some last := by
    rw [h, List.getLast?_concat]
  rcases exists_last_component path with ⟨last', hslash, hcases⟩
  have hsame : last' = last ∧ exists front, path.toList = front ++ last'.toList := by
    rcases hcases with ⟨hwhole, hcomponents⟩ | ⟨front, hwhole, hcomponents⟩
    · rw [hcomponents] at hend
      exact ⟨by simpa using hend, [], by rw [← hwhole]; rfl⟩
    · rw [hcomponents, List.getLast?_concat] at hend
      refine ⟨by simpa using hend, (front ++ "/").toList, ?_⟩
      rw [hwhole, String.toList_append]
  rcases hsame with ⟨heq, front, htext⟩
  have hne : last'.toList ≠ [] := by
    rw [heq]
    simpa using hlast
  rw [htext, List.getLast?_append_of_ne_nil front hne]
  intro hc
  exact hslash (List.mem_of_getLast? hc)

theorem exists_components_join (others : List String) (h : components last = before ++ [name])
    (hname : IsName name) :
    exists before, components (join (others ++ [last])) = before ++ [name] := by
  have hne : last ≠ "" := by
    intro hempty
    have hone : components "" = [] ++ [""] := rfl
    rw [hempty, hone] at h
    exact hname.ne_empty (List.append_inj_right' h rfl |> List.singleton_inj.mp).symm
  have htext : exists before,
      components ("/".intercalate ((others ++ [last]).filter (fun part => part ≠ ""))) =
        before ++ [name] := by
    have hkept : [last].filter (fun part => part ≠ "") = [last] := by
      simp [hne]
    have htaken : [last].flatMap components = before ++ [name] := by
      simp [h]
    rw [List.filter_append, hkept, components_intercalate (by simp), List.flatMap_append,
      htaken, ← List.append_assoc]
    exact ⟨_, rfl⟩
  unfold join normalize
  generalize "/".intercalate ((others ++ [last]).filter (fun part => part ≠ "")) = text
    at htext
  rcases htext with ⟨front, hfront⟩
  have htrailing : (text.toList.getLast? == some '/') = false := by
    simpa using getLast?_ne_slash hfront hname.ne_empty
  have hlast : exists parts,
      resolve (isAbsolute text) (components text) = parts ++ [name] := by
    unfold resolve
    rw [hfront, List.foldl_append, List.foldl_cons, List.foldl_nil, descend,
      if_neg (by simp [hname.ne_empty, hname.ne_dot]), if_neg hname.ne_dots]
    exact ⟨_, rfl⟩
  rcases hlast with ⟨parts, hparts⟩
  have hresolved := resolve_resolved (isAbsolute text) text
  rw [htrailing, components_render hresolved (by rw [hparts]; simp), hparts]
  simp only [Bool.false_eq_true, if_false, List.append_nil, ← List.append_assoc]
  exact ⟨_, rfl⟩

theorem locate_dirname_join (others : List String) (hlast : components last = before ++ [name])
    (hname : IsName name)
    (h : locate workingDirectory (join (others ++ [last])) = location ++ [name]) :
    locate workingDirectory (dirname (join (others ++ [last]))) = location := by
  rcases exists_components_join others hlast hname with ⟨front, hfront⟩
  rw [locate_dirname hfront hname.ne_empty]
  rw [locate_eq_enter hfront, enter_of_isName hname] at h
  exact (List.append_left_inj [name]).mp h

theorem isAbsolute_normalize (path : String) : isAbsolute (normalize path) = isAbsolute path :=
  isAbsolute_render (resolve_resolved _ _)

theorem isAbsolute_join_cons {first : String} (rest : List String) (hfirst : first ≠ "")
    (h : isAbsolute first = false) : isAbsolute (join (first :: rest)) = false := by
  unfold join
  rw [isAbsolute_normalize, List.filter_cons_of_pos (by simpa using hfirst)]
  cases hrest : rest.filter (fun part => part ≠ "") with
  | nil =>
      simpa using h
  | cons next others =>
      rw [String.intercalate_cons_cons, String.append_assoc, isAbsolute_append hfirst, h]

theorem enter_resolved {component : String} (h : Resolved location)
    (hslash : '/' ∉ component.toList) : Resolved (enter location component) := by
  unfold enter
  split
  · exact h
  · rename_i hempty
    split
    · exact fun part hpart => h part (List.dropLast_subset _ hpart)
    · refine resolved_append h (resolved_singleton ⟨hslash, ?_, ?_⟩)
      · exact fun he => hempty (Or.inl he)
      · exact fun hd => hempty (Or.inr hd)

theorem locate_resolved (h : Resolved workingDirectory) (path : String) :
    Resolved (locate workingDirectory path) := by
  unfold locate
  have hstart : Resolved (if isAbsolute path then [] else workingDirectory) := by
    split
    · exact fun part hpart => absurd hpart List.not_mem_nil
    · exact h
  have hslash : forall component, component ∈ components path -> '/' ∉ component.toList :=
    fun _ hmem => noSlash_of_mem_components hmem
  generalize (if isAbsolute path then [] else workingDirectory) = start at hstart
  generalize components path = parts at hslash
  induction parts generalizing start with
  | nil =>
      exact hstart
  | cons component rest ih =>
      exact ih _ (enter_resolved hstart (hslash component List.mem_cons_self))
        (fun c hc => hslash c (List.mem_cons_of_mem component hc))

theorem prefix_of_render {other : List String} (hlocation : Resolved location)
    (hother : Resolved other)
    (h : (render true false location ++ "/").toList <+: (render true false other).toList) :
    location <+: other := by
  rcases h with ⟨rest, hrest⟩
  by_cases hempty : location = []
  · rw [hempty]
    exact List.nil_prefix
  · have htext : render true false other =
        render true false location ++ "/" ++ String.ofList rest := by
      apply String.toList_injective
      rw [← hrest]
      simp
    by_cases hother' : other = []
    · rw [hother'] at htext
      have hlength := congrArg String.length htext
      have hlong := hlocation
      exfalso
      have hne : render true false location ≠ "" := render_ne_empty hlocation
      have hpos : 0 < (render true false location).length := by
        rw [Nat.pos_iff_ne_zero]
        intro hzero
        exact hne (String.length_eq_zero_iff.mp hzero)
      rw [String.length_append, String.length_append] at hlength
      have hone : (render true false ([] : List String)).length = 1 := by
        decide
      have hslash : "/".length = 1 := by
        decide
      omega
    · have hcomponents := congrArg components htext
      rw [components_append, components_render hother hother',
        components_render hlocation hempty] at hcomponents
      simp only [if_true, Bool.false_eq_true, if_false, List.append_nil,
        List.cons_append, List.cons.injEq, true_and] at hcomponents
      exact ⟨_, hcomponents.symm⟩

theorem render_injective {other : List String} (hlocation : Resolved location)
    (hother : Resolved other) (h : render true false location = render true false other) :
    location = other := by
  have hroot : components (render true false ([] : List String)) = ["", ""] := rfl
  have hcomponents := congrArg components h
  by_cases hempty : location = []
  · by_cases hother' : other = []
    · rw [hempty, hother']
    · rw [hempty, hroot, components_render hother hother'] at hcomponents
      simp only [if_true, Bool.false_eq_true, if_false, List.append_nil, List.cons_append,
        List.nil_append, List.cons.injEq, true_and] at hcomponents
      have hbad := hother "" (by rw [← hcomponents]; exact List.mem_cons_self)
      exact absurd rfl hbad.ne_empty
  · rw [components_render hlocation hempty] at hcomponents
    by_cases hother' : other = []
    · rw [hother', hroot] at hcomponents
      simp only [if_true, Bool.false_eq_true, if_false, List.append_nil, List.cons_append,
        List.nil_append, List.cons.injEq, true_and] at hcomponents
      have hbad := hlocation "" (by rw [hcomponents]; exact List.mem_cons_self)
      exact absurd rfl hbad.ne_empty
    · rw [components_render hother hother'] at hcomponents
      simpa using hcomponents

end Path
end Foundations
end CopilotFactory
