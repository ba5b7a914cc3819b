import Mathlib.Logic.Relation
import Mathlib.Data.List.Basic
import Mathlib.Data.List.Chain
import Mathlib.Data.List.Nodup
import CopilotFactory.Foundations.Result

/-!
# Directed graphs

A graph is a relation between vertices.  It is acyclic when no vertex leads back
to itself.  An edge can be added to an acyclic graph exactly when its end does
not lead back to its start, and a depth-first search decides this.
-/

namespace CopilotFactory
namespace Foundations

open Relation

variable {V : Type}

variable {path : List V} {ε α β : Type}

variable {f : β -> α -> Except ε β} {init : β}

/-- No vertex leads back to itself along one or more edges. -/
def Acyclic (E : V -> V -> Prop) : Prop :=
  forall v, ¬ TransGen E v v

theorem Acyclic.mono {E E' : V -> V -> Prop} (h : Acyclic E)
    (hsub : forall a b, E' a b -> E a b) :
    Acyclic E' := by
  intro v hcycle
  exact h v (TransGen.mono hsub v v hcycle)

theorem Acyclic.irrefl {E : V -> V -> Prop} (h : Acyclic E) (v : V) :
    ¬ E v v := by
  intro hloop
  exact h v (TransGen.single hloop)

theorem acyclic_empty : Acyclic (fun _ _ : V => False) := by
  intro v hcycle
  rcases TransGen.head'_iff.mp hcycle with ⟨_, hfalse, _⟩
  exact hfalse

/-- A set of vertices that all edges stay in contains all that is reachable from it. -/
theorem reaches_closed {E : V -> V -> Prop} {S : V -> Prop} (hS : forall x y, S x -> E x y -> S y) {x y : V}
    (hx : S x) (h : ReflTransGen E x y) :
    S y := by
  induction h with
  | refl =>
      exact hx
  | tail _ hedge ih =>
      exact hS _ _ ih hedge

/-!
## Adding an edge
-/

/-- The graph with the edge from `a` to `b` added. -/
def AddEdge (E : V -> V -> Prop) (a b : V) : V -> V -> Prop :=
  fun x y => E x y ∨ (x = a ∧ y = b)

variable {E : V -> V -> Prop} {a b : V}

/-- A path that uses the new edge reaches its start without it, and goes on from its
end without it. -/
theorem reflTransGen_addEdge {x y : V} (h : ReflTransGen (AddEdge E a b) x y) :
    ReflTransGen E x y ∨ (ReflTransGen E x a ∧ ReflTransGen E b y) := by
  induction h with
  | refl =>
      exact Or.inl ReflTransGen.refl
  | tail _ hedge ih =>
      rcases hedge with hedge | ⟨hx, hy⟩
      · rcases ih with ih | ⟨hxa, hby⟩
        · exact Or.inl (ih.tail hedge)
        · exact Or.inr ⟨hxa, hby.tail hedge⟩
      · rw [hx] at ih
        rw [hy]
        rcases ih with ih | ⟨hxa, _⟩
        · exact Or.inr ⟨ih, ReflTransGen.refl⟩
        · exact Or.inr ⟨hxa, ReflTransGen.refl⟩

theorem acyclic_addEdge_iff :
    Acyclic (AddEdge E a b) <-> Acyclic E ∧ ¬ ReflTransGen E b a := by
  constructor
  · intro h
    constructor
    · exact h.mono (fun _ _ hedge => Or.inl hedge)
    · intro hback
      have hback' : ReflTransGen (AddEdge E a b) b a :=
        ReflTransGen.mono (fun _ _ hedge => Or.inl hedge) b a hback
      exact h a (TransGen.head' (Or.inr ⟨rfl, rfl⟩) hback')
  · intro h v hcycle
    rcases h with ⟨hacyclic, hback⟩
    rcases TransGen.head'_iff.mp hcycle with ⟨w, hedge, hpath⟩
    rcases hedge with hedge | ⟨hv, hw⟩
    · rcases reflTransGen_addEdge hpath with hpath | ⟨hwa, hbv⟩
      · exact hacyclic v (TransGen.head' hedge hpath)
      · exact hback (hbv.trans (hwa.head hedge))
    · rw [hv, hw] at hpath
      rcases reflTransGen_addEdge hpath with hpath | ⟨hba, _⟩
      · exact hback hpath
      · exact hback hba

/-!
## Chains
-/

/-- A chain of edges from one vertex to another, with no vertex twice. -/
structure SimpleChain (E : V -> V -> Prop) (a b : V) (path : List V) : Prop where
  starts : path.head? = some a
  ends : path.getLast? = some b
  linked : path.IsChain E
  nodup : path.Nodup

theorem SimpleChain.singleton (E : V -> V -> Prop) (a : V) :
    SimpleChain E a a [a] where
  starts := rfl
  ends := rfl
  linked := List.isChain_singleton a
  nodup := List.nodup_singleton a

theorem SimpleChain.cons {E : V -> V -> Prop} {a b c : V} (h : SimpleChain E b c (b :: path))
    (hedge : E a b) (hnew : a ∉ b :: path) :
    SimpleChain E a c (a :: b :: path) where
  starts := rfl
  ends := by
    rw [List.getLast?_cons_cons]
    exact h.ends
  linked := List.IsChain.cons_cons hedge h.linked
  nodup := List.nodup_cons.mpr ⟨hnew, h.nodup⟩

/-!
## Depth-first search

The search carries the vertices that it has visited, and the path from where it
started.  It ends with the path when it meets the target, and with all that it
has visited when it does not.
-/

variable {edges : V -> List V} {target : V}

def Adjacent (edges : V -> List V) (x y : V) : Prop :=
  y ∈ edges x

/-- What a search that missed the target has added to the visited vertices: each new one
is not the target, and all its edges lead to visited vertices. -/
structure Explored (edges : V -> List V) (target : V) (visited visited' : List V) :
    Prop where
  keeps : forall x, x ∈ visited -> x ∈ visited'
  closed : forall x, x ∈ visited' -> x ∈ visited ∨
    (x ≠ target ∧ forall y, y ∈ edges x -> y ∈ visited')

theorem Explored.refl (visited : List V) : Explored edges target visited visited where
  keeps := fun _ hx => hx
  closed := fun _ hx => Or.inl hx

theorem Explored.trans {v v' v'' : List V} (h : Explored edges target v v')
    (h' : Explored edges target v' v'') :
    Explored edges target v v'' where
  keeps := fun x hx => h'.keeps x (h.keeps x hx)
  closed := by
    intro x hx
    rcases h'.closed x hx with hx | hx
    · rcases h.closed x hx with hx | ⟨hne, hedges⟩
      · exact Or.inl hx
      · exact Or.inr ⟨hne, fun y hy => h'.keeps y (hedges y hy)⟩
    · exact Or.inr hx

theorem foldlM_error_of_keeps {P : β -> Prop}
    (hkeeps : forall b a b', P b -> f b a = .ok b' -> P b') {rounds : List α} {e : ε}
    (hinit : P init) (h : rounds.foldlM f init = .error e) :
    exists a, a ∈ rounds ∧ exists b, P b ∧ f b a = .error e := by
  induction rounds generalizing init with
  | nil =>
      cases h
  | cons a rest ih =>
      rw [List.foldlM_cons] at h
      rcases bind_eq_error.mp h with h | ⟨b, hb, h⟩
      · exact ⟨a, List.mem_cons_self, init, hinit, h⟩
      · rcases ih (hkeeps init a b hinit hb) h with ⟨a', ha', b', hb'⟩
        exact ⟨a', List.mem_cons_of_mem a ha', b', hb'⟩

theorem foldlM_error {rounds : List α} {e : ε} (h : rounds.foldlM f init = .error e) :
    exists a, a ∈ rounds ∧ exists b, f b a = .error e := by
  rcases foldlM_error_of_keeps (P := fun _ => True) (fun _ _ _ _ _ => trivial) trivial h with
    ⟨a, ha, b, _, hb⟩
  exact ⟨a, ha, b, hb⟩

theorem foldlM_ok_of_keeps {P : β -> Prop}
    (hkeeps : forall b a b', P b -> f b a = .ok b' -> P b') {rounds : List α} {final : β}
    (hinit : P init) (h : rounds.foldlM f init = .ok final) : P final := by
  induction rounds generalizing init with
  | nil =>
      cases h
      exact hinit
  | cons a rest ih =>
      rw [List.foldlM_cons] at h
      rcases bind_eq_ok.mp h with ⟨b, hb, hrest⟩
      exact ih (hkeeps init a b hinit hb) hrest

section Search

variable [DecidableEq V]

variable {fuel : Nat} {pathStack visited visited' sources nexts : List V} {current : V}

def dfs (edges : V -> List V) (target : V) :
    Nat -> List V -> V -> List V -> Except (List V) (List V)
  | 0, _, _, visited => .ok visited
  | fuel + 1, pathStack, current, visited =>
      if current = target then
        .error (pathStack ++ [target])
      else if current ∈ visited then
        .ok visited
      else
        (edges current).foldlM
          (fun visited next => dfs edges target fuel (pathStack ++ [next]) next visited)
          (current :: visited)

theorem reaches_of_dfs_error (h : dfs edges target fuel pathStack current visited = .error path) :
    ReflTransGen (Adjacent edges) current target := by
  induction fuel generalizing pathStack visited current path with
  | zero =>
      cases h
  | succ fuel ih =>
      unfold dfs at h
      split at h
      · rename_i hcurrent
        rw [hcurrent]
      · split at h
        · cases h
        · rcases foldlM_error h with ⟨next, hnext, _, hfound⟩
          exact (ih hfound).head hnext

/-- The visited vertices contain those of a base, and not the target. -/
def KeepsOff (target : V) (base visited : List V) : Prop :=
  (forall x, x ∈ base -> x ∈ visited) ∧ target ∉ visited

theorem keepsOff_of_dfs_ok {base : List V} (hkeeps : KeepsOff target base visited)
    (h : dfs edges target fuel pathStack current visited = .ok visited') :
    KeepsOff target base visited' := by
  induction fuel generalizing pathStack visited visited' current with
  | zero =>
      cases h
      exact hkeeps
  | succ fuel ih =>
      unfold dfs at h
      split at h
      · cases h
      · rename_i hne
        split at h
        · cases h
          exact hkeeps
        · refine foldlM_ok_of_keeps (P := KeepsOff target base)
            (fun _ _ _ hb hround => ih hb hround) ?_ h
          constructor
          · intro x hx
            exact List.mem_cons_of_mem current (hkeeps.1 x hx)
          · exact List.not_mem_cons_of_ne_of_not_mem (Ne.symm hne) hkeeps.2

/-- The search that meets the target ends with the stack, the rest of a simple chain
behind it, and the target once more. -/
theorem chain_of_dfs_error (hoff : target ∉ visited)
    (h : dfs edges target fuel pathStack current visited = .error path) :
    exists tail, path = pathStack ++ tail ++ [target] ∧
      SimpleChain (Adjacent edges) current target (current :: tail) ∧
      forall x, x ∈ current :: tail -> x ∉ visited := by
  induction fuel generalizing pathStack visited path current with
  | zero =>
      cases h
  | succ fuel ih =>
      unfold dfs at h
      split at h
      · rename_i hcurrent
        cases h
        refine ⟨[], by simp, ?_, ?_⟩
        · rw [hcurrent]
          exact SimpleChain.singleton _ target
        · intro x hx
          rw [List.mem_singleton.mp hx, hcurrent]
          exact hoff
      · rename_i hne
        split at h
        · cases h
        · rename_i hnew
          have hinit : KeepsOff target (current :: visited) (current :: visited) :=
            ⟨fun x hx => hx, List.not_mem_cons_of_ne_of_not_mem (Ne.symm hne) hoff⟩
          rcases foldlM_error_of_keeps (P := KeepsOff target (current :: visited))
            (fun _ _ _ hb hround => keepsOff_of_dfs_ok hb hround) hinit h with
            ⟨next, hnext, visited', ⟨hkeeps, hoff'⟩, hfound⟩
          rcases ih hoff' hfound with ⟨tail, hpath, hchain, hunvisited⟩
          refine ⟨next :: tail, by simpa using hpath, ?_, ?_⟩
          · apply hchain.cons hnext
            intro hmem
            exact hunvisited current hmem (hkeeps current List.mem_cons_self)
          · intro x hx
            rcases List.mem_cons.mp hx with hx | hx
            · rw [hx]
              exact hnew
            · intro hvisited
              exact hunvisited x hx (hkeeps x (List.mem_cons_of_mem current hvisited))

def unvisited (sources visited : List V) : List V :=
  sources.filter (fun x => x ∉ visited)

theorem unvisited_length_le (h : forall x, x ∈ visited -> x ∈ visited') :
    (unvisited sources visited').length ≤ (unvisited sources visited).length := by
  apply List.Sublist.length_le
  apply List.monotone_filter_right
  intro x hx
  simp only [decide_eq_true_eq] at hx ⊢
  exact fun hmem => hx (h x hmem)

theorem unvisited_length_lt (hsource : current ∈ sources) (hnew : current ∉ visited) :
    (unvisited sources (current :: visited)).length <
      (unvisited sources visited).length := by
  have hmem : current ∈ unvisited sources visited := by
    simp [unvisited, hsource, hnew]
  have heq : unvisited sources (current :: visited) =
      (unvisited sources visited).filter (fun x => x ≠ current) := by
    simp [unvisited, List.filter_filter]
  rw [heq]
  apply List.length_filter_lt_length_iff_exists.mpr
  exact ⟨current, hmem, by simp⟩

theorem explored_foldlM (search : V -> List V -> Except (List V) (List V))
    (hsearch : forall {next visited visited'}, (unvisited sources visited).length < fuel ->
      search next visited = .ok visited' ->
      Explored edges target visited visited' ∧ next ∈ visited')
    (hfuel : (unvisited sources visited).length < fuel)
    (h : nexts.foldlM (fun visited next => search next visited) visited = .ok visited') :
    Explored edges target visited visited' ∧ forall next, next ∈ nexts -> next ∈ visited' := by
  induction nexts generalizing visited with
  | nil =>
      cases h
      exact ⟨Explored.refl _, fun next hnext => absurd hnext List.not_mem_nil⟩
  | cons next rest ih =>
      rw [List.foldlM_cons] at h
      rcases bind_eq_ok.mp h with ⟨v, hv, hrest⟩
      rcases hsearch hfuel hv with ⟨hfirst, hnext⟩
      have hfuel' : (unvisited sources v).length < fuel :=
        Nat.lt_of_le_of_lt (unvisited_length_le hfirst.keeps) hfuel
      rcases ih hfuel' hrest with ⟨hothers, hmem⟩
      refine ⟨hfirst.trans hothers, ?_⟩
      intro x hx
      rcases List.mem_cons.mp hx with hx | hx
      · rw [hx]
        exact hothers.keeps next hnext
      · exact hmem x hx

/-- With more fuel than unvisited sources, a search that misses the target explores
everything behind the vertex from which it starts. -/
theorem explored_of_dfs_ok (hsources : forall x, edges x ≠ [] -> x ∈ sources)
    (hfuel : (unvisited sources visited).length < fuel)
    (h : dfs edges target fuel pathStack current visited = .ok visited') :
    Explored edges target visited visited' ∧ current ∈ visited' := by
  induction fuel generalizing pathStack visited current visited' with
  | zero =>
      exact absurd hfuel (Nat.not_lt_zero _)
  | succ fuel ih =>
      unfold dfs at h
      split at h
      · cases h
      · rename_i hne
        split at h
        · rename_i hmem
          cases h
          exact ⟨Explored.refl visited, hmem⟩
        · rename_i hnew
          by_cases hnil : edges current = []
          · rw [hnil] at h
            cases h
            refine ⟨⟨fun x hx => List.mem_cons_of_mem current hx, ?_⟩, List.mem_cons_self⟩
            intro x hx
            rcases List.mem_cons.mp hx with hx | hx
            · refine Or.inr ⟨by rw [hx]; exact hne, ?_⟩
              intro y hy
              rw [hx, hnil] at hy
              exact absurd hy List.not_mem_nil
            · exact Or.inl hx
          · have hlt := unvisited_length_lt (hsources current hnil) hnew
            have hfuel' : (unvisited sources (current :: visited)).length < fuel := by
              omega
            rcases explored_foldlM
              (fun next => dfs edges target fuel (pathStack ++ [next]) next) ih hfuel' h with ⟨hexplored, hedges⟩
            have hkeeps : forall x, x ∈ visited -> x ∈ visited' :=
              fun x hx => hexplored.keeps x (List.mem_cons_of_mem current hx)
            refine ⟨⟨hkeeps, ?_⟩, hexplored.keeps current List.mem_cons_self⟩
            intro x hx
            rcases hexplored.closed x hx with hx | hx
            · rcases List.mem_cons.mp hx with hx | hx
              · rw [hx]
                exact Or.inr ⟨hne, hedges⟩
              · exact Or.inl hx
            · exact Or.inr hx

/-!
## The search without a bound

A run of the search through the next vertices of the stack, as a derivation.  There is one
from everywhere, and it ends as the search with enough fuel does.
-/

inductive Searches (edges : V -> List V) (target : V) :
    List V -> List V -> List V -> Except (List V) (List V) -> Prop where
  | done (pathStack visited : List V) :
      Searches edges target pathStack [] visited (.ok visited)
  | met (pathStack rest visited : List V) :
      Searches edges target pathStack (target :: rest) visited
        (.error (pathStack ++ [target] ++ [target]))
  | seen {pathStack rest visited : List V} {next : V} {result : Except (List V) (List V)} :
      next ≠ target -> next ∈ visited ->
      Searches edges target pathStack rest visited result ->
      Searches edges target pathStack (next :: rest) visited result
  | metBehind {pathStack rest visited path : List V} {next : V} :
      next ≠ target -> next ∉ visited ->
      Searches edges target (pathStack ++ [next]) (edges next) (next :: visited)
        (.error path) ->
      Searches edges target pathStack (next :: rest) visited (.error path)
  | missed {pathStack rest visited visited' : List V} {next : V}
      {result : Except (List V) (List V)} :
      next ≠ target -> next ∉ visited ->
      Searches edges target (pathStack ++ [next]) (edges next) (next :: visited)
        (.ok visited') ->
      Searches edges target pathStack rest visited' result ->
      Searches edges target pathStack (next :: rest) visited result

omit [DecidableEq V] in
theorem Searches.unique {result result' : Except (List V) (List V)}
    (h : Searches edges target pathStack nexts visited result)
    (h' : Searches edges target pathStack nexts visited result') : result = result' := by
  induction h generalizing result' with
  | done =>
      cases h'
      rfl
  | met =>
      cases h' with
      | met =>
          rfl
      | seen hne | metBehind hne | missed hne =>
          exact absurd rfl hne
  | seen hne hmem _ ih =>
      cases h' with
      | met =>
          exact absurd rfl hne
      | seen _ _ hrest =>
          exact ih hrest
      | metBehind _ hnew | missed _ hnew =>
          exact absurd hmem hnew
  | metBehind hne hnew _ ih =>
      cases h' with
      | met =>
          exact absurd rfl hne
      | seen _ hmem =>
          exact absurd hmem hnew
      | metBehind _ _ hbehind =>
          exact ih hbehind
      | missed _ _ hbehind =>
          cases ih hbehind
  | missed hne hnew _ _ ihbehind ihrest =>
      cases h' with
      | met =>
          exact absurd rfl hne
      | seen _ hmem =>
          exact absurd hmem hnew
      | metBehind _ _ hbehind =>
          cases ihbehind hbehind
      | missed _ _ hbehind hrest =>
          cases ihbehind hbehind
          exact ihrest hrest

/-- With more fuel than unvisited sources, the loop of searches is a run of the search. -/
theorem searches_foldlM (hsources : forall x, edges x ≠ [] -> x ∈ sources)
    (hfuel : (unvisited sources visited).length < fuel) :
    Searches edges target pathStack nexts visited
      (nexts.foldlM
        (fun visited next => dfs edges target fuel (pathStack ++ [next]) next visited)
        visited) := by
  induction fuel generalizing pathStack nexts visited with
  | zero =>
      exact absurd hfuel (Nat.not_lt_zero _)
  | succ fuel ih =>
      induction nexts generalizing visited with
      | nil =>
          exact Searches.done pathStack visited
      | cons next rest ihrest =>
          rw [List.foldlM_cons]
          by_cases hmet : next = target
          · rw [hmet]
            unfold dfs
            rw [if_pos rfl]
            exact Searches.met pathStack rest visited
          · by_cases hmem : next ∈ visited
            · unfold dfs
              rw [if_neg hmet, if_pos hmem]
              exact Searches.seen hmet hmem (ihrest hfuel)
            · have hbehind : Searches edges target (pathStack ++ [next]) (edges next)
                  (next :: visited)
                  (dfs edges target (fuel + 1) (pathStack ++ [next]) next visited) := by
                unfold dfs
                rw [if_neg hmet, if_neg hmem]
                by_cases hnil : edges next = []
                · rw [hnil]
                  exact Searches.done _ _
                · have hlt := unvisited_length_lt (hsources next hnil) hmem
                  exact ih (by omega)
              cases hdfs : dfs edges target (fuel + 1) (pathStack ++ [next]) next visited with
              | error path =>
                  rw [hdfs] at hbehind
                  exact Searches.metBehind hmet hmem hbehind
              | ok visited' =>
                  rw [hdfs] at hbehind
                  rcases explored_of_dfs_ok hsources hfuel hdfs with ⟨hexplored, _⟩
                  have hle : (unvisited sources visited').length ≤
                      (unvisited sources visited).length :=
                    unvisited_length_le hexplored.keeps
                  exact Searches.missed hmet hmem hbehind (ihrest (by omega))

end Search

end Foundations
end CopilotFactory
