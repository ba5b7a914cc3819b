import CopilotFactory.Foundations.ParentPaths

/-!
# File programs

A program that works on files, as a tree: each call of the file system branches into the
answers that it may get, and nothing is said about which of them it gets.
-/

namespace CopilotFactory
namespace Foundations

/-- An entry of a directory.  The names of entries are those a file system allows. -/
structure DirEntry where
  name : String
  isDirectory : Bool
  isName : Path.IsName name

inductive FileCall where
  | mkdir (path : String)
  | pathExists (path : String)
  | writeFile (path content : String)
  | readFile (path : String)
  | unlink (path : String)
  | rename (oldPath newPath : String)
  | readdir (path : String)
deriving DecidableEq

namespace FileCall

abbrev Reply : FileCall -> Type
  | .pathExists _ => Bool
  | .readFile _ => String
  | .readdir _ => List DirEntry
  | .mkdir _ | .writeFile _ _ | .unlink _ | .rename _ _ => Unit

def paths : FileCall -> List String
  | .mkdir path | .pathExists path | .writeFile path _ | .readFile path | .unlink path
  | .readdir path => [path]
  | .rename oldPath newPath => [oldPath, newPath]

end FileCall

/-- A failed call is answered with the message of its error. -/
inductive FileProgram (ε α : Type) where
  | done (result : Except ε α)
  | call (c : FileCall) (next : Except String c.Reply -> FileProgram ε α)

namespace FileProgram

variable {ε ε' α β : Type}

def bind : FileProgram ε α -> (α -> FileProgram ε β) -> FileProgram ε β
  | .done (.ok a), f => f a
  | .done (.error e), _ => .done (.error e)
  | .call c next, f => .call c (fun reply => (next reply).bind f)

instance : Monad (FileProgram ε) where
  pure a := .done (.ok a)
  bind := bind

def fail (e : ε) : FileProgram ε α :=
  .done (.error e)

def perform (c : FileCall) : FileProgram String c.Reply :=
  .call c .done

def mapError (f : ε -> ε') : FileProgram ε α -> FileProgram ε' α
  | .done (.ok a) => .done (.ok a)
  | .done (.error e) => .done (.error (f e))
  | .call c next => .call c (fun reply => (next reply).mapError f)

def void (p : FileProgram ε α) : FileProgram ε Unit :=
  p.bind (fun _ => .done (.ok ()))

/-!
## The calls of a program
-/

def OnlyCalls (P : FileCall -> Prop) : FileProgram ε α -> Prop
  | .done _ => True
  | .call c next => P c ∧ forall reply, (next reply).OnlyCalls P

variable {P : FileCall -> Prop}

variable {p : FileProgram ε α}

@[simp] theorem onlyCalls_done {result : Except ε α} :
    (FileProgram.done result).OnlyCalls P :=
  trivial

theorem OnlyCalls.bind {f : α -> FileProgram ε β} (hp : p.OnlyCalls P)
    (hf : forall a, (f a).OnlyCalls P) : (p.bind f).OnlyCalls P := by
  induction p with
  | done result =>
      cases result with
      | ok a =>
          exact hf a
      | error e =>
          trivial
  | call c next ih =>
      constructor
      · exact hp.1
      · intro reply
        exact ih reply (hp.2 reply)

theorem OnlyCalls.mapError {f : ε -> ε'} (hp : p.OnlyCalls P) : (p.mapError f).OnlyCalls P := by
  induction p with
  | done result =>
      cases result <;> trivial
  | call c next ih =>
      constructor
      · exact hp.1
      · intro reply
        exact ih reply (hp.2 reply)

theorem OnlyCalls.of_bind {f : α -> FileProgram ε β} (h : (p.bind f).OnlyCalls P) :
    p.OnlyCalls P := by
  induction p with
  | done result =>
      trivial
  | call c next ih =>
      constructor
      · exact h.1
      · intro reply
        exact ih reply (h.2 reply)

theorem onlyCalls_void : p.void.OnlyCalls P <-> p.OnlyCalls P := by
  constructor
  · exact OnlyCalls.of_bind
  · intro h
    exact h.bind (fun _ => onlyCalls_done)

theorem onlyCalls_perform_bind {c : FileCall} {f : String -> ε}
    {next : c.Reply -> FileProgram ε α} :
    ((perform c).mapError f >>= next).OnlyCalls P <->
      P c ∧ forall a, (next a).OnlyCalls P := by
  constructor
  · intro h
    exact ⟨h.1, fun a => h.2 (.ok a)⟩
  · intro h
    constructor
    · exact h.1
    · intro reply
      cases reply with
      | ok a =>
          exact h.2 a
      | error message =>
          trivial

theorem onlyCalls_foldlM {f : β -> α -> FileProgram ε β} {items : List α} (start : β)
    (h : forall b a, a ∈ items -> (f b a).OnlyCalls P) :
    (items.foldlM f start).OnlyCalls P := by
  induction items generalizing start with
  | nil =>
      trivial
  | cons item rest ih =>
      rw [List.foldlM_cons]
      apply OnlyCalls.bind (h start item List.mem_cons_self)
      intro b
      exact ih b (fun b' a ha => h b' a (List.mem_cons_of_mem item ha))

end FileProgram

end Foundations
end CopilotFactory
