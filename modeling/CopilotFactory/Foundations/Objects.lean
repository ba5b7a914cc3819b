import CopilotFactory.Foundations.Process

/-!
# Objects of a heap

Objects stand at the places where they were allocated, and a program allocates, loads and
stores them.  The objects that were there before a program began are a prefix of the heap.
It stays as it is as long as the program stores at fresh places only.
-/

namespace CopilotFactory
namespace Foundations
namespace Objects

variable {ω ε α β : Type}

variable {heap before : List ω} {place : Nat}

def allocate (object : ω) : Process (List ω) ε Nat :=
  Process.call (fun heap => (.ok heap.length, heap ++ [object]))

/-- Load the object at a place and take from it what is expected there, or throw. -/
def load (expected : ω -> Option α) (e : ε) (place : Nat) : Process (List ω) ε α :=
  Process.call (fun heap => (orThrow (heap[place]?.bind expected) e, heap))

def store (place : Nat) (object : ω) : Process (List ω) ε Unit :=
  Process.call (fun heap => (.ok (), heap.set place object))

/-!
## Running
-/

theorem bind_of_ok {p : Process (List ω) ε α} {heap' : List ω} {a : α}
    (h : p heap = Ending.mk (.ok a) heap' []) (f : α -> Process (List ω) ε β) :
    (p >>= f) heap = f a heap' := by
  simp only [Bind.bind, h, List.nil_append]

theorem bind_of_error {p : Process (List ω) ε α} {heap' : List ω} {e : ε}
    (h : p heap = Ending.mk (.error e) heap' []) (f : α -> Process (List ω) ε β) :
    (p >>= f) heap = Ending.mk (.error e) heap' [] := by
  simp only [Bind.bind, h]

theorem allocate_bind (object : ω) (f : Nat -> Process (List ω) ε β) (heap : List ω) :
    (allocate object >>= f) heap = f heap.length (heap ++ [object]) :=
  rfl

theorem store_bind (place : Nat) (object : ω) (f : Unit -> Process (List ω) ε β)
    (heap : List ω) :
    (store place object >>= f) heap = f () (heap.set place object) :=
  rfl

theorem load_bind {expected : ω -> Option α} {e : ε} {object : ω} {a : α}
    (hobject : heap[place]? = some object) (ha : expected object = some a)
    (f : α -> Process (List ω) ε β) : (load expected e place >>= f) heap = f a heap := by
  have hload : orThrow (heap[place]?.bind expected) e = .ok a := by
    rw [hobject, Option.bind_some, ha]
    rfl
  apply bind_of_ok
  simp only [load, Process.call, hload]

/-!
## What stays
-/

theorem getElem?_append_of_some {object : ω} (h : heap[place]? = some object) (extra : ω) :
    (heap ++ [extra])[place]? = some object := by
  rcases List.getElem?_eq_some_iff.mp h with ⟨hlt, _⟩
  rw [List.getElem?_append_left hlt, h]

theorem getElem?_of_prefix (hkept : before <+: heap) {object : ω}
    (h : before[place]? = some object) : heap[place]? = some object := by
  rcases hkept with ⟨rest, hrest⟩
  rcases List.getElem?_eq_some_iff.mp h with ⟨hlt, _⟩
  rw [← hrest, List.getElem?_append_left hlt, h]

theorem prefix_append (hkept : before <+: heap) (object : ω) : before <+: heap ++ [object] :=
  hkept.trans (List.prefix_append heap [object])

theorem prefix_set (hkept : before <+: heap) (hfresh : before.length ≤ place) (object : ω) :
    before <+: heap.set place object := by
  rcases hkept with ⟨rest, hrest⟩
  refine ⟨rest.set (place - before.length) object, ?_⟩
  rw [← hrest, List.set_append_right place object hfresh]

end Objects
end Foundations
end CopilotFactory
