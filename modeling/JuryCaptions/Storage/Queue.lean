/-!
A first-in first-out queue of rows waiting to be written. Draining takes all,
and an empty queue gives nothing, not an empty batch; requeueing puts a failed
batch back in front of what was pushed since.
-/

namespace JuryCaptions
namespace Storage

structure PendingQueue (α : Type) where
  items : List α := []
  deriving Inhabited

namespace PendingQueue

variable {α : Type}

def push (q : PendingQueue α) (xs : List α) : PendingQueue α := ⟨q.items ++ xs⟩

def length (q : PendingQueue α) : Nat := q.items.length

def isEmpty (q : PendingQueue α) : Bool := q.items.isEmpty

def drain (q : PendingQueue α) : Option (List α) × PendingQueue α :=
  (if q.items.isEmpty then none else some q.items, ⟨[]⟩)

def requeue (q : PendingQueue α) (xs : List α) : PendingQueue α := ⟨xs ++ q.items⟩

@[simp] theorem items_push (q : PendingQueue α) (xs : List α) : (q.push xs).items = q.items ++ xs := rfl

@[simp] theorem items_requeue (q : PendingQueue α) (xs : List α) : (q.requeue xs).items = xs ++ q.items := rfl

@[simp] theorem items_drain (q : PendingQueue α) : q.drain.2.items = [] := rfl

@[simp] theorem length_eq (q : PendingQueue α) : q.length = q.items.length := rfl

/-- What draining takes: every waiting item, and nothing at all when none waits. -/
theorem drain_fst_getD (q : PendingQueue α) : q.drain.1.getD [] = q.items := by
  cases q with
  | mk items => cases items <;> rfl

/-- Draining and then requeueing what was drained gives the queue back. -/
theorem requeue_drain (q : PendingQueue α) :
    (q.drain.2.requeue (q.drain.1.getD [])) = q := by
  cases q with
  | mk items => cases items <;> simp [drain, requeue]

end PendingQueue

end Storage
end JuryCaptions
