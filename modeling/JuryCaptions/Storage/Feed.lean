import JuryCaptions.Storage.Database
import Mathlib
import JuryCaptions.Storage.Queue
/-!
The database backend's queues as its goroutines use them, one step at a time.
A flush takes a table's whole queue and writes it in one transaction, a failed
batch going back in front; flushes share a lock, so a table never has two
batches out.
-/

namespace JuryCaptions
namespace Storage

/-- One table's rows on their way into the database. -/
structure TableFeed (α : Type) where
  queue : PendingQueue α := {}
  /-- The batch a flush took from the queue and has neither written nor put back. -/
  held : Option (List α) := none
  /-- The batches the database committed, oldest first. -/
  committed : List (List α) := []
  deriving Inhabited

inductive FeedStep (α : Type) where
  /-- A recorder pushes rows. -/
  | push (rows : List α)
  /-- A flush takes the whole queue. -/
  | take
  /-- The flush's transaction ends, committed or failed. -/
  | settle (ok : Bool)

namespace TableFeed

variable {α : Type}

def committedRows (f : TableFeed α) : List α := f.committed.flatten

def heldRows (f : TableFeed α) : List α := f.held.getD []

/-- The feed after a step, or `none` when the step cannot happen: a flush takes
a queue only when the table has no batch out, and a transaction ends only when
there is a batch. -/
def step (f : TableFeed α) : FeedStep α → Option (TableFeed α)
  | .push rows => some { f with queue := f.queue.push rows }
  | .take =>
    match f.held with
    | some _ => none
    | none => some { f with queue := f.queue.drain.2, held := f.queue.drain.1 }
  | .settle ok =>
    match f.held with
    | none => none
    | some batch =>
      if ok then some { f with held := none, committed := f.committed ++ [batch] }
      else some { f with held := none, queue := f.queue.requeue batch }

end TableFeed

inductive RowTable where
  | captions
  | focus
  | targets
  | positions
  deriving DecidableEq, Repr

def RowTable.all : List RowTable := [.captions, .focus, .targets, .positions]

abbrev RowTable.Row : RowTable → Type
  | .captions => CaptionRow
  | .focus => FocusRow
  | .targets => TargetRow
  | .positions => PositionRow

structure Backlog where
  captions : TableFeed CaptionRow := {}
  focus : TableFeed FocusRow := {}
  targets : TableFeed TargetRow := {}
  positions : TableFeed PositionRow := {}
  deriving Inhabited

/-- A step of the database backend's queues: a recorder's call, or a flush's
step on one table. -/
inductive BacklogStep where
  | recordCaption (r : CaptionRecord)
  | recordFocus (r : FocusRecord)
  | recordTarget (r : TargetRecord)
  | recordPosition (r : PositionRecord)
  | take (t : RowTable)
  | settle (t : RowTable) (ok : Bool)

namespace Backlog

def feed (b : Backlog) : (t : RowTable) → TableFeed t.Row
  | .captions => b.captions
  | .focus => b.focus
  | .targets => b.targets
  | .positions => b.positions

def setFeed (b : Backlog) : (t : RowTable) → TableFeed t.Row → Backlog
  | .captions, f => { b with captions := f }
  | .focus, f => { b with focus := f }
  | .targets, f => { b with targets := f }
  | .positions, f => { b with positions := f }

def pending (b : Backlog) : Nat :=
  b.captions.queue.length + b.focus.queue.length + b.targets.queue.length + b.positions.queue.length

def feedStep (b : Backlog) (t : RowTable) (s : FeedStep t.Row) : Option Backlog :=
  ((b.feed t).step s).map (b.setFeed t)

/-- The backlog after a step. A recorder converts its record to a row and
pushes it; a position that cannot be stored is pushed nowhere. -/
def step (b : Backlog) : BacklogStep → Option Backlog
  | .recordCaption r => b.feedStep .captions (.push [CaptionRow.ofRecord r])
  | .recordFocus r => b.feedStep .focus (.push [FocusRow.ofRecord r])
  | .recordTarget r => b.feedStep .targets (.push [TargetRow.ofRecord r])
  | .recordPosition r =>
    match PositionRow.ofRecord r with
    | .ok row => b.feedStep .positions (.push [row])
    | .error _ => some b
  | .take t => b.feedStep t .take
  | .settle t ok => b.feedStep t (.settle ok)

@[simp] theorem feed_setFeed_self (b : Backlog) (t : RowTable) (f : TableFeed t.Row) :
    (b.setFeed t f).feed t = f := by
  cases t <;> rfl

theorem feed_setFeed_of_ne (b : Backlog) {t t' : RowTable} (f : TableFeed t.Row) (h : t' ≠ t) :
    (b.setFeed t f).feed t' = b.feed t' := by
  cases t <;> cases t' <;> simp_all [setFeed, feed]

theorem pending_eq_sum (b : Backlog) :
    b.pending = (RowTable.all.map fun t => (b.feed t).queue.length).sum := by
  simp [pending, RowTable.all, feed, Nat.add_assoc]

/-- The backlog after a sequence of steps, or `none` when one of them cannot
happen when its turn comes. -/
def run (b : Backlog) : List BacklogStep → Option Backlog
  | [] => some b
  | s :: ss => (b.step s).bind fun b' => run b' ss

end Backlog

def BacklogStep.pushed : BacklogStep → (t : RowTable) → List t.Row
  | .recordCaption r, .captions => [CaptionRow.ofRecord r]
  | .recordFocus r, .focus => [FocusRow.ofRecord r]
  | .recordTarget r, .targets => [TargetRow.ofRecord r]
  | .recordPosition r, .positions =>
    match PositionRow.ofRecord r with
    | .ok row => [row]
    | .error _ => []
  | _, _ => []

end Storage
end JuryCaptions
