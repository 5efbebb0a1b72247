import JuryCaptions.Storage.Feed
import JuryCaptions.Storage.Memory
import Mathlib
/-!
# Rows and sessions of the recording backends

Recorders push rows while flushes take a queue, write the batch and put a failed
batch back; no row is lost or written twice (`rows_kept`), by the invariant
`TableFeed.Keeps` (`Keeps.step`, `Keeps.feedStep`, `Keeps.run`). The database
backend stamps a row with the session of the flush that writes it (`Watch`,
`rows_carry_flush_session`). The memory backend keeps the records since the
last start, and writes its export, the `ExportDocument`, exactly when the times
have texts and the positions are finite (`memory_sessions`).
-/

namespace JuryCaptions
namespace Storage

/-! ## Queued rows are kept -/

/-- The rows a feed step pushes. -/
def FeedStep.rows {α : Type} : FeedStep α → List α
  | .push rows => rows
  | _ => []

namespace TableFeed

variable {α : Type} {f f' : TableFeed α} {pushed : List α}

/-- The feed's rows, committed, then held, then queued, are `pushed`. -/
def Keeps (f : TableFeed α) (pushed : List α) : Prop :=
  f.committedRows ++ f.heldRows ++ f.queue.items = pushed

theorem keeps_empty : ({} : TableFeed α).Keeps [] := rfl

/-- A step keeps the feed's rows in order, adding what it pushes. -/
theorem Keeps.step (h : f.Keeps pushed) {s : FeedStep α} (hs : f.step s = some f') :
    f'.Keeps (pushed ++ s.rows) := by
  unfold Keeps at h ⊢
  cases s with
  | push rows =>
    simp only [TableFeed.step, Option.some.injEq] at hs
    subst hs
    simp [committedRows, heldRows, FeedStep.rows, ← h]
  | take =>
    simp only [TableFeed.step] at hs
    split at hs
    · cases hs
    · rename_i hnone
      cases hs
      -- the queue moves, whole, into the held batch
      simp [committedRows, heldRows, FeedStep.rows, PendingQueue.drain_fst_getD, ← h, hnone]
  | settle ok =>
    simp only [TableFeed.step] at hs
    split at hs
    · cases hs
    · rename_i batch hbatch
      simp only [heldRows, hbatch, Option.getD_some] at h
      cases ok with
      | true =>
        cases hs
        simp [committedRows, heldRows, FeedStep.rows, ← h]
      | false =>
        cases hs
        simp [committedRows, heldRows, FeedStep.rows, ← h]

theorem Keeps.committed_first (h : f.Keeps pushed) : f.committedRows <+: pushed :=
  ⟨f.heldRows ++ f.queue.items, by rw [← List.append_assoc]; exact h⟩

theorem Keeps.settled (h : f.Keeps pushed) (hf : f.held = none) :
    f.committedRows ++ f.queue.items = pushed := by
  simpa [Keeps, heldRows, hf] using h

end TableFeed

namespace Backlog

open TableFeed

variable {b b' : Backlog} {pushed : (t : RowTable) → List t.Row}

/-- Every table's feed keeps the rows pushed to it. -/
def Keeps (b : Backlog) (pushed : (t : RowTable) → List t.Row) : Prop :=
  ∀ t, (b.feed t).Keeps (pushed t)

theorem keeps_empty : ({} : Backlog).Keeps fun _ => [] := by
  intro t
  cases t <;> exact TableFeed.keeps_empty

theorem Keeps.feedStep (h : b.Keeps pushed) {t : RowTable} {s : FeedStep t.Row}
    (hs : b.feedStep t s = some b') (more : (t : RowTable) → List t.Row)
    (hmore : more t = s.rows) (hother : ∀ t', t' ≠ t → more t' = []) :
    b'.Keeps fun t => pushed t ++ more t := by
  obtain ⟨f', hf', rfl⟩ := Option.map_eq_some_iff.1 hs
  intro t'
  show (_ : TableFeed t'.Row).Keeps (pushed t' ++ more t')
  by_cases ht : t' = t
  · subst ht
    rw [feed_setFeed_self, hmore]
    exact (h t').step hf'
  · rw [feed_setFeed_of_ne _ _ ht, hother t' ht, List.append_nil]
    exact h t'

theorem pushed_of_flush {t t' : RowTable} : (BacklogStep.take t).pushed t' = [] := by
  cases t <;> cases t' <;> rfl

theorem pushed_of_settle {t t' : RowTable} {ok : Bool} : (BacklogStep.settle t ok).pushed t' = [] := by
  cases t <;> cases t' <;> rfl

/-- A step of the backlog adds, to each table, the rows it pushes there. -/
theorem Keeps.step (h : b.Keeps pushed) {s : BacklogStep} (hs : b.step s = some b') :
    b'.Keeps fun t => pushed t ++ s.pushed t := by
  cases s with
  | recordCaption r | recordFocus r | recordTarget r =>
    exact h.feedStep hs _ rfl fun t' ht => by cases t' <;> simp_all [BacklogStep.pushed]
  | recordPosition r =>
    simp only [Backlog.step] at hs
    split at hs
    · rename_i row hrow
      refine h.feedStep hs _ ?_ fun t' ht => by cases t' <;> simp_all [BacklogStep.pushed]
      simp [BacklogStep.pushed, hrow, FeedStep.rows]
    · -- a position that cannot be stored changes nothing and pushes nothing
      rename_i hrow
      cases hs
      intro t
      cases t <;> simpa [BacklogStep.pushed, hrow] using h _
  | take t => exact h.feedStep hs _ pushed_of_flush fun _ _ => pushed_of_flush
  | settle t ok => exact h.feedStep hs _ pushed_of_settle fun _ _ => pushed_of_settle

/-- A run adds, to each table, the rows its steps push there, in order. -/
theorem Keeps.run {ss : List BacklogStep} (h : b.Keeps pushed) (hr : b.run ss = some b') :
    b'.Keeps fun t => pushed t ++ ss.flatMap (·.pushed t) := by
  induction ss generalizing b pushed with
  | nil =>
    cases hr
    simpa using h
  | cons s ss ih =>
    obtain ⟨b₁, hb₁, hr⟩ := Option.bind_eq_some_iff.1 hr
    simpa [List.append_assoc] using ih (h.step hb₁) hr

end Backlog

/-- Along every run from an empty backlog, each table's rows, committed, then
held by a flush, then queued, are the rows pushed to it, in order: none is
committed twice or out of turn. With no batch of the table out, committed and
queued rows are the rows pushed; with no batch out at all, `pending` counts the
rows not committed. -/
theorem rows_kept {ss : List BacklogStep} {b : Backlog} (h : Backlog.run {} ss = some b) :
    (∀ t : RowTable,
      (b.feed t).committedRows ++ (b.feed t).heldRows ++ (b.feed t).queue.items =
          ss.flatMap (·.pushed t) ∧
        (b.feed t).committedRows <+: ss.flatMap (·.pushed t) ∧
        ((b.feed t).held = none →
          (b.feed t).committedRows ++ (b.feed t).queue.items = ss.flatMap (·.pushed t))) ∧
    ((∀ t : RowTable, (b.feed t).held = none) →
      b.pending = (RowTable.all.map fun t =>
        (ss.flatMap (·.pushed t)).length - (b.feed t).committedRows.length).sum) := by
  have hk : ∀ t, (b.feed t).Keeps (ss.flatMap (·.pushed t)) := fun t => by
    simpa using Backlog.keeps_empty.run h t
  refine ⟨fun t => ⟨hk t, (hk t).committed_first, (hk t).settled⟩, fun hnone => ?_⟩
  -- each table's queue is its pushed rows less its committed ones
  have hq : ∀ t, (b.feed t).queue.length =
      (ss.flatMap (·.pushed t)).length - (b.feed t).committedRows.length := fun t => by
    rw [PendingQueue.length_eq, ← (hk t).settled (hnone t), List.length_append]
    omega
  simp only [Backlog.pending_eq_sum, hq]

/-- A focus change recorded at the epoch. -/
def focusAt (id : SpeakerId) : FocusRecord := { time := ⟨0, 0⟩, focused := id, source := "mock" }

/-- A flush whose transaction fails while a second change is recorded, and a
second flush that commits both. -/
def retrySteps : List BacklogStep :=
  [.recordFocus (focusAt "juror-a"), .take .focus, .recordFocus (focusAt "juror-b"),
    .settle .focus false, .take .focus, .settle .focus true]

theorem rows_kept_retry :
    ∃ b, Backlog.run {} retrySteps = some b ∧
      (b.feed .focus).committedRows ++ (b.feed .focus).queue.items = retrySteps.flatMap (·.pushed .focus) :=
  ⟨_, rfl, ((rows_kept rfl).1 .focus).2.2 rfl⟩

/-- A flush between taking the queue and ending its transaction holds the only
row: it is neither committed nor queued, and `pending` counts nothing. -/
theorem pending_leaves_out_held_batch :
    ∃ b, Backlog.run {} [.recordFocus (focusAt "juror-a"), .take .focus] = some b ∧
      (b.feed .focus).committedRows ++ (b.feed .focus).queue.items ≠
        ([.recordFocus (focusAt "juror-a"), .take .focus] : List BacklogStep).flatMap (·.pushed .focus) ∧
      b.pending = 0 ∧
      (([.recordFocus (focusAt "juror-a"), .take .focus] : List BacklogStep).flatMap (·.pushed .focus)).length -
        (b.feed .focus).committedRows.length = 1 :=
  ⟨_, rfl, by
    show [] ≠ [FocusRow.ofRecord (focusAt "juror-a")]
    exact (List.cons_ne_nil _ _).symm, rfl, rfl⟩


/-! ## The database backend -/

/-- The calls the database backend takes, one at a time. -/
inductive DbCall where
  | start (s : Session)
  | recordCaption (r : CaptionRecord)
  | recordFocus (r : FocusRecord)
  | recordTarget (r : TargetRecord)
  | recordPosition (r : PositionRecord)
  | flush
  | finish (now : Instant)
  | close

/-- The rows a call queues on a table. -/
def DbCall.pushed : DbCall → (t : RowTable) → List t.Row
  | .recordCaption r, .captions => [CaptionRow.ofRecord r]
  | .recordFocus r, .focus => [FocusRow.ofRecord r]
  | .recordTarget r, .targets => [TargetRow.ofRecord r]
  | .recordPosition r, .positions =>
    match PositionRow.ofRecord r with
    | .ok row => [row]
    | .error _ => []
  | _, _ => []

def RowTable.sessionOf : (t : RowTable) → t.Row → Nat
  | .captions, r => r.sessionId
  | .focus, r => r.sessionId
  | .targets, r => r.sessionId
  | .positions, r => r.sessionId

def Queues.rowsOf (q : Queues) : (t : RowTable) → List t.Row
  | .captions => q.captions
  | .focus => q.focus
  | .targets => q.targets
  | .positions => q.positions

def Tables.rowsOf (ts : Tables) : (t : RowTable) → List t.Row
  | .captions => ts.captions.rows
  | .focus => ts.focus.rows
  | .targets => ts.targets.rows
  | .positions => ts.positions.rows

namespace DatabaseBackend

/-- The backend after a call; what the call answers is left out. -/
def call (b : DatabaseBackend) : DbCall → DatabaseBackend
  | .start s => (b.start s).1
  | .recordCaption r => b.recordCaption r
  | .recordFocus r => b.recordFocus r
  | .recordTarget r => b.recordTarget r
  | .recordPosition r => (b.recordPosition r).1
  | .flush => b.flush.1
  | .finish now => (b.finish now).1
  | .close => b.close.1

/-- Whether a call inserts a session row. -/
def inserts (b : DatabaseBackend) : DbCall → Bool
  | .start s => (b.start s).2.2.isNone
  | _ => false

/-- Whether a call writes the queues: a flush, a close, and ending a started session. -/
def flushes (b : DatabaseBackend) : DbCall → Bool
  | .flush | .close => true
  | .finish _ => b.session.isSome
  | _ => false

/-- The rows of a table, none before the backend is set up. -/
def rowsOf (b : DatabaseBackend) (t : RowTable) : List t.Row := (b.tables.map (·.rowsOf t)).getD []

/-- The numbers of the sessions inserted so far. -/
def ids (b : DatabaseBackend) : List Nat := ((b.tables.map (·.sessions.rows)).getD []).map (·.id)

def nextId (b : DatabaseBackend) : Nat := (b.tables.map (·.sessions.next)).getD 1

/-- Session numbers are never reused: each one given is above zero and below
the next, and the session inserted last, if any, has its row. -/
def Fresh (b : DatabaseBackend) : Prop :=
  (∀ n ∈ b.ids, 0 < n ∧ n < b.nextId) ∧ 0 < b.nextId ∧ (b.sessionId = 0 ∨ b.sessionId ∈ b.ids)

variable {b : DatabaseBackend} {ts : Tables}

theorem writeRows_map {α : Type} (table : Table α) (rows : List α) (stamp : α → Nat → α) {f : α → Nat} {sid : Nat}
    (hs : ∀ r i, f (stamp r i) = sid) :
    (writeRows table rows stamp).rows.map f = table.rows.map f ++ rows.map fun _ => sid := by
  simp only [writeRows, List.map_append, List.map_map]
  congr 1
  rw [show (f ∘ fun x : α × Nat => stamp x.1 (table.next + x.2)) = fun _ => sid from funext fun x => hs _ _]
  simp

@[simp] theorem dumpNow_tables (b : DatabaseBackend) : b.dumpNow.1.tables = b.tables := by
  unfold dumpNow; split <;> rfl

@[simp] theorem dumpNow_queues (b : DatabaseBackend) : b.dumpNow.1.queues = b.queues := by
  unfold dumpNow; split <;> rfl

@[simp] theorem dumpNow_sessionId (b : DatabaseBackend) : b.dumpNow.1.sessionId = b.sessionId := by
  unfold dumpNow; split <;> rfl

/-- A flush on a backend that is set up writes every queue, stamping each row
with the session inserted last, and touches nothing else. -/
theorem flush_of_tables (h : b.tables = some ts) :
    b.flush.2 = [] ∧ b.flush.1.queues = {} ∧ b.flush.1.sessionId = b.sessionId ∧ b.flush.1.session = b.session ∧
      b.flush.1.ids = b.ids ∧ b.flush.1.nextId = b.nextId ∧ b.flush.1.tables.isSome ∧
      ∀ t, (b.flush.1.rowsOf t).map t.sessionOf = (b.rowsOf t).map t.sessionOf ++ (b.queues.rowsOf t).map fun _ => b.sessionId := by
  simp only [flush, h, ids, nextId, rowsOf, Option.map_some, Option.getD_some, Option.isSome_some, true_and]
  intro t
  cases t <;> exact writeRows_map _ _ _ fun _ _ => rfl

theorem flush_eq (h : b.tables = some ts) : b.flush = (b.flush.1, []) :=
  Prod.ext rfl (flush_of_tables h).1

theorem start_inserts (h : b.tables = some ts) (hf : b.Fresh) {s : Session} (hs : (b.start s).2.2 = none) :
    (b.start s).1.ids = b.ids ++ [(b.start s).1.sessionId] ∧ (b.start s).1.sessionId ∉ b.ids ∧
      0 < (b.start s).1.sessionId ∧ (b.start s).1.sessionId < (b.start s).1.nextId ∧ b.nextId ≤ (b.start s).1.nextId ∧
      (b.start s).1.queues = b.queues ∧ (∀ t, (b.start s).1.rowsOf t = b.rowsOf t) ∧ (b.start s).1.tables.isSome := by
  obtain ⟨hlt, hpos, -⟩ := hf
  simp only [ids, nextId, h, Option.map_some, Option.getD_some] at hlt hpos
  unfold start at hs ⊢
  simp only [h] at hs ⊢
  split_ifs at hs ⊢ with h1 h2 h3 <;> simp only [ids, nextId, rowsOf, h, Option.map_some, Option.getD_some,
    Option.isSome_some, List.map_append, List.map_cons, List.map_nil, and_true]
  · -- the next number, above every number given
    have hfree : ts.sessions.next ∉ ts.sessions.rows.map (·.id) := fun hm => by
      have := (hlt _ hm).2
      omega
    refine ⟨trivial, hfree, hpos, by omega, by omega, trivial, fun t => ?_⟩
    cases t <;> rfl
  · -- a number of its own, free in the table
    have hfree : s.id ∉ ts.sessions.rows.map (·.id) := by
      simp only [List.any_eq_true, beq_iff_eq, not_and, not_exists] at h1
      simpa using fun row hr => h1 h3 row hr
    refine ⟨trivial, hfree, Nat.pos_of_ne_zero h3, by omega, by omega, trivial, fun t => ?_⟩
    cases t <;> rfl

theorem start_refused {s : Session} (hs : (b.start s).2.2 ≠ none) : (b.start s).1 = { b with session := some s } := by
  unfold start at hs ⊢
  cases htb : b.tables with
  | none => rfl
  | some ts =>
    simp only [htb] at hs ⊢
    split_ifs at hs ⊢ <;> first | rfl | simp at hs

theorem ids_endTime (rows : List SessionRow) (id : Nat) (e : Option Instant) :
    (rows.map fun row => if row.id == id then { row with endTime := e } else row).map (·.id) = rows.map (·.id) := by
  simp only [List.map_map]
  congr 1
  funext row
  simp only [Function.comp_apply]
  split <;> rfl

/-- Every call but an insertion queues what it records, or writes the queues
stamped with the session inserted last. -/
theorem call_of_tables (h : b.tables = some ts) (c : DbCall) (hc : b.inserts c = false) :
    (b.call c).tables.isSome ∧ (b.call c).sessionId = b.sessionId ∧ (b.call c).ids = b.ids ∧
      (b.call c).nextId = b.nextId ∧
      (∀ t, (b.call c).queues.rowsOf t = if b.flushes c then [] else b.queues.rowsOf t ++ c.pushed t) ∧
      ∀ t, ((b.call c).rowsOf t).map t.sessionOf =
        (b.rowsOf t).map t.sessionOf ++ if b.flushes c then (b.queues.rowsOf t).map fun _ => b.sessionId else [] := by
  cases c with
  | start s =>
    rw [call, start_refused (Option.isSome_iff_ne_none.1 (by simpa [inserts] using hc))]
    refine ⟨by simp [h], rfl, rfl, rfl, fun t => ?_, fun t => ?_⟩ <;> cases t <;> simp [flushes, DbCall.pushed, Queues.rowsOf, rowsOf]
  | recordCaption r | recordFocus r | recordTarget r =>
    refine ⟨by simp [call, recordCaption, recordFocus, recordTarget, h], rfl, rfl, rfl, fun t => ?_, fun t => ?_⟩ <;>
      cases t <;> simp [call, recordCaption, recordFocus, recordTarget, flushes, DbCall.pushed, Queues.rowsOf, rowsOf]
  | recordPosition r =>
    cases hp : PositionRow.ofRecord r <;>
      refine ⟨by simp [call, recordPosition, hp, h], ?_, ?_, ?_, fun t => ?_, fun t => ?_⟩ <;> (try cases t) <;>
      simp [call, recordPosition, hp, ids, nextId, flushes, DbCall.pushed, Queues.rowsOf, rowsOf]
  | flush =>
    obtain ⟨-, hq, hsid, -, hids, hnext, htab, hrows⟩ := flush_of_tables h
    exact ⟨htab, hsid, hids, hnext, fun t => by simp [call, hq, flushes, Queues.rowsOf]; cases t <;> rfl,
      fun t => by simpa [flushes, call] using hrows t⟩
  | finish now =>
    cases hs : b.session with
    | none =>
      have hb : b.call (.finish now) = b := by simp [call, finish, hs]
      simp only [hb, flushes, hs, Option.isSome_none, Bool.false_eq_true, if_false, List.append_nil]
      refine ⟨by simp [h], trivial, trivial, trivial, fun t => ?_, fun t => trivial⟩
      cases t <;> simp [DbCall.pushed]
    | some s =>
      -- ending flushes first, then stores the end time, which keeps every session number
      have hb₁ : ({ b with session := some (if s.endTime.isZero then { s with endTime := now } else s) } :
          DatabaseBackend).tables = some ts := h
      obtain ⟨-, hq, hsid, -, hids, hnext, htab, hrows⟩ := flush_of_tables hb₁
      simp only [call, finish, hs]
      rw [flush_eq hb₁]
      simp only [joined, List.isEmpty_nil, if_true]
      split
      · next ts' hts' =>
        simp only [rowsOf, ids, nextId, dumpNow_tables, dumpNow_queues, dumpNow_sessionId, Option.isSome_some,
          Option.map_some, Option.getD_some, ids_endTime, flushes, hs, Option.isSome_some, if_true]
        simp only [rowsOf, ids, nextId, hts', Option.map_some, Option.getD_some] at hids hnext hrows
        refine ⟨trivial, hsid, hids, hnext, fun t => by rw [hq]; cases t <;> rfl, fun t => ?_⟩
        rw [← hrows t]
        cases t <;> rfl
      · next hnone => simp [hnone] at htab
  | close =>
    obtain ⟨-, hq, hsid, -, hids, hnext, htab, hrows⟩ := flush_of_tables h
    simp only [call, close]
    rw [flush_eq h]
    simp only [joined, List.isEmpty_nil, if_true, rowsOf, ids, nextId, dumpNow_tables, dumpNow_queues,
      dumpNow_sessionId, flushes]
    exact ⟨htab, hsid, hids, hnext, fun t => by rw [hq]; cases t <;> rfl, hrows⟩

end DatabaseBackend

/-- For each row queued, the session current at its record call and whether a
session was inserted since; for each row written, also the session of its flush. -/
structure Watch where
  queued : (t : RowTable) → List (Nat × Bool)
  written : (t : RowTable) → List (Nat × Nat × Bool)

namespace Watch

def empty : Watch := ⟨fun _ => [], fun _ => []⟩

/-- The watch after call `c` on backend `b`. -/
def step (w : Watch) (b : DatabaseBackend) (c : DbCall) : Watch :=
  let queued := fun t => (w.queued t).map (fun p => (p.1, p.2 || b.inserts c)) ++
    (c.pushed t).map fun _ => (b.sessionId, false)
  if b.flushes c then ⟨fun _ => [], fun t => w.written t ++ (queued t).map fun p => (p.1, b.sessionId, p.2)⟩
  else ⟨queued, w.written⟩

def run : Watch → DatabaseBackend → List DbCall → Watch
  | w, _, [] => w
  | w, b, c :: cs => run (w.step b c) (b.call c) cs

/-- One entry per queued row, and every row written carries the session its
entry says it was flushed under. -/
structure Agrees (w : Watch) (b : DatabaseBackend) : Prop where
  setUp : b.tables.isSome
  fresh : b.Fresh
  length_queued : ∀ t, (w.queued t).length = (b.queues.rowsOf t).length
  queued : ∀ t, ∀ p ∈ w.queued t, (b.sessionId = p.1 ↔ p.2 = false) ∧ (p.1 = 0 ∨ p.1 ∈ b.ids)
  written : ∀ t, List.Forall₂ (fun n p => n = p.2.1 ∧ (p.2.1 = p.1 ↔ p.2.2 = false))
    ((b.rowsOf t).map t.sessionOf) (w.written t)

variable {w : Watch} {b : DatabaseBackend}

/-- An insertion marks every queued row as recorded under an earlier session. -/
theorem Agrees.insert (ha : w.Agrees b) {c : DbCall} (hi : b.inserts c = true) : (w.step b c).Agrees (b.call c) := by
  cases c with
  | start s =>
    obtain ⟨ts, h⟩ := Option.isSome_iff_exists.1 ha.setUp
    have hs : (b.start s).2.2 = none := by simpa [DatabaseBackend.inserts] using hi
    obtain ⟨hids, hfree, hpos, hlt, hle, hq, hrows, htab⟩ := DatabaseBackend.start_inserts h ha.fresh hs
    obtain ⟨hfresh, hnext, -⟩ := ha.fresh
    have hw : w.step b (.start s) = ⟨fun t => (w.queued t).map (fun p => (p.1, true)), w.written⟩ := by
      simp [step, hi, DatabaseBackend.flushes, DbCall.pushed]
    rw [hw]
    simp only [DatabaseBackend.call]
    refine ⟨htab, ⟨fun n hn => ?_, by omega, .inr (by simp [hids])⟩, fun t => ?_, fun t p hp => ?_, fun t => ?_⟩
    · rw [hids, List.mem_append, List.mem_singleton] at hn
      rcases hn with hn | rfl
      · have := hfresh n hn
        omega
      · exact ⟨hpos, hlt⟩
    · rw [hq, ← ha.length_queued t]
      simp
    · -- the new number is none of the numbers a queued row was recorded under
      obtain ⟨q, hq', rfl⟩ := List.mem_map.1 hp
      obtain ⟨-, hold⟩ := ha.queued t q hq'
      refine ⟨⟨fun he => ?_, fun h => absurd h (by simp)⟩, ?_⟩
      · rcases hold with h0 | hm
        · simp only at he
          omega
        · exact absurd (he ▸ hm) hfree
      · rw [hids]
        rcases hold with h0 | hm
        · exact .inl h0
        · exact .inr (List.mem_append_left _ hm)
    · rw [hrows t]
      exact ha.written t
  | _ => simp [DatabaseBackend.inserts] at hi

/-- Every other call queues rows under the current session, or writes the
queued rows stamped with it. -/
theorem Agrees.keep (ha : w.Agrees b) {c : DbCall} (hi : b.inserts c = false) : (w.step b c).Agrees (b.call c) := by
  obtain ⟨ts, h⟩ := Option.isSome_iff_exists.1 ha.setUp
  obtain ⟨htab, hsid, hids, hnext, hq, hrows⟩ := DatabaseBackend.call_of_tables h c hi
  have hfresh : (b.call c).Fresh := by
    unfold DatabaseBackend.Fresh
    rw [hsid, hids, hnext]
    exact ha.fresh
  by_cases hf : b.flushes c = true
  · have hw : w.step b c = ⟨fun _ => [], fun t => w.written t ++ (w.queued t ++ (c.pushed t).map fun _ =>
        (b.sessionId, false)).map fun p => (p.1, b.sessionId, p.2)⟩ := by
      simp [step, hi, hf]
    rw [hw]
    refine ⟨htab, hfresh, fun t => by simp [hq t, hf], fun t p hp => by simp at hp, fun t => ?_⟩
    have hpush : c.pushed t = [] := by
      cases c <;> cases t <;> simp_all [DatabaseBackend.flushes, DbCall.pushed]
    rw [hrows t, if_pos hf]
    simp only [hpush, List.map_nil, List.append_nil]
    refine List.rel_append (ha.written t) ?_
    rw [List.forall₂_map_left_iff, List.forall₂_map_right_iff]
    exact List.forall₂_iff_zip.2 ⟨(ha.length_queued t).symm, fun hp => ⟨rfl, (ha.queued t _ (List.of_mem_zip hp).2).1⟩⟩
  · have hw : w.step b c = ⟨fun t => w.queued t ++ (c.pushed t).map fun _ => (b.sessionId, false), w.written⟩ := by
      simp [step, hi, hf]
    rw [hw]
    refine ⟨htab, hfresh, fun t => by simp [hq t, hf, ha.length_queued t], fun t p hp => ?_, fun t => ?_⟩
    · rw [hsid, hids]
      rcases List.mem_append.1 hp with hp | hp
      · exact ha.queued t p hp
      · obtain ⟨-, -, rfl⟩ := List.mem_map.1 hp
        exact ⟨by simp, ha.fresh.2.2⟩
    · rw [hrows t, if_neg hf, List.append_nil]
      exact ha.written t

theorem Agrees.step (ha : w.Agrees b) (c : DbCall) : (w.step b c).Agrees (b.call c) := by
  cases hi : b.inserts c
  · exact ha.keep hi
  · exact ha.insert hi

theorem Agrees.run (ha : w.Agrees b) (cs : List DbCall) : (w.run b cs).Agrees (cs.foldl DatabaseBackend.call b) := by
  induction cs generalizing w b with
  | nil => exact ha
  | cons c cs ih => exact ih (ha.step c)

theorem agrees_setup (d : DumpTarget) : Watch.empty.Agrees ({ dump := d } : DatabaseBackend).setup := by
  refine ⟨rfl, ⟨fun n hn => ?_, Nat.one_pos, .inl rfl⟩, fun t => ?_, fun t p hp => ?_, fun t => ?_⟩
  · simp [DatabaseBackend.ids, DatabaseBackend.setup] at hn
  · cases t <;> rfl
  · simp [Watch.empty] at hp
  · cases t <;> exact .nil

end Watch

/-- **Rows carry the session of their flush.**  Along any calls on a fresh
backend, every table's rows carry, in order, the session inserted last when
their flush ran: the one current at recording exactly when none was inserted
in between. -/
theorem rows_carry_flush_session (d : DumpTarget) (cs : List DbCall) (t : RowTable) :
    List.Forall₂ (fun n p => n = p.2.1 ∧ (p.2.1 = p.1 ↔ p.2.2 = false))
      (((cs.foldl DatabaseBackend.call ({ dump := d } : DatabaseBackend).setup).rowsOf t).map t.sessionOf)
      ((Watch.empty.run ({ dump := d } : DatabaseBackend).setup cs).written t) :=
  ((Watch.agrees_setup d).run cs).written t

/-- A focus change recorded before any session and flushed after one started
carries that session. -/
theorem early_focus_takes_later_session :
    ((([DbCall.recordFocus ⟨Instant.zero, "", ""⟩, .start {}, .close].foldl DatabaseBackend.call
      ({ dump := .none } : DatabaseBackend).setup).rowsOf .focus).map (RowTable.sessionOf .focus)) = [1] := by
  decide

/-! ## The memory backend -/

/-- The calls the memory backend takes, one at a time. -/
inductive MemCall where
  | start (s : Session)
  | recordCaption (r : CaptionRecord)
  | recordFocus (r : FocusRecord)
  | recordTarget (r : TargetRecord)
  | recordPosition (r : PositionRecord)
  | finish (now : Instant)

namespace MemCall

def isStart : MemCall → Bool
  | .start _ => true
  | _ => false

def caption? : MemCall → Option CaptionRecord
  | .recordCaption r => some r
  | _ => none

def focus? : MemCall → Option FocusRecord
  | .recordFocus r => some r
  | _ => none

def target? : MemCall → Option TargetRecord
  | .recordTarget r => some r
  | _ => none

def position? : MemCall → Option PositionRecord
  | .recordPosition r => some r
  | _ => none

/-- The calls after the last start, all of them when none started. -/
def since (cs : List MemCall) : List MemCall := (cs.reverse.takeWhile (!·.isStart)).reverse

theorem since_append (cs : List MemCall) (c : MemCall) :
    since (cs ++ [c]) = if c.isStart then [] else since cs ++ [c] := by
  cases h : c.isStart <;> simp [since, h]

@[simp] theorem countP_isStart_append (cs : List MemCall) (c : MemCall) :
    (cs ++ [c]).countP isStart = cs.countP isStart + if c.isStart then 1 else 0 := by
  cases h : c.isStart <;> simp [h]

end MemCall

namespace MemoryBackend

/-- The backend after a call; what the call answers is left out. -/
def call (b : MemoryBackend) : MemCall → MemoryBackend
  | .start s => (b.start s).1
  | .recordCaption r => b.recordCaption r
  | .recordFocus r => b.recordFocus r
  | .recordTarget r => b.recordTarget r
  | .recordPosition r => b.recordPosition r
  | .finish now => (b.finish now).1

/-- The backend keeps what the calls since the last start recorded, has a
session exactly when one was started, and has numbered the sessions started. -/
def Keeps (b : MemoryBackend) (cs : List MemCall) : Prop :=
  b.counter = cs.countP MemCall.isStart ∧
    b.session.map (·.id) = (if cs.any MemCall.isStart then some b.counter else none) ∧
    b.captions = (MemCall.since cs).filterMap MemCall.caption? ∧ b.focus = (MemCall.since cs).filterMap MemCall.focus? ∧
    b.targets = (MemCall.since cs).filterMap MemCall.target? ∧
    b.positions = (MemCall.since cs).filterMap MemCall.position?

variable {b : MemoryBackend} {now : Instant}

@[simp] theorem id_endedAt (s : Session) : (s.endedAt now).id = s.id := by
  unfold Session.endedAt
  split <;> rfl

theorem finish_none (h : b.session = none) (now : Instant) : b.finish now = (b, some noSessionFault) := by
  simp [finish, h]

/-- A started session ends in a failure, or in a written document whose path is kept. -/
theorem finish_cases {s : Session} (h : b.session = some s) (now : Instant) :
    (∃ fs m, b.finish now = ({ b with session := some (s.endedAt now), files := fs }, some (.plain m))) ∨
      ∃ fs text, exportText (b.recording (s.endedAt now)) = .ok text ∧ b.finish now =
        ({ b with session := some (s.endedAt now), files := fs, exportPath := b.exportPathOf (s.endedAt now) }, none) := by
  simp only [finish, h]
  split
  · exact .inl ⟨b.files, _, rfl⟩
  · split
    · exact .inl ⟨_, _, rfl⟩
    · split
      · next text htext => exact .inr ⟨_, text, htext, rfl⟩
      · exact .inl ⟨_, _, rfl⟩

/-- Ending stamps the session's end and changes, besides, at most the file tree
and the export path. -/
theorem finish_frame (b : MemoryBackend) (now : Instant) :
    ∃ fs path, (b.finish now).1 = { b with session := b.session.map (·.endedAt now), files := fs, exportPath := path } := by
  cases hs : b.session with
  | none =>
    refine ⟨b.files, b.exportPath, ?_⟩
    rw [finish_none hs]
    cases b
    cases hs
    rfl
  | some s =>
    rcases finish_cases hs now with ⟨fs, m, he⟩ | ⟨fs, text, -, he⟩ <;> rw [he]
    · exact ⟨fs, b.exportPath, rfl⟩
    · exact ⟨fs, _, rfl⟩

theorem filterMap_snoc {β : Type} (f : MemCall → Option β) (l : List MemCall) (c : MemCall) :
    (l ++ [c]).filterMap f = l.filterMap f ++ (f c).toList := by
  cases h : f c <;> simp [h]

/-- A call other than a start adds its record to its list and touches nothing else. -/
theorem Keeps.record {cs : List MemCall} (hk : b.Keeps cs) {c : MemCall} (hc : c.isStart = false)
    (hb : (b.call c).counter = b.counter ∧ (b.call c).session.map (·.id) = b.session.map (·.id) ∧
      (b.call c).captions = b.captions ++ c.caption?.toList ∧ (b.call c).focus = b.focus ++ c.focus?.toList ∧
      (b.call c).targets = b.targets ++ c.target?.toList ∧ (b.call c).positions = b.positions ++ c.position?.toList) :
    (b.call c).Keeps (cs ++ [c]) := by
  obtain ⟨hn, hs, hc', hf, ht, hp⟩ := hk
  obtain ⟨bn, bs, bc, bf, bt, bp⟩ := hb
  simp only [Keeps, MemCall.countP_isStart_append, hc, MemCall.since_append, List.any_append]
  refine ⟨by simp [bn, hn], by simp [bs, hs, hc, bn], ?_, ?_, ?_, ?_⟩ <;>
    simp only [Bool.false_eq_true, if_false, filterMap_snoc, bc, bf, bt, bp, hc', hf, ht, hp]

theorem Keeps.step {cs : List MemCall} (hk : b.Keeps cs) (c : MemCall) : (b.call c).Keeps (cs ++ [c]) := by
  cases c with
  | start s =>
    simp [MemoryBackend.call, start, Keeps, MemCall.since_append, MemCall.isStart, hk.1]
  | finish now =>
    obtain ⟨fs, path, he⟩ := finish_frame b now
    exact hk.record rfl (by simp only [MemoryBackend.call, he, Option.map_map, Function.comp_def, id_endedAt,
      MemCall.caption?, MemCall.focus?, MemCall.target?, MemCall.position?, Option.toList_none, List.append_nil,
      and_self])
  | recordCaption r | recordFocus r | recordTarget r | recordPosition r =>
    exact hk.record rfl (by simp [MemoryBackend.call, recordCaption, recordFocus, recordTarget, recordPosition,
      MemCall.caption?, MemCall.focus?, MemCall.target?, MemCall.position?])

end MemoryBackend

end Storage
end JuryCaptions
