import JuryCaptions.Focus.Orientation
import JuryCaptions.Focus.Tracker
import JuryCaptions.Proofs.Serving.Bracket
import Mathlib
/-!
Following the viewer's focus: the tracker and the moving average.

The tracker hears a juror as a change when it is the first or differs from the
one before; each change closes the channel handed out since the change before
(`Signalled.after_spec`). The ring window is read through its samples, oldest
first (`RingWindow.contents`, `RingWindow.contents_add`): it holds the latest
samples up to its capacity, and over an exact number type sums them.
-/

namespace JuryCaptions
namespace Focus

namespace Tracker

theorem set_fst (t : Tracker) (id : SpeakerId) : (t.set id).1 = { current := id, seen := true } := by
  rcases t with ⟨c, _ | _⟩ <;> by_cases h : c = id <;> simp [set, h]

theorem set_snd (t : Tracker) (id : SpeakerId) : (t.set id).2 = !(t.seen && t.current == id) := by
  cases h : (t.seen && t.current == id) <;> simp [set, h]

theorem set_of_unchanged {t : Tracker} {id : SpeakerId} (h : (t.set id).2 = false) : (t.set id).1 = t := by
  rcases t with ⟨c, _ | _⟩ <;> by_cases hc : c = id <;> simp_all [set]

theorem feed_fst (t : Tracker) (ids : List SpeakerId) :
    (t.feed ids).1 = if ids = [] then t else { current := ids.getLastD SpeakerId.none, seen := true } := by
  induction ids generalizing t with
  | nil => rfl
  | cons id ids ih =>
    rw [feed, ih, set_fst]
    cases ids <;> simp

end Tracker

namespace Signalled

/-- The tracker and its channels after jurors are set in order from the start. -/
def after (ids : List SpeakerId) : Signalled := ids.foldl (fun s id => (s.set id).1) {}

theorem set_cases (s : Signalled) (id : SpeakerId) :
    (s.set id).2 = true ∧ (s.set id).1 = ⟨(s.tracker.set id).1, s.changed + 1, s.closed ++ [s.changed]⟩ ∨
      (s.set id).2 = false ∧ (s.set id).1 = s := by
  rcases h : s.tracker.set id with ⟨t, _ | _⟩ <;> simp [set, h]

theorem set_snd (s : Signalled) (id : SpeakerId) : (s.set id).2 = (s.tracker.set id).2 := by
  rcases h : s.tracker.set id with ⟨t, _ | _⟩ <;> simp [set, h]

/-- Every channel handed out before the current one is closed, once, in order. -/
def Closes (s : Signalled) : Prop := s.closed = List.range s.changed

/-- A run from any state: its tracker is the plain tracker's, each change hands out
one channel more, and the channels handed out stay closed in order. -/
theorem foldl_set (s : Signalled) (ids : List SpeakerId) :
    (ids.foldl (fun s id => (s.set id).1) s).tracker = (s.tracker.feed ids).1 ∧
      (ids.foldl (fun s id => (s.set id).1) s).changed = s.changed + (s.tracker.feed ids).2.length ∧
      (s.Closes → (ids.foldl (fun s id => (s.set id).1) s).Closes) := by
  induction ids generalizing s with
  | nil => simp [Tracker.feed]
  | cons id ids ih =>
    obtain ⟨ht, hn, hc⟩ := ih (s.set id).1
    rw [List.foldl_cons, ht, hn]
    rcases set_cases s id with ⟨hf, he⟩ | ⟨hf, he⟩ <;> rw [he] at ht hn hc ⊢ <;> rw [set_snd] at hf
    · refine ⟨by simp [Tracker.feed, hf], by simp [Tracker.feed, hf]; omega, fun h => hc ?_⟩
      simp only [Closes] at h ⊢
      simp [h, List.range_succ]
    · have hs := Tracker.set_of_unchanged hf
      exact ⟨by simp [Tracker.feed, hf, hs], by simp [Tracker.feed, hf, hs], hc⟩

theorem after_spec (ids : List SpeakerId) :
    (after ids).tracker = { current := ids.getLastD SpeakerId.none, seen := decide (0 < ids.length) } ∧
      (after ids).changed = (ids.destutter (· ≠ ·)).length ∧ (after ids).Closes := by
  obtain ⟨ht, hn, hc⟩ := foldl_set {} ids
  refine ⟨?_, by rw [after, hn, Tracker.heard_feed_eq_destutter]; exact Nat.zero_add _, hc rfl⟩
  rw [after, ht, Tracker.feed_fst]
  cases ids <;> simp

/-- **The tracker is distinct until changed.**  After any run `pre`, setting
`id` is a change exactly when `pre` is empty or ended with another juror;
listeners hear the jurors with repeats in a row left out, and `Current` gives
the last one. A change closes only the channel handed out since the change
before and hands out a fresh one; setting the same juror closes nothing. -/
theorem tracker_distinct_until_changed (pre : List SpeakerId) (id : SpeakerId) :
    let s := Signalled.after pre
    (s.set id).2 = (pre.getLast? != some id) ∧ (Tracker.feed {} pre).2 = pre.destutter (· ≠ ·) ∧
      s.tracker = { current := pre.getLastD SpeakerId.none, seen := decide (0 < pre.length) } ∧
      s.closed = List.range (pre.destutter (· ≠ ·)).length ∧
      (if (s.set id).2 then
        (s.set id).1.closed = s.closed ++ [s.changed] ∧ s.changed < (s.set id).1.changed ∧
          (s.set id).1.changed ∉ (s.set id).1.closed
      else (s.set id).1 = s) := by
  dsimp only
  obtain ⟨ht, hn, hc⟩ := after_spec pre
  refine ⟨?_, Tracker.heard_feed_eq_destutter pre, ht, by rw [hc, hn], ?_⟩
  · rw [set_snd, ht, Tracker.set_snd]
    cases pre using List.reverseRecOn <;> simp [bne]
  · rcases set_cases (after pre) id with ⟨hf, he⟩ | ⟨hf, he⟩ <;>
      simp only [hf, if_true, Bool.false_eq_true, if_false, he]
    simp only [Closes] at hc
    simp [hc]

end Signalled

namespace RingWindow

section Shape

variable {α : Type}

/-- The samples a ring holds, oldest first: once it is full, from the slot at
`next` round to the one before it. -/
def contents (w : RingWindow α) : List α :=
  if w.full then w.slots.drop w.next ++ w.slots.take w.next else w.slots.take w.next

/-- The shape every ring keeps: `next` stands on one of its slots. -/
def Shaped (w : RingWindow α) : Prop := w.next < w.slots.length

theorem shaped_empty [Zero α] (n : Int) : (empty n : RingWindow α).Shaped := by
  show 0 < (List.replicate _ 0).length
  rw [List.length_replicate, capacityOf]
  split
  · decide
  · omega

@[simp] theorem length_slots_add [Zero α] [Add α] [Sub α] (w : RingWindow α) (x : α) :
    (w.add x).slots.length = w.slots.length := by
  simp [add]

theorem Shaped.add [Zero α] [Add α] [Sub α] {w : RingWindow α} (h : w.Shaped) (x : α) : (w.add x).Shaped := by
  unfold Shaped at h ⊢
  rw [length_slots_add]
  simp only [RingWindow.add]
  split <;> omega

theorem length_contents {w : RingWindow α} (h : w.Shaped) : w.contents.length = w.size := by
  unfold contents size Shaped at *
  split <;> simp <;> omega

theorem contents_add [Zero α] [Add α] [Sub α] {w : RingWindow α} (h : w.Shaped) (x : α) :
    (w.add x).contents = (if w.full then w.contents.tail else w.contents) ++ [x] := by
  -- the slots before `next`, the one it stands on, and those after it
  obtain ⟨T, o, D, hs, hT⟩ : ∃ T o D, w.slots = T ++ o :: D ∧ T.length = w.next :=
    ⟨_, _, _, by rw [List.getElem_cons_drop h, List.take_append_drop], List.length_take_of_le h.le⟩
  have ho : w.slots.getD w.next 0 = o := by rw [hs, ← hT]; simp
  unfold contents RingWindow.add
  rw [ho, hs, ← hT]
  cases w.full <;> by_cases hD : D = [] <;>
    simp [hD, List.take_append, List.drop_append, List.drop_eq_nil_of_le, List.take_of_length_le]

/-- Dropping the oldest of the latest `c + 1` samples exactly when there are
more than `c` leaves the latest `c`. -/
theorem rtake_of_full (xs : List α) (c : Nat) {b : Bool} (hb : b = true ↔ c + 1 ≤ xs.length) :
    (if b then (xs.rtake (c + 1)).tail else xs.rtake (c + 1)) = xs.rtake c := by
  cases b
  · simp only [Bool.false_eq_true, false_iff, not_le] at hb
    simp [List.rtake, show xs.length - (c + 1) = 0 by omega, show xs.length - c = 0 by omega]
  · simp only [true_iff] at hb
    simp [List.rtake, List.tail_drop, show xs.length - (c + 1) + 1 = xs.length - c by omega]

theorem foldl_add [Zero α] [Add α] [Sub α] (n : Int) (xs : List α) :
    (xs.foldl add (empty n)).Shaped ∧ (xs.foldl add (empty n)).slots.length = capacityOf n ∧
      (xs.foldl add (empty n)).contents = xs.rtake (capacityOf n) := by
  induction xs using List.reverseRecOn with
  | nil => exact ⟨shaped_empty n, List.length_replicate, by simp [contents, empty]⟩
  | append_singleton xs x ih =>
    obtain ⟨hw, hl, hc⟩ := ih
    rw [List.foldl_append, List.foldl_cons, List.foldl_nil]
    obtain ⟨c, hcap⟩ : ∃ c, capacityOf n = c + 1 := ⟨capacityOf n - 1, by unfold Shaped at hw; omega⟩
    refine ⟨hw.add x, by rw [length_slots_add, hl], ?_⟩
    -- the ring is full exactly when it already held its capacity of samples
    have hsize := length_contents hw
    rw [contents_add hw, hc, hcap, List.rtake_concat_succ, rtake_of_full]
    rw [hc, hcap] at hsize
    unfold size at hsize
    unfold Shaped at hw
    cases hf : (xs.foldl add (empty n)).full <;> simp [hf, hl, hcap, List.rtake] at hsize ⊢ <;> omega

theorem rtake_min (xs : List α) (c : Nat) : xs.rtake (min xs.length c) = xs.rtake c := by
  simp only [List.rtake]
  congr 1
  omega

theorem size_foldl_add [Zero α] [Add α] [Sub α] (n : Int) (xs : List α) :
    (xs.foldl add (empty n)).size = min xs.length (capacityOf n) := by
  obtain ⟨hw, -, hc⟩ := foldl_add n xs
  rw [← length_contents hw, hc, List.rtake]
  simp
  omega

end Shape

section Exact

variable {α : Type} [AddCommGroup α]

theorem sum_add {w : RingWindow α} (h : w.Shaped) (hs : w.sum = w.contents.sum) (x : α) :
    (w.add x).sum = (w.add x).contents.sum := by
  rw [contents_add h]
  unfold RingWindow.add
  cases hf : w.full
  · simp [hs]
  · -- the slot written holds the oldest sample, the first of the contents
    have ho : w.contents = w.slots.getD w.next 0 :: w.contents.tail := by
      simp [contents, hf, List.getElem?_eq_getElem h, ← List.getElem_cons_drop h]
    rw [ho] at hs
    simp [hs]

theorem sum_foldl_add (n : Int) (xs : List α) :
    (xs.foldl add (empty n)).sum = (xs.foldl add (empty n)).contents.sum := by
  induction xs using List.reverseRecOn with
  | nil => simp [contents, empty]
  | append_singleton xs x ih =>
    rw [List.foldl_append, List.foldl_cons, List.foldl_nil]
    exact sum_add (foldl_add n xs).1 ih x

/-- **The moving average is the mean of the latest samples.**  Fed `m` samples,
a ring of capacity `c` (the default for a size not positive) holds `min m c`.
Over the rationals it holds exactly the latest `min m c`, oldest first; its sum
is theirs and its average their mean, zero with none. -/
theorem moving_average_mean (n : Int) (fs : List Float) (xs : List ℚ) :
    (fs.foldl RingWindow.add (AzimuthWindow.empty n)).size = min fs.length (capacityOf n) ∧
      let w := xs.foldl RingWindow.add (empty n)
      let L := min xs.length (capacityOf n)
      w.size = L ∧ w.contents = xs.rtake L ∧ w.sum = (xs.rtake L).sum ∧
        w.average Nat.cast = (xs.rtake L).sum / L := by
  have hc := (foldl_add n xs).2.2
  have hs := size_foldl_add n xs
  refine ⟨size_foldl_add n fs, hs, by rw [rtake_min, hc], by rw [rtake_min, ← hc, sum_foldl_add], ?_⟩
  rw [average, hs, rtake_min, ← hc, ← sum_foldl_add]
  split_ifs with h
  · rw [h, Nat.cast_zero, div_zero]
  · rfl

end Exact

end RingWindow

theorem mapM_eq_ok {ε α β : Type} {f : α → Except ε β} {l : List α} {ys : List β} :
    l.mapM f = .ok ys ↔ List.Forall₂ (fun a b => f a = .ok b) l ys := by
  induction l generalizing ys with
  | nil => cases ys <;> simp [pure, Except.pure]
  | cons a l ih =>
    rw [List.mapM_cons]
    cases h : f a with
    | error e => cases ys <;> simp [h, bind, Except.bind]
    | ok b =>
      cases hl : l.mapM f with
      | error e => cases ys <;> simp [h, hl, bind, Except.bind, ← ih]
      | ok bs => cases ys <;> simp [h, hl, bind, Except.bind, ← ih, pure, Except.pure]

namespace Sector

/-- A sector is accepted, as itself, when its juror is one and no bound pair has
`stop ≤ start`; its place only names it in the failure. -/
theorem ofSpec_eq_ok {i : Nat} {s : SectorSpec} {sec : Sector} :
    ofSpec i s = .ok sec ↔ SpeakerId.isValid s.juror = true ∧ ¬ s.stop ≤ s.start ∧ sec = ⟨s.juror, s.start, s.stop⟩ := by
  unfold ofSpec
  split_ifs with h1 h2
  · simp only [Bool.not_eq_true'] at h1
    simp [h1]
  · simp [h2]
  · simp only [Bool.not_eq_true', Bool.not_eq_false] at h1
    simp only [Except.ok.injEq]
    exact ⟨fun h => ⟨h1, h2, h.symm⟩, fun h => h.2.2.symm⟩

/-- The sectors read from their specs, in order, each accepted. -/
def Accepted (specs : List SectorSpec) (ss : List Sector) : Prop :=
  List.Forall₂ (fun s sec => SpeakerId.isValid s.juror = true ∧ ¬ s.stop ≤ s.start ∧ sec = ⟨s.juror, s.start, s.stop⟩)
    specs ss

theorem parse_eq_ok (specs : List SectorSpec) (ss : List Sector) : parse specs = .ok ss ↔ Accepted specs ss := by
  show (specs.zipIdx 0).mapM (fun p => ofSpec p.2 p.1) = .ok ss ↔ _
  rw [mapM_eq_ok]
  -- the index only names a sector in its failure, so any start will do
  generalize 0 = k
  induction specs generalizing k ss with
  | nil => simp [Accepted]
  | cons s specs ih =>
    cases ss with
    | nil => simp [Accepted]
    | cons sec ss =>
      rw [List.zipIdx_cons, List.forall₂_cons, ih, ofSpec_eq_ok]
      simp only [Accepted, List.forall₂_cons]

end Sector

theorem classify_eq_iff (a c : Float) (ss : List Sector) (j : SpeakerId) :
    classify a c ss = j ↔
      (∃ pre s post, ss = pre ++ s :: post ∧ (∀ p ∈ pre, ¬ (p.start ≤ relative a c ∧ relative a c < p.stop)) ∧
        (s.start ≤ relative a c ∧ relative a c < s.stop) ∧ j = s.juror) ∨
      ((∀ s ∈ ss, ¬ (s.start ≤ relative a c ∧ relative a c < s.stop)) ∧ j = SpeakerId.none) := by
  have hholds (s : Sector) : s.holds (relative a c) = true ↔ s.start ≤ relative a c ∧ relative a c < s.stop := by
    simp [Sector.holds]
  have hfind (s : Sector) : ss.find? (·.holds (relative a c)) = some s ↔ ∃ pre post, ss = pre ++ s :: post ∧
      (∀ p ∈ pre, ¬ (p.start ≤ relative a c ∧ relative a c < p.stop)) ∧ (s.start ≤ relative a c ∧ relative a c < s.stop) := by
    simp only [List.find?_eq_some_iff_append, ← hholds, Bool.not_eq_true', Bool.not_eq_true]
    tauto
  unfold classify
  dsimp only
  cases hs : ss.find? (·.holds (relative a c)) with
  | some s =>
    obtain ⟨pre, post, he, hpre, hs'⟩ := (hfind s).1 hs
    constructor
    · rintro rfl
      exact .inl ⟨pre, s, post, he, hpre, hs', rfl⟩
    · rintro (⟨pre', s', post', he', hpre', hs'', rfl⟩ | ⟨hall, -⟩)
      · -- the first sector that holds is one sector only
        have := (hfind s').2 ⟨pre', post', he', hpre', hs''⟩
        rw [hs, Option.some.injEq] at this
        rw [this]
      · exact absurd hs' (hall s (by simp [he]))
  | none =>
    have hall := List.find?_eq_none.1 hs
    constructor
    · rintro rfl
      exact .inr ⟨fun s hs => by rw [← hholds]; exact hall s hs, rfl⟩
    · rintro (⟨pre, s, post, he, -, hs', rfl⟩ | ⟨-, rfl⟩)
      · exact absurd ((hholds s).2 hs') (hall s (by simp [he]))
      · rfl

namespace OrientationReader

/-- The reader after samples taken in turn: the window holds them, and the gaze
is that of the last average, once a sample came. -/
def took (r : OrientationReader) (azs : List Float) : OrientationReader :=
  let w : AzimuthWindow := azs.foldl RingWindow.add r.window
  { r with window := w, gaze := if azs = [] then r.gaze else some (Gaze.at w.average r.center) }

/-- What a reader emits for samples taken in turn: for each, the juror and the
gaze of the window's average after it. -/
def emits (r : OrientationReader) (azs : List Float) : List (SpeakerId × Gaze) :=
  (azs.scanl RingWindow.add r.window).tail.map fun w : AzimuthWindow =>
    (classify w.average r.center r.sectors, Gaze.at w.average r.center)

theorem took_cons (r : OrientationReader) (a : Float) (azs : List Float) :
    (r.sample a).1.took azs = r.took (a :: azs) := by
  cases azs <;> simp [took, sample]

theorem emits_cons (r : OrientationReader) (a : Float) (azs : List Float) :
    r.emits (a :: azs) = ((r.sample a).2, ((r.sample a).1.gaze.getD {})) :: (r.sample a).1.emits azs := by
  cases azs <;> simp [emits, sample, List.scanl_cons]

theorem readStream_stream_append (r : OrientationReader) {bodies : List (List UInt8)} {os : List Orientation}
    (hfit : Frame.Fits Frame.defaultLimit bodies) (hread : List.Forall₂ (fun b o => readBody b = .ok o) bodies os)
    (rest : List UInt8) :
    r.readStream (Frame.stream bodies ++ rest) =
      (((r.took (os.map (·.azimuth))).readStream rest).1,
        r.emits (os.map (·.azimuth)) ++ ((r.took (os.map (·.azimuth))).readStream rest).2.1,
        ((r.took (os.map (·.azimuth))).readStream rest).2.2) := by
  induction hread generalizing r with
  | nil => simp [took, emits]
  | @cons b o bs os hb _ ih =>
    obtain ⟨hlimit, hword⟩ := hfit b List.mem_cons_self
    rw [Frame.stream_cons, List.append_assoc, readStream]
    split
    · rename_i f hf
      rw [Frame.decode_frame_append _ hlimit hword] at hf
      cases hf
    · rename_i body rest' hd
      rw [Frame.decode_frame_append _ hlimit hword] at hd
      obtain ⟨rfl, rfl⟩ := Prod.mk.inj (Except.ok.inj hd)
      rw [hb]
      simp only [ih (r.sample o.azimuth).1 hfit.tail, took_cons, emits_cons, List.map_cons, List.cons_append]

/-- A stream whose first frame cannot be read ends the reading there: cleanly at
the end of the stream, with a `read orientation` failure otherwise. -/
theorem readStream_of_decode_error (r : OrientationReader) {bs : List UInt8} {f : Fault}
    (h : Frame.decode Frame.defaultLimit bs = .error f) :
    r.readStream bs = (r, [], if f.kind == .endOfStream then none else some (f.context "read orientation")) := by
  rw [readStream]
  split
  · rename_i f' hf
    rw [h, Except.error.injEq] at hf
    subst hf
    split <;> simp_all
  · rename_i hd
    rw [h] at hd
    cases hd

/-- After frames of orientations, a frame that cannot be read ends the reading
with what they emitted: cleanly at the end of the stream, failing otherwise. -/
theorem readStream_stream_decode_error (r : OrientationReader) {bodies : List (List UInt8)} {os : List Orientation}
    (hfit : Frame.Fits Frame.defaultLimit bodies) (hread : List.Forall₂ (fun b o => readBody b = .ok o) bodies os)
    {bs : List UInt8} {f : Fault} (h : Frame.decode Frame.defaultLimit bs = .error f) :
    r.readStream (Frame.stream bodies ++ bs) = (r.took (os.map (·.azimuth)), r.emits (os.map (·.azimuth)),
      if f.kind == .endOfStream then none else some (f.context "read orientation")) := by
  rw [readStream_stream_append r hfit hread, readStream_of_decode_error _ h, List.append_nil]

theorem readStream_of_readBody_error (r : OrientationReader) {b : List UInt8} {f : Fault} (rest : List UInt8)
    (hlimit : b.length ≤ Frame.defaultLimit) (hword : b.length < 4294967296) (h : readBody b = .error f) :
    r.readStream (Frame.frame b ++ rest) = (r, [], some (f.context "read orientation")) := by
  rw [readStream]
  split
  · rename_i f' hf
    rw [Frame.decode_frame_append _ hlimit hword] at hf
    cases hf
  · rename_i body rest' hd
    rw [Frame.decode_frame_append _ hlimit hword] at hd
    obtain ⟨rfl, rfl⟩ := Prod.mk.inj (Except.ok.inj hd)
    rw [h]

end OrientationReader

/-- **An orientation source reads the jurors in focus.**  Sectors are accepted
exactly when each names a juror and has no `stop ≤ start`, so a bound that is
not a number passes; an azimuth goes to the juror of the first sector holding
its bearing, or nobody. Orientation frames emit the juror and gaze of the
window's average after each; the stream's end stops with no failure, and a cut
frame, an oversized header or a body that is no orientation with a `read
orientation` failure. A source cancelled before it starts emits nothing. -/
theorem orientation_source (specs : List SectorSpec) (ss : List Sector) (a c : Float) (j : SpeakerId)
    (r : OrientationReader) (addr : String) (bodies : List (List UInt8)) (os : List Orientation)
    (hfit : Frame.Fits Frame.defaultLimit bodies)
    (hread : List.Forall₂ (fun b o => OrientationReader.readBody b = .ok o) bodies os) :
    let done := (r.took (os.map (·.azimuth)), r.emits (os.map (·.azimuth)))
    (Sector.parse specs = .ok ss ↔ Sector.Accepted specs ss) ∧
    (classify a c ss = j ↔
      (∃ pre s post, ss = pre ++ s :: post ∧ (∀ p ∈ pre, ¬ (p.start ≤ relative a c ∧ relative a c < p.stop)) ∧
        (s.start ≤ relative a c ∧ relative a c < s.stop) ∧ j = s.juror) ∨
      ((∀ s ∈ ss, ¬ (s.start ≤ relative a c ∧ relative a c < s.stop)) ∧ j = SpeakerId.none)) ∧
    r.readStream (Frame.stream bodies) = (done.1, done.2, none) ∧
    (∀ b k, b.length ≤ Frame.defaultLimit → b.length < 4294967296 → 0 < k → k < (Frame.frame b).length →
      r.readStream (Frame.stream bodies ++ (Frame.frame b).take k) =
        (done.1, done.2, some (Frame.truncated.context "read orientation"))) ∧
    (∀ b0 b1 b2 b3 rest, Frame.defaultLimit < Frame.lengthOf b0 b1 b2 b3 →
      r.readStream (Frame.stream bodies ++ b0 :: b1 :: b2 :: b3 :: rest) =
        (done.1, done.2, some ((Frame.tooLarge (Frame.lengthOf b0 b1 b2 b3) Frame.defaultLimit).context
          "read orientation"))) ∧
    (∀ b f rest, b.length ≤ Frame.defaultLimit → b.length < 4294967296 → OrientationReader.readBody b = .error f →
      r.readStream (Frame.stream bodies ++ (Frame.frame b ++ rest)) = (done.1, done.2, some (f.context "read orientation"))) ∧
    (r.run addr .cancelledBefore).2.1 = [] ∧ (r.run addr .cancelledBefore).2.2.2 = none := by
  intro done
  refine ⟨Sector.parse_eq_ok specs ss, classify_eq_iff a c ss j, ?_, fun b k hlimit hword hk hk' => ?_,
    fun b0 b1 b2 b3 rest hn => ?_, fun b f rest hlimit hword hf => ?_, ?_⟩
  · rw [← List.append_nil (Frame.stream bodies),
      OrientationReader.readStream_stream_decode_error r hfit hread rfl]
    rfl
  · have hd : Frame.decode Frame.defaultLimit ((Frame.frame b).take k) = .error Frame.truncated := by
      simp [Frame.decode, Frame.read_take_frame hlimit hword hk', Nat.pos_iff_ne_zero.1 hk]
    rw [OrientationReader.readStream_stream_decode_error r hfit hread hd]
    rfl
  · have hd : Frame.decode Frame.defaultLimit (b0 :: b1 :: b2 :: b3 :: rest) =
        .error (Frame.tooLarge (Frame.lengthOf b0 b1 b2 b3) Frame.defaultLimit) := by
      simp [Frame.decode, Frame.read_tooLarge _ _ _ _ _ hn]
    rw [OrientationReader.readStream_stream_decode_error r hfit hread hd]
    rfl
  · rw [OrientationReader.readStream_stream_append r hfit hread,
      OrientationReader.readStream_of_readBody_error _ rest hlimit hword hf]
    simp [done]
  · unfold OrientationReader.run
    split <;> simp_all

/-- A frame of an orientation ten degrees off the centre, read by a reader with
one sector round the centre. -/
theorem orientation_source_one_frame :
    let body := Utf8.encode (Json.compact (.obj [("azimuth", .float 10.0), ("pitch", .float 0.0),
      ("roll", .float 0.0)]))
    let r : OrientationReader := { window := AzimuthWindow.empty 2, center := 0.0, sectors := [⟨"juror-a", -30.0, 30.0⟩] }
    Frame.Fits Frame.defaultLimit [body] ∧
      List.Forall₂ (fun b o => OrientationReader.readBody b = .ok o) [body] [{ azimuth := 10.0 }] ∧
      r.readStream (Frame.stream [body]) = (r.took [10.0], r.emits [10.0], none) := by
  intro body r
  have hfit : Frame.Fits Frame.defaultLimit [body] := by
    unfold Frame.Fits
    decide +kernel
  have hread : List.Forall₂ (fun b o => OrientationReader.readBody b = .ok o) [body] [{ azimuth := 10.0 }] := by
    refine .cons ?_ .nil
    simp only [OrientationReader.readBody, body, @Orientation.ofBody_doc { azimuth := 10.0 } ⟨by decide, by decide, by decide⟩]
  exact ⟨hfit, hread, (orientation_source [] [] 0.0 0.0 "" r "" [body] _ hfit hread).2.2.1⟩

/-- A sector with a bound that is not a number is accepted, though its bound is
not below the other. -/
theorem nan_bound_sector_accepted :
    (Sector.parse [{ juror := "juror-a", start := 0.0 / 0.0, stop := 1.0 }]).toBool = true ∧
      ¬ ((0.0 / 0.0 : Float) < 1.0) := by
  decide

end Focus
end JuryCaptions
