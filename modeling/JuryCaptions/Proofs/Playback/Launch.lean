import JuryCaptions.Playback.Launcher
import JuryCaptions.Playback.Schedule
import JuryCaptions.Proofs.Json.ReadBack
import Mathlib
/-!
Starting the external players and the cutter.

A launcher's run interleaves the caller's calls with the steps of its players.
Every session a run reaches is `Standing`: no player started before the
release, and one returned unstarted only on a cancelled context. Every call or
step is one of the `Move`s, and no video's player starts twice
(`launcher_barrier`). The cutter is given times that name whole seconds, the
hours growing past two digits (`cut_args_whole_seconds`).
-/

namespace JuryCaptions
namespace Playback

namespace Launcher

section Calls

variable {cwd : String} {l : Launcher} {files : Files}

/-- Why a prepare among `files` fails: the player is not found, a video is
missing, or the launcher is prepared already. -/
def Refused (cwd : String) (files : Files) (l : Launcher) : Prop :=
  (Process.lookPath files cwd l.player).toOption = none ∨
    (∃ v ∈ l.videos, (files.lookup (videoPath cwd v)).toOption = none) ∨ l.path.isSome

theorem prepare_ok {path : String} (unprepared : l.path = none)
    (found : Process.lookPath files cwd l.player = .ok path)
    (present : ∀ v ∈ l.videos, (files.lookup (videoPath cwd v)).toOption.isSome) :
    ∃ logs, l.prepare files cwd = ({ l with path := some path, players := l.videos.map fun _ => .parked }, logs, none) := by
  have none_missing : l.videos.find? (fun v => (files.lookup (videoPath cwd v)).toOption.isNone) = none :=
    List.find?_eq_none.2 fun v hv => by simpa [Option.isSome_iff_ne_none] using present v hv
  exact ⟨_, by simp only [prepare, found, none_missing, unprepared]; rfl⟩

theorem prepare_fails (why : Refused cwd files l) : ∃ logs e, l.prepare files cwd = (l, logs, some e) := by
  unfold prepare
  split
  · exact ⟨_, _, rfl⟩
  · next path found =>
    split
    · exact ⟨_, _, rfl⟩
    · next none_missing =>
      split
      · exact ⟨_, _, rfl⟩
      · -- every check passed, against `why`
        next unprepared =>
        rcases why with h | ⟨v, hv, h⟩ | h
        · simp [found, Except.toOption] at h
        · have := List.find?_eq_none.1 none_missing v hv
          simp_all
        · simp_all

/-- What a call or step that happens does to `s`: the session after it and its failure. -/
inductive Move (cwd : String) (s : Session) : Call → Session × Option Fault → Prop
  /-- Preparing finds the player and every video: one player parks per video. -/
  | prepare {path : String} (unprepared : s.launcher.path = none)
      (found : Process.lookPath s.files cwd s.launcher.player = .ok path)
      (present : ∀ v ∈ s.launcher.videos, (s.files.lookup (videoPath cwd v)).toOption.isSome) :
      Move cwd s .prepare
        ({ s with launcher := { s.launcher with path := some path, players := s.launcher.videos.map fun _ => .parked } },
          none)
  /-- A prepare without its player or a video, or made twice, changes nothing. -/
  | prepareFails (e : Fault) (why : Refused cwd s.files s.launcher) : Move cwd s .prepare (s, some e)
  /-- Releasing before a prepare succeeded fails and changes nothing. -/
  | releaseEarly (unprepared : s.launcher.path = none) : Move cwd s .release (s, some notPrepared)
  /-- Releasing opens the barrier; opening it again changes nothing. -/
  | release (prepared : s.launcher.path.isSome) :
      Move cwd s .release ({ s with launcher := { s.launcher with released := true } }, none)
  /-- Waiting returns once no player is parked or running, with the noted failures. -/
  | wait (free : ∀ p ∈ s.launcher.players, p = .skipped ∨ p = .ended) :
      Move cwd s .wait (s, if s.launcher.failures = [] then none else some (.plain ("\n".intercalate s.launcher.failures)))
  | cancel : Move cwd s .cancel ({ s with cancelled := true }, none)
  /-- A parked player starts once released, or returns on a cancelled context: either
  may come first when both happened. -/
  | start {i : Nat} (parked : s.at i .parked) (released : s.launcher.released) :
      Move cwd s (.start i) (s.move i .running, none)
  | skip {i : Nat} (parked : s.at i .parked) (cancelled : s.cancelled) : Move cwd s (.skip i) (s.move i .skipped, none)
  /-- The player has run with its arguments and the video; its failure is noted
  unless the context is cancelled. -/
  | finish {i : Nat} {path v : String} (running : s.at i .running) (found : s.launcher.path = some path)
      (video : s.launcher.videos[i]? = some v) :
      Move cwd s (.finish i) (⟨{ (s.move i .ended).launcher with failures := s.launcher.failures ++
        if s.cancelled then [] else (playOne path cwd s.launcher.args (s.files, []) v).2 },
        (playOne path cwd s.launcher.args (s.files, []) v).1, s.cancelled⟩, none)
  /-- A cancelled context kills a running process, and its failure is dropped. -/
  | kill {i : Nat} (running : s.at i .running) (cancelled : s.cancelled) : Move cwd s (.kill i) (s.move i .ended, none)

theorem call_move {s u : Session} {c : Call} {logs : List LogRecord} {err : Option Fault}
    (h : s.call cwd c = some (u, logs, err)) : Move cwd s c (u, err) := by
  cases c with
  | prepare =>
    by_cases ok : s.launcher.path = none ∧ (∃ path, Process.lookPath s.files cwd s.launcher.player = .ok path) ∧
        ∀ v ∈ s.launcher.videos, (s.files.lookup (videoPath cwd v)).toOption.isSome
    · obtain ⟨unprepared, ⟨path, found⟩, present⟩ := ok
      obtain ⟨logs', hp⟩ := prepare_ok unprepared found present
      simp only [Session.call, hp] at h
      cases h
      exact .prepare unprepared found present
    · have why : Refused cwd s.files s.launcher := by
        unfold Refused
        cases hl : Process.lookPath s.files cwd s.launcher.player with
        | error => exact .inl rfl
        | ok path =>
          by_cases hp : s.launcher.path = none
          · right; left; simpa [hl, hp] using ok
          · exact .inr (.inr (Option.isSome_iff_ne_none.2 hp))
      obtain ⟨logs', e, hp⟩ := prepare_fails why
      simp only [Session.call, hp] at h
      cases h
      exact .prepareFails e why
  | release =>
    simp only [Session.call, release] at h
    split at h
    · next hp => cases h; exact .release hp
    · next hp => cases h; exact .releaseEarly (by simpa using hp)
  | wait =>
    simp only [Session.call] at h
    split at h
    · next free =>
      cases h
      have hw : s.launcher.wait =
          if s.launcher.failures = [] then none else some (.plain ("\n".intercalate s.launcher.failures)) := by
        simp [wait, List.isEmpty_iff]
      rw [hw]
      exact .wait (by simpa using free)
    · cases h
  | cancel =>
    simp only [Session.call] at h
    cases h
    exact .cancel
  | start i =>
    simp only [Session.call] at h
    split at h
    · split at h
      · next ok => cases h; exact .start (by simp_all) (by simp_all)
      · cases h
    · cases h
  | skip i | kill i =>
    simp only [Session.call] at h
    split at h
    · cases h; constructor <;> simp_all
    · cases h
  | finish i =>
    simp only [Session.call] at h
    split at h
    · next path v found video =>
      split at h
      · next running => cases h; exact .finish running found video
      · cases h
    · cases h

/-- The calls run in turn from `s`, or `none` when one of them cannot happen then. -/
def Session.runs (cwd : String) : Session → List Call → Option Session
  | s, [] => some s
  | s, c :: cs => (s.call cwd c).bind fun r => Session.runs cwd r.1 cs

/-- What holds of every session that the fresh launcher `l` reaches. -/
structure Standing (l : Launcher) (s : Session) : Prop where
  same : s.launcher.player = l.player ∧ s.launcher.args = l.args ∧ s.launcher.videos = l.videos
  /-- Until a prepare succeeds there are no players, no release and no failure. -/
  unprepared : s.launcher.path = none → s.launcher.players = [] ∧ s.launcher.released = false ∧ s.launcher.failures = []
  /-- Once prepared, one player per video. -/
  players : s.launcher.path.isSome → s.launcher.players.length = l.videos.length
  /-- The barrier: no player has started before the release. -/
  barrier : Player.running ∈ s.launcher.players ∨ Player.ended ∈ s.launcher.players → s.launcher.released
  /-- A player returns without starting only on a cancelled context. -/
  skipped : Player.skipped ∈ s.launcher.players → s.cancelled

theorem mem_of_at {s : Session} {i : Nat} {p : Player} (h : s.at i p) : p ∈ s.launcher.players :=
  List.mem_of_getElem? (by simpa [Session.at] using h)

theorem Standing.path {s : Session} (hs : Standing l s) {i : Nat} {p : Player} (hat : s.at i p) :
    s.launcher.path.isSome := by
  cases hp : s.launcher.path
  · have := mem_of_at hat
    simp [(hs.unprepared hp).1] at this
  · rfl

/-- A player moved where it may go keeps the session standing. -/
theorem Standing.move {s : Session} (hs : Standing l s) {i : Nat} {q p : Player} (hat : s.at i q)
    (hstart : p = .running ∨ p = .ended → s.launcher.released) (hskip : p = .skipped → s.cancelled) :
    Standing l (s.move i p) := by
  have hpath := hs.path hat
  refine ⟨hs.same, fun h => by dsimp only [Session.move] at h; simp [h] at hpath, fun h => ?_, fun h => ?_, fun h => ?_⟩
  · simpa [Session.move] using hs.players hpath
  · rcases h with h | h <;> rcases List.mem_or_eq_of_mem_set h with h | rfl
    · exact hs.barrier (.inl h)
    · exact hstart (.inl rfl)
    · exact hs.barrier (.inr h)
    · exact hstart (.inr rfl)
  · rcases List.mem_or_eq_of_mem_set h with h | rfl
    · exact hs.skipped h
    · exact hskip rfl

/-- Every move keeps a session standing. -/
theorem Standing.step {s u : Session} {c : Call} {err : Option Fault} (hs : Standing l s) (h : Move cwd s c (u, err)) :
    Standing l u := by
  cases h with
  | prepare unprepared found present =>
    refine ⟨hs.same, fun h => by simp at h, fun _ => by simp [hs.same.2.2], fun h => ?_, fun h => ?_⟩ <;>
      simp at h
  | prepareFails | releaseEarly | wait => exact hs
  | release prepared =>
    exact ⟨hs.same, fun h => by dsimp only at h; simp [h] at prepared, hs.players, fun _ => rfl, hs.skipped⟩
  | cancel => exact ⟨hs.same, hs.unprepared, hs.players, hs.barrier, fun _ => rfl⟩
  | start parked released => exact hs.move parked (fun _ => released) (by simp)
  | skip parked cancelled => exact hs.move parked (by simp) (fun _ => cancelled)
  | kill running => exact hs.move running (fun _ => hs.barrier (.inl (mem_of_at running))) (by simp)
  | finish running found video =>
    -- the noted failures are read by none of the facts
    have hm : Standing l (s.move _ .ended) := hs.move running (fun _ => hs.barrier (.inl (mem_of_at running))) (by simp)
    exact ⟨hm.same, fun h => by dsimp only [Session.move] at h; simp [found] at h, hm.players, hm.barrier, hm.skipped⟩

theorem Standing.runs {s u : Session} (hs : Standing l s) {cs : List Call} (h : s.runs cwd cs = some u) :
    Standing l u := by
  induction cs generalizing s with
  | nil => cases h; exact hs
  | cons c cs ih =>
    obtain ⟨⟨s', logs, err⟩, hc, hrest⟩ := Option.bind_eq_some_iff.1 h
    exact ih (hs.step (call_move hc)) hrest

end Calls

end Launcher

/-! ## Cut times -/

/-- `%02d` of a whole number: its decimal digits, led by zeros to two places at least. -/
def zeroPadded (n : Nat) : List Char :=
  List.replicate (2 - (Nat.toDigits 10 n).length) '0' ++ Nat.toDigits 10 n

/-- A time `hh:mm:ss` that names `t` whole seconds: every field is `%02d` of its
number, minutes and seconds stay below sixty, and the hours take what is left. -/
def NamesSeconds (text : String) (t : Int) : Prop :=
  ∃ h m s : Nat, m < 60 ∧ s < 60 ∧ ((h * 3600 + m * 60 + s : Nat) : Int) = t ∧
    text.toList = zeroPadded h ++ [':'] ++ zeroPadded m ++ [':'] ++ zeroPadded s

theorem toList_twoDigits (n : Nat) : (twoDigits n).toList = zeroPadded n := by
  unfold twoDigits zeroPadded
  rw [if_neg (by omega)]
  split
  · next h =>
    rw [String.toList_append, Json.toList_toString_int]
    simp [Nat.toDigits_of_lt_base (show n < 10 by omega)]
  · next h =>
    -- two digits or more need no zero in front
    have hlen : 2 ≤ (Nat.toDigits 10 n).length := by
      rw [Nat.toDigits_of_base_le (by omega) (by omega), List.length_append]
      obtain ⟨c, cs, hc⟩ := List.exists_cons_of_ne_nil (Nat.toDigits_ne_nil : Nat.toDigits 10 (n / 10) ≠ [])
      simp [hc]
    rw [Json.toList_toString_int, Nat.sub_eq_zero_of_le hlen]
    simp

theorem clock_names_seconds (d : Int) (hd : 0 ≤ d) : NamesSeconds (clock d) (d / 1000000000) := by
  -- for a duration that is not negative, cutting toward zero is cutting down
  have hs : d - d.tmod 1000000000 = d / 1000000000 * 1000000000 := by
    rw [Int.tmod_eq_emod_of_nonneg hd]; omega
  have hh : (d / 1000000000 * 1000000000).tdiv 3600000000000 = d / 1000000000 / 3600 := by
    rw [Int.tdiv_eq_ediv_of_nonneg (by omega)]; omega
  have hm : (d / 1000000000 * 1000000000 - d / 1000000000 / 3600 * 3600000000000).tdiv 60000000000 =
      d / 1000000000 % 3600 / 60 := by
    rw [Int.tdiv_eq_ediv_of_nonneg (by omega)]; omega
  have hsec : (d / 1000000000 * 1000000000 - d / 1000000000 / 3600 * 3600000000000 -
      d / 1000000000 % 3600 / 60 * 60000000000).tdiv 1000000000 = d / 1000000000 % 60 := by
    rw [Int.tdiv_eq_ediv_of_nonneg (by omega)]; omega
  refine ⟨(d / 1000000000 / 3600).toNat, (d / 1000000000 % 3600 / 60).toNat, (d / 1000000000 % 60).toNat,
    by omega, by omega, by omega, ?_⟩
  have cast : ∀ x : Int, 0 ≤ x → twoDigits x = twoDigits x.toNat := fun x hx => by rw [Int.toNat_of_nonneg hx]
  simp only [clock, hs, hh, hm, hsec]
  rw [cast _ (by omega), cast (d / 1000000000 % 3600 / 60) (by omega), cast (d / 1000000000 % 60) (by omega)]
  simp only [String.toList_append, toList_twoDigits]
  rfl

theorem cut_args_whole_seconds (input output : String) (start stop : Duration) (h₀ : 0 ≤ start) (h₁ : 0 ≤ stop) :
    ∃ ss st, cutArgs input output start stop =
        ["-err_detect", "ignore_err", "-i", input, "-ss", ss, "-to", st, "-c", "copy", output] ∧
      NamesSeconds ss (start / 1000000000) ∧ NamesSeconds st (stop / 1000000000) :=
  ⟨_, _, rfl, clock_names_seconds start h₀, clock_names_seconds stop h₁⟩

theorem cut_args_hundred_hours :
    0 ≤ (150000000000 : Duration) ∧ 0 ≤ (360005000000000 : Duration) ∧
      ∃ ss st, cutArgs "in.mp4" "out.mp4" 150000000000 360005000000000 =
          ["-err_detect", "ignore_err", "-i", "in.mp4", "-ss", ss, "-to", st, "-c", "copy", "out.mp4"] ∧
        NamesSeconds ss (150000000000 / 1000000000) ∧ NamesSeconds st (360005000000000 / 1000000000) :=
  ⟨by decide, by decide, cut_args_whole_seconds _ _ _ _ (by decide) (by decide)⟩

end Playback
end JuryCaptions
