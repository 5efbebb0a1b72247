import JuryCaptions.Playback.Rotation
import Mathlib
/-!
The clip schedule and the rotation that plays it.

A schedule is made when every juror's idle directory holds an `.mp4` file and
gives every juror one clip a block. `Plays` says what a run asks of the player.
Main statement: `rotation_plays_blocks`; a block whose speaker is set but no
juror gets the empty path as its clip (`nonjuror_block_plays_no_clip`).
-/

namespace JuryCaptions

namespace Random.Rng

theorem below_lt (draw : Rng → Nat × Rng) (max : Nat) {n : Nat} (hn : 0 < n) (fuel : Nat) (r : Rng) :
    (below draw max n fuel r).1 < n := by
  induction fuel generalizing r with
  | zero => exact Nat.mod_lt _ hn
  | succ fuel ih =>
    simp only [below]
    split
    · exact ih _
    · exact Nat.mod_lt _ hn

theorem intn_lt (r : Rng) {n : Nat} (hn : 0 < n) : (r.intn n).1 < n := by
  have hmask : ∀ v, v &&& (n - 1) < n := fun v => lt_of_le_of_lt Nat.and_le_right (by omega)
  unfold intn int31n int63n
  split <;> split
  all_goals first | exact hmask _ | exact below_lt _ _ hn _ _

end Random.Rng

namespace Playback

/-- Whether `c` is one of juror `id`'s idle clips as `listing` shows them under
`dir`: a file, not a directory, whose name ends in `.mp4`. -/
def IdleClip (dir : String) (listing : SpeakerId → Option (List DirEntry)) (id : SpeakerId) (c : String) : Prop :=
  ∃ es, listing id = some es ∧ ∃ e ∈ es, e.isDir = false ∧ e.name.endsWith ".mp4" = true ∧
    c = joinPath (idleDir dir id) e.name

/-- Every juror has idle clips, all from its own directory. -/
def IdleOk (dir : String) (listing : SpeakerId → Option (List DirEntry)) (idle : List (SpeakerId × List String)) :
    Prop :=
  ∀ j ∈ Juror.all, ∃ clips, (idle.find? (·.1 == j.id)).map (·.2) = some clips ∧ clips ≠ [] ∧
    ∀ c ∈ clips, IdleClip dir listing j.id c

theorem mapM_ok {α β ε : Type} {F : α → Except ε β} (Q : α → β → Prop) :
    ∀ l : List α, (∀ a ∈ l, ∃ b, F a = .ok b ∧ Q a b) → ∃ bs, l.mapM F = .ok bs ∧ List.Forall₂ Q l bs
  | [], _ => ⟨[], rfl, .nil⟩
  | a :: l, h => by
    obtain ⟨b, hb, hq⟩ := h a List.mem_cons_self
    obtain ⟨bs, hbs, hqs⟩ := mapM_ok Q l fun a ha => h a (List.mem_cons_of_mem _ ha)
    refine ⟨b :: bs, ?_, .cons hq hqs⟩
    rw [List.mapM_cons, hb, hbs]
    rfl

theorem idleClips_ok {dir : String} {listing : SpeakerId → Option (List DirEntry)} {j : Juror}
    (h : ∃ es, listing j.id = some es ∧ ∃ e ∈ es, e.isDir = false ∧ e.name.endsWith ".mp4" = true) :
    ∃ clips, idleClips dir listing j = .ok (j.id, clips) ∧ clips ≠ [] ∧ ∀ c ∈ clips, IdleClip dir listing j.id c := by
  obtain ⟨es, hes, e, he, hd, hm⟩ := h
  unfold idleClips
  simp only [hes]
  split
  · -- the file found is among the clips, so there are some
    next hempty =>
    simp only [List.isEmpty_iff, List.map_eq_nil_iff, List.filter_eq_nil_iff] at hempty
    simpa [hd, hm] using hempty e he
  · next hne =>
    refine ⟨_, rfl, fun h0 => ?_, fun c hc => ?_⟩
    · have hl := congrArg List.length h0
      rw [(List.mergeSort_perm _ _).length_eq] at hl
      exact hne (List.isEmpty_iff.2 (List.eq_nil_of_length_eq_zero hl))
    · obtain ⟨e', he', rfl⟩ := List.mem_map.1 ((List.mergeSort_perm _ _).mem_iff.1 hc)
      obtain ⟨he', hf⟩ := List.mem_filter.1 he'
      simp only [Bool.and_eq_true, Bool.not_eq_true'] at hf
      exact ⟨es, hes, e', he', hf.1, hf.2, rfl⟩

/-- With an `.mp4` file in every juror's idle directory, a schedule is made; it
starts at the first block and every juror has idle clips of its own. -/
theorem create_ok (dir : String) (blocks : List SpeakerId) (seed : Int) (listing : SpeakerId → Option (List DirEntry))
    (hidle : ∀ j ∈ Juror.all, ∃ es, listing j.id = some es ∧ ∃ e ∈ es, e.isDir = false ∧ e.name.endsWith ".mp4" = true) :
    ∃ s, Schedule.create dir blocks seed listing = .ok s ∧ s.dir = dir ∧ s.blocks = blocks ∧ s.block = 0 ∧
      IdleOk dir listing s.idle := by
  obtain ⟨idle, hm, hq⟩ := mapM_ok (fun j (p : SpeakerId × List String) =>
      p.1 = j.id ∧ p.2 ≠ [] ∧ ∀ c ∈ p.2, IdleClip dir listing j.id c) Juror.all fun j hj => by
    obtain ⟨clips, h, hne, hc⟩ := idleClips_ok (hidle j hj)
    exact ⟨_, h, rfl, hne, hc⟩
  refine ⟨_, by rw [Schedule.create, hm]; rfl, rfl, rfl, rfl, ?_⟩
  -- the clips come in seating order, one entry per juror
  simp only [Juror.all] at hq
  rcases hq with _ | ⟨⟨ha, ha'⟩, _ | ⟨⟨hb, hb'⟩, _ | ⟨⟨hc, hc'⟩, _ | ⟨⟨hf, hf'⟩, _ | _⟩⟩⟩⟩
  intro j hj
  simp only [Juror.all, List.mem_cons, List.not_mem_nil, or_false] at hj
  rcases hj with rfl | rfl | rfl | rfl
  · exact ⟨_, by simp [ha, Juror.id], ha'⟩
  · exact ⟨_, by simp [ha, hb, Juror.id], hb'⟩
  · exact ⟨_, by simp [ha, hb, hc, Juror.id], hc'⟩
  · exact ⟨_, by simp [ha, hb, hc, hf, Juror.id], hf'⟩

namespace Schedule

variable (s : Schedule)

theorem advance_more : s.advance.1 = true ↔ s.advance.2.block < s.blocks.length := by
  unfold advance
  split
  · simp only [Bool.false_eq_true, false_iff, not_lt]
    omega
  · simp

theorem advance_state (h : s.block ≤ s.blocks.length) :
    s.advance.2 = { s with block := min (s.block + 1) s.blocks.length } := by
  unfold advance
  split
  · -- past the last block the schedule stays where it is
    have hb : min (s.block + 1) s.blocks.length = s.block := by omega
    rw [hb]
  · next hlt =>
    have hb : min (s.block + 1) s.blocks.length = s.block + 1 := by omega
    rw [hb]

theorem iterate_advance (h : s.block = 0) (k : Nat) :
    (fun t : Schedule => t.advance.2)^[k] s = { s with block := min k s.blocks.length } := by
  induction k with
  | zero =>
    cases s
    simp_all
  | succ k ih =>
    rw [Function.iterate_succ_apply', ih, advance_state _ (Nat.min_le_right _ _)]
    congr 1
    dsimp only
    omega

variable {dir : String} {listing : SpeakerId → Option (List DirEntry)}

theorem pick_spec (h : IdleOk dir listing s.idle) (active : SpeakerId) (acc : List (SpeakerId × String) × Random.Rng)
    {j : Juror} (hj : j ∈ Juror.all) :
    ∃ c, (s.pick active acc j).1 = acc.1 ++ [(j.id, c)] ∧ (j.id = active → c = s.activeClip s.block) ∧
      (j.id ≠ active → IdleClip dir listing j.id c) := by
  unfold pick
  split
  · next ha => exact ⟨_, rfl, fun _ => rfl, fun hne => absurd (beq_iff_eq.1 ha) hne⟩
  · next ha =>
    obtain ⟨clips, hf, hne, hc⟩ := h j hj
    simp only [hf, Option.getD_some]
    -- the draw is below the number of clips, so it names one of them
    rcases hk : acc.2.intn clips.length with ⟨k, rng⟩
    have hlt : k < clips.length := by
      simpa [hk] using Random.Rng.intn_lt acc.2 (List.length_pos_of_ne_nil hne)
    refine ⟨clips.getD k "", rfl, fun he => absurd (beq_iff_eq.2 he) ha, fun _ => hc _ ?_⟩
    rw [List.getD_eq_getElem _ _ hlt]
    exact List.getElem_mem hlt

theorem foldl_pick (h : IdleOk dir listing s.idle) (active : SpeakerId) :
    ∀ (l : List Juror), (∀ j ∈ l, j ∈ Juror.all) → ∀ acc, ∃ cs, (l.foldl (s.pick active) acc).1 = acc.1 ++ cs ∧
      cs.map (·.1) = l.map Juror.id ∧
      ∀ p ∈ cs, (p.1 = active → p.2 = s.activeClip s.block) ∧ (p.1 ≠ active → IdleClip dir listing p.1 p.2)
  | [], _, acc => ⟨[], by simp⟩
  | j :: l, hl, acc => by
    obtain ⟨c, hc, hact, hidle⟩ := s.pick_spec h active acc (hl j List.mem_cons_self)
    obtain ⟨cs, hcs, hmap, hgood⟩ := foldl_pick h active l (fun j hj => hl j (List.mem_cons_of_mem _ hj)) _
    refine ⟨(j.id, c) :: cs, by rw [List.foldl_cons, hcs, hc, List.append_assoc]; rfl, by simp [hmap], ?_⟩
    rintro p (_ | ⟨_, hp⟩)
    · exact ⟨hact, hidle⟩
    · exact hgood p hp

/-- **Current clips.**  Every juror gets exactly one clip, in seating order: the
active clip for the active speaker and an idle clip of its own for every other
juror. Only the random source changes. -/
theorem current_spec (h : IdleOk dir listing s.idle) :
    (s.current.1).map (·.1) = Juror.all.map Juror.id ∧
      (∀ p ∈ s.current.1, (p.1 = s.active → p.2 = s.activeClip s.block) ∧
        (p.1 ≠ s.active → IdleClip dir listing p.1 p.2)) ∧
      ∃ rng, s.current.2 = { s with rng := rng } := by
  obtain ⟨cs, hcs, hmap, hgood⟩ := s.foldl_pick h s.active Juror.all (fun _ hj => hj) ([], s.rng)
  unfold current
  rcases hx : Juror.all.foldl (s.pick s.active) ([], s.rng) with ⟨clips, rng⟩
  rw [hx] at hcs
  simp only [List.nil_append] at hcs
  subst hcs
  exact ⟨hmap, hgood, rng, rfl⟩

theorem find_active_current (h : IdleOk dir listing s.idle) (ha : s.active ∈ Juror.all.map Juror.id) :
    ((s.current.1.find? (·.1 == s.active)).map (·.2)).getD "" = s.activeClip s.block := by
  obtain ⟨hmap, hgood, -⟩ := s.current_spec h
  rw [← hmap] at ha
  obtain ⟨p, hp, hpa⟩ := List.mem_map.1 ha
  have hfind : (s.current.1.find? (·.1 == s.active)).isSome := List.find?_isSome.2 ⟨p, hp, by simp [hpa]⟩
  obtain ⟨q, hq⟩ := Option.isSome_iff_exists.1 hfind
  have hqa : q.1 = s.active := by simpa using List.find?_some hq
  rw [hq, Option.map_some, Option.getD_some]
  exact (hgood q (List.mem_of_find?_eq_some hq)).1 hqa

end Schedule

/-! ## Playing the blocks -/

/-- A player started with each of `launches` in turn, `(args, loop)`, from the
files `files`: every start succeeds and every clip that does not loop ends
cleanly, leaving `files'`. -/
inductive Plays (cwd path : String) : Files → List (List String × Bool) → Files → Prop
  | nil (files : Files) : Plays cwd path files [] files
  | cons {files files' : Files} {args : List String} {loop : Bool} {rest : List (List String × Bool)}
      (o : Process.Outcome) (start : Process.start files cwd path args "" loop = .ok o)
      (clean : loop = false → Process.Ending.failure o.ending = none) (more : Plays cwd path o.files rest files') :
      Plays cwd path files ((args, loop) :: rest) files'

theorem Plays.append {cwd path : String} {f₁ f₂ f₃ : Files} {l₁ l₂ : List (List String × Bool)}
    (h₁ : Plays cwd path f₁ l₁ f₂) (h₂ : Plays cwd path f₂ l₂ f₃) : Plays cwd path f₁ (l₁ ++ l₂) f₃ := by
  induction h₁ with
  | nil => exact h₂
  | cons o start clean _ ih => exact .cons o start clean (ih h₂)

namespace Rotation

/-- What a block asks of the player: a looping idle clip for every juror but the
active speaker, then the active speaker's clip, if it has one. -/
def blockPlan (args loopArgs : List String) (active : SpeakerId) (clips : List (SpeakerId × String)) :
    List (List String × Bool) :=
  (clips.filter (·.1 != active)).map (fun c => (args ++ loopArgs ++ [c.2], true)) ++
    [(args ++ [((clips.find? (·.1 == active)).map (·.2)).getD ""], false)]

variable (r : Rotation) (path cwd : String)

theorem foldl_startIdle_error (e : Fault) :
    ∀ idle : List (SpeakerId × String), idle.foldl (r.startIdle path cwd) (.error e) = .error e
  | [] => rfl
  | _ :: idle => foldl_startIdle_error e idle

theorem foldl_startIdle_ok :
    ∀ (idle : List (SpeakerId × String)) (files files' : Files),
      idle.foldl (r.startIdle path cwd) (.ok files) = .ok files' →
        Plays cwd path files (idle.map fun c => (r.args ++ r.loopArgs ++ [c.2], true)) files'
  | [], _, _, h => by cases h; exact .nil _
  | c :: idle, files, files', h => by
    rw [List.foldl_cons] at h
    cases hs : Process.start files cwd path (r.args ++ r.loopArgs ++ [c.2]) "" true with
    | error e =>
      obtain ⟨e', he'⟩ : ∃ e', r.startIdle path cwd (.ok files) c = .error e' := ⟨_, by simp only [startIdle, hs]; rfl⟩
      rw [he', foldl_startIdle_error] at h
      cases h
    | ok o =>
      have ho : r.startIdle path cwd (.ok files) c = .ok o.files := by simp only [startIdle, hs]
      rw [ho] at h
      exact .cons o hs (fun h => nomatch h) (foldl_startIdle_ok idle o.files files' h)

theorem playBlock_ok {files : Files} {active : SpeakerId} {clips : List (SpeakerId × String)}
    (h : (r.playBlock path files cwd active clips).2.2 = none) :
    Plays cwd path files (blockPlan r.args r.loopArgs active clips) (r.playBlock path files cwd active clips).1 := by
  unfold playBlock at h ⊢
  cases hst : (clips.filter (·.1 != active)).foldl (r.startIdle path cwd) (.ok files) with
  | error e => simp [hst] at h
  | ok fs =>
    simp only [hst] at h ⊢
    split at h
    · simp at h
    · next o ho =>
      split at h
      · simp at h
      · next hf =>
        exact (r.foldl_startIdle_ok path cwd _ _ _ hst).append (.cons o ho (fun _ => hf) (.nil _))

theorem playFrom_path : ∀ (fuel : Nat) (r : Rotation) (files : Files),
    (playFrom fuel r path files cwd).1.path = r.path
  | 0, _, _ => rfl
  | fuel + 1, r, files => by
    rw [playFrom]
    dsimp only
    repeat' split
    all_goals first | rfl | exact playFrom_path fuel _ _

end Rotation

/-- The first block from `i` on whose speaker is unset, or the number of blocks. -/
def firstUnset (blocks : List SpeakerId) (i : Nat) : Nat := i + ((blocks.drop i).takeWhile SpeakerId.isSet).length

theorem firstUnset_of_unset {blocks : List SpeakerId} {i : Nat} (h : SpeakerId.isSet (blocks.getD i SpeakerId.none) = false) :
    firstUnset blocks i = i := by
  unfold firstUnset
  rcases Nat.lt_or_ge i blocks.length with hi | hi
  · rw [List.getD_eq_getElem _ _ hi] at h
    rw [List.drop_eq_getElem_cons hi, List.takeWhile_cons, h]
    simp
  · simp [List.drop_eq_nil_of_le hi]

theorem firstUnset_of_set {blocks : List SpeakerId} {i : Nat} (h : SpeakerId.isSet (blocks.getD i SpeakerId.none) = true) :
    i < blocks.length ∧ firstUnset blocks i = firstUnset blocks (i + 1) := by
  have hi : i < blocks.length := by
    by_contra hi
    rw [List.getD_eq_default _ _ (Nat.le_of_not_lt hi)] at h
    exact absurd h (by decide)
  refine ⟨hi, ?_⟩
  unfold firstUnset
  rw [List.drop_eq_getElem_cons hi, List.takeWhile_cons, ← List.getD_eq_getElem _ SpeakerId.none hi, h]
  simp only [if_true, List.length_cons]
  omega

theorem firstUnset_le {blocks : List SpeakerId} {i : Nat} (hi : i ≤ blocks.length) :
    i ≤ firstUnset blocks i ∧ firstUnset blocks i ≤ blocks.length := by
  unfold firstUnset
  have := (List.takeWhile_sublist SpeakerId.isSet (l := blocks.drop i)).length_le
  simp only [List.length_drop] at this
  omega

/-- What block `i` of `blocks` asks of the player, as the schedule has it: a
looping idle clip of its own for every other juror, in seating order, then the
block's active clip `dir/(i+1).mp4`. -/
def BlockPlays (args loopArgs : List String) (dir : String) (listing : SpeakerId → Option (List DirEntry))
    (blocks : List SpeakerId) (i : Nat) (plan : List (List String × Bool)) : Prop :=
  ∃ idle : List (SpeakerId × String),
    idle.map (·.1) = (Juror.all.map Juror.id).filter (· != blocks.getD i SpeakerId.none) ∧
    (∀ c ∈ idle, IdleClip dir listing c.1 c.2) ∧
    plan = idle.map (fun c => (args ++ loopArgs ++ [c.2], true)) ++
      [(args ++ [joinPath dir (toString (i + 1) ++ ".mp4")], false)]

theorem blockPlan_current {dir : String} {listing : SpeakerId → Option (List DirEntry)} (t : Schedule)
    (hd : t.dir = dir) (h : IdleOk dir listing t.idle) (ha : t.active ∈ Juror.all.map Juror.id) (args loopArgs : List String) :
    BlockPlays args loopArgs dir listing t.blocks t.block (Rotation.blockPlan args loopArgs t.active t.current.1) := by
  obtain ⟨hmap, hgood, -⟩ := t.current_spec h
  refine ⟨t.current.1.filter (·.1 != t.active), ?_, fun c hc => ?_, ?_⟩
  · rw [← hmap, List.filter_map]
    rfl
  · obtain ⟨hc, hne⟩ := List.mem_filter.1 hc
    exact (hgood c hc).2 (by simpa using hne)
  · rw [Rotation.blockPlan, t.find_active_current h ha, Schedule.activeClip, hd]

section Run

variable (args loopArgs : List String) (dir : String) (listing : SpeakerId → Option (List DirEntry))
  (blocks : List SpeakerId)

/-- A rotation about to play block `i` of `blocks`, with nothing failed yet. -/
structure Along (r : Rotation) (i : Nat) : Prop where
  args_eq : r.args = args
  loopArgs_eq : r.loopArgs = loopArgs
  blocks_eq : r.schedule.blocks = blocks
  dir_eq : r.schedule.dir = dir
  idle : IdleOk dir listing r.schedule.idle
  block_eq : r.schedule.block = i
  le : i ≤ blocks.length
  failure_eq : r.failure = none

variable {args loopArgs dir listing blocks}

theorem range'_firstUnset {i : Nat} (h : SpeakerId.isSet (blocks.getD i SpeakerId.none) = true) :
    List.range' i (firstUnset blocks i - i) = i :: List.range' (i + 1) (firstUnset blocks (i + 1) - (i + 1)) := by
  obtain ⟨hi, hstop⟩ := firstUnset_of_set h
  have hle := (@firstUnset_le blocks (i + 1) hi).1
  have hn : firstUnset blocks i - i = firstUnset blocks (i + 1) - (i + 1) + 1 := by omega
  rw [hn, List.range'_succ]

/-- **The run loop.**  From block `i`, a run that ends without a failure played
every block up to the first whose speaker is unset, each as the schedule has
it, and stopped there. -/
theorem playFrom_plays (hjur : ∀ a ∈ blocks, SpeakerId.isSet a = true → a ∈ Juror.all.map Juror.id)
    (path cwd : String) :
    ∀ (fuel : Nat) (r : Rotation) (files : Files) (i : Nat), Along args loopArgs dir listing blocks r i →
      blocks.length - i < fuel → (Rotation.playFrom fuel r path files cwd).1.failure = none →
        (∃ plans, List.Forall₂ (BlockPlays args loopArgs dir listing blocks) (List.range' i (firstUnset blocks i - i)) plans ∧
          Plays cwd path files plans.flatten (Rotation.playFrom fuel r path files cwd).2.1) ∧
        (Rotation.playFrom fuel r path files cwd).1.schedule.block = firstUnset blocks i
  | 0, _, _, _, _, hfuel, _ => absurd hfuel (Nat.not_lt_zero _)
  | fuel + 1, r, files, i, h, hfuel, hok => by
    have hact : r.schedule.active = blocks.getD i SpeakerId.none := by
      rw [Schedule.active, h.blocks_eq, h.block_eq]
    by_cases hset : SpeakerId.isSet (blocks.getD i SpeakerId.none) = true
    swap
    · -- a block without a speaker ends the run before it
      have hunset : SpeakerId.isSet (blocks.getD i SpeakerId.none) = false := by simpa using hset
      have hstop := firstUnset_of_unset hunset
      have hrun : Rotation.playFrom (fuel + 1) r path files cwd = (r, files, []) := by
        rw [Rotation.playFrom]
        simp only [hact, hunset]
        rfl
      rw [hrun, hstop, Nat.sub_self]
      exact ⟨⟨[], .nil, .nil _⟩, h.block_eq⟩
    -- a juror's block: play it, then move to the next block or stop after the last
    obtain ⟨hi, hstop⟩ := firstUnset_of_set hset
    have ha : r.schedule.active ∈ Juror.all.map Juror.id := by
      rw [hact]
      refine hjur _ ?_ hset
      rw [List.getD_eq_getElem _ _ hi]
      exact List.getElem_mem hi
    obtain ⟨-, -, rng, hcur⟩ := r.schedule.current_spec h.idle
    have hplan := blockPlan_current r.schedule h.dir_eq h.idle ha args loopArgs
    rw [h.blocks_eq, h.block_eq] at hplan
    obtain ⟨res, hres⟩ : ∃ res, Rotation.playFrom (fuel + 1) r path files cwd = res := ⟨_, rfl⟩
    rw [hres] at hok ⊢
    rw [Rotation.playFrom] at hres
    simp only [hset, Bool.not_true, Bool.false_eq_true, if_false, hact] at hres
    -- where the schedule goes next
    have hadv : ({ r.schedule with rng := rng } : Schedule).advance.2 = { r.schedule with rng := rng, block := i + 1 } := by
      rw [Schedule.advance_state _ (by simp only [h.block_eq, h.blocks_eq]; omega)]
      simp only [h.block_eq, h.blocks_eq, Nat.min_eq_left (Nat.succ_le_of_lt hi)]
    have hmore := Schedule.advance_more { r.schedule with rng := rng }
    rw [hadv] at hmore
    rw [hcur] at hres
    split at hres
    · next e _ =>
      subst hres
      simp at hok
    · next files₁ logs₁ hblock =>
      have hplays := Rotation.playBlock_ok _ path cwd (by rw [hblock])
      rw [hblock] at hplays
      simp only [h.args_eq, h.loopArgs_eq] at hplays
      rw [← hact] at hplays
      rw [hadv] at hres
      split at hres
      · -- more blocks: the rest of the run from the next block
        next hm =>
        have hlt : i + 1 < blocks.length := by simpa [h.blocks_eq] using hmore.1 hm
        subst hres
        have hnext : Along args loopArgs dir listing blocks
            { r with schedule := { r.schedule with rng := rng, block := i + 1 } } (i + 1) :=
          ⟨h.args_eq, h.loopArgs_eq, h.blocks_eq, h.dir_eq, h.idle, rfl, hlt.le, h.failure_eq⟩
        obtain ⟨⟨plans, hfa, hps⟩, hb⟩ := playFrom_plays hjur path cwd fuel _ files₁ (i + 1) hnext (by omega) hok
        refine ⟨⟨_ :: plans, ?_, hplays.append hps⟩, hb.trans hstop.symm⟩
        rw [range'_firstUnset hset]
        exact .cons hplan hfa
      · -- the last block: the run ends
        next hm =>
        have hlast : i + 1 = blocks.length := by
          by_contra hne
          exact hm (hmore.2 (by simp only [h.blocks_eq]; omega))
        subst hres
        have hend : firstUnset blocks (i + 1) = i + 1 := by
          unfold firstUnset
          rw [List.drop_eq_nil_of_le (by omega)]
          rfl
        refine ⟨⟨[_], ?_, by simpa using hplays⟩, ?_⟩
        · rw [range'_firstUnset hset, hend, Nat.sub_self]
          exact .cons hplan .nil
        · show i + 1 = firstUnset blocks i
          rw [hstop, hend]

end Run

/-! ## The rotation schedule -/

/-- **A rotation over a clip schedule.**  With an `.mp4` file in every juror's
idle directory and a juror or nobody speaking each block, the schedule is made.
After `k` advances it is at block `min k n`, and every juror gets one clip, in
seating order: the active speaker `dir/(index+1).mp4`, the others idle clips of
their own. Released, it plays blocks until one has no speaker or none is left;
ending without a failure, it started the player for each block with a looping
idle clip per other juror and then the active clip, each cleanly. -/
theorem rotation_plays_blocks (dir : String) (blocks : List SpeakerId) (seed : Int)
    (listing : SpeakerId → Option (List DirEntry))
    (hidle : ∀ j ∈ Juror.all, ∃ es, listing j.id = some es ∧ ∃ e ∈ es, e.isDir = false ∧ e.name.endsWith ".mp4" = true)
    (hjur : ∀ a ∈ blocks, SpeakerId.isSet a = true → a ∈ Juror.all.map Juror.id) :
    ∃ s, Schedule.create dir blocks seed listing = .ok s ∧
      (∀ k, let t := (fun t : Schedule => t.advance.2)^[k] s
        t.block = min k blocks.length ∧ (t.advance.1 = true ↔ t.advance.2.block < blocks.length) ∧
        t.active = (if h : k < blocks.length then blocks[k] else SpeakerId.none) ∧
        t.current.1.map (·.1) = Juror.all.map Juror.id ∧
        ∀ c ∈ t.current.1, (c.1 = t.active → c.2 = joinPath dir (toString (t.block + 1) ++ ".mp4")) ∧
          (c.1 ≠ t.active → IdleClip dir listing c.1 c.2)) ∧
      ∀ (player : String) (args loopArgs : List String) (path : String) (files : Files) (cwd : String),
        let m := (blocks.takeWhile SpeakerId.isSet).length
        let run := Rotation.release { player, args, loopArgs, schedule := s, path := some path } files cwd false
        run.2.2.2 = none ∧
          (run.1.wait = none →
            (∃ plans, List.Forall₂ (BlockPlays args loopArgs dir listing blocks) (List.range m) plans ∧
              Plays cwd path files plans.flatten run.2.1) ∧
            run.1.schedule.block = m) := by
  obtain ⟨s, hs, hd, hb, h0, hok⟩ := create_ok dir blocks seed listing hidle
  refine ⟨s, hs, fun k => ?_, fun player args loopArgs path files cwd => ?_⟩
  · -- the schedule after `k` advances
    dsimp only
    rw [Schedule.iterate_advance s h0 k]
    obtain ⟨hmap, hgood, -⟩ := Schedule.current_spec { s with block := min k s.blocks.length } hok
    refine ⟨by rw [hb], by rw [Schedule.advance_more, hb], ?_, hmap, fun c hc => ?_⟩
    · rw [Schedule.active]
      simp only [hb]
      split
      · next hk => rw [Nat.min_eq_left hk.le, List.getD_eq_getElem]
      · next hk => exact List.getD_eq_default _ _ (by omega)
    · obtain ⟨hact, hidle'⟩ := hgood c hc
      exact ⟨fun he => by rw [hact he, Schedule.activeClip, hd], hidle'⟩
  · -- the run from the first block
    dsimp only
    have hm : firstUnset blocks 0 = (blocks.takeWhile SpeakerId.isSet).length := by simp [firstUnset]
    have hstart : Along args loopArgs dir listing blocks
        { player, args, loopArgs, schedule := s, path := some path, released := true } 0 :=
      ⟨rfl, rfl, hb, hd, hok, h0, Nat.zero_le _, rfl⟩
    simp only [Rotation.release, Bool.false_eq_true, if_false]
    refine ⟨trivial, fun hw => ?_⟩
    have hf : (Rotation.playFrom (s.blocks.length + 1)
        { player, args, loopArgs, schedule := s, path := some path, released := true } path files cwd).1.failure =
          none := by
      rw [Rotation.wait, Rotation.playFrom_path] at hw
      exact hw
    rw [hb] at hf ⊢
    obtain ⟨⟨plans, hfa, hps⟩, hblk⟩ := playFrom_plays hjur path cwd _ _ files 0 hstart (by omega) hf
    rw [hm, Nat.sub_zero, ← List.range_eq_range'] at hfa
    exact ⟨⟨plans, hfa, hps⟩, hblk.trans hm⟩

/-- Over blocks of juror A, nobody and juror B, a rotation that ends cleanly
stops at the block without a speaker. -/
theorem rotation_stops_at_unset_block :
    let listing : SpeakerId → Option (List DirEntry) := fun _ => some [⟨"loop.mp4", false⟩]
    ∃ s, Schedule.create "clips" [Juror.jurorA.id, SpeakerId.none, Juror.jurorB.id] 7 listing = .ok s ∧
      let run := Rotation.release
        { player := "play", args := [], loopArgs := ["-loop"], schedule := s, path := some "/bin/play" } { entries := [] } "/" false
      run.1.wait = none → run.1.schedule.block = 1 := by
  intro listing
  obtain ⟨s, hs, -, hrun⟩ := rotation_plays_blocks "clips" [Juror.jurorA.id, SpeakerId.none, Juror.jurorB.id] 7
    listing (fun _ _ => ⟨_, rfl, _, List.mem_singleton_self _, rfl, by decide +kernel⟩) (by decide)
  exact ⟨s, hs, fun hw => (((hrun "play" [] ["-loop"] "/bin/play" { entries := [] } "/").2 hw).2).trans (by decide +kernel)⟩

/-- A block whose speaker is set but no juror gets no active clip: the rotation
asks the player to play the empty path, not the block's clip `clips/1.mp4`. -/
theorem nonjuror_block_plays_no_clip :
    let listing : SpeakerId → Option (List DirEntry) := fun _ => some [⟨"loop.mp4", false⟩]
    ∃ s, Schedule.create "clips" ["bailiff", Juror.jurorA.id] 7 listing = .ok s ∧
      s.active = "bailiff" ∧ SpeakerId.isSet s.active = true ∧
      ∀ args loopArgs, (Rotation.blockPlan args loopArgs s.active s.current.1).getLast? = some (args ++ [""], false) := by
  intro listing
  obtain ⟨s, hs, -, hb, h0, hok⟩ := create_ok "clips" ["bailiff", Juror.jurorA.id] 7 listing
    (fun _ _ => ⟨_, rfl, _, List.mem_singleton_self _, rfl, by decide +kernel⟩)
  have ha : s.active = "bailiff" := by simp [Schedule.active, hb, h0]
  refine ⟨s, hs, ha, by rw [ha]; decide, fun args loopArgs => ?_⟩
  -- every clip belongs to a juror, and the bailiff is none of them
  obtain ⟨hmap, -, -⟩ := s.current_spec hok
  have hnone : s.current.1.find? (·.1 == s.active) = none := by
    rw [List.find?_eq_none]
    intro c hc hca
    have hm : c.1 ∈ Juror.all.map Juror.id := hmap ▸ List.mem_map_of_mem hc
    rw [beq_iff_eq.1 hca, ha] at hm
    exact absurd hm (by decide)
  simp [Rotation.blockPlan, hnone]

end Playback
end JuryCaptions
