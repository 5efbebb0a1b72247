import Mathlib
import JuryCaptions.Proofs.Caption.Script
import JuryCaptions.Proofs.Wire.Messages
/-!
# Caption scripts and sections from transcripts

Merging orders the cues with text stably by start (`SortedStably`) and gives one
caption per word. Cutting at bounds moves each section's cues earlier by its
first bound in 64-bit arithmetic, which wraps below zero for a very negative
bound (`Transcript.section_start_wraps_below_zero`).
-/

namespace JuryCaptions

/-- `ys` is `xs` ordered by a key, stably: a permutation of `xs` whose keys never
decrease, with the elements of each key in their order in `xs`. -/
def SortedStably {α : Type} (key : α → Int) (xs ys : List α) : Prop :=
  ys.Perm xs ∧ ys.Pairwise (fun a b => key a ≤ key b) ∧ ∀ t, ys.filter (key · == t) = xs.filter (key · == t)

theorem sortedStably_mergeSort {α : Type} (key : α → Int) (xs : List α) :
    SortedStably key xs (xs.mergeSort fun a b => decide (key a ≤ key b)) := by
  have trans : ∀ a b c : α, decide (key a ≤ key b) → decide (key b ≤ key c) → decide (key a ≤ key c) := by
    simp only [decide_eq_true_eq]
    exact fun _ _ _ => Int.le_trans
  have total : ∀ a b : α, (decide (key a ≤ key b) || decide (key b ≤ key a)) = true := by
    simp only [Bool.or_eq_true, decide_eq_true_eq]
    exact fun a b => Int.le_total _ _
  refine ⟨List.mergeSort_perm _ _, (List.pairwise_mergeSort trans total xs).imp (by simp), fun t => ?_⟩
  apply filter_mergeSort_eq trans total
  exact List.pairwise_of_forall_mem_list fun a ha b hb => by simp_all

namespace Blank

theorem wordsOf_dropWhile : ∀ (l : List Char) (acc : List String), wordsOf (l.dropWhile isBlank) [] acc = wordsOf l [] acc
  | [], _ => rfl
  | c :: l, acc => by
    by_cases h : isBlank c
    · rw [List.dropWhile_cons_of_pos h, wordsOf_dropWhile l acc, wordsOf.eq_2, if_pos h]
      rfl
    · rw [List.dropWhile_cons_of_neg h]

theorem wordsOf_append_blanks {m : List Char} (hm : ∀ c ∈ m, isBlank c) :
    ∀ (l cur : List Char) (acc : List String), wordsOf (l ++ m) cur acc = wordsOf l cur acc
  | [], cur, acc => by
    induction m generalizing cur acc with
    | nil => rfl
    | cons b m ih =>
      rw [List.nil_append, wordsOf.eq_2, if_pos (hm b List.mem_cons_self), ← List.nil_append m,
        ih (fun c hc => hm c (List.mem_cons_of_mem _ hc))]
      cases cur <;> simp [wordsOf]
  | c :: l, cur, acc => by
    rw [List.cons_append, wordsOf.eq_2, wordsOf.eq_2]
    split <;> exact wordsOf_append_blanks hm l _ _

theorem fields_trim (s : String) : fields (trim s) = fields s := by
  rw [fields, fields, trim, String.toList_ofList, ← wordsOf_dropWhile s.toList]
  generalize s.toList.dropWhile isBlank = l
  -- `l` is its part up to the trailing blanks, then those blanks
  have hsplit : (l.reverse.takeWhile isBlank ++ l.reverse.dropWhile isBlank).reverse = l.reverse.reverse :=
    congrArg List.reverse List.takeWhile_append_dropWhile
  rw [List.reverse_append, List.reverse_reverse] at hsplit
  conv_rhs => rw [← hsplit]
  refine (wordsOf_append_blanks (fun c hc => ?_) _ [] []).symm
  exact List.mem_takeWhile_imp (List.mem_reverse.1 hc)

end Blank

namespace Transcript

/-- The cues with text of the jurors' transcripts, each with its juror: jurors in
seat order, cues in file order; a juror without a transcript has none. -/
def spokenCues (perJuror : SpeakerId → Option (List Cue)) : List (SpeakerId × Cue) :=
  Juror.all.flatMap fun j =>
    (((perJuror j.id).getD []).filter fun c => !(Blank.trim c.text).isEmpty).map fun c => (j.id, c)

/-- The captions of the words of the `index`-th cue by `speaker`: word `j` is
chunk `j` of message `index`, due `j` steps after the start, a step being the
cue's 64-bit length shared among its words. -/
def wordCaptions (speaker : SpeakerId) (c : Cue) (index : Nat) : List Caption :=
  let words := Blank.fields c.text
  words.zipIdx.map fun w =>
    { text := w.1, messageId := index, chunkId := w.2, speaker := speaker,
      delay := millis c.start + w.2.toFloat * (millis (Duration.wrap (c.stop - c.start)) / words.length.toFloat) }

theorem captions_eq_wordCaptions (c : Cue) (s : SpeakerId) (i : Nat) : c.captions s i = wordCaptions s c i := by
  simp [Cue.captions, wordCaptions, Blank.fields_trim]

theorem merge_eq (perJuror : SpeakerId → Option (List Cue)) :
    merge perJuror = ((spokenCues perJuror).mergeSort fun a b => decide (a.2.start ≤ b.2.start)).zipIdx.flatMap
      fun x => wordCaptions x.1.1 x.1.2 x.2 := by
  simp only [merge, captions_eq_wordCaptions]
  congr 3
  refine List.flatMap_congr fun j _ => ?_
  split <;> simp_all

theorem wordCaptions_ne_nil {perJuror : SpeakerId → Option (List Cue)} {x : SpeakerId × Cue}
    (hx : x ∈ spokenCues perJuror) (i : Nat) : wordCaptions x.1 x.2 i ≠ [] := by
  simp only [spokenCues, List.mem_flatMap, List.mem_map, List.mem_filter, Bool.not_eq_true'] at hx
  obtain ⟨j, -, c, ⟨-, hc⟩, rfl⟩ := hx
  simpa [wordCaptions, Blank.fields_trim] using Blank.fields_trim_ne_nil hc

/-- **Merging transcripts.**  Merge orders the jurors' cues with text stably by
start, jurors in seat order and cues in file order on a tie, and gives one
caption per word: the runs of one message are the cues' word captions, numbered
`0, 1, …` in that order. -/
theorem merge_captions_words (perJuror : SpeakerId → Option (List Cue)) :
    ∃ sorted, SortedStably (·.2.start) (spokenCues perJuror) sorted ∧
      merge perJuror = (sorted.zipIdx.map fun x => wordCaptions x.1.1 x.1.2 x.2).flatten ∧
      Playback.messageRuns (merge perJuror) = sorted.zipIdx.map fun x => wordCaptions x.1.1 x.1.2 x.2 := by
  refine ⟨_, sortedStably_mergeSort _ _, ?_⟩
  rw [merge_eq]
  refine ⟨rfl, Playback.messageRuns_groups _ _ 0 fun x hx i => ⟨?_, fun c hc => ?_⟩⟩
  · exact wordCaptions_ne_nil ((List.mergeSort_perm _ _).mem_iff.1 hx) i
  · simp only [wordCaptions, List.mem_map] at hc
    obtain ⟨w, -, rfl⟩ := hc
    rfl

/-! ## Sections -/

/-- The cues that lie within `[start, stop)`: they start at or after `start` and
end before `stop`. -/
def lyingIn (cues : List Cue) (start stop : Duration) : List Cue :=
  cues.filter fun c => decide (start ≤ c.start ∧ c.stop < stop)

theorem within_eq (cues : List Cue) (start stop : Duration) :
    within cues start stop = (lyingIn cues start stop).map (·.shift start) := by
  rw [within, lyingIn]
  congr 1
  refine List.filter_congr fun c _ => ?_
  simp only [Bool.not_or, ← decide_not, not_lt, not_le, ge_iff_le, Bool.decide_and]

theorem partition_getElem? (cues : List Cue) (bounds : List Duration) (i : Nat) :
    (partition cues bounds).bind (·[i]?) =
      bounds[i]?.bind fun a => bounds[i + 1]?.map fun b => (lyingIn cues a b).map (·.shift a) := by
  unfold partition
  split
  · next h =>
    have hnone : bounds[i + 1]? = none := List.getElem?_eq_none (by omega)
    simp [hnone]
  · simp only [Option.bind_some, List.getElem?_map, List.zip_eq_zipWith, List.getElem?_zipWith', List.getElem?_tail]
    cases bounds[i]? <;> cases bounds[i + 1]? <;> simp [within_eq]

end Transcript

namespace Duration

/-- How many times round the 64-bit range `wrap` takes a whole number. -/
def laps (d : Int) : Int := (d + 9223372036854775808) / 18446744073709551616

theorem wrap_eq_sub_laps (d : Int) : (wrap d : Int) = d - 18446744073709551616 * laps d := by
  rw [wrap, laps, Int.emod_def]
  ring

/-- A later time moved earlier by a bound stays at or after zero exactly when
the true difference is below `2^63`. -/
theorem wrap_sub_nonneg_iff {a s : Int} (ha : FitsInt64 a) (hs : FitsInt64 s) (h : a ≤ s) :
    0 ≤ wrap (s - a) ↔ s - a < 9223372036854775808 := by
  -- compare as whole numbers, which `omega` reads
  change @LE.le Int _ 0 (wrap (s - a)) ↔ _
  rw [wrap_eq_sub_laps, laps]
  unfold FitsInt64 at ha hs
  omega

/-- Of two times moved earlier by the same amount, the earlier stays earlier
exactly when both differences go equally often round the 64-bit range. -/
theorem wrap_sub_lt_iff {e b : Int} (a : Int) (he : FitsInt64 e) (hb : FitsInt64 b) (h : e < b) :
    wrap (e - a) < wrap (b - a) ↔ laps (e - a) = laps (b - a) := by
  change @LT.lt Int _ (wrap (e - a)) (wrap (b - a)) ↔ _
  rw [wrap_eq_sub_laps, wrap_eq_sub_laps, laps, laps]
  unfold FitsInt64 at he hb
  omega

end Duration

namespace Transcript

/-- With bounds that never decrease, a cue that does not end before it starts
lies between at most one pair of neighbouring bounds. -/
theorem countP_lying_le_one (c : Cue) (hc : c.start ≤ c.stop) :
    ∀ bounds : List Duration, bounds.Pairwise (· ≤ ·) →
      ((bounds.zip bounds.tail).countP fun p => decide (p.1 ≤ c.start ∧ c.stop < p.2)) ≤ 1
  | [], _ => by simp
  | [_], _ => by simp
  | a :: b :: rest, hs => by
    have hrest := countP_lying_le_one c hc (b :: rest) hs.of_cons
    rw [List.tail_cons, List.zip_cons_cons, List.countP_cons]
    simp only [List.tail_cons] at hrest
    split
    · -- lying between `a` and `b`, it lies between no later pair
      next hin =>
      have hzero : ((b :: rest).zip rest).countP (fun p => decide (p.1 ≤ c.start ∧ c.stop < p.2)) = 0 := by
        rw [List.countP_eq_zero]
        intro p hp hp'
        have hb : b ≤ p.1 := by
          rcases List.mem_cons.1 (List.of_mem_zip hp).1 with h | h
          · exact h ▸ le_refl b
          · exact (List.pairwise_cons.1 hs.of_cons).1 _ h
        simp only [decide_eq_true_eq] at hin hp'
        linarith [hp'.1, hin.2]
      rw [hzero]
    · omega

/-- **Sections of a recording.**  Fewer than two bounds give none; else section
`i` holds the cues within the `i`-th and next bound, moved earlier by the `i`-th
in 64-bit arithmetic. A moved cue starts at or after zero exactly when it
started less than `2^63` after the bound, and ends before the bounds' difference
exactly when both wrap equally; with bounds that never decrease a cue lies in
at most one section. -/
theorem partition_sections (cues : List Cue) (bounds : List Duration)
    (hb : ∀ t ∈ bounds, FitsInt64 t) (hc : ∀ c ∈ cues, FitsInt64 c.start ∧ FitsInt64 c.stop) :
    (partition cues bounds = none ↔ bounds.length < 2) ∧
    (∀ i, (partition cues bounds).bind (·[i]?) = bounds[i]?.bind fun a => bounds[i + 1]?.map fun b =>
      (lyingIn cues a b).map fun c =>
        { c with start := Duration.wrap (c.start - a), stop := Duration.wrap (c.stop - a) }) ∧
    (∀ a ∈ bounds, ∀ b ∈ bounds, ∀ c ∈ lyingIn cues a b,
      (0 ≤ Duration.wrap (c.start - a) ↔ c.start - a < 9223372036854775808) ∧
      (Duration.wrap (c.stop - a) < Duration.wrap (b - a) ↔ Duration.laps (c.stop - a) = Duration.laps (b - a))) ∧
    (bounds.Pairwise (· ≤ ·) → ∀ c ∈ cues, c.start ≤ c.stop →
      ((bounds.zip bounds.tail).countP fun p => decide (p.1 ≤ c.start ∧ c.stop < p.2)) ≤ 1) := by
  refine ⟨?_, partition_getElem? cues bounds, fun a ha b hb' c hc' => ?_, fun hs c _ hle => countP_lying_le_one c hle bounds hs⟩
  · unfold partition
    split <;> simp_all
  · obtain ⟨hmem, hin⟩ := List.mem_filter.1 hc'
    simp only [decide_eq_true_eq] at hin
    exact ⟨Duration.wrap_sub_nonneg_iff (hb a ha) (hc c hmem).1 hin.1,
      Duration.wrap_sub_lt_iff a (hc c hmem).2 (hb b hb') hin.2⟩

/-- The four cues of a recording of five minutes cut at the default bounds. -/
theorem partition_sections_default :
    let cues := [Cue.plain 10000000000 20000000000 [["first"]], Cue.plain 149000000000 151000000000 [["straddles"]],
      Cue.plain 160000000000 170000000000 [["second"]], Cue.plain 300000000000 310000000000 [["third"]]]
    ((∀ t ∈ defaultBounds, FitsInt64 t) ∧ ∀ c ∈ cues, FitsInt64 c.start ∧ FitsInt64 c.stop) ∧
    (partition cues defaultBounds = none ↔ defaultBounds.length < 2) ∧
    (∀ i, (partition cues defaultBounds).bind (·[i]?) = defaultBounds[i]?.bind fun a => defaultBounds[i + 1]?.map fun b =>
      (lyingIn cues a b).map fun c =>
        { c with start := Duration.wrap (c.start - a), stop := Duration.wrap (c.stop - a) }) ∧
    (∀ a ∈ defaultBounds, ∀ b ∈ defaultBounds, ∀ c ∈ lyingIn cues a b,
      (0 ≤ Duration.wrap (c.start - a) ↔ c.start - a < 9223372036854775808) ∧
      (Duration.wrap (c.stop - a) < Duration.wrap (b - a) ↔ Duration.laps (c.stop - a) = Duration.laps (b - a))) ∧
    (defaultBounds.Pairwise (· ≤ ·) → ∀ c ∈ cues, c.start ≤ c.stop →
      ((defaultBounds.zip defaultBounds.tail).countP fun p => decide (p.1 ≤ c.start ∧ c.stop < p.2)) ≤ 1) := by
  intro cues
  have hb : ∀ t ∈ defaultBounds, FitsInt64 t := by
    simp only [FitsInt64]
    decide
  have hc : ∀ c ∈ cues, FitsInt64 c.start ∧ FitsInt64 c.stop := by
    simp only [FitsInt64]
    decide
  exact ⟨⟨hb, hc⟩, partition_sections cues defaultBounds hb hc⟩

/-- A cue a second long at the start, cut at bounds `-2^63` and ten seconds:
moved earlier by `-2^63` nanoseconds, it starts at `-2^63`, before zero. -/
theorem section_start_wraps_below_zero :
    ((partition [Cue.plain 0 1000000000 [["x"]]] [-9223372036854775808, 10000000000]).bind (·[0]?)).map
      (·.map (·.start)) = some [-9223372036854775808] := by
  decide

end Transcript

end JuryCaptions
