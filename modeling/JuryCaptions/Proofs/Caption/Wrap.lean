import Mathlib
import JuryCaptions.Caption.Wrap
/-!
# Greedy caption lines

A caption's fill is greedy (`Wrap.Greedy`): its lines cut the words in order,
each fits the width or is one word, and each line's first word would not fit on
the line before. A fill state is such a cut (`Wrap.holds_foldl`), so the text
shown is the last two lines of a greedy fill and ends the words. An utterance
holds the last speaker since a reset and the words added under it at the end
(`Utterance.run_eq`).
-/

namespace JuryCaptions
namespace Wrap

/-- A line of words, a blank between each two. -/
def joined (g : List String) : String := " ".intercalate g

theorem joined_concat {g : List String} (hg : g ≠ []) (w : String) : joined (g ++ [w]) = joined g ++ " " ++ w := by
  rw [joined, String.intercalate_append_of_ne_nil hg (List.cons_ne_nil _ _), String.intercalate_singleton]
  rfl

/-- `groups` cut `words` into the lines of a greedy fill at `width` bytes: in
order and none empty, each line within the width or a single word, and the
first word of each line too long to end the line before it. -/
structure Greedy (width : Int) (words : List String) (groups : List (List String)) : Prop where
  flatten_eq : groups.flatten = words
  nil_not_mem : [] ∉ groups
  fits : ∀ g ∈ groups, g.length = 1 ∨ ((joined g).utf8ByteSize : Int) ≤ width
  full : groups.IsChain fun g h => ∀ w ∈ h.head?, width < ((joined g).utf8ByteSize + 1 + w.utf8ByteSize : Nat)

/-- A fill state of some words: the finished lines, last first, and the current
line, not empty, as the groups of a greedy fill of the words. -/
def Holds (width : Int) (ws : List String) (st : List String × String) : Prop :=
  ∃ gs g, joined g ≠ "" ∧ Greedy width ws (gs ++ [g]) ∧ st = ((gs.map joined).reverse, joined g)

theorem holds_step {width : Int} {ws : List String} {st : List String × String} {w : String} (hw : w ≠ "")
    (h : Holds width ws st) : Holds width (ws ++ [w]) (fillStep width.toNat st w) := by
  obtain ⟨gs, g, hcur, ⟨hflat, hnil, hfits, hfull⟩, rfl⟩ := h
  have hg : g ≠ [] := by rintro rfl; exact hcur rfl
  have hsize : (joined g).utf8ByteSize ≠ 0 := fun h0 => hcur (String.utf8ByteSize_eq_zero_iff.1 h0)
  rw [List.isChain_append] at hfull
  obtain ⟨hgs, -, hlast⟩ := hfull
  have hnil' : [] ∉ gs := fun h => hnil (List.mem_append_left _ h)
  have hflat' : (gs ++ [g]).flatten ++ [w] = ws ++ [w] := by rw [hflat]
  simp only [List.flatten_append, List.flatten_singleton] at hflat'
  simp only [fillStep, hsize, if_false]
  split
  · -- the word fits: it ends the current line
    next hle =>
    refine ⟨gs, g ++ [w], by simp [joined_concat hg], ⟨by simpa using hflat', by simp [hnil'], ?_, ?_⟩,
      by rw [joined_concat hg]⟩
    · intro g' hg'
      rcases List.mem_append.1 hg' with hg' | hg'
      · exact hfits g' (by simp [hg'])
      · rw [List.mem_singleton.1 hg', joined_concat hg]
        right
        simp only [String.utf8ByteSize_append]
        have : " ".utf8ByteSize = 1 := rfl
        omega
    · rw [List.isChain_append]
      refine ⟨hgs, .singleton _, fun a ha b hb => ?_⟩
      rw [List.head?_singleton, Option.mem_some_iff] at hb
      subst hb
      rw [List.head?_append_of_ne_nil _ hg]
      exact hlast a ha g (by simp)
  · -- it does not: the current line is finished and the word starts the next
    next hgt =>
    refine ⟨gs ++ [g], [w], by simpa [joined] using hw, ⟨by simpa using hflat', by simp [hnil', hg], ?_, ?_⟩,
      by simp [joined]⟩
    · intro g' hg'
      rcases List.mem_append.1 hg' with hg' | hg'
      · exact hfits g' hg'
      · simp [List.mem_singleton.1 hg']
    · rw [List.isChain_append]
      refine ⟨List.isChain_append.2 ⟨hgs, .singleton _, hlast⟩, .singleton _, fun a ha b hb x hx => ?_⟩
      simp only [List.getLast?_append, List.getLast?_singleton, Option.some_or, Option.mem_def,
        Option.some.injEq] at ha
      simp only [List.head?_cons, Option.mem_def, Option.some.injEq] at hb
      subst ha hb
      simp only [List.head?_cons, Option.mem_def, Option.some.injEq] at hx
      subst hx
      omega

theorem holds_foldl {width : Int} : ∀ (rest ws : List String) (st : List String × String), (∀ w ∈ rest, w ≠ "") →
    Holds width ws st → Holds width (ws ++ rest) (rest.foldl (fillStep width.toNat) st)
  | [], ws, st, _, h => by simpa using h
  | w :: rest, ws, st, hw, h => by
    rw [List.foldl_cons, ← List.singleton_append, ← List.append_assoc]
    exact holds_foldl rest _ _ (fun v hv => hw v (List.mem_cons_of_mem _ hv))
      (holds_step (hw w List.mem_cons_self) h)

theorem lines_greedy {width : Int} {words : List String} (hw : ∀ w ∈ words, w ≠ "") :
    ∃ gs, Greedy width words gs ∧ lines words width.toNat = gs.map joined := by
  rcases words with _ | ⟨w, rest⟩
  · exact ⟨[], ⟨rfl, List.not_mem_nil, by simp, .nil⟩, rfl⟩
  · have hstart : Holds width [w] ([], w) :=
      ⟨[], [w], by simpa [joined] using hw w List.mem_cons_self,
        ⟨by simp, by simp, by simp, .singleton _⟩, by simp [joined]⟩
    have hfill := holds_foldl rest [w] _ (fun v hv => hw v (List.mem_cons_of_mem _ hv)) hstart
    obtain ⟨gs, g, hcur, hgr, hst⟩ := hfill
    refine ⟨gs ++ [g], hgr, ?_⟩
    have hfirst : fillStep width.toNat ([], "") w = ([], w) := by simp [fillStep]
    have hpos : 0 < (joined g).utf8ByteSize :=
      Nat.pos_of_ne_zero fun h0 => hcur (String.utf8ByteSize_eq_zero_iff.1 h0)
    rw [lines, List.foldl_cons, hfirst, hst]
    simp [hpos]

theorem newline_not_mem_joined : ∀ {g : List String}, (∀ w ∈ g, '\n' ∉ w.toList) → '\n' ∉ (joined g).toList
  | [], _ => by simp [joined]
  | [w], h => by simpa [joined] using h w List.mem_cons_self
  | w :: v :: g, h => by
    rw [joined, String.intercalate_cons_cons, ← joined]
    simp only [String.toList_append, List.mem_append, not_or]
    exact ⟨⟨h w List.mem_cons_self, by decide⟩, newline_not_mem_joined fun u hu => h u (List.mem_cons_of_mem _ hu)⟩

theorem map_unbreak_of_not_mem {l : List Char} (h : '\n' ∉ l) :
    l.map (fun c => if c = '\n' then ' ' else c) = l := by
  conv_rhs => rw [← List.map_id l]
  exact List.map_congr_left fun c hc => if_neg fun (e : c = '\n') => h (e ▸ hc)

theorem map_unbreak_intercalate : ∀ {ls : List String}, (∀ l ∈ ls, '\n' ∉ l.toList) →
    ("\n".intercalate ls).toList.map (fun c => if c = '\n' then ' ' else c) = (" ".intercalate ls).toList
  | [], _ => rfl
  | [l], h => by
    rw [String.intercalate_singleton, String.intercalate_singleton, map_unbreak_of_not_mem (h l List.mem_cons_self)]
  | l :: m :: ls, h => by
    rw [String.intercalate_cons_cons, String.intercalate_cons_cons, String.toList_append, String.toList_append,
      String.toList_append, String.toList_append, List.map_append, List.map_append,
      map_unbreak_intercalate fun x hx => h x (List.mem_cons_of_mem _ hx), map_unbreak_of_not_mem (h l List.mem_cons_self)]
    rfl

theorem intercalate_drop_suffix (s : String) :
    ∀ (ls : List String) (k : Nat), (s.intercalate (ls.drop k)).toList <:+ (s.intercalate ls).toList
  | _, 0 => List.suffix_refl _
  | [], _ + 1 => by simp
  | [_], _ + 1 => by simp
  | l :: m :: ls, k + 1 => by
    rw [List.drop_succ_cons, String.intercalate_cons_cons, String.toList_append]
    exact (intercalate_drop_suffix s (m :: ls) k).trans (List.suffix_append _ _)

theorem intercalate_map_joined : ∀ {gs : List (List String)}, [] ∉ gs → " ".intercalate (gs.map joined) = joined gs.flatten
  | [], _ => rfl
  | [g], _ => by simp [String.intercalate_singleton]
  | g :: h :: gs, hn => by
    have hg : g ≠ [] := fun e => hn (e ▸ List.mem_cons_self)
    have hh : (h :: gs).flatten ≠ [] :=
      List.flatten_ne_nil_iff.2 ⟨h, List.mem_cons_self, fun e => hn (e ▸ List.mem_cons_of_mem _ List.mem_cons_self)⟩
    rw [List.map_cons, String.intercalate_cons_of_ne_nil (by simp),
      intercalate_map_joined fun e => hn (List.mem_cons_of_mem _ e),
      show (g :: h :: gs).flatten = g ++ (h :: gs).flatten from rfl, joined, joined, joined,
      String.intercalate_append_of_ne_nil hg hh]

/-- The last two lines of a greedy fill, and the text they make read as one
line is how the words end. -/
theorem lastTwo_greedy {width : Int} {words : List String}
    (hw : ∀ w ∈ words, w ≠ "" ∧ ∀ c ∈ w.toList, Blank.isBlank c = false) :
    (∃ gs, Greedy width words gs ∧ lastTwo words width = "\n".intercalate ((gs.map joined).drop (gs.length - 2))) ∧
    ((lastTwo words width).toList.map fun c => if c = '\n' then ' ' else c) <:+ (joined words).toList := by
  obtain ⟨gs, hgr, hlines⟩ := @lines_greedy width words fun w hw' => (hw w hw').1
  have htwo : lastTwo words width = "\n".intercalate ((gs.map joined).drop (gs.length - 2)) := by
    rw [lastTwo, hlines, List.length_map]
  refine ⟨⟨gs, hgr, htwo⟩, ?_⟩
  -- no word holds a line feed, a blank
  have hnl : ∀ l ∈ (gs.map joined).drop (gs.length - 2), '\n' ∉ l.toList := by
    intro l hl
    obtain ⟨g, hg, rfl⟩ := List.mem_map.1 (List.mem_of_mem_drop hl)
    refine newline_not_mem_joined fun w hwg hn => ?_
    have hw' := (hw w (hgr.flatten_eq ▸ List.mem_flatten.2 ⟨g, hg, hwg⟩)).2 _ hn
    exact absurd hw' (by decide)
  rw [htwo, map_unbreak_intercalate hnl, ← hgr.flatten_eq, ← intercalate_map_joined hgr.nil_not_mem]
  exact intercalate_drop_suffix " " _ _

end Wrap

namespace Utterance

/-- A call on a rolling utterance. -/
inductive Call where
  | add (text : String) (speaker : SpeakerId)
  | reset

namespace Call

def apply (u : Utterance) : Call → Utterance
  | .add t s => u.add t s
  | .reset => u.reset

/-- The text and speaker of an add. -/
def added : Call → Option (String × SpeakerId)
  | .add t s => some (t, s)
  | .reset => none

end Call

/-- The utterance after some calls, from a fresh one. -/
def run (calls : List Call) : Utterance := calls.foldl Call.apply {}

/-- The texts and speakers of the adds since the last reset, in order. -/
def addsSinceReset (calls : List Call) : List (String × SpeakerId) :=
  (calls.reverse.takeWhile (·.added.isSome)).reverse.filterMap Call.added

/-- The speaker of the last add, nobody without one. -/
def lastSpeaker (adds : List (String × SpeakerId)) : SpeakerId := (adds.getLast?.map (·.2)).getD SpeakerId.none

/-- The longest run of adds at the end that share the last speaker. -/
def lastRun (adds : List (String × SpeakerId)) : List (String × SpeakerId) :=
  (adds.reverse.takeWhile (·.2 == lastSpeaker adds)).reverse

theorem addsSinceReset_reset (calls : List Call) : addsSinceReset (calls ++ [.reset]) = [] := by
  simp [addsSinceReset, Call.added]

theorem addsSinceReset_add (calls : List Call) (t : String) (s : SpeakerId) :
    addsSinceReset (calls ++ [.add t s]) = addsSinceReset calls ++ [(t, s)] := by
  simp [addsSinceReset, Call.added]

theorem lastRun_concat (adds : List (String × SpeakerId)) (t : String) (s : SpeakerId) :
    lastRun (adds ++ [(t, s)]) = (if lastSpeaker adds = s then lastRun adds else []) ++ [(t, s)] := by
  have hs : lastSpeaker (adds ++ [(t, s)]) = s := by simp [lastSpeaker]
  rw [lastRun, hs, List.reverse_append, List.reverse_singleton, List.singleton_append, List.takeWhile_cons_of_pos (by simp),
    List.reverse_cons]
  congr 1
  split
  · next h => rw [lastRun, h]
  · -- the add before is another speaker's, or there is none
    next h =>
    rcases hr : adds.reverse with _ | ⟨a, rest⟩
    · rfl
    · have ha : a.2 ≠ s := by
        rintro rfl
        apply h
        simp [lastSpeaker, List.getLast?_eq_head?_reverse, hr]
      simp [List.takeWhile_cons_of_neg, ha]

/-- An utterance holds the speaker of the last add since the last reset and the
words of the run of adds at the end that share that speaker. -/
theorem run_eq (calls : List Call) : run calls =
    { speaker := lastSpeaker (addsSinceReset calls),
      words := (lastRun (addsSinceReset calls)).flatMap fun a => Blank.fields a.1 } := by
  induction calls using List.reverseRecOn with
  | nil => rfl
  | append_singleton calls c ih =>
    rw [run, List.foldl_append, ← run, ih]
    cases c with
    | reset => rw [addsSinceReset_reset]; rfl
    | add t s =>
      rw [addsSinceReset_add, lastRun_concat]
      simp only [List.foldl_cons, List.foldl_nil, Call.apply, add, List.flatMap_append]
      have hs : lastSpeaker (addsSinceReset calls ++ [(t, s)]) = s := by simp [lastSpeaker]
      rw [hs]
      by_cases h : lastSpeaker (addsSinceReset calls) = s
      · simp [h]
      · -- another speaker: what was held, if anything, is dropped
        rw [if_neg h]
        have hne : (lastSpeaker (addsSinceReset calls) != s) = true := by simpa using h
        split
        · simp
        · next hk =>
          simp only [hne, Bool.and_true, Bool.not_eq_true', Bool.not_eq_false, List.isEmpty_iff] at hk
          simp [hk]

end Utterance

theorem greedy_two_line_wrap (width : Int) (words : List String)
    (hw : ∀ w ∈ words, w ≠ "" ∧ ∀ c ∈ w.toList, Blank.isBlank c = false) (calls : List Utterance.Call) :
    ((∃ gs, Wrap.Greedy width words gs ∧
        Wrap.lastTwo words width = "\n".intercalate ((gs.map Wrap.joined).drop (gs.length - 2))) ∧
      ((Wrap.lastTwo words width).toList.map fun c => if c = '\n' then ' ' else c) <:+ (Wrap.joined words).toList) ∧
    (Utterance.run calls).view width = (Utterance.lastSpeaker (Utterance.addsSinceReset calls),
      Wrap.lastTwo ((Utterance.lastRun (Utterance.addsSinceReset calls)).flatMap fun a => Blank.fields a.1) width) := by
  refine ⟨Wrap.lastTwo_greedy hw, ?_⟩
  rw [Utterance.run_eq]
  rfl

theorem greedy_two_line_wrap_fox :
    (∀ w ∈ ["the", "quick", "brown", "fox"], w ≠ "" ∧ ∀ c ∈ w.toList, Blank.isBlank c = false) ∧
    ((∃ gs, Wrap.Greedy 9 ["the", "quick", "brown", "fox"] gs ∧
        Wrap.lastTwo ["the", "quick", "brown", "fox"] 9 = "\n".intercalate ((gs.map Wrap.joined).drop (gs.length - 2))) ∧
      ((Wrap.lastTwo ["the", "quick", "brown", "fox"] 9).toList.map fun c => if c = '\n' then ' ' else c) <:+
        (Wrap.joined ["the", "quick", "brown", "fox"]).toList) ∧
    (Utterance.run [.add "the quick" "juror-a", .reset, .add "fox" "juror-b"]).view 9 =
      (Utterance.lastSpeaker (Utterance.addsSinceReset [.add "the quick" "juror-a", .reset, .add "fox" "juror-b"]),
        Wrap.lastTwo ((Utterance.lastRun (Utterance.addsSinceReset
          [.add "the quick" "juror-a", .reset, .add "fox" "juror-b"])).flatMap fun a => Blank.fields a.1) 9) := by
  have h : ∀ w ∈ ["the", "quick", "brown", "fox"], w ≠ "" ∧ ∀ c ∈ w.toList, Blank.isBlank c = false := by
    simp [Blank.isBlank]
  exact ⟨h, greedy_two_line_wrap 9 _ h _⟩

end JuryCaptions
