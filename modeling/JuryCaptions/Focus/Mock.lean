import JuryCaptions.Random.Source
import JuryCaptions.Focus.Tracker
import JuryCaptions.Time.Duration
/-!
A simulated focus source: after a random wait, one of the four jurors or
nobody, all five equally likely. A least wait that is not positive is half a
second, and a greatest wait below it is the least.
-/

namespace JuryCaptions
namespace Focus

/-- The least wait when none is set: half a second. -/
def mockLeast : Duration := 500000000

def mockChoices : List SpeakerId := Juror.all.map Juror.id ++ [SpeakerId.none]

/-- The simulated source: its bounds on the wait and its generator. -/
structure MockSource where
  least : Duration
  greatest : Duration
  rng : Random.Rng
  deriving Inhabited

namespace MockSource

def create (least greatest : Duration) (seed : Int) : MockSource :=
  let least := if least ≤ 0 then mockLeast else least
  let greatest := if greatest < least then least else greatest
  { least := least, greatest := greatest, rng := Random.Rng.seeded seed }

def next (m : MockSource) : (Duration × SpeakerId) × MockSource :=
  let span := m.greatest - m.least
  let (wait, rng) := if span > 0 then
      let (v, rng) := m.rng.int63n span.toNat
      (m.least + v, rng)
    else (m.least, m.rng)
  let (k, rng) := rng.intn mockChoices.length
  ((wait, mockChoices.getD k SpeakerId.none), { m with rng := rng })

def draws (m : MockSource) : Nat → List (Duration × SpeakerId)
  | 0 => []
  | n + 1 => let (d, m) := m.next; d :: m.draws n

/-- The first `n` changes a fresh tracker hears from the source, drawing at most
`fuel` times. -/
def changes (m : MockSource) (n : Nat) (fuel : Nat) : List SpeakerId :=
  go m {} n fuel
where
  /-- Draws until `k` more changes were heard. -/
  go (m : MockSource) (t : Tracker) : Nat → Nat → List SpeakerId
    | 0, _ => []
    | _, 0 => []
    | k + 1, fuel + 1 =>
      let ((_, id), m) := m.next
      let (t, changed) := t.set id
      if changed then id :: go m t k fuel else go m t (k + 1) fuel

end MockSource

end Focus
end JuryCaptions
