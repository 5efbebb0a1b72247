import JuryCaptions.Number.Read
import Mathlib
/-!
Reading a ratio rounds it to the nearest double.

`Decimal.ofRatio num den shift` rounds `q · 2^shift`: it guesses a binary
exponent from the bit lengths, rounds the quotient to nearest, ties to even
(`divRoundEven`), and corrects the guess when the quotient has a bit too many.
Every rational in the interval of a finite, non-zero double (`Binary.Rounds`)
reads as that double (`ofRatio_eq_ofFields`).
-/

namespace JuryCaptions
namespace Decimal

/-! ## The interval of a double -/

/-- The value of an exact decimal. -/
def Exact.val (d : Exact) : ℚ := d.coef * 10 ^ d.exp

theorem val_ofBinary (m : Nat) (e : Int) : (ofBinary m e).val = m * 2 ^ e := by
  unfold ofBinary Exact.val
  split
  · next he =>
    have h2 : (2 : ℚ) ^ e = 2 ^ e.toNat := by rw [← zpow_natCast, Int.toNat_of_nonneg he]
    rw [h2]
    push_cast [Nat.pow_eq]
    ring
  · next he =>
    -- `m · 2^e` is `m · 5^(-e) · 10^e`
    obtain ⟨k, rfl⟩ : ∃ k : Nat, e = -(k : Int) := ⟨(-e).toNat, by omega⟩
    rw [neg_neg, Int.toNat_natCast, zpow_neg, zpow_neg, zpow_natCast, zpow_natCast,
      show (10 : ℚ) = 2 * 5 by norm_num, mul_pow]
    push_cast [Nat.pow_eq]
    field_simp

/-- The rationals that read back as the double: those between the ends of its
rounding interval, an end itself only when the significand is even. -/
@[mk_iff] structure Binary.Rounds (b : Binary) (r : ℚ) : Prop where
  lower_le : b.lower.val ≤ r
  le_upper : r ≤ b.upper.val
  even_of_end : r = b.lower.val ∨ r = b.upper.val → b.mant % 2 = 0

theorem Binary.val_upper (b : Binary) : b.upper.val = (b.mant + 1 / 2) * 2 ^ b.exp := by
  rw [Binary.upper, val_ofBinary, zpow_sub₀ two_ne_zero]
  push_cast
  ring

/-- The lower end is a quarter of a unit below when the binade starts at the
significand, half a unit otherwise. -/
theorem Binary.val_lower (b : Binary) (hm : 0 < b.mant) :
    b.lower.val = (b.mant - if b.narrowBelow then 1 / 4 else 1 / 2) * 2 ^ b.exp := by
  unfold Binary.lower
  split
  · rw [val_ofBinary, zpow_sub₀ two_ne_zero, Nat.cast_sub (by omega)]
    push_cast
    ring
  · rw [val_ofBinary, zpow_sub₀ two_ne_zero, Nat.cast_sub (by omega)]
    push_cast
    ring

/-! ## Rounding a quotient to nearest, ties to even -/

section DivRoundEven

variable {num den k : Nat}

/-- The rounded quotient is at least `k` when the quotient is at least
`k - 1/2`, and at exactly `k - 1/2` only when `k` is even. -/
theorem le_divRoundEven (hd : 0 < den) (h : 2 * k * den ≤ 2 * num + den)
    (ht : 2 * k * den = 2 * num + den → k % 2 = 0) : k ≤ divRoundEven num den := by
  have hdiv := Nat.div_add_mod num den
  have hr := Nat.mod_lt num hd
  unfold divRoundEven
  dsimp only
  generalize num / den = q at *
  generalize num % den = r at *
  split
  · -- the remainder is below half: the quotient is kept
    by_contra hk
    have : (q + 1) * den ≤ k * den := Nat.mul_le_mul_right den (by omega)
    nlinarith
  · split
    · -- above half: one more
      by_contra hk
      have : (q + 2) * den ≤ k * den := Nat.mul_le_mul_right den (by omega)
      nlinarith
    · -- exactly half: the even neighbour
      have hk : k * den ≤ (q + 1) * den := by nlinarith
      have hk' : k ≤ q + 1 := Nat.le_of_mul_le_mul_right hk hd
      split
      · by_contra hlt
        have hkq : k = q + 1 := by omega
        have := ht (by subst hkq; nlinarith)
        omega
      · omega

/-- The rounded quotient is at most `k` when the quotient is at most
`k + 1/2`, and at exactly `k + 1/2` only when `k` is even. -/
theorem divRoundEven_le (hd : 0 < den) (h : 2 * num ≤ (2 * k + 1) * den)
    (ht : 2 * num = (2 * k + 1) * den → k % 2 = 0) : divRoundEven num den ≤ k := by
  have hdiv := Nat.div_add_mod num den
  have hr := Nat.mod_lt num hd
  unfold divRoundEven
  dsimp only
  generalize num / den = q at *
  generalize num % den = r at *
  split
  · by_contra hk
    have : (k + 1) * den ≤ q * den := Nat.mul_le_mul_right den (by omega)
    linarith
  · split
    · by_contra hk
      have : k * den ≤ q * den := Nat.mul_le_mul_right den (by omega)
      linarith
    · have hk : q * den ≤ k * den := by nlinarith
      have hk' : q ≤ k := Nat.le_of_mul_le_mul_right hk hd
      split
      · exact hk'
      · by_contra hlt
        have hkq : k = q := by omega
        have := ht (by subst hkq; nlinarith)
        omega

end DivRoundEven

/-! ## Near a whole number -/

/-- `q` lies in the rounding interval of the whole number `m`: at most `below`
under it and at most half a unit over it, at an end only when `m` is even. -/
structure Near (q : ℚ) (m : Nat) (below : ℚ) : Prop where
  lower_le : m - below ≤ q
  le_upper : q ≤ m + 1 / 2
  even_of_end : q = m - below ∨ q = m + 1 / 2 → m % 2 = 0

theorem Near.widen {q below : ℚ} {m : Nat} (h : Near q m below) (hb : below ≤ 1 / 2) : Near q m (1 / 2) where
  lower_le := by linarith [h.lower_le]
  le_upper := h.le_upper
  even_of_end := by
    rintro (hq | hq)
    · -- half a unit under is only reached when it is the interval's own end
      have hb' : below = 1 / 2 := by linarith [h.lower_le]
      exact h.even_of_end (.inl (by rw [hq, hb']))
    · exact h.even_of_end (.inr hq)

/-! ## The same bounds on rationals -/

section Ratio

variable {N D k : Nat}

theorem two_mul_le_iff (hD : 0 < D) : 2 * k * D ≤ 2 * N + D ↔ (k : ℚ) - 1 / 2 ≤ N / D := by
  have hD' : (0 : ℚ) < D := by exact_mod_cast hD
  rw [le_div_iff₀ hD', ← @Nat.cast_le ℚ]
  push_cast
  constructor <;> intro h <;> linarith

theorem two_mul_eq_iff (hD : 0 < D) : 2 * k * D = 2 * N + D ↔ (N : ℚ) / D = k - 1 / 2 := by
  have hD' : (0 : ℚ) < D := by exact_mod_cast hD
  rw [div_eq_iff hD'.ne', ← @Nat.cast_inj ℚ]
  push_cast
  constructor <;> intro h <;> linarith

theorem le_two_mul_iff (hD : 0 < D) : 2 * N ≤ (2 * k + 1) * D ↔ (N : ℚ) / D ≤ k + 1 / 2 := by
  have hD' : (0 : ℚ) < D := by exact_mod_cast hD
  rw [div_le_iff₀ hD', ← @Nat.cast_le ℚ]
  push_cast
  constructor <;> intro h <;> linarith

theorem eq_two_mul_iff (hD : 0 < D) : 2 * N = (2 * k + 1) * D ↔ (N : ℚ) / D = k + 1 / 2 := by
  have hD' : (0 : ℚ) < D := by exact_mod_cast hD
  rw [div_eq_iff hD'.ne', ← @Nat.cast_inj ℚ]
  push_cast
  constructor <;> intro h <;> linarith

theorem divRoundEven_eq_of_near (hD : 0 < D) (h : Near ((N : ℚ) / D) k (1 / 2)) : divRoundEven N D = k :=
  le_antisymm
    (divRoundEven_le hD ((le_two_mul_iff hD).mpr h.le_upper)
      fun he => h.even_of_end (.inr ((eq_two_mul_iff hD).mp he)))
    (le_divRoundEven hD ((two_mul_le_iff hD).mpr h.lower_le)
      fun he => h.even_of_end (.inl ((two_mul_eq_iff hD).mp he)))

end Ratio

/-! ## The reader's steps -/

/-- The quotient `num / den · 2^(shift - e)` rounded to nearest, ties to even:
the significand the reader tries at the binary exponent `e`. -/
def roundAt (num den : Nat) (shift e : Int) : Nat :=
  if 0 ≤ shift - e then divRoundEven (num * Nat.pow 2 (shift - e).toNat) den
  else divRoundEven num (den * Nat.pow 2 (-(shift - e)).toNat)

/-- The reader's first guess at the exponent, from the bit lengths of the
numerator and the denominator, never below the least exponent. -/
def startExp (num den : Nat) (shift : Int) : Int :=
  max ((num.log2 : Int) - den.log2 - 53 + shift) (-1074)

/-- The significand and exponent the reader settles on from its first guess:
one exponent up when the rounded significand has 54 bits, and once more when
that rounds up to a power of two. -/
def settle (num den : Nat) (shift e : Int) : Nat × Int :=
  let q := roundAt num den shift e
  let (q, e) := if q ≥ 9007199254740992 then (roundAt num den shift (e + 1), e + 1) else (q, e)
  if q ≥ 9007199254740992 then (q / 2, e + 1) else (q, e)

/-- The double with this significand and exponent; infinity past the largest exponent. -/
def place : Nat × Int → Float
  | (q, e) =>
    if e > 971 then ofFields false 2047 0
    else if q < 4503599627370496 then ofFields false 0 q
    else ofFields false (e + 1075).toNat (q - 4503599627370496)

theorem ofRatio_eq_place (num den : Nat) (shift : Int) :
    ofRatio num den shift = place (settle num den shift (startExp num den shift)) := by
  unfold ofRatio settle startExp roundAt
  dsimp only
  split <;> (split <;> rfl)

/-- The ratio's significand at the binary exponent `e`: `num / den · 2^(shift - e)`. -/
def quotientAt (num den : Nat) (shift e : Int) : ℚ := num / den * 2 ^ (shift - e)

theorem quotientAt_eq_mul (num den : Nat) (shift e e' : Int) :
    quotientAt num den shift e' = quotientAt num den shift e * 2 ^ (e - e') := by
  unfold quotientAt
  rw [mul_assoc, ← zpow_add₀ two_ne_zero]
  ring_nf

theorem quotientAt_nonneg (num den : Nat) (shift e : Int) : 0 ≤ quotientAt num den shift e := by
  unfold quotientAt
  positivity

section RoundAt

variable {num den k : Nat} {shift e : Int}

theorem roundAt_spec (hd : 0 < den) :
    ∃ N D, 0 < D ∧ roundAt num den shift e = divRoundEven N D ∧ (N : ℚ) / D = quotientAt num den shift e := by
  unfold roundAt quotientAt
  split
  · next hk =>
    refine ⟨num * Nat.pow 2 (shift - e).toNat, den, hd, rfl, ?_⟩
    have h2 : (2 : ℚ) ^ (shift - e) = 2 ^ (shift - e).toNat := by
      rw [← zpow_natCast, Int.toNat_of_nonneg hk]
    rw [h2]
    push_cast [Nat.pow_eq]
    ring
  · next hk =>
    refine ⟨num, den * Nat.pow 2 (-(shift - e)).toNat, Nat.mul_pos hd (Nat.pow_pos two_pos), rfl, ?_⟩
    have h2 : (2 : ℚ) ^ (shift - e) = ((2 : ℚ) ^ (-(shift - e)).toNat)⁻¹ := by
      rw [← zpow_natCast, Int.toNat_of_nonneg (by omega), zpow_neg, inv_inv]
    rw [h2]
    push_cast [Nat.pow_eq]
    field_simp

theorem le_roundAt (hd : 0 < den) (h : (k : ℚ) - 1 / 2 ≤ quotientAt num den shift e)
    (ht : quotientAt num den shift e = k - 1 / 2 → k % 2 = 0) : k ≤ roundAt num den shift e := by
  obtain ⟨N, D, hD, hr, hq⟩ := @roundAt_spec num den shift e hd
  rw [hr]
  rw [← hq] at h ht
  exact le_divRoundEven hD ((two_mul_le_iff hD).mpr h) fun h => ht ((two_mul_eq_iff hD).mp h)

theorem roundAt_eq_of_near (hd : 0 < den) (h : Near (quotientAt num den shift e) k (1 / 2)) :
    roundAt num den shift e = k := by
  obtain ⟨N, D, hD, hr, hq⟩ := @roundAt_spec num den shift e hd
  rw [hr]
  rw [← hq] at h
  exact divRoundEven_eq_of_near hD h

end RoundAt

/-- At the reader's first guess the quotient has 53 or 54 bits. -/
theorem quotient_at_guess {num den : Nat} (shift : Int) (hn : 0 < num) (hd : 0 < den) :
    2 ^ 52 < quotientAt num den shift ((num.log2 : Int) - den.log2 - 53 + shift) ∧
      quotientAt num den shift ((num.log2 : Int) - den.log2 - 53 + shift) < 2 ^ 54 := by
  -- the bit lengths bound both: `2^a ≤ num < 2^(a+1)` and `2^b ≤ den < 2^(b+1)`
  have hnum1 : ((2 ^ num.log2 : Nat) : ℚ) ≤ num := by exact_mod_cast Nat.log2_self_le hn.ne'
  have hnum2 : (num : ℚ) < 2 * (2 ^ num.log2 : Nat) := by
    have := Nat.lt_log2_self (n := num)
    rw [Nat.pow_succ] at this
    exact_mod_cast (by omega : num < 2 * 2 ^ num.log2)
  have hden1 : ((2 ^ den.log2 : Nat) : ℚ) ≤ den := by exact_mod_cast Nat.log2_self_le hd.ne'
  have hden2 : (den : ℚ) < 2 * (2 ^ den.log2 : Nat) := by
    have := Nat.lt_log2_self (n := den)
    rw [Nat.pow_succ] at this
    exact_mod_cast (by omega : den < 2 * 2 ^ den.log2)
  have hexp : shift - ((num.log2 : Int) - den.log2 - 53 + shift) = ((den.log2 : Nat) : Int) + 53 - (num.log2 : Nat) := by
    ring
  unfold quotientAt
  rw [hexp, zpow_sub₀ two_ne_zero, zpow_add₀ two_ne_zero, zpow_natCast, zpow_natCast]
  push_cast at hnum1 hnum2 hden1 hden2
  have hP : (0 : ℚ) < 2 ^ num.log2 := by positivity
  have hQ : (0 : ℚ) < 2 ^ den.log2 := by positivity
  have hD : (0 : ℚ) < den := by exact_mod_cast hd
  rw [div_mul_div_comm, mul_comm (num : ℚ)]
  constructor
  · rw [lt_div_iff₀ (by positivity)]
    nlinarith
  · rw [div_lt_iff₀ (by positivity)]
    nlinarith

section Settle

variable {num den : Nat} {shift e : Int} {m : Nat}

theorem settle_of_fits (hq : roundAt num den shift e = m) (hm : m < 2 ^ 53) :
    settle num den shift e = (m, e) := by
  unfold settle
  simp only [hq, show ¬(m ≥ 9007199254740992) by omega, if_false]

theorem settle_of_carry (hq : 2 ^ 53 ≤ roundAt num den shift e) (hq' : roundAt num den shift (e + 1) = m)
    (hm : m < 2 ^ 53) : settle num den shift e = (m, e + 1) := by
  unfold settle
  simp only [show roundAt num den shift e ≥ 9007199254740992 by omega, if_true, hq',
    show ¬(m ≥ 9007199254740992) by omega, if_false]

theorem settle_of_double_carry (hq : 2 ^ 53 ≤ roundAt num den shift e)
    (hq' : roundAt num den shift (e + 1) = 2 ^ 53) : settle num den shift e = (2 ^ 52, e + 1 + 1) := by
  unfold settle
  simp only [show roundAt num den shift e ≥ 9007199254740992 by omega, if_true, hq']
  rfl

end Settle

theorem place_normal {m : Nat} {e : Int} (he : e ≤ 971) (hm : 2 ^ 52 ≤ m) :
    place (m, e) = ofFields false (e + 1075).toNat (m - 2 ^ 52) := by
  simp only [place, show ¬(e > 971) by omega, show ¬(m < 4503599627370496) by omega, if_false]
  rfl

theorem place_subnormal {m : Nat} {e : Int} (he : e ≤ 971) (hm : m < 2 ^ 52) :
    place (m, e) = ofFields false 0 m := by
  simp only [place, show ¬(e > 971) by omega, show m < 4503599627370496 by omega, if_false, if_true]

/-! ## The reader settles on the double's significand -/

section Settled

variable {num den m : Nat} {shift : Int}

/-- A quotient near a significand below `2^52` at the least exponent is a
subnormal double: the first guess is below the least exponent, which is where
the reader starts. -/
theorem settle_subnormal (hn : 0 < num) (hd : 0 < den) (hm : m < 2 ^ 52)
    (h : Near (quotientAt num den shift (-1074)) m (1 / 2)) :
    settle num den shift (startExp num den shift) = (m, -1074) := by
  have hguess := (quotient_at_guess shift hn hd).1
  have hbelow : ((num.log2 : Int) - den.log2 - 53 + shift) < -1074 := by
    by_contra hge
    -- at an exponent at least the least one the quotient is no larger
    have hq := quotientAt_eq_mul num den shift (-1074) ((num.log2 : Int) - den.log2 - 53 + shift)
    have hpow : (2 : ℚ) ^ ((-1074 : Int) - ((num.log2 : Int) - den.log2 - 53 + shift)) ≤ 1 :=
      zpow_le_one_of_nonpos₀ one_le_two (by omega)
    have hm' : (m : ℚ) + 1 / 2 < 2 ^ 52 := by
      have : (m : ℚ) + 1 ≤ 2 ^ 52 := by exact_mod_cast Nat.succ_le_of_lt hm
      linarith
    have h0 := quotientAt_nonneg num den shift (-1074)
    nlinarith [h.le_upper]
  have hs : startExp num den shift = -1074 := by
    unfold startExp
    omega
  rw [hs]
  exact settle_of_fits (roundAt_eq_of_near hd h) (by omega)

/-- A quotient near a 53-bit significand at exponent `X` is that normal double:
the first guess is at most two below `X` (two only for `2^52` with the interval
reaching a quarter below), and each step up lands on `X`. -/
theorem settle_normal {X : Int} (hn : 0 < num) (hd : 0 < den) (hm1 : 2 ^ 52 ≤ m) (hm2 : m < 2 ^ 53)
    (hX : -1074 ≤ X) (h : Near (quotientAt num den shift X) m (1 / 2))
    (hlow : X = -1074 ∨ 2 ^ 52 - 1 / 4 ≤ quotientAt num den shift X) :
    settle num den shift (startExp num den shift) = (m, X) := by
  obtain ⟨hguess1, hguess2⟩ := quotient_at_guess shift hn hd
  set g : Int := (num.log2 : Int) - den.log2 - 53 + shift with hg
  set q := quotientAt num den shift X with hq
  have hm1' : (2 : ℚ) ^ 52 ≤ m := by exact_mod_cast hm1
  have hm2' : (m : ℚ) + 1 ≤ 2 ^ 53 := by exact_mod_cast hm2
  have hqlo : (2 : ℚ) ^ 52 - 1 / 2 ≤ q := by linarith [h.lower_le]
  have hqhi : q ≤ (2 : ℚ) ^ 53 - 1 / 2 := by linarith [h.le_upper]
  have hqg : quotientAt num den shift g = q * 2 ^ (X - g) := quotientAt_eq_mul num den shift X g
  -- the guess is within two below `X`
  have hg1 : X - 2 ≤ g := by
    by_contra hlt
    have hpow : (8 : ℚ) ≤ 2 ^ (X - g) := by
      calc (8 : ℚ) = 2 ^ (3 : Int) := by norm_num
        _ ≤ 2 ^ (X - g) := zpow_le_zpow_right₀ one_le_two (by omega)
    nlinarith
  have hg2 : g ≤ X := by
    by_contra hlt
    have hpow : (2 : ℚ) ^ (X - g) ≤ 1 / 2 := by
      calc (2 : ℚ) ^ (X - g) ≤ 2 ^ (-1 : Int) := zpow_le_zpow_right₀ one_le_two (by omega)
        _ = 1 / 2 := by norm_num
    nlinarith
  have hs : startExp num den shift = max g (-1074) := rfl
  rw [hs]
  rcases (by omega : max g (-1074) = X ∨ max g (-1074) = X - 1 ∨ max g (-1074) = X - 2) with he | he | he
  · rw [he]
    exact settle_of_fits (roundAt_eq_of_near hd h) hm2
  · -- one bit too many at `X - 1`
    have hq4 : 2 ^ 52 - 1 / 4 ≤ q := hlow.resolve_left (by omega)
    have hq1 : quotientAt num den shift (X - 1) = 2 * q := by
      rw [quotientAt_eq_mul num den shift X (X - 1), sub_sub_cancel, zpow_one, mul_comm]
    have hcarry : 2 ^ 53 ≤ roundAt num den shift (X - 1) :=
      le_roundAt hd (by rw [hq1]; push_cast; linarith) fun _ => by norm_num
    have hsettle := settle_of_carry hcarry (by rw [sub_add_cancel]; exact roundAt_eq_of_near hd h) hm2
    rw [he, hsettle, sub_add_cancel]
  · -- two bits too many at `X - 2`: the significand is `2^52`
    have hgX : g = X - 2 := by omega
    have hq4 : 2 ^ 52 - 1 / 4 ≤ q := hlow.resolve_left (by omega)
    have hq2 : quotientAt num den shift (X - 2) = 4 * q := by
      rw [quotientAt_eq_mul num den shift X (X - 2), sub_sub_cancel]
      norm_num
      ring
    have hq1 : quotientAt num den shift (X - 1) = 2 * q := by
      rw [quotientAt_eq_mul num den shift X (X - 1), sub_sub_cancel, zpow_one, mul_comm]
    have hqm : q < 2 ^ 52 := by
      rw [hgX] at hguess2
      linarith
    have hm : m = 2 ^ 52 := by
      have : (m : ℚ) < 2 ^ 52 + 1 := by linarith [h.lower_le]
      have : m < 2 ^ 52 + 1 := by exact_mod_cast this
      omega
    have hnear : Near (quotientAt num den shift (X - 2 + 1)) (2 ^ 53) (1 / 2) := by
      rw [show X - 2 + 1 = X - 1 by ring, hq1]
      refine ⟨by push_cast; linarith, by push_cast; linarith, fun _ => by norm_num⟩
    rw [he, settle_of_double_carry (le_roundAt hd (by rw [hq2]; push_cast; linarith) fun _ => by norm_num)
      (roundAt_eq_of_near hd hnear), hm]
    congr 1
    ring

end Settled

theorem Binary.Rounds.near {b : Binary} {num den : Nat} {shift : Int} (hm : 0 < b.mant)
    (h : b.Rounds ((num : ℚ) / den * 2 ^ shift)) :
    Near (quotientAt num den shift b.exp) b.mant (if b.narrowBelow then 1 / 4 else 1 / 2) := by
  have hX : (num : ℚ) / den * 2 ^ shift = quotientAt num den shift b.exp * 2 ^ b.exp := by
    unfold quotientAt
    rw [mul_assoc, ← zpow_add₀ two_ne_zero, sub_add_cancel]
  have hpos : (0 : ℚ) < 2 ^ b.exp := by positivity
  have hlo := h.lower_le
  have hhi := h.le_upper
  rw [Binary.val_lower b hm, hX] at hlo
  rw [Binary.val_upper, hX] at hhi
  refine ⟨le_of_mul_le_mul_right hlo hpos, le_of_mul_le_mul_right hhi hpos, fun hend => h.even_of_end ?_⟩
  rw [Binary.val_lower b hm, Binary.val_upper, hX]
  rcases hend with he | he
  · exact .inl (by rw [he])
  · exact .inr (by rw [he])

/-- **Reading a ratio rounds it to nearest.**  Every positive rational in the
rounding interval of a finite, non-zero double is read as that double. -/
theorem ofRatio_eq_ofFields {num den biased fraction : Nat} (shift : Int) (hn : 0 < num) (hd : 0 < den)
    (hb : biased < 2047) (hf : fraction < 2 ^ 52) (hnz : biased ≠ 0 ∨ fraction ≠ 0)
    (hr : (Binary.ofFields biased fraction).Rounds ((num : ℚ) / den * 2 ^ shift)) :
    ofRatio num den shift = ofFields false biased fraction := by
  rw [ofRatio_eq_place]
  by_cases h0 : biased = 0
  · -- a subnormal double: half a unit on either side at the least exponent
    have hb0 : Binary.ofFields biased fraction = ⟨fraction, -1074, false⟩ := by
      rw [Binary.ofFields, if_pos h0]
    have hpos : 0 < fraction := by omega
    have hnear := hr.near (by rw [hb0]; exact hpos)
    rw [hb0] at hnear
    simp only [Bool.false_eq_true, if_false] at hnear
    rw [settle_subnormal hn hd hf hnear, place_subnormal (by norm_num) hf, h0]
  · -- a normal double: the implicit bit makes the significand 53 bits long
    have hb0 : Binary.ofFields biased fraction =
        ⟨fraction + 2 ^ 52, (biased : Int) - 1075, decide (fraction = 0 ∧ biased > 1)⟩ := by
      rw [Binary.ofFields, if_neg h0]
      rfl
    have hnear := hr.near (by rw [hb0]; positivity)
    rw [hb0] at hnear
    dsimp only at hnear
    have hlow : (biased : Int) - 1075 = -1074 ∨
        2 ^ 52 - 1 / 4 ≤ quotientAt num den shift ((biased : Int) - 1075) := by
      by_cases h1 : biased = 1
      · exact .inl (by omega)
      · right
        have hlo := hnear.lower_le
        by_cases hf0 : fraction = 0
        · -- the binade starts here: the interval reaches a quarter below
          simp only [hf0, show biased > 1 by omega, and_self, decide_true, if_true] at hlo
          push_cast at hlo
          linarith
        · have : (1 : ℚ) ≤ fraction := by exact_mod_cast (by omega : 1 ≤ fraction)
          split at hlo <;> (push_cast at hlo; linarith)
    have hwide := hnear.widen (by split <;> norm_num)
    have hexp : ((biased : Int) - 1075 + 1075).toNat = biased := by omega
    have hfrac : fraction + 2 ^ 52 - 2 ^ 52 = fraction := by omega
    rw [settle_normal hn hd (by omega) (by omega) (by omega) hwide hlow,
      place_normal (by omega) (by omega), hexp, hfrac]

end Decimal
end JuryCaptions
