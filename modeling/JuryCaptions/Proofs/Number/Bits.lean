import JuryCaptions.Number.Read
import JuryCaptions.Time.Duration
import Mathlib
/-!
The bits of a double: a sign bit, an 11-bit exponent and a 52-bit fraction
(`Decimal.fields`). Packing what Lean's model of a double unpacked gives the
same word, not-a-number excepted, so `Decimal.ofFields` has exactly its fields.
Zero, infinity and not-a-number are read off the fields, and doubles are
ordered as their ranks.
-/

namespace JuryCaptions
namespace Decimal

open Float.Model Float.Model.UnpackedFloat

/-! ## Fields of a word -/

section Fields

variable (b : BitVec 64)

theorem toNat_unpackMantissa : (@unpackMantissa Format.binary64 b).toNat = b.toNat % 2 ^ 52 := by
  simp [unpackMantissa]

theorem toNat_unpackExponent :
    (@unpackExponent Format.binary64 b).toNat = b.toNat / 2 ^ 52 % 2 ^ 11 := by
  simp [unpackExponent, Nat.shiftRight_eq_div_pow]

theorem toNat_unpackSign : (@unpackSign Format.binary64 b).toNat = b.toNat / 2 ^ 63 := by
  have := b.isLt
  simp [unpackSign, Nat.shiftRight_eq_div_pow] at *
  omega

theorem toNat_packComponents (s : Sign) (e : BitVec 11) (m : BitVec 52) :
    (packComponents Format.binary64 s e m).toNat = s.toBitVec.toNat * 2 ^ 63 + e.toNat * 2 ^ 52 + m.toNat := by
  simp only [packComponents, BitVec.toNat_append]
  rw [← Nat.shiftLeft_add_eq_or_of_lt m.isLt, ← Nat.shiftLeft_add_eq_or_of_lt e.isLt]
  simp only [Nat.shiftLeft_eq]
  omega

theorem toBitVec_ofBitVec (v : BitVec 1) : (Sign.ofBitVec v).toBitVec = v := by
  unfold Sign.ofBitVec
  split
  · next h => rw [h]; rfl
  · next h =>
    have h1 : v = 1#1 := by
      have := v.isLt
      have h' : v.toNat ≠ 0 := fun h0 => h (BitVec.eq_of_toNat_eq h0)
      apply BitVec.eq_of_toNat_eq
      simp
      omega
    rw [h1]
    rfl

theorem packComponents_unpack :
    packComponents Format.binary64 (Sign.ofBitVec (@unpackSign Format.binary64 b))
      (@unpackExponent Format.binary64 b) (@unpackMantissa Format.binary64 b) = b := by
  apply BitVec.eq_of_toNat_eq
  rw [toNat_packComponents, toBitVec_ofBitVec, toNat_unpackSign, toNat_unpackExponent, toNat_unpackMantissa]
  have := b.isLt
  simp at this
  omega

end Fields

/-! ## Packing what was unpacked -/

/-- The bits of a double that is no other not-a-number than the canonical one:
every word but the other not-a-number words. -/
theorem valid_of_exponent {b : BitVec 64} (he : b.toNat / 2 ^ 52 % 2 ^ 11 ≠ 2047) :
    Format.binary64.Valid b :=
  ⟨fun h => absurd (by rw [← toNat_unpackExponent, h]; rfl) he⟩

theorem pack_unpack (b : BitVec 64) (hb : Format.binary64.Valid b) :
    UnpackedFloat.pack Format.binary64 (UnpackedFloat.unpack Format.binary64 b) = b := by
  have h := packComponents_unpack b
  have hEl : (@unpackExponent Format.binary64 b).toNat < 2 ^ 11 := (@unpackExponent Format.binary64 b).isLt
  have hMl : (@unpackMantissa Format.binary64 b).toNat < 2 ^ 52 := (@unpackMantissa Format.binary64 b).isLt
  unfold UnpackedFloat.unpack
  dsimp only
  split
  · next he =>
    split
    · next hm =>
      rw [he, hm] at h
      exact h
    · next hm => exact (hb.eq_packedNaN he hm).symm
  · next he =>
    split
    · next he0 =>
      rw [he0] at h
      split
      · next hm =>
        rw [hm] at h
        exact h
      · next hm =>
        -- a subnormal: the exponent field is zero and the fraction is the significand
        have hE0 : (@unpackExponent Format.binary64 b).toNat = 0 := by rw [he0]; rfl
        have hM0 : (@unpackMantissa Format.binary64 b).toNat ≠ 0 := fun h0 => hm (BitVec.eq_of_toNat_eq h0)
        have hlog : (@unpackMantissa Format.binary64 b).toNat.log2 < 52 := (Nat.log2_lt hM0).2 hMl
        simp only [UnpackedFloat.pack, hE0, Format.exponentBias, Format.mantissaBits]
        rw [if_neg (by decide), if_neg (by omega), BitVec.ofNat_toNat, BitVec.setWidth_eq]
        exact h
    · next he0 =>
      -- a normal double: the significand carries the implicit bit above the fraction
      have hE1 : (@unpackExponent Format.binary64 b).toNat ≠ 2047 := fun h1 =>
        he (BitVec.eq_of_toNat_eq (by rw [h1]; rfl))
      have hE0 : (@unpackExponent Format.binary64 b).toNat ≠ 0 := fun h0 =>
        he0 (BitVec.eq_of_toNat_eq (by rw [h0]; rfl))
      have hsig : (1#1 ++ @unpackMantissa Format.binary64 b).toNat =
          2 ^ 52 + (@unpackMantissa Format.binary64 b).toNat := by
        rw [BitVec.toNat_append, ← Nat.shiftLeft_add_eq_or_of_lt hMl]
        simp [Nat.shiftLeft_eq]
      have hlog : (2 ^ 52 + (@unpackMantissa Format.binary64 b).toNat).log2 = 52 :=
        (Nat.log2_eq_iff (by omega)).2 ⟨by omega, by omega⟩
      have hbias : ((@unpackExponent Format.binary64 b).toNat - (((1023 : Nat) : Int) + ((52 : Nat) : Int)) +
          ((1023 : Nat) : Int) + ((52 : Nat) : Int)).toNat = (@unpackExponent Format.binary64 b).toNat := by
        omega
      have hmant : BitVec.ofNat 52 (2 ^ 52 + (@unpackMantissa Format.binary64 b).toNat) =
          @unpackMantissa Format.binary64 b := by
        apply BitVec.eq_of_toNat_eq
        simp only [BitVec.toNat_ofNat]
        omega
      simp only [UnpackedFloat.pack, Format.exponentBias, Format.mantissaBits, hsig,
        show (2 : Nat) ^ (11 - 1) - 1 = 1023 from rfl, hbias]
      rw [if_neg (by omega), if_pos (by omega), BitVec.ofNat_toNat, BitVec.setWidth_eq, hmant]
      exact h

theorem toBits_ofBits {u : UInt64} (he : u.toNat / 2 ^ 52 % 2 ^ 11 ≠ 2047) : (Float.ofBits u).toBits = u := by
  have h := pack_unpack u.toBitVec (valid_of_exponent he)
  simp only [Float.ofBits, Float.toBits, Float.Model.ofBits, Float.Model.pack]
  rw [h]

theorem unpack_neg {b b' : BitVec 64}
    (he : @unpackExponent Format.binary64 b' = @unpackExponent Format.binary64 b)
    (hm : @unpackMantissa Format.binary64 b' = @unpackMantissa Format.binary64 b)
    (hs : Sign.ofBitVec (@unpackSign Format.binary64 b') =
      -Sign.ofBitVec (@unpackSign Format.binary64 b)) :
    UnpackedFloat.unpack Format.binary64 b' = (UnpackedFloat.unpack Format.binary64 b).neg := by
  unfold UnpackedFloat.unpack
  simp only [he, hm, hs]
  split
  · split <;> rfl
  · split
    · split <;> rfl
    · rfl

/-! ## What the printer and the reader test -/

theorem compare_zero_eq_iff (u : UnpackedFloat) :
    (u.compare (.zero .positive) == some .eq) = true ↔ ∃ s, u = .zero s := by
  cases u with
  | infinity s => cases s <;> simp [UnpackedFloat.compare]
  | notANumber => simp [UnpackedFloat.compare]
  | zero s => simp [UnpackedFloat.compare]
  | finite s m e hm => cases s <;> simp [UnpackedFloat.compare]

theorem unpack_eq_zero_iff (b : BitVec 64) :
    (∃ s, UnpackedFloat.unpack Format.binary64 b = .zero s) ↔
      b.toNat / 2 ^ 52 % 2 ^ 11 = 0 ∧ b.toNat % 2 ^ 52 = 0 := by
  have hE := toNat_unpackExponent b
  have hM := toNat_unpackMantissa b
  unfold UnpackedFloat.unpack
  dsimp only
  split
  · next he =>
    have h2047 : b.toNat / 2 ^ 52 % 2 ^ 11 = 2047 := by rw [← hE, he]; rfl
    split <;> (simp at h2047 ⊢; omega)
  · next he =>
    split
    · next he0 =>
      have h0 : b.toNat / 2 ^ 52 % 2 ^ 11 = 0 := by rw [← hE, he0]; rfl
      split
      · next hm =>
        have hm0 : b.toNat % 2 ^ 52 = 0 := by rw [← hM, hm]; rfl
        exact ⟨fun _ => ⟨h0, hm0⟩, fun _ => ⟨_, rfl⟩⟩
      · next hm =>
        have hm0 : b.toNat % 2 ^ 52 ≠ 0 := fun h => hm (BitVec.eq_of_toNat_eq (by rw [hM, h]; rfl))
        simp only [reduceCtorEq, exists_false, false_iff, not_and]
        exact fun _ => hm0
    · next he0 =>
      have h0 : b.toNat / 2 ^ 52 % 2 ^ 11 ≠ 0 := fun h => he0 (BitVec.eq_of_toNat_eq (by rw [hE, h]; rfl))
      simp only [reduceCtorEq, exists_false, false_iff, not_and]
      exact fun h => absurd h h0

theorem unpack_special_iff (b : BitVec 64) :
    ((UnpackedFloat.unpack Format.binary64 b).isNaN || (UnpackedFloat.unpack Format.binary64 b).isInf) = true ↔
      b.toNat / 2 ^ 52 % 2 ^ 11 = 2047 := by
  have hE := toNat_unpackExponent b
  unfold UnpackedFloat.unpack
  dsimp only
  split
  · next he =>
    have h2047 : b.toNat / 2 ^ 52 % 2 ^ 11 = 2047 := by rw [← hE, he]; rfl
    split <;> simpa [UnpackedFloat.isNaN, UnpackedFloat.isInf] using h2047
  · next he =>
    have h2047 : b.toNat / 2 ^ 52 % 2 ^ 11 ≠ 2047 := fun h => he (BitVec.eq_of_toNat_eq (by rw [hE, h]; rfl))
    simp only [h2047, iff_false]
    split
    · split <;> simp [UnpackedFloat.isNaN, UnpackedFloat.isInf]
    · simp [UnpackedFloat.isNaN, UnpackedFloat.isInf]

theorem unpack_zero : UnpackedFloat.unpack Format.binary64 (0 : Float).toBits.toBitVec = .zero .positive := rfl

/-- A double equals zero, in the IEEE sense, exactly when its exponent and
fraction fields are zero: the two signed zeros. -/
theorem beq_zero_iff (x : Float) : (x == 0) = true ↔ (fields x).2.1 = 0 ∧ (fields x).2.2 = 0 := by
  show ((UnpackedFloat.unpack Format.binary64 x.toBits.toBitVec).compare
    (UnpackedFloat.unpack Format.binary64 (0 : Float).toBits.toBitVec) == some .eq) = true ↔ _
  rw [unpack_zero, compare_zero_eq_iff, unpack_eq_zero_iff, UInt64.toNat_toBitVec]
  rfl

theorem isNaN_or_isInf_iff (x : Float) : (x.isNaN || x.isInf) = true ↔ (fields x).2.1 = 2047 := by
  show ((UnpackedFloat.unpack Format.binary64 x.toBits.toBitVec).isNaN ||
    (UnpackedFloat.unpack Format.binary64 x.toBits.toBitVec).isInf) = true ↔ _
  rw [unpack_special_iff, UInt64.toNat_toBitVec]
  rfl

theorem unpack_isInf_iff (b : BitVec 64) :
    (UnpackedFloat.unpack Format.binary64 b).isInf = true ↔
      b.toNat / 2 ^ 52 % 2 ^ 11 = 2047 ∧ b.toNat % 2 ^ 52 = 0 := by
  have hE := toNat_unpackExponent b
  have hM := toNat_unpackMantissa b
  unfold UnpackedFloat.unpack
  dsimp only
  split
  · next he =>
    have h2047 : b.toNat / 2 ^ 52 % 2 ^ 11 = 2047 := by rw [← hE, he]; rfl
    split
    · next hm =>
      have hm0 : b.toNat % 2 ^ 52 = 0 := by rw [← hM, hm]; rfl
      exact ⟨fun _ => ⟨h2047, hm0⟩, fun _ => rfl⟩
    · next hm =>
      have hm0 : b.toNat % 2 ^ 52 ≠ 0 := fun h => hm (BitVec.eq_of_toNat_eq (by rw [hM, h]; rfl))
      exact ⟨fun h => absurd h (by decide), fun h => absurd h.2 hm0⟩
  · next he =>
    have h2047 : b.toNat / 2 ^ 52 % 2 ^ 11 ≠ 2047 := fun h => he (BitVec.eq_of_toNat_eq (by rw [hE, h]; rfl))
    simp only [h2047, false_and, iff_false]
    split
    · split <;> simp [UnpackedFloat.isInf]
    · simp [UnpackedFloat.isInf]

theorem isInf_iff (x : Float) : x.isInf = true ↔ (fields x).2.1 = 2047 ∧ (fields x).2.2 = 0 := by
  show (UnpackedFloat.unpack Format.binary64 x.toBits.toBitVec).isInf = true ↔ _
  rw [unpack_isInf_iff, UInt64.toNat_toBitVec]
  rfl

theorem toNat_toBits_fields (x : Float) :
    x.toBits.toNat = (if (fields x).1 then 2 ^ 63 else 0) + (fields x).2.1 * 2 ^ 52 + (fields x).2.2 := by
  have := x.toBits.toNat_lt
  simp only [fields, decide_eq_true_eq]
  by_cases h : x.toBits.toNat / 9223372036854775808 = 1
  · rw [if_pos h]
    omega
  · rw [if_neg h]
    omega

/-! ## Doubles built from their fields -/

section OfFields

variable {biased fraction : Nat}

theorem toNat_ofNat_fields (neg : Bool) (hb : biased < 2047) (hf : fraction < 2 ^ 52) :
    (UInt64.ofNat ((if neg then 9223372036854775808 else 0) + biased * 4503599627370496 + fraction)).toNat =
      (if neg then 2 ^ 63 else 0) + biased * 2 ^ 52 + fraction := by
  rw [UInt64.toNat_ofNat']
  split <;> omega

theorem toBits_ofFields (neg : Bool) (hb : biased < 2047) (hf : fraction < 2 ^ 52) :
    (ofFields neg biased fraction).toBits.toNat = (if neg then 2 ^ 63 else 0) + biased * 2 ^ 52 + fraction := by
  unfold ofFields
  rw [toBits_ofBits (by rw [toNat_ofNat_fields neg hb hf]; split <;> omega), toNat_ofNat_fields neg hb hf]

theorem isNaN_or_isInf_ofFields (neg : Bool) (hb : biased < 2047) (hf : fraction < 2 ^ 52) :
    ((ofFields neg biased fraction).isNaN || (ofFields neg biased fraction).isInf) = false := by
  show ((UnpackedFloat.unpack Format.binary64 (ofFields neg biased fraction).toBits.toBitVec).isNaN ||
    (UnpackedFloat.unpack Format.binary64 (ofFields neg biased fraction).toBits.toBitVec).isInf) = false
  rw [Bool.eq_false_iff, ne_eq, unpack_special_iff, UInt64.toNat_toBitVec, toBits_ofFields neg hb hf]
  split <;> omega

theorem isInf_ofFields (neg : Bool) (hb : biased < 2047) (hf : fraction < 2 ^ 52) :
    (ofFields neg biased fraction).isInf = false :=
  (Bool.or_eq_false_iff.1 (isNaN_or_isInf_ofFields neg hb hf)).2

theorem isNaN_ofFields (neg : Bool) (hb : biased < 2047) (hf : fraction < 2 ^ 52) :
    (ofFields neg biased fraction).isNaN = false :=
  (Bool.or_eq_false_iff.1 (isNaN_or_isInf_ofFields neg hb hf)).1

theorem toBits_neg_ofFields (hb : biased < 2047) (hf : fraction < 2 ^ 52) :
    (-ofFields false biased fraction).toBits = (ofFields true biased fraction).toBits := by
  have hpos := toBits_ofFields false hb hf
  have hneg := toBits_ofFields true hb hf
  simp only [Bool.false_eq_true, if_false, if_true, Nat.zero_add] at hpos hneg
  let b := (ofFields false biased fraction).toBits.toBitVec
  let b' := (ofFields true biased fraction).toBits.toBitVec
  have hb' : b'.toNat = 2 ^ 63 + biased * 2 ^ 52 + fraction := by simp only [b', UInt64.toNat_toBitVec, hneg]
  have hb0 : b.toNat = biased * 2 ^ 52 + fraction := by simp only [b, UInt64.toNat_toBitVec, hpos]
  have hu : UnpackedFloat.unpack Format.binary64 b' = (UnpackedFloat.unpack Format.binary64 b).neg := by
    apply unpack_neg
    · apply BitVec.eq_of_toNat_eq
      rw [toNat_unpackExponent, toNat_unpackExponent, hb', hb0]
      omega
    · apply BitVec.eq_of_toNat_eq
      rw [toNat_unpackMantissa, toNat_unpackMantissa, hb', hb0]
      omega
    · have hs : @unpackSign Format.binary64 b = 0#1 := by
        apply BitVec.eq_of_toNat_eq
        rw [toNat_unpackSign, hb0]
        simp
        omega
      have hs' : @unpackSign Format.binary64 b' = 1#1 := by
        apply BitVec.eq_of_toNat_eq
        rw [toNat_unpackSign, hb']
        simp
        omega
      rw [hs, hs']
      rfl
  have hvalid : Format.binary64.Valid b' := valid_of_exponent (by rw [hb']; omega)
  show UInt64.ofBitVec (UnpackedFloat.pack Format.binary64 (UnpackedFloat.unpack Format.binary64 b).neg) = _
  rw [← hu, pack_unpack b' hvalid]

theorem isNaN_neg_ofFields (hb : biased < 2047) (hf : fraction < 2 ^ 52) :
    (-ofFields false biased fraction).isNaN = false := by
  show (UnpackedFloat.unpack Format.binary64 (-ofFields false biased fraction).toBits.toBitVec).isNaN = false
  rw [toBits_neg_ofFields hb hf]
  exact isNaN_ofFields true hb hf

end OfFields

end Decimal

/-! ## Truncating a double to a duration -/

namespace Duration
open Decimal

/-- The whole part of a finite double is below `2^63` exactly when its exponent
field is below 1086: from there on it is the significand, at least `2^52`,
shifted left by eleven bits or more. -/
theorem wholePart_lt_iff {biased fraction : Nat} (hf : fraction < 2 ^ 52) :
    (if biased = 0 then 0 else if 0 ≤ (Binary.ofFields biased fraction).exp then
      (Binary.ofFields biased fraction).mant * Nat.pow 2 (Binary.ofFields biased fraction).exp.toNat
      else (Binary.ofFields biased fraction).mant / Nat.pow 2 (-(Binary.ofFields biased fraction).exp).toNat) <
        9223372036854775808 ↔ biased < 1086 := by
  rw [show (2 : Nat) ^ 52 = 4503599627370496 by norm_num] at hf
  split
  · next h0 => exact iff_of_true (by decide) (by omega)
  · next h0 =>
    simp only [Binary.ofFields, if_neg h0, Nat.pow_eq]
    split
    · next he =>
      obtain ⟨k, hk, rfl⟩ : ∃ k : Nat, ((biased : Int) - 1075).toNat = k ∧ 1075 + k = biased := ⟨_, rfl, by omega⟩
      rw [hk]
      constructor
      · intro hlt
        by_contra hge
        have h11 : 2 ^ 11 ≤ 2 ^ k := Nat.pow_le_pow_right (by decide) (by omega)
        have := Nat.mul_le_mul (show 4503599627370496 ≤ fraction + 4503599627370496 by omega) h11
        rw [show (2 : Nat) ^ 11 = 2048 by norm_num] at this
        omega
      · intro hb
        have h10 : 2 ^ k ≤ 1024 := (Nat.pow_le_pow_right (by decide) (by omega : k ≤ 10)).trans (by norm_num)
        have := Nat.mul_le_mul_left (fraction + 4503599627370496) h10
        omega
    · next he =>
      exact iff_of_true (lt_of_le_of_lt (Nat.div_le_self _ _) (by omega)) (by omega)

/-- A double with a clear sign bit truncates to a non-negative duration exactly
when its exponent field is below 1086, below `2^63`; past it, infinity and
not-a-number included, to the least duration. -/
theorem truncFloat_nonneg_iff (x : Float) (hs : (Decimal.fields x).1 = false) :
    (0 ≤ truncFloat x ↔ (Decimal.fields x).2.1 < 1086) ∧ (truncFloat x < 0 → truncFloat x = least) := by
  have hlt : (Decimal.fields x).2.1 < 2048 ∧ (Decimal.fields x).2.2 < 2 ^ 52 := by
    simp only [Decimal.fields]
    omega
  have hspecial := Decimal.isNaN_or_isInf_iff x
  unfold truncFloat
  generalize Decimal.fields x = f at *
  obtain ⟨neg, biased, fraction⟩ := f
  simp only at hs hlt hspecial
  subst hs
  split
  · next h =>
    have h2047 : biased = 2047 := hspecial.1 (by simpa [Bool.or_eq_true] using h)
    exact ⟨iff_of_false (by decide) (by simp only; omega), fun _ => rfl⟩
  · next h =>
    have hmag := @wholePart_lt_iff biased fraction hlt.2
    simp only [Bool.false_eq_true, if_false]
    generalize (if biased = 0 then 0 else _) = mag at hmag ⊢
    by_cases hm : mag < 9223372036854775808
    · rw [if_pos ⟨by omega, by omega⟩]
      exact ⟨iff_of_true (by omega) (hmag.1 hm), fun h => by omega⟩
    · rw [if_neg (by omega)]
      exact ⟨iff_of_false (by decide) fun hb => hm (hmag.2 hb), fun _ => rfl⟩

end Duration
end JuryCaptions

/-! ## The order of doubles

A rank in `ℤ ×ₗ ℤ ×ₗ ℤ` for every unpacked float (`unpackedRank`) turns Lean's
comparison of doubles into that of ranks (`compare_unpackedRank`); the zeros
share one. Between numbers, `<`, `≤` and `==` are those of ranks (`lt_iff`,
`le_iff`, `beq_iff`), what a sort needs of its comparison.
-/

namespace JuryCaptions
namespace FloatOrder

open Float.Model Float.Model.UnpackedFloat

def unpackedRank : UnpackedFloat → ℤ ×ₗ ℤ ×ₗ ℤ
  | .infinity .negative => toLex (0, toLex (0, 0))
  | .finite .negative m e _ => toLex (1, toLex (-e, -(m : ℤ)))
  | .zero _ => toLex (2, toLex (0, 0))
  | .finite .positive m e _ => toLex (3, toLex (e, (m : ℤ)))
  | .infinity .positive => toLex (4, toLex (0, 0))
  | .notANumber => toLex (5, toLex (0, 0))

theorem compare_natCast (m n : ℕ) : compare (m : ℤ) n = compare m n := by
  rcases lt_trichotomy m n with h | rfl | h
  · rw [Int.compare_eq_lt.2 (by omega), Nat.compare_eq_lt.2 h]
  · rw [Int.compare_eq_eq.2 rfl, Nat.compare_eq_eq.2 rfl]
  · rw [Int.compare_eq_gt.2 (by omega), Nat.compare_eq_gt.2 h]

theorem compare_neg (a b : ℤ) : compare (-a) (-b) = compare b a := by
  rcases lt_trichotomy a b with h | rfl | h
  · rw [Int.compare_eq_gt.2 (by omega), Int.compare_eq_gt.2 h]
  · rw [Int.compare_eq_eq.2 rfl, Int.compare_eq_eq.2 rfl]
  · rw [Int.compare_eq_lt.2 (by omega), Int.compare_eq_lt.2 h]

theorem compare_unpackedRank {a b : UnpackedFloat} (ha : a.isNaN = false) (hb : b.isNaN = false) :
    a.compare b = some (compare (unpackedRank a) (unpackedRank b)) := by
  rcases a with ⟨_ | _⟩ | _ | ⟨_ | _⟩ | ⟨_ | _, m₁, e₁, h₁⟩ <;>
  rcases b with ⟨_ | _⟩ | _ | ⟨_ | _⟩ | ⟨_ | _, m₂, e₂, h₂⟩ <;>
  simp_all [UnpackedFloat.compare, unpackedRank, UnpackedFloat.isNaN, Prod.Lex.compare_def, compareLex,
    compareOn, compare_natCast, compare_neg, Ordering.swap_then, Int.compare_swap, Nat.compare_swap] <;>
  rfl

theorem eq_notANumber {u : UnpackedFloat} (h : u.isNaN = true) : u = .notANumber := by
  cases u <;> simp_all [UnpackedFloat.isNaN]

/-- Where a double stands on the number line: doubles compare as their ranks do,
the two zeros having one rank; not-a-number compares with nothing. -/
def rank (x : Float) : ℤ ×ₗ ℤ ×ₗ ℤ := unpackedRank x.toModel.unpack

theorem compare_eq (x y : Float) :
    x.toModel.unpack.compare y.toModel.unpack =
      if x.isNaN = false ∧ y.isNaN = false then some (compare (rank x) (rank y)) else none := by
  cases hx : x.isNaN
  · cases hy : y.isNaN
    · exact compare_unpackedRank hx hy
    · rw [eq_notANumber (u := y.toModel.unpack) hy]
      cases x.toModel.unpack <;> rfl
  · rw [eq_notANumber (u := x.toModel.unpack) hx]
    rfl

theorem lt_iff {x y : Float} : x < y ↔ x.isNaN = false ∧ y.isNaN = false ∧ rank x < rank y := by
  show decide (x.toModel.unpack.lt y.toModel.unpack = true) = true ↔ _
  rw [decide_eq_true_iff]
  rw [UnpackedFloat.lt, compare_eq]
  split <;> simp_all [compare_lt_iff_lt]

theorem le_iff {x y : Float} : x ≤ y ↔ x.isNaN = false ∧ y.isNaN = false ∧ rank x ≤ rank y := by
  show decide (x.toModel.unpack.le y.toModel.unpack = true) = true ↔ _
  rw [decide_eq_true_iff]
  rw [UnpackedFloat.le, compare_eq]
  split <;> simp_all [Ordering.isLE_iff_ne_gt, compare_gt_iff_gt]

theorem beq_iff {x y : Float} : (x == y) = true ↔ x.isNaN = false ∧ y.isNaN = false ∧ rank x = rank y := by
  show x.toModel.unpack.beq y.toModel.unpack = true ↔ _
  rw [UnpackedFloat.beq, compare_eq]
  split <;> simp_all [compare_eq_iff_eq]

variable {x y z : Float}

theorem not_lt_of_lt (h : x < y) : ¬ y < x := by
  rw [lt_iff] at h ⊢
  exact fun h' => lt_asymm h.2.2 h'.2.2

theorem not_lt_iff_le (hx : x.isNaN = false) (hy : y.isNaN = false) : ¬ y < x ↔ x ≤ y := by
  rw [lt_iff, le_iff]
  simp only [hx, hy, true_and, not_lt]

theorem not_lt_trans (hx : x.isNaN = false) (hy : y.isNaN = false) (hz : z.isNaN = false)
    (h₁ : ¬ y < x) (h₂ : ¬ z < y) : ¬ z < x := by
  rw [not_lt_iff_le hx hy] at h₁
  rw [not_lt_iff_le hy hz] at h₂
  rw [not_lt_iff_le hx hz, le_iff]
  exact ⟨hx, hz, le_trans (le_iff.1 h₁).2.2 (le_iff.1 h₂).2.2⟩

theorem not_lt_of_beq (hx : (x == z) = true) (hy : (y == z) = true) : ¬ y < x := by
  rw [beq_iff] at hx hy
  rw [lt_iff]
  rintro ⟨-, -, h⟩
  rw [hx.2.2, hy.2.2] at h
  exact lt_irrefl _ h

end FloatOrder
end JuryCaptions
