import JuryCaptions.Proofs.Number.Rounding
/-!
The shortest digits of a double read back as the double.

The printer compares exact decimals at the lower exponent (`Exact.compare_eq`)
and keeps a candidate only inside the rounding interval
(`Binary.rounds_of_readsBack`), so what it settles on is in the interval
(`Binary.rounds_shortest`) and reads back (`ofRatio_eq_ofFields`).
-/

namespace JuryCaptions
namespace Decimal

/-! ## Comparing exact decimals -/

theorem compare_cast_nat (m n : Nat) : compare (m : ℚ) (n : ℚ) = Ord.compare m n := by
  rcases lt_trichotomy m n with h | rfl | h
  · rw [compare_lt_iff_lt.2 h, compare_lt_iff_lt.2 (by exact_mod_cast h)]
  · rw [compare_eq_iff_eq.2 rfl, compare_eq_iff_eq.2 rfl]
  · rw [compare_gt_iff_gt.2 h, compare_gt_iff_gt.2 (by exact_mod_cast h)]

theorem compare_mul_right {x y t : ℚ} (ht : 0 < t) : compare (x * t) (y * t) = compare x y := by
  rcases lt_trichotomy x y with h | rfl | h
  · rw [compare_lt_iff_lt.2 h, compare_lt_iff_lt.2 (mul_lt_mul_of_pos_right h ht)]
  · rw [compare_eq_iff_eq.2 rfl, compare_eq_iff_eq.2 rfl]
  · rw [compare_gt_iff_gt.2 h, compare_gt_iff_gt.2 (mul_lt_mul_of_pos_right h ht)]

theorem Exact.compare_eq (a b : Exact) : a.compare b = Ord.compare a.val b.val := by
  unfold Exact.compare Exact.val
  split
  · next hab =>
    have hb : (b.coef : ℚ) * 10 ^ b.exp = ((b.coef * Nat.pow 10 (b.exp - a.exp).toNat : Nat) : ℚ) * 10 ^ a.exp := by
      push_cast [Nat.pow_eq]
      rw [mul_assoc, ← zpow_natCast, ← zpow_add₀ (by norm_num)]
      congr 2
      omega
    rw [hb, compare_mul_right (by positivity), compare_cast_nat]
  · next hab =>
    have ha : (a.coef : ℚ) * 10 ^ a.exp = ((a.coef * Nat.pow 10 (a.exp - b.exp).toNat : Nat) : ℚ) * 10 ^ b.exp := by
      push_cast [Nat.pow_eq]
      rw [mul_assoc, ← zpow_natCast, ← zpow_add₀ (by norm_num)]
      congr 2
      omega
    rw [ha, compare_mul_right (by positivity), compare_cast_nat]


theorem Binary.rounds_of_readsBack {b : Binary} {d : Exact} (h : b.readsBack d = true) : b.Rounds d.val := by
  unfold Binary.readsBack at h
  rw [Exact.compare_eq, Exact.compare_eq] at h
  split at h
  · exact absurd h (by simp)
  · exact absurd h (by simp)
  · next heq hgt =>
    -- on the lower end: it belongs to the interval when the significand is even
    have he : d.val = b.lower.val := compare_eq_iff_eq.1 heq
    have hle : d.val ≤ b.upper.val := le_of_not_gt fun hg => hgt (compare_gt_iff_gt.2 hg)
    exact ⟨he.ge, hle, fun _ => by simpa using h⟩
  · next heq hlt _ =>
    have he : d.val = b.upper.val := compare_eq_iff_eq.1 heq
    have hge : b.lower.val ≤ d.val := le_of_not_gt fun hl => hlt (compare_lt_iff_lt.2 hl)
    exact ⟨hge, he.le, fun _ => by simpa using h⟩
  · next hlt hleq hgt hueq =>
    have hge : b.lower.val ≤ d.val := le_of_not_gt fun hl => hlt (compare_lt_iff_lt.2 hl)
    have hle : d.val ≤ b.upper.val := le_of_not_gt fun hg => hgt (compare_gt_iff_gt.2 hg)
    refine ⟨hge, hle, fun hend => ?_⟩
    rcases hend with he | he
    · exact absurd (compare_eq_iff_eq.2 he) hleq
    · exact absurd (compare_eq_iff_eq.2 he) hueq

theorem Binary.rounds_value {b : Binary} (hm : 0 < b.mant) : b.Rounds b.value.val := by
  have hv : b.value.val = b.mant * 2 ^ b.exp := val_ofBinary b.mant b.exp
  have hpos : (0 : ℚ) < 2 ^ b.exp := by positivity
  have hlo : b.lower.val < b.value.val := by
    rw [Binary.val_lower b hm, hv]
    apply mul_lt_mul_of_pos_right _ hpos
    split <;> linarith
  have hhi : b.value.val < b.upper.val := by
    rw [Binary.val_upper, hv]
    apply mul_lt_mul_of_pos_right _ hpos
    linarith
  refine ⟨hlo.le, hhi.le, fun hend => ?_⟩
  rcases hend with he | he
  · exact absurd he hlo.ne'
  · exact absurd he hhi.ne

theorem Exact.val_trim (d : Exact) : d.trim.val = d.val := by
  suffices h : ∀ fuel (d : Exact), (Exact.trim.go fuel d).val = d.val from h _ d
  intro fuel
  induction fuel with
  | zero => intro d; rfl
  | succ fuel ih =>
    intro d
    unfold Exact.trim.go
    split
    · next hz =>
      rw [ih]
      obtain ⟨k, hk⟩ : ∃ k, d.coef = 10 * k := ⟨d.coef / 10, by omega⟩
      simp only [Exact.val, hk, Nat.mul_div_cancel_left k (by norm_num : 0 < 10)]
      rw [zpow_add_one₀ (by norm_num)]
      push_cast
      ring
    · rfl

theorem Binary.rounds_of_pick {b : Binary} {v : Exact} {count n : Nat} {d : Exact}
    (h : b.pick v count n = some d) : b.Rounds d.val := by
  unfold Binary.pick at h
  dsimp only at h
  split at h
  · next hlo hhi =>
    split at h
    · cases h; exact Binary.rounds_of_readsBack hlo
    · split at h
      · cases h; exact Binary.rounds_of_readsBack hhi
      · split at h
        · cases h; exact Binary.rounds_of_readsBack hlo
        · cases h; exact Binary.rounds_of_readsBack hhi
  · next hlo _ => cases h; exact Binary.rounds_of_readsBack hlo
  · next hhi => cases h; exact Binary.rounds_of_readsBack hhi
  · cases h

theorem Binary.rounds_go {b : Binary} {v : Exact} {count : Nat} (hv : b.Rounds v.trim.val) (fuel n : Nat) :
    b.Rounds (Binary.shortest.go b v count fuel n).val := by
  induction fuel generalizing n with
  | zero => exact hv
  | succ fuel ih =>
    unfold Binary.shortest.go
    split
    · exact hv
    · split
      · next d hd => rw [Exact.val_trim]; exact Binary.rounds_of_pick hd
      · exact ih (n + 1)

/-- **The shortest digits read back.**  The decimal the printer settles on lies
in the double's rounding interval. -/
theorem Binary.rounds_shortest {b : Binary} (hm : 0 < b.mant) : b.Rounds b.shortest.val :=
  Binary.rounds_go (by rw [Exact.val_trim]; exact Binary.rounds_value hm) _ _

/-! ## Where the interval of a finite double lies -/

theorem Binary.lower_ge (b : Binary) (hm : 0 < b.mant) : (b.mant - 1 / 2) * 2 ^ b.exp ≤ b.lower.val := by
  rw [Binary.val_lower b hm]
  apply mul_le_mul_of_nonneg_right _ (by positivity)
  split <;> linarith

section Bounds

variable {biased fraction : Nat}

theorem Binary.ofFields_mant_pos (hnz : biased ≠ 0 ∨ fraction ≠ 0) : 0 < (Binary.ofFields biased fraction).mant := by
  unfold Binary.ofFields
  split <;> (dsimp only; omega)

theorem Binary.ofFields_mant_lt (hf : fraction < 2 ^ 52) : (Binary.ofFields biased fraction).mant < 2 ^ 53 := by
  unfold Binary.ofFields
  split <;> (dsimp only; omega)

theorem Binary.ofFields_exp_ge : -1074 ≤ (Binary.ofFields biased fraction).exp := by
  unfold Binary.ofFields
  split <;> (dsimp only; omega)

theorem Binary.ofFields_exp_le (hb : biased < 2047) : (Binary.ofFields biased fraction).exp ≤ 971 := by
  unfold Binary.ofFields
  split <;> (dsimp only; omega)

/-- The interval of a finite, non-zero double lies above half the least
subnormal and below the first power of two that overflows. -/
theorem Binary.Rounds.bounds {r : ℚ} (hb : biased < 2047) (hf : fraction < 2 ^ 52) (hnz : biased ≠ 0 ∨ fraction ≠ 0)
    (h : (Binary.ofFields biased fraction).Rounds r) : (2 : ℚ) ^ (-1075 : Int) ≤ r ∧ r < 2 ^ 1024 := by
  set b := Binary.ofFields biased fraction
  have hm : (1 : ℚ) ≤ b.mant := by exact_mod_cast Binary.ofFields_mant_pos hnz
  have hm' : (b.mant : ℚ) + 1 / 2 < 2 ^ 53 := by
    have : b.mant + 1 ≤ 2 ^ 53 := Binary.ofFields_mant_lt hf
    have : ((b.mant + 1 : Nat) : ℚ) ≤ 2 ^ 53 := by exact_mod_cast this
    push_cast at this
    linarith
  have hlo : (2 : ℚ) ^ (-1075 : Int) ≤ b.lower.val := by
    calc (2 : ℚ) ^ (-1075 : Int) = 1 / 2 * 2 ^ (-1074 : Int) := by
          rw [show (-1075 : Int) = -1 + -1074 by norm_num, zpow_add₀ (by norm_num)]
          norm_num
      _ ≤ (b.mant - 1 / 2) * 2 ^ b.exp :=
          mul_le_mul (by linarith) (zpow_le_zpow_right₀ (by norm_num) Binary.ofFields_exp_ge) (by positivity)
            (by linarith)
      _ ≤ b.lower.val := b.lower_ge (by exact_mod_cast Binary.ofFields_mant_pos hnz)
  have hhi : b.upper.val < 2 ^ 1024 := by
    rw [Binary.val_upper]
    calc ((b.mant : ℚ) + 1 / 2) * 2 ^ b.exp ≤ ((b.mant : ℚ) + 1 / 2) * 2 ^ (971 : Int) :=
          mul_le_mul_of_nonneg_left (zpow_le_zpow_right₀ (by norm_num) (Binary.ofFields_exp_le hb)) (by positivity)
      _ < 2 ^ 53 * 2 ^ (971 : Int) := mul_lt_mul_of_pos_right hm' (by positivity)
      _ = 2 ^ 1024 := by rw [show (971 : Int) = ((971 : Nat) : Int) from rfl, zpow_natCast, ← pow_add]
  exact ⟨hlo.trans h.lower_le, lt_of_le_of_lt h.le_upper hhi⟩

theorem Binary.shortest_coef_pos (hnz : biased ≠ 0 ∨ fraction ≠ 0) :
    0 < (Binary.ofFields biased fraction).shortest.coef := by
  have h := (Binary.rounds_shortest (Binary.ofFields_mant_pos hnz)).lower_le
  have hlo := (Binary.ofFields biased fraction).lower_ge (Binary.ofFields_mant_pos hnz)
  have hm : (1 : ℚ) ≤ (Binary.ofFields biased fraction).mant := by exact_mod_cast Binary.ofFields_mant_pos hnz
  have hpos : 0 < (Binary.ofFields biased fraction).shortest.val :=
    lt_of_lt_of_le (lt_of_lt_of_le (mul_pos (by linarith) (by positivity)) hlo) h
  by_contra h0
  rw [Exact.val, show (Binary.ofFields biased fraction).shortest.coef = 0 by omega] at hpos
  simp at hpos

end Bounds

end Decimal
end JuryCaptions
