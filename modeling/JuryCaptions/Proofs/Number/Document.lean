import JuryCaptions.Proofs.Number.Reading
import Mathlib
/-!
A double's document text reads back as the double.

A finite double is written as a signed `0` or its shortest digits, positional or
scientific: a decimal text (`document_chars`) of the shortest decimal
(`documentText_value`), which is in the double's rounding interval
(`Binary.rounds_shortest`), so it reads back bit for bit (`readFloat_document`).
-/

namespace JuryCaptions
namespace FloatText

open NumberText Decimal

theorem toList_sign (neg : Bool) : (if neg then "-" else "").toList = if neg then ['-'] else [] := by
  cases neg <;> rfl

/-- Positional notation as a decimal text. -/
def positionalText (neg : Bool) (d : DigitString) : DecimalText :=
  if d.point ≤ 0 then ⟨neg, ['0'], List.replicate (-d.point).toNat '0' ++ d.digits, none⟩
  else if d.digits.length ≤ d.point.toNat then
    ⟨neg, d.digits ++ List.replicate (d.point.toNat - d.digits.length) '0', [], none⟩
  else ⟨neg, d.digits.take d.point.toNat, d.digits.drop d.point.toNat, none⟩

theorem positional_chars (neg : Bool) {d : DigitString} (hne : d.digits ≠ []) :
    ((if neg then "-" else "") ++ positional d).toList = (positionalText neg d).chars := by
  unfold positional positionalText
  by_cases hp : d.point ≤ 0
  · rw [if_pos hp, if_pos hp]
    simp [DecimalText.chars, DecimalText.tail, DecimalText.exponentChars, toList_sign, hne]
  · rw [if_neg hp, if_neg hp]
    by_cases hlen : d.digits.length ≤ d.point.toNat
    · rw [if_pos hlen, if_pos hlen]
      simp [DecimalText.chars, DecimalText.tail, DecimalText.exponentChars, toList_sign]
    · rw [if_neg hlen, if_neg hlen]
      have hdrop : d.digits.drop d.point.toNat ≠ [] := by simp; omega
      simp [DecimalText.chars, DecimalText.tail, DecimalText.exponentChars, toList_sign, hdrop]

theorem isDigit_replicate_zero (n : Nat) : ∀ c ∈ List.replicate n '0', c.isDigit = true := by
  intro c hc
  rw [(List.mem_replicate.1 hc).2]
  rfl

theorem positionalText_wellFormed (neg : Bool) {d : DigitString} {m : Nat} (hm : 0 < m)
    (hd : d.digits = Nat.toDigits 10 m) : (positionalText neg d).WellFormed := by
  obtain ⟨c, cs, hcs, h0⟩ := Json.toDigits_head m
  have hc0 : c ≠ '0' := fun h => by have := h0 h; omega
  have hdig : ∀ x ∈ d.digits, x.isDigit = true := by rw [hd]; exact Json.isDigit_toDigits m
  unfold positionalText
  split
  · exact ⟨.inl rfl, fun x hx => (List.mem_append.1 hx).elim (isDigit_replicate_zero _ x) (hdig x),
      fun e he => absurd he (Option.not_mem_none e)⟩
  · split
    · refine ⟨.inr ⟨c, cs ++ List.replicate (d.point.toNat - d.digits.length) '0', ?_, hc0, ?_⟩,
        fun _ hx => absurd hx List.not_mem_nil, fun e he => absurd he (Option.not_mem_none e)⟩
      · rw [hd, hcs, List.cons_append]
      · intro x hx
        exact (List.mem_append.1 hx).elim (hdig x) (isDigit_replicate_zero _ x)
    · rename_i hp _
      refine ⟨.inr ⟨c, cs.take (d.point.toNat - 1), ?_, hc0, fun x hx => hdig x (List.mem_of_mem_take hx)⟩,
        fun x hx => hdig x (List.mem_of_mem_drop hx), fun e he => absurd he (Option.not_mem_none e)⟩
      obtain ⟨k, hk⟩ : ∃ k, d.point.toNat = k + 1 := ⟨d.point.toNat - 1, by omega⟩
      show d.digits.take d.point.toNat = _
      rw [hd, hcs, hk, List.take_succ_cons, Nat.add_sub_cancel]

theorem positionalText_value (neg : Bool) (d : DigitString) :
    ((positionalText neg d).mant : ℚ) * 10 ^ (positionalText neg d).exp =
      (Nat.ofDigitChars 10 d.digits 0 : ℚ) * 10 ^ (d.point - d.digits.length) := by
  unfold positionalText
  split
  · rename_i hp
    simp only [DecimalText.mant, DecimalText.exp, DecimalText.exponentValue, List.length_append,
      List.length_replicate, Nat.ofDigitChars_append, Nat.ofDigitChars_replicate_zero]
    simp only [Nat.ofDigitChars_cons, Nat.ofDigitChars_nil, Nat.mul_zero, Nat.zero_add]
    congr 2
    push_cast
    omega
  · split
    · rename_i hp hlen
      simp only [DecimalText.mant, DecimalText.exp, DecimalText.exponentValue, List.append_nil,
        Nat.ofDigitChars_append, Nat.ofDigitChars_replicate_zero, List.length_nil]
      have hk : d.point - d.digits.length = ((d.point.toNat - d.digits.length : Nat) : Int) := by omega
      rw [hk, zpow_natCast]
      push_cast
      ring
    · rename_i hp hlen
      simp only [DecimalText.mant, DecimalText.exp, DecimalText.exponentValue, List.take_append_drop,
        List.length_drop]
      congr 2
      omega

/-- The digits of an exponent, padded with zeros to at least `width` of them. -/
def exponentDigits (e : Int) (width : Nat) : List Char :=
  List.replicate (width - (Nat.toDigits 10 e.natAbs).length) '0' ++ Nat.toDigits 10 e.natAbs

/-- Scientific notation as a decimal text: one digit before the point. -/
def scientificText (neg : Bool) (d : DigitString) (width : Nat) : DecimalText :=
  ⟨neg, d.digits.take 1, d.digits.drop 1, some (decide (d.point - 1 < 0), exponentDigits (d.point - 1) width)⟩

theorem scientific_chars (neg : Bool) {d : DigitString} (hne : d.digits ≠ []) (width : Nat) :
    ((if neg then "-" else "") ++ scientific d width).toList = (scientificText neg d width).chars := by
  obtain ⟨c, cs, hcs⟩ := List.exists_cons_of_ne_nil hne
  unfold scientific scientificText exponentDigits
  rw [hcs]
  cases cs with
  | nil =>
    by_cases he : d.point - 1 < 0 <;>
    simp [he, DecimalText.chars, DecimalText.tail, DecimalText.exponentChars, toList_sign]
  | cons c' cs' =>
    by_cases he : d.point - 1 < 0 <;>
    simp [he, DecimalText.chars, DecimalText.tail, DecimalText.exponentChars, toList_sign]

theorem ofDigitChars_exponentDigits (e : Int) (width : Nat) : Nat.ofDigitChars 10 (exponentDigits e width) 0 = e.natAbs := by
  rw [exponentDigits, Nat.ofDigitChars_append, Nat.ofDigitChars_replicate_zero, Nat.mul_zero,
    Nat.ofDigitChars_ten_toDigits]

theorem scientificText_wellFormed (neg : Bool) {d : DigitString} {m : Nat}
    (hd : d.digits = Nat.toDigits 10 m) (width : Nat) : (scientificText neg d width).WellFormed := by
  obtain ⟨c, cs, hcs, -⟩ := Json.toDigits_head m
  have hdig : ∀ x ∈ d.digits, x.isDigit = true := by rw [hd]; exact Json.isDigit_toDigits m
  have hc : c.isDigit = true := hdig c (by rw [hd, hcs]; exact List.mem_cons_self)
  have hexp : ∀ x ∈ exponentDigits (d.point - 1) width, x.isDigit = true := fun x hx =>
    (List.mem_append.1 hx).elim (isDigit_replicate_zero _ x) (Json.isDigit_toDigits _ x)
  refine ⟨?_, fun x hx => hdig x (List.mem_of_mem_drop hx), ?_⟩
  · show Json.CanonicalDigits (d.digits.take 1)
    rw [hd, hcs, List.take_succ_cons, List.take_zero]
    by_cases h0 : c = '0'
    · exact .inl (by rw [h0])
    · exact .inr ⟨c, [], rfl, h0, fun x hx => by rw [List.mem_singleton.1 hx]; exact hc⟩
  · rintro ⟨eneg, ds⟩ he
    cases Option.some.inj he
    exact ⟨by simp [exponentDigits, Nat.toDigits_ne_nil], hexp⟩

theorem scientificText_value (neg : Bool) {d : DigitString} (hne : d.digits ≠ []) (width : Nat) :
    ((scientificText neg d width).mant : ℚ) * 10 ^ (scientificText neg d width).exp =
      (Nat.ofDigitChars 10 d.digits 0 : ℚ) * 10 ^ (d.point - d.digits.length) := by
  have hlen : 1 ≤ d.digits.length := List.length_pos_iff.2 hne
  simp only [scientificText, DecimalText.mant, DecimalText.exp, DecimalText.exponentValue,
    List.take_append_drop, List.length_drop, ofDigitChars_exponentDigits]
  congr 2
  split
  · rename_i he
    rw [decide_eq_true_eq] at he
    rw [Int.ofNat_natAbs_of_nonpos (by omega)]
    omega
  · rename_i he
    rw [decide_eq_true_eq] at he
    rw [Int.natAbs_of_nonneg (by omega)]
    omega

/-- The shortest digits of a double as a decimal text: scientific with at least
`width` exponent digits when `sci`, else positional; a signed `0` for a zero. -/
def shortestText (sci : Bool) (width : Nat) (x : Float) : DecimalText :=
  if x == 0 then ⟨(fields x).1, ['0'], [], none⟩
  else if sci then scientificText (fields x).1 (shortestDigits x) width
  else positionalText (fields x).1 (shortestDigits x)

/-- The document form of a double as a decimal text. -/
def documentText (x : Float) : DecimalText :=
  if x == 0 then ⟨(fields x).1, ['0'], [], none⟩
  else if x.abs < 1e-6 ∨ x.abs ≥ 1e21 then
    scientificText (fields x).1 (shortestDigits x)
      (if (shortestDigits x).point - 1 < 0 ∧ (shortestDigits x).point - 1 > -10 then 1 else 2)
  else positionalText (fields x).1 (shortestDigits x)

theorem documentText_eq (x : Float) :
    documentText x = shortestText (decide (x.abs < 1e-6 ∨ x.abs ≥ 1e21))
      (if (shortestDigits x).point - 1 < 0 ∧ (shortestDigits x).point - 1 > -10 then 1 else 2) x := by
  unfold documentText shortestText
  simp only [decide_eq_true_eq]

theorem digits_shortestDigits (x : Float) :
    (shortestDigits x).digits = Nat.toDigits 10 (Binary.ofFields (fields x).2.1 (fields x).2.2).shortest.coef := rfl

theorem point_shortestDigits (x : Float) :
    (shortestDigits x).point = (Binary.ofFields (fields x).2.1 (fields x).2.2).shortest.exp +
      (Nat.toDigits 10 (Binary.ofFields (fields x).2.1 (fields x).2.2).shortest.coef).length := rfl

theorem digits_ne_nil (x : Float) : (shortestDigits x).digits ≠ [] := by
  rw [digits_shortestDigits]
  exact Nat.toDigits_ne_nil

theorem document_chars (x : Float) : (document x).toList = (documentText x).chars := by
  unfold document documentText
  rcases hf : fields x with ⟨neg, biased, fraction⟩
  dsimp only
  by_cases h0 : (x == 0) = true
  · rw [if_pos h0, if_pos h0]
    cases neg <;> rfl
  · rw [if_neg h0, if_neg h0]
    split
    · exact scientific_chars _ (digits_ne_nil x) _
    · exact positional_chars _ (digits_ne_nil x)

/-- The general form of a finite double is its shortest text, scientific with
two exponent digits outside the exponents `-4` to `5`. -/
theorem general_chars {x : Float} (hx : (x.isNaN || x.isInf) = false) :
    (general x).toList =
      (shortestText (decide ((shortestDigits x).point - 1 < -4 ∨ (shortestDigits x).point - 1 ≥ 6)) 2 x).chars := by
  rw [Bool.or_eq_false_iff] at hx
  unfold general shortestText
  rw [if_neg (by rw [hx.1]; decide), if_neg (by rw [hx.2]; decide)]
  rcases hf : fields x with ⟨neg, biased, fraction⟩
  dsimp only
  by_cases h0 : (x == 0) = true
  · rw [if_pos h0, if_pos h0]
    cases neg <;> rfl
  · rw [if_neg h0, if_neg h0]
    by_cases he : (shortestDigits x).point - 1 < -4 ∨ (shortestDigits x).point - 1 ≥ 6
    · simp only [he, decide_true, if_true]
      exact scientific_chars _ (digits_ne_nil x) _
    · simp only [he, decide_false, Bool.false_eq_true, if_false]
      exact positional_chars _ (digits_ne_nil x)

theorem shortest_pos_of_ne_zero {x : Float} (h0 : (x == 0) = false) :
    (fields x).2.1 ≠ 0 ∨ (fields x).2.2 ≠ 0 := by
  have h := (beq_zero_iff x).not.1 (by rw [h0]; decide)
  omega

theorem shortestText_wellFormed (sci : Bool) (width : Nat) (x : Float) : (shortestText sci width x).WellFormed := by
  unfold shortestText
  split
  · exact ⟨.inl rfl, fun _ hc => absurd hc List.not_mem_nil, fun e he => absurd he (Option.not_mem_none e)⟩
  · rename_i h0
    split
    · exact scientificText_wellFormed _ (digits_shortestDigits x) _
    · exact positionalText_wellFormed _ (Binary.shortest_coef_pos (shortest_pos_of_ne_zero (by simpa using h0)))
        (digits_shortestDigits x)

theorem shortestText_value {x : Float} (h0 : (x == 0) = false) (sci : Bool) (width : Nat) :
    ((shortestText sci width x).mant : ℚ) * 10 ^ (shortestText sci width x).exp =
      (Binary.ofFields (fields x).2.1 (fields x).2.2).shortest.val := by
  have hdigits : (Nat.ofDigitChars 10 (shortestDigits x).digits 0 : ℚ) *
      10 ^ ((shortestDigits x).point - (shortestDigits x).digits.length) =
        (Binary.ofFields (fields x).2.1 (fields x).2.2).shortest.val := by
    rw [digits_shortestDigits, Nat.ofDigitChars_ten_toDigits, Exact.val]
    congr 2
    rw [point_shortestDigits]
    omega
  unfold shortestText
  rw [if_neg (by rw [h0]; decide)]
  split
  · rw [scientificText_value _ (digits_ne_nil x), hdigits]
  · rw [positionalText_value, hdigits]

theorem neg_shortestText (sci : Bool) (width : Nat) (x : Float) : (shortestText sci width x).neg = (fields x).1 := by
  unfold shortestText
  split
  · rfl
  · split
    · rfl
    · unfold positionalText
      split_ifs <;> rfl

theorem eq_of_toBits_eq {x y : Float} (h : x.toBits = y.toBits) : x = y := by
  rcases x with ⟨⟨a, ha⟩⟩
  rcases y with ⟨⟨b, hb⟩⟩
  cases (h : a = b)
  rfl

theorem eq_ofFields {x : Float} (hb : (fields x).2.1 < 2047) :
    x = if (fields x).1 then -ofFields false (fields x).2.1 (fields x).2.2
      else ofFields false (fields x).2.1 (fields x).2.2 := by
  have hf : (fields x).2.2 < 2 ^ 52 := Nat.mod_lt _ (by norm_num)
  have hbits := toNat_toBits_fields x
  apply eq_of_toBits_eq
  apply UInt64.toNat_inj.1
  split
  · rename_i hneg
    rw [toBits_neg_ofFields hb hf, toBits_ofFields true hb hf, hbits, if_pos hneg]
    rfl
  · rename_i hneg
    rw [toBits_ofFields false hb hf, hbits, if_neg hneg]
    rfl

theorem eq_inf_of_isInf {x : Float} (h : x.isInf = true) :
    x = if (fields x).1 then -(1.0 / 0.0) else 1.0 / 0.0 := by
  obtain ⟨hb, hf⟩ := (isInf_iff x).1 h
  apply eq_of_toBits_eq
  apply UInt64.toNat_inj.1
  rw [toNat_toBits_fields, hb, hf]
  split <;> decide

/-- **A double's shortest text reads back as the double**, bit for bit, both
zeros included. -/
theorem readFloat_shortestText {x : Float} (hx : (x.isNaN || x.isInf) = false) (sci : Bool) (width : Nat) :
    NumberText.readFloat (String.ofList (shortestText sci width x).chars) = (x, none) := by
  have hb : (fields x).2.1 < 2047 := by
    have h1 : (fields x).2.1 ≠ 2047 := fun h => by rw [(isNaN_or_isInf_iff x).2 h] at hx; cases hx
    have h2 : (fields x).2.1 < 2048 := Nat.mod_lt _ (by norm_num)
    omega
  have hf : (fields x).2.2 < 2 ^ 52 := Nat.mod_lt _ (by norm_num)
  rw [DecimalText.readFloat_chars (shortestText_wellFormed sci width x), neg_shortestText]
  cases h0 : x == 0
  · -- a non-zero double: its shortest digits round back to it
    have hnz := shortest_pos_of_ne_zero h0
    have hval := shortestText_value h0 sci width
    have hr := Binary.rounds_shortest (Binary.ofFields_mant_pos hnz)
    rw [← hval] at hr
    have hm : 0 < (shortestText sci width x).mant := by
      have hpos : (0 : ℚ) < (Binary.ofFields (fields x).2.1 (fields x).2.2).shortest.val := by
        unfold Exact.val
        have := Binary.shortest_coef_pos hnz
        positivity
      rw [← hval] at hpos
      by_contra hm0
      rw [show (shortestText sci width x).mant = 0 by omega] at hpos
      simp at hpos
    rw [ofDecimal_of_rounds hm hb hf hnz hr, ← eq_ofFields hb]
    rfl
  · -- a zero: the text is `0` or `-0`
    have hz := (beq_zero_iff x).1 h0
    have hm : (shortestText sci width x).mant = 0 := by
      unfold shortestText
      rw [if_pos h0]
      rfl
    have hzero : ofDecimal 0 (shortestText sci width x).exp = (ofFields false (fields x).2.1 (fields x).2.2, false) := by
      rw [hz.1, hz.2, ofDecimal, if_pos rfl]
      decide
    rw [hm, hzero, ← eq_ofFields hb]
    rfl

theorem readFloat_document {x : Float} (hx : (x.isNaN || x.isInf) = false) :
    NumberText.readFloat (document x) = (x, none) := by
  rw [← @String.ofList_toList (document x), document_chars, documentText_eq]
  exact readFloat_shortestText hx _ _

/-- **The general form of a double reads back as the double**, bit for bit,
both zeros and the infinities included: only not-a-number is lost. -/
theorem readFloat_general {x : Float} (hx : x.isNaN = false) : NumberText.readFloat (general x) = (x, none) := by
  cases hi : x.isInf
  · have hf : (x.isNaN || x.isInf) = false := by rw [hx, hi]; rfl
    rw [← @String.ofList_toList (general x), general_chars hf]
    exact readFloat_shortestText hf _ _
  · -- an infinity is written `+Inf` or `-Inf`
    rw [eq_inf_of_isInf hi]
    split <;> decide

theorem numberLiteral_document (x : Float) : Json.NumberLiteral (document x) := by
  rw [← @String.ofList_toList (document x), document_chars, documentText_eq]
  exact DecimalText.numberLiteral_chars (shortestText_wellFormed _ _ x)

end FloatText
end JuryCaptions
