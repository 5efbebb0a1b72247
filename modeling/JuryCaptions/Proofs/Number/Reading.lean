import JuryCaptions.Proofs.Number.Shortest
import JuryCaptions.Proofs.Number.Bits
import JuryCaptions.Proofs.Json.ReadBack
import Mathlib
/-!
Reading the decimal texts that printers write.

The reader takes every printed text (`DecimalText.WellFormed`) apart into a sign,
a whole number `mant` and a power `exp` (`parts_chars`), and reads the double
nearest `mant · 10^exp` (`readFloat_chars`); a value in a finite, non-zero
double's rounding interval reads as it (`ofDecimal_of_rounds`). The same texts
are JSON numbers (`numberLiteral_chars`). No JSON number reads as not-a-number
(`Json.readFloat_isNaN_of_leads`): the significand has at most 53 bits
(`Decimal.settle_lt`).
-/

namespace JuryCaptions
namespace NumberText

/-! ## Digits -/

theorem hexValue_of_isDigit {c : Char} (h : c.isDigit = true) : hexValue c = some (c.toNat - '0'.toNat) := by
  simp only [Char.isDigit, Bool.and_eq_true, decide_eq_true_eq] at h
  rw [hexValue, if_pos ⟨Char.le_def.2 h.1, Char.le_def.2 h.2⟩]

theorem ten_le_of_hexValue {c : Char} (h : c.isDigit = false) {d : Nat} (hd : hexValue c = some d) : 10 ≤ d := by
  have hnd : ¬ ('0' ≤ c ∧ c ≤ '9') := fun ⟨h1, h2⟩ => by
    have : c.isDigit = true := by
      simp only [Char.isDigit, Bool.and_eq_true, decide_eq_true_eq]
      exact ⟨Char.le_def.1 h1, Char.le_def.1 h2⟩
    rw [this] at h
    exact absurd h (by decide)
  rw [hexValue, if_neg hnd] at hd
  split at hd
  · cases hd; omega
  · split at hd
    · cases hd; omega
    · cases hd

theorem digitsOf_digits {ds rest : List Char} (hd : ∀ c ∈ ds, c.isDigit = true)
    (hr : ∀ c r, rest = c :: r → c.isDigit = false ∧ c ≠ '_') (acc n : Nat) :
    digitsOf 10 (ds ++ rest) acc n = (Nat.ofDigitChars 10 ds acc, n + ds.length, rest) := by
  induction ds generalizing acc n with
  | nil =>
    cases rest with
    | nil => rfl
    | cons c r =>
      obtain ⟨hc, hu⟩ := hr c r rfl
      simp only [List.nil_append, digitsOf, hu, if_false, Nat.ofDigitChars_nil, List.length_nil, Nat.add_zero]
      cases hv : hexValue c with
      | none => rfl
      | some d => simp [Nat.not_lt.2 (ten_le_of_hexValue hc hv)]
  | cons d ds ih =>
    have hdd := hd d List.mem_cons_self
    have hu : d ≠ '_' := fun h => by rw [h] at hdd; exact absurd hdd (by decide)
    have hlt : d.toNat - '0'.toNat < 10 := by
      have := Char.isDigit_iff_toNat.1 hdd; simp at this ⊢; omega
    rw [List.cons_append, digitsOf, if_neg hu, hexValue_of_isDigit hdd]
    simp only [hlt, if_true]
    rw [ih (fun c hc => hd c (List.mem_cons_of_mem d hc)), Nat.ofDigitChars_cons, List.length_cons, Nat.mul_comm acc]
    congr 2
    omega


theorem takeSign_digit {d : Char} (hd : d.isDigit = true) (r : List Char) : takeSign (d :: r) = (false, d :: r) := by
  unfold takeSign
  split
  · rename_i heq
    exact absurd (List.cons.inj heq).1 (Json.ne_of_isDigit hd rfl)
  · rename_i heq
    exact absurd (List.cons.inj heq).1 (Json.ne_of_isDigit hd rfl)
  · rfl

theorem takeHex_of_not_mark {body : List Char} (h : ∀ x r, body = '0' :: x :: r → x ≠ 'x' ∧ x ≠ 'X') :
    takeHex body = (false, body) := by
  unfold takeHex
  split
  · rename_i x r
    rw [if_neg (by rintro (hx | hx) <;> [exact (h x r rfl).1 hx; exact (h x r rfl).2 hx])]
  · rfl

theorem pointDigits_point (base whole : Nat) (r : List Char) :
    pointDigits base whole ('.' :: r) = digitsOf base r whole 0 := rfl

theorem pointDigits_none (base whole : Nat) {rest : List Char} (h : ∀ r, rest ≠ '.' :: r) :
    pointDigits base whole rest = (whole, 0, rest) := by
  unfold pointDigits
  split
  · exact absurd rfl (h _)
  · rfl

theorem exponentOf_digits (neg : Bool) {ds : List Char} (hne : ds ≠ []) (hd : ∀ c ∈ ds, c.isDigit = true) :
    exponentOf ((if neg then '-' else '+') :: ds) =
      some (if neg then -(Nat.ofDigitChars 10 ds 0 : Int) else Nat.ofDigitChars 10 ds 0) := by
  have hread := @digitsOf_digits ds [] hd (by simp) 0 0
  rw [List.append_nil] at hread
  have hlen : ds.length ≠ 0 := by simpa using hne
  cases neg <;> simp [exponentOf, takeSign, hread, hlen]

/-! ## Decimal texts -/

/-- A decimal number text: an optional minus sign, whole digits, the digits
after a point when there are any, and an exponent after `e` with its sign when
there is one. -/
structure DecimalText where
  neg : Bool
  whole : List Char
  fraction : List Char
  exponent : Option (Bool × List Char)

namespace DecimalText

/-- The characters of a signed exponent. -/
def exponentChars : Option (Bool × List Char) → List Char
  | none => []
  | some (neg, ds) => 'e' :: (if neg then '-' else '+') :: ds

/-- The value of a signed exponent, zero when there is none. -/
def exponentValue : Option (Bool × List Char) → Int
  | none => 0
  | some (neg, ds) => if neg then -(Nat.ofDigitChars 10 ds 0 : Int) else Nat.ofDigitChars 10 ds 0

/-- The characters after the whole digits. -/
def tail (t : DecimalText) : List Char :=
  (if t.fraction = [] then [] else '.' :: t.fraction) ++ exponentChars t.exponent

/-- The characters of the text. -/
def chars (t : DecimalText) : List Char :=
  (if t.neg then ['-'] else []) ++ t.whole ++ t.tail

/-- All the digits of the text as one whole number. -/
def mant (t : DecimalText) : Nat := Nat.ofDigitChars 10 (t.whole ++ t.fraction) 0

/-- The power of ten that scales `mant` to the text's value. -/
def exp (t : DecimalText) : Int := exponentValue t.exponent - t.fraction.length

/-- A text the printers write: the whole part is `0` alone or starts with another
digit, and every part holds only digits, the exponent at least one. -/
structure WellFormed (t : DecimalText) : Prop where
  whole : Json.CanonicalDigits t.whole
  fraction : ∀ c ∈ t.fraction, c.isDigit = true
  exponent : ∀ e ∈ t.exponent, e.2 ≠ [] ∧ ∀ c ∈ e.2, c.isDigit = true

variable {t : DecimalText}

theorem WellFormed.whole_digits (h : t.WellFormed) : ∀ c ∈ t.whole, c.isDigit = true := by
  rcases h.whole with h0 | ⟨d, ds, -, -, hds⟩
  · intro c hc
    rw [h0, List.mem_singleton] at hc
    rw [hc]
    rfl
  · exact hds

theorem WellFormed.whole_cons (h : t.WellFormed) : ∃ d ds, t.whole = d :: ds ∧ d.isDigit = true := by
  rcases h.whole with h0 | ⟨d, ds, h1, -, hds⟩
  · exact ⟨'0', [], h0, rfl⟩
  · exact ⟨d, ds, h1, hds d (by rw [h1]; exact List.mem_cons_self)⟩


theorem exponentChars_head {e : Option (Bool × List Char)} {c : Char} {r : List Char}
    (h : exponentChars e = c :: r) : c = 'e' := by
  cases e with
  | none => cases h
  | some e => exact (List.cons.inj h).1.symm

theorem tail_head {c : Char} {r : List Char} (h : t.tail = c :: r) : c = '.' ∨ c = 'e' := by
  unfold tail at h
  split at h
  · exact .inr (exponentChars_head h)
  · exact .inl (List.cons.inj h).1.symm

theorem tail_stops : ∀ c r, t.tail = c :: r → c.isDigit = false ∧ c ≠ '_' := by
  intro c r h
  rcases tail_head h with rfl | rfl <;> exact ⟨rfl, by decide⟩

theorem pointDigits_tail (h : t.WellFormed) :
    pointDigits 10 (Nat.ofDigitChars 10 t.whole 0) t.tail = (t.mant, t.fraction.length, exponentChars t.exponent) := by
  unfold tail mant
  by_cases hf : t.fraction = []
  · rw [if_pos hf, List.nil_append, pointDigits_none _ _ fun r he => absurd (exponentChars_head he) (by decide), hf,
      List.append_nil, List.length_nil]
  · rw [if_neg hf, List.cons_append, pointDigits_point, digitsOf_digits h.fraction
      (fun c r he => by rw [exponentChars_head he]; exact ⟨rfl, by decide⟩), Nat.ofDigitChars_append, Nat.zero_add]

theorem exponentAfter_chars (h : t.WellFormed) :
    exponentAfter false (exponentChars t.exponent) = some (exponentValue t.exponent) := by
  rcases he : t.exponent with _ | ⟨neg, ds⟩
  · rfl
  · obtain ⟨hne, hds⟩ := h.exponent (neg, ds) he
    simp only [exponentChars, exponentAfter, exponentValue]
    exact exponentOf_digits neg hne hds

/-- **The reader takes a well-formed decimal text apart**: its sign, all its
digits as one number, how many stand after the point, and its exponent. -/
theorem parts_chars (h : t.WellFormed) :
    parts t.chars = some (⟨t.neg, t.mant, t.fraction.length, exponentValue t.exponent⟩, false) := by
  obtain ⟨d, ds, hw, hd⟩ := h.whole_cons
  have hsign : takeSign t.chars = (t.neg, t.whole ++ t.tail) := by
    unfold chars
    cases t.neg
    · rw [if_neg Bool.false_ne_true, List.nil_append, hw, List.cons_append]
      exact takeSign_digit hd _
    · rfl
  -- the character after a leading `0` is a digit, a point or an `e`, never the mark of hexadecimal digits
  have hhex : takeHex (t.whole ++ t.tail) = (false, t.whole ++ t.tail) := by
    apply takeHex_of_not_mark
    intro x r hx
    rw [hw, List.cons_append] at hx
    have hx' := (List.cons.inj hx).2
    cases ds with
    | nil =>
      rcases tail_head hx' with rfl | rfl <;> exact ⟨by decide, by decide⟩
    | cons d' ds' =>
      have hd' : d'.isDigit = true := h.whole_digits d' (by rw [hw]; simp)
      rw [List.cons_append] at hx'
      rw [← (List.cons.inj hx').1]
      exact ⟨Json.ne_of_isDigit hd' rfl, Json.ne_of_isDigit hd' rfl⟩
  have hlen : t.whole.length ≠ 0 := by rw [hw]; simp
  simp only [parts, hsign, hhex, Bool.false_eq_true, if_false,
    digitsOf_digits h.whole_digits tail_stops, pointDigits_tail h, exponentAfter_chars h, Nat.zero_add]
  simp [hlen]

theorem mem_chars (h : t.WellFormed) {c : Char} (hc : c ∈ t.chars) :
    c.isDigit = true ∨ c = '-' ∨ c = '+' ∨ c = '.' ∨ c = 'e' := by
  unfold chars tail at hc
  rcases List.mem_append.1 hc with hc | hc
  · rcases List.mem_append.1 hc with hs | hw
    · by_cases hn : t.neg = true
      · rw [if_pos hn, List.mem_singleton] at hs
        exact .inr (.inl hs)
      · rw [if_neg hn] at hs
        exact absurd hs List.not_mem_nil
    · exact .inl (h.whole_digits c hw)
  · rcases List.mem_append.1 hc with hf | he
    · by_cases hf0 : t.fraction = []
      · rw [if_pos hf0] at hf
        exact absurd hf List.not_mem_nil
      · rw [if_neg hf0] at hf
        rcases List.mem_cons.1 hf with rfl | hf
        · exact .inr (.inr (.inr (.inl rfl)))
        · exact .inl (h.fraction c hf)
    · rcases hx : t.exponent with _ | ⟨neg, ds⟩
      · rw [hx] at he
        exact absurd he List.not_mem_nil
      · rw [hx] at he
        simp only [exponentChars, List.mem_cons] at he
        rcases he with rfl | he | he
        · exact .inr (.inr (.inr (.inr rfl)))
        · cases neg
          · exact .inr (.inr (.inl he))
          · exact .inr (.inl he)
        · exact .inl ((h.exponent _ hx).2 c he)

theorem underscore_not_mem (h : t.WellFormed) : t.chars.contains '_' = false := by
  rw [Bool.eq_false_iff]
  intro hc
  rcases mem_chars h (List.elem_iff.1 hc) with hd | hd | hd | hd | hd
  · exact absurd hd (by decide)
  all_goals exact absurd hd (by decide)

theorem commonPrefixIgnoreCase_digit {d : Char} (hd : d.isDigit = true) (r : List Char) {w : Char} (ws : List Char)
    (hw : w.isDigit = false) : commonPrefixIgnoreCase (d :: r) (w :: ws) = 0 := by
  have hlow : d.toLower = d := by
    unfold Char.toLower
    rw [dif_neg]
    intro hu
    have h1 := Char.isDigit_iff_toNat.1 hd
    have h2 : 'A'.val.toNat ≤ d.val.toNat := UInt32.le_iff_toNat_le.1 hu.1
    simp only [Char.toNat] at h1
    simp at h1 h2
    omega
  rw [commonPrefixIgnoreCase, hlow, if_neg (Json.ne_of_isDigit hd hw)]

theorem special_chars (h : t.WellFormed) : special t.chars = none := by
  obtain ⟨d, ds, hw, hd⟩ := h.whole_cons
  have hinf : ∀ r, commonPrefixIgnoreCase (d :: r) "infinity".toList = 0 := fun r =>
    commonPrefixIgnoreCase_digit hd r _ rfl
  unfold special chars
  rw [hw]
  cases t.neg
  · simp only [Bool.false_eq_true, if_false, List.nil_append, List.cons_append]
    split
    · rename_i heq; exact absurd (List.cons.inj heq).1 (Json.ne_of_isDigit hd rfl)
    · rename_i heq; exact absurd (List.cons.inj heq).1 (Json.ne_of_isDigit hd rfl)
    · rename_i heq; exact absurd (List.cons.inj heq).1 (Json.ne_of_isDigit hd rfl)
    · rename_i heq; exact absurd (List.cons.inj heq).1 (Json.ne_of_isDigit hd rfl)
    · rw [hinf, if_neg (by simp)]
  · rw [if_pos rfl, List.append_assoc, List.singleton_append]
    simp only [List.cons_append, hinf]
    rw [if_neg (by simp)]

/-- **Reading a well-formed decimal text** rounds its value `mant · 10^exp` to
the nearest double, negated when the text has a minus sign. -/
theorem readFloat_chars (h : t.WellFormed) :
    readFloat (String.ofList t.chars) =
      (if t.neg then -(ofDecimal t.mant t.exp).1 else (ofDecimal t.mant t.exp).1,
        if (ofDecimal t.mant t.exp).2 then some .range else none) := by
  simp only [readFloat, String.toList_ofList, special_chars h, underscore_not_mem h, parts_chars h,
    Bool.false_eq_true, false_and, if_false, exp]
  rfl


/-! ## The same texts as JSON numbers -/

theorem readSomeDigits_digits {ds : List Char} (hne : ds ≠ []) (hd : ∀ c ∈ ds, c.isDigit = true) {rest : List Char}
    (hr : Json.StopsDigits rest) : Json.readSomeDigits (ds ++ rest) = .ok (ds, rest) := by
  obtain ⟨c, cs, rfl⟩ := List.exists_cons_of_ne_nil hne
  rw [Json.readSomeDigits, Json.readDigits_stops hd hr]

theorem stopsDigits_exponentChars_append (e : Option (Bool × List Char)) {rest : List Char}
    (hr : Json.EndsNumber rest) : Json.StopsDigits (exponentChars e ++ rest) := by
  cases e with
  | none => exact Json.stopsDigits_of_endsNumber hr
  | some e => exact (rfl : ('e').isDigit = false)

theorem readExponent_chars (h : t.WellFormed) {rest : List Char} (hr : Json.EndsNumber rest) :
    Json.readExponent (exponentChars t.exponent ++ rest) = .ok (exponentChars t.exponent, rest) := by
  rcases he : t.exponent with _ | ⟨neg, ds⟩
  · apply Json.readExponent_none
    intro r
    constructor <;> rintro rfl
    · exact hr.2.2.1 rfl
    · exact hr.2.2.2 rfl
  · obtain ⟨hne, hds⟩ := h.exponent _ he
    have hsign : Json.splitExponentSign ((if neg then '-' else '+') :: (ds ++ rest)) =
        ([if neg then '-' else '+'], ds ++ rest) := by
      cases neg <;> rfl
    simp only [exponentChars, List.cons_append, Json.readExponent, hsign,
      readSomeDigits_digits hne hds (Json.stopsDigits_of_endsNumber hr)]
    rfl

theorem readNumberTail_tail (h : t.WellFormed) {rest : List Char} (hr : Json.EndsNumber rest) :
    Json.readNumberTail (t.tail ++ rest) = .ok (t.tail, rest) := by
  have hfrac : Json.readFraction (t.tail ++ rest) =
      .ok ((if t.fraction = [] then [] else '.' :: t.fraction), exponentChars t.exponent ++ rest) := by
    unfold tail
    by_cases hf : t.fraction = []
    · rw [if_pos hf, List.nil_append]
      apply Json.readFraction_none
      intro r hr'
      rcases hx : t.exponent with _ | e
      · rw [hx] at hr'
        subst hr'
        exact hr.2.1 rfl
      · rw [hx] at hr'
        cases hr'
    · rw [if_neg hf, List.cons_append, List.cons_append, List.append_assoc]
      simp only [Json.readFraction, readSomeDigits_digits hf h.fraction (stopsDigits_exponentChars_append _ hr)]
      rfl
  simp only [Json.readNumberTail, hfrac, bind, Except.bind, readExponent_chars h hr, pure, Except.pure]
  rfl

/-- **A well-formed text is a JSON number**: the reader takes exactly it from
any text where nothing follows that could continue it. -/
theorem numberLiteral_chars (h : t.WellFormed) : Json.NumberLiteral (String.ofList t.chars) where
  ascii := by
    intro c hc
    rw [String.toList_ofList] at hc
    rcases mem_chars h hc with hd | rfl | rfl | rfl | rfl
    · exact Json.toNat_lt_of_isDigit hd
    all_goals decide
  starts := by
    obtain ⟨d, ds, hw, hd⟩ := h.whole_cons
    rw [String.toList_ofList]
    unfold chars
    rw [hw]
    cases t.neg
    · exact ⟨d, ds ++ t.tail, rfl, by simp [hd]⟩
    · exact ⟨'-', d :: ds ++ t.tail, rfl, rfl⟩
  reads := fun rest hr => by
    have hstops : Json.StopsDigits (t.tail ++ rest) := by
      cases htail : t.tail with
      | nil => exact Json.stopsDigits_of_endsNumber hr
      | cons c r => exact (tail_stops c r htail).1
    rw [String.toList_ofList]
    unfold chars
    rw [List.append_assoc, Json.readNumber_whole t.neg h.whole hstops, readNumberTail_tail h hr]
    rfl

end DecimalText

/-! ## Rounding a decimal -/

theorem digitCount_bounds {n : Nat} (hn : 0 < n) :
    10 ^ (Decimal.digitCount n - 1) ≤ n ∧ n < 10 ^ Decimal.digitCount n := by
  have hpos : 0 < Decimal.digitCount n := Nat.length_toDigits_pos
  refine ⟨?_, (Nat.length_toDigits_le_iff (by decide) hpos).1 le_rfl⟩
  by_cases h1 : Decimal.digitCount n = 1
  · rw [h1]; exact hn
  · have hlt : ¬ n < 10 ^ (Decimal.digitCount n - 1) := fun hlt => by
      have := (Nat.length_toDigits_le_iff (b := 10) (n := n) (by decide) (by omega)).2 hlt
      unfold Decimal.digitCount at h1 hpos this
      omega
    omega

theorem two_pow_1024_lt : (2 : Nat) ^ 1024 < 10 ^ 320 := by decide +kernel

theorem two_pow_1075_lt : (2 : Nat) ^ 1075 < 10 ^ 351 := by decide +kernel

/-- **Reading a decimal rounds it.**  Digits `mant · 10^e` in the rounding
interval of a finite, non-zero double read as that double, with no overflow. -/
theorem ofDecimal_of_rounds {mant biased fraction : Nat} {e : Int} (hm : 0 < mant)
    (hb : biased < 2047) (hf : fraction < 2 ^ 52) (hnz : biased ≠ 0 ∨ fraction ≠ 0)
    (hr : (Decimal.Binary.ofFields biased fraction).Rounds ((mant : ℚ) * 10 ^ e)) :
    ofDecimal mant e = (Decimal.ofFields false biased fraction, false) := by
  obtain ⟨hlo, hhi⟩ := hr.bounds hb hf hnz
  obtain ⟨d1, d2⟩ := digitCount_bounds hm
  set size := Decimal.digitCount mant with hsize
  have hsize1 : 1 ≤ size := Nat.length_toDigits_pos
  have d1' : (10 : ℚ) ^ ((size : Int) - 1) ≤ mant := by
    rw [show (size : Int) - 1 = ((size - 1 : Nat) : Int) by omega, zpow_natCast]
    exact_mod_cast d1
  have d2' : (mant : ℚ) < 10 ^ (size : Int) := by
    rw [zpow_natCast]
    exact_mod_cast d2
  -- a value of more than 320 digits before the point is past the largest double
  have hover : ¬ ((size : Int) + e > 320) := by
    intro h
    have : (2 : ℚ) ^ 1024 < mant * 10 ^ e := calc
      (2 : ℚ) ^ 1024 = ((2 ^ 1024 : Nat) : ℚ) := by rw [Nat.cast_pow, Nat.cast_ofNat]
      _ < ((10 ^ 320 : Nat) : ℚ) := Nat.cast_lt.2 two_pow_1024_lt
      _ = 10 ^ (320 : Int) := by rw [Nat.cast_pow, Nat.cast_ofNat, ← zpow_natCast]; rfl
      _ ≤ 10 ^ ((size : Int) - 1 + e) := zpow_le_zpow_right₀ (by norm_num) (by omega)
      _ = 10 ^ ((size : Int) - 1) * 10 ^ e := zpow_add₀ (by norm_num) _ _
      _ ≤ mant * 10 ^ e := by gcongr
    exact lt_asymm hhi this
  -- one that starts more than 350 places after the point is below half the least double
  have hunder : ¬ ((size : Int) + e < -350) := by
    intro h
    have : (mant : ℚ) * 10 ^ e < 2 ^ (-1075 : Int) := calc
      (mant : ℚ) * 10 ^ e < 10 ^ (size : Int) * 10 ^ e := by gcongr
      _ = 10 ^ ((size : Int) + e) := (zpow_add₀ (by norm_num) _ _).symm
      _ ≤ 10 ^ (-351 : Int) := zpow_le_zpow_right₀ (by norm_num) (by omega)
      _ < 2 ^ (-1075 : Int) := by
          rw [show (-351 : Int) = -((351 : Nat) : Int) from rfl, show (-1075 : Int) = -((1075 : Nat) : Int) from rfl,
            zpow_neg, zpow_neg, zpow_natCast, zpow_natCast, inv_lt_inv₀ (by positivity) (by positivity)]
          exact_mod_cast two_pow_1075_lt
    exact absurd hlo (not_le.2 this)
  have hread : (if 0 ≤ e then Decimal.ofRatio (mant * Nat.pow 10 e.toNat) 1 0
      else Decimal.ofRatio mant (Nat.pow 10 (-e).toNat) 0) = Decimal.ofFields false biased fraction := by
    split
    · next he =>
      apply Decimal.ofRatio_eq_ofFields 0 (Nat.mul_pos hm (Nat.pow_pos (by norm_num))) one_pos hb hf hnz
      convert hr using 1
      push_cast
      rw [← zpow_natCast, Int.toNat_of_nonneg he]
      ring
    · next he =>
      apply Decimal.ofRatio_eq_ofFields 0 hm (Nat.pow_pos (by norm_num)) hb hf hnz
      convert hr using 1
      push_cast
      rw [← zpow_natCast, Int.toNat_of_nonneg (by omega), div_eq_mul_inv, ← zpow_neg, neg_neg]
      ring
  simp only [ofDecimal, Nat.pos_iff_ne_zero.1 hm, if_false, ← hsize, hover, hunder, hread,
    Decimal.isInf_ofFields false hb hf]

end NumberText
end JuryCaptions

namespace JuryCaptions

/-! ## The reader never gives not-a-number -/

namespace Decimal

section Settled

variable {num den : Nat} {shift e : Int}

theorem roundAt_le {k : Nat} (hd : 0 < den) (h : quotientAt num den shift e ≤ k) : roundAt num den shift e ≤ k := by
  obtain ⟨N, D, hD, hr, hq⟩ := @roundAt_spec num den shift e hd
  rw [hr]
  rw [← hq] at h
  refine divRoundEven_le hD ((le_two_mul_iff hD).mpr (by linarith)) fun h' => ?_
  have := (eq_two_mul_iff hD).mp h'
  linarith

theorem settle_lt (hn : 0 < num) (hd : 0 < den) : (settle num den shift (startExp num den shift)).1 < 2 ^ 53 := by
  have hguess := (quotient_at_guess shift hn hd).2
  -- the first guess is never below the estimate, so its quotient is below `2^54` too
  have hq : quotientAt num den shift (startExp num den shift) < 2 ^ 54 := by
    rw [quotientAt_eq_mul num den shift ((num.log2 : Int) - den.log2 - 53 + shift)]
    have hle : (2 : ℚ) ^ ((num.log2 : Int) - den.log2 - 53 + shift - startExp num den shift) ≤ 1 :=
      zpow_le_one_of_nonpos₀ (by norm_num) (by unfold startExp; omega)
    have hpos := quotientAt_nonneg num den shift ((num.log2 : Int) - den.log2 - 53 + shift)
    nlinarith
  have h1 : roundAt num den shift (startExp num den shift) ≤ 2 ^ 54 := roundAt_le hd (by exact_mod_cast hq.le)
  -- one exponent up halves the quotient
  have h2 : roundAt num den shift (startExp num den shift + 1) ≤ 2 ^ 53 := by
    apply roundAt_le hd
    rw [quotientAt_eq_mul num den shift (startExp num den shift), show startExp num den shift -
      (startExp num den shift + 1) = -1 by ring, zpow_neg_one]
    push_cast
    linarith
  unfold settle
  by_cases hc : roundAt num den shift (startExp num den shift) ≥ 9007199254740992
  · simp only [hc, if_true]
    split <;> omega
  · simp only [hc, if_false]
    omega

end Settled

theorem ofRatio_isNaN {num den : Nat} (shift : Int) (hn : 0 < num) (hd : 0 < den) :
    (ofRatio num den shift).isNaN = false ∧ (-ofRatio num den shift).isNaN = false := by
  have hq : (settle num den shift (startExp num den shift)).1 < 2 ^ 53 := settle_lt hn hd
  rw [ofRatio_eq_place]
  generalize settle num den shift (startExp num den shift) = p at hq ⊢
  obtain ⟨q, e⟩ := p
  simp only [place]
  split_ifs
  · exact ⟨by decide, by decide⟩
  · exact ⟨isNaN_ofFields false (by omega) (by omega), isNaN_neg_ofFields (by omega) (by omega)⟩
  · exact ⟨isNaN_ofFields false (by omega) (by omega), isNaN_neg_ofFields (by omega) (by omega)⟩

end Decimal

namespace NumberText

theorem ofDecimal_isNaN (mant : Nat) (exp : Int) :
    (ofDecimal mant exp).1.isNaN = false ∧ (-(ofDecimal mant exp).1).isNaN = false := by
  unfold ofDecimal
  dsimp only
  split_ifs
  · exact ⟨by decide, by decide⟩
  · exact ⟨by decide, by decide⟩
  · exact ⟨by decide, by decide⟩
  · exact Decimal.ofRatio_isNaN 0 (Nat.mul_pos (by omega) (Nat.pow_pos (by norm_num))) one_pos
  · exact Decimal.ofRatio_isNaN 0 (by omega) (Nat.pow_pos (by norm_num))

theorem ofBinary_isNaN (mant : Nat) (exp : Int) :
    (ofBinary mant exp).1.isNaN = false ∧ (-(ofBinary mant exp).1).isNaN = false := by
  unfold ofBinary
  dsimp only
  split_ifs
  · exact ⟨by decide, by decide⟩
  · exact ⟨by decide, by decide⟩
  · exact ⟨by decide, by decide⟩
  · exact Decimal.ofRatio_isNaN exp (by omega) one_pos

theorem special_isNaN {cs : List Char} {f : Float} (h : special cs = some f) (hf : f.isNaN = true) :
    ∃ r, cs = 'n' :: r ∨ cs = 'N' :: r := by
  unfold special at h
  split at h
  · next r =>
    dsimp only at h
    split_ifs at h <;> simp only [Option.some.injEq] at h <;> subst h <;> exact absurd hf (by decide)
  · next r =>
    dsimp only at h
    split_ifs at h <;> simp only [Option.some.injEq] at h <;> subst h <;> exact absurd hf (by decide)
  · next r => exact ⟨r, .inl rfl⟩
  · next r => exact ⟨r, .inr rfl⟩
  · dsimp only at h
    split_ifs at h <;> simp only [Option.some.injEq] at h <;> subst h <;> exact absurd hf (by decide)

theorem readFloat_isNaN {s : String} (h : (readFloat s).1.isNaN = true) :
    ∃ r, s.toList = 'n' :: r ∨ s.toList = 'N' :: r := by
  unfold readFloat at h
  dsimp only at h
  split at h
  · next f hs => exact special_isNaN hs h
  split at h
  · exact absurd h (by decide)
  split at h
  · exact absurd h (by decide)
  · next p hex _ =>
    have hb := ofBinary_isNaN p.mant (p.exp - 4 * p.after)
    have hd := ofDecimal_isNaN p.mant (p.exp - p.after)
    exfalso
    split_ifs at h <;> simp only [hb.1, hb.2, hd.1, hd.2, Bool.false_eq_true] at h

end NumberText

theorem bind_eq_ok {ε α β : Type} {x : Except ε α} {f : α → Except ε β} {b : β} :
    x >>= f = .ok b ↔ ∃ a, x = .ok a ∧ f a = .ok b := by
  cases x <;> simp [bind, Except.bind]

namespace Json

/-- A number text as the reader takes it: it starts with a minus or a digit. -/
def LeadsNumeric (lit : String) : Prop := ∃ c cs, lit.toList = c :: cs ∧ (c = '-' ∨ c.isDigit = true)

/-- A document whose number texts all start with a minus or a digit. -/
inductive Numeric : Json → Prop
  | null : Numeric .null
  | bool (b : Bool) : Numeric (.bool b)
  | num {lit : String} : LeadsNumeric lit → Numeric (.num lit)
  | str (s : String) : Numeric (.str s)
  | arr {xs : List Json} : (∀ x ∈ xs, Numeric x) → Numeric (.arr xs)
  | obj {ms : List (String × Json)} : (∀ m ∈ ms, Numeric m.2) → Numeric (.obj ms)

theorem readDigits_isDigit : ∀ (cs : List Char), ∀ c ∈ (readDigits cs).1, c.isDigit = true
  | [] => by simp [readDigits]
  | c :: cs => by
    unfold readDigits
    split
    · next h => simpa [h] using readDigits_isDigit cs
    · simp

theorem readSomeDigits_head {cs ds r : List Char} (h : readSomeDigits cs = .ok (ds, r)) :
    ∃ d ds', ds = d :: ds' ∧ d.isDigit = true := by
  unfold readSomeDigits at h
  have hd := readDigits_isDigit cs
  split at h
  · next heq => simp [failAt] at h; split at h <;> simp at h
  · next ds₀ rest hne heq =>
    simp only [Except.ok.injEq, Prod.mk.injEq] at h
    obtain ⟨rfl, -⟩ := h
    rw [heq] at hd
    cases ds₀ with
    | nil => simp at hne
    | cons d ds' => exact ⟨d, ds', rfl, hd d (by simp)⟩

theorem readIntegerPart_head {cs w r : List Char} (h : readIntegerPart cs = .ok (w, r)) :
    ∃ d ds, w = d :: ds ∧ d.isDigit = true := by
  unfold readIntegerPart at h
  split at h
  · simp only [Except.ok.injEq, Prod.mk.injEq] at h
    exact ⟨'0', [], h.1.symm, rfl⟩
  · exact readSomeDigits_head h

theorem readNumber_leads {cs r : List Char} {lit : String} (h : readNumber cs = .ok (lit, r)) :
    LeadsNumeric lit := by
  unfold readNumber at h
  have hsign : (splitSign cs).1 = [] ∨ (splitSign cs).1 = ['-'] := by
    unfold splitSign; split <;> simp
  generalize splitSign cs = p at h hsign
  obtain ⟨sign, body⟩ := p
  obtain ⟨⟨w, rest⟩, hw, h⟩ := bind_eq_ok.1 h
  obtain ⟨⟨t, rest'⟩, -, h⟩ := bind_eq_ok.1 h
  obtain ⟨d, ds, rfl, hd⟩ := readIntegerPart_head hw
  simp only [pure, Except.pure, Except.ok.injEq, Prod.mk.injEq] at h
  obtain ⟨rfl, -⟩ := h
  rcases hsign with rfl | rfl
  · exact ⟨d, ds ++ t, by simp, .inr hd⟩
  · exact ⟨'-', d :: ds ++ t, by simp, .inl rfl⟩

theorem failAt_ne_ok {α : Type} (cs : List Char) (place : Place) (a : α) : failAt cs place ≠ .ok a := by
  unfold failAt; split <;> simp

theorem eq_of_bind_pure {ε α : Type} {x : Except ε α} {g : α → Json × List Char} {j : Json} {r : List Char}
    (h : (x >>= fun p => pure (g p)) = .ok (j, r)) : ∃ p, x = .ok p ∧ (g p).1 = j := by
  obtain ⟨p, hx, hp⟩ := bind_eq_ok.1 h
  exact ⟨p, hx, by simp only [pure, Except.pure, Except.ok.injEq] at hp; rw [hp]⟩

/-- What the reader's five parts read within some fuel is numeric. -/
def ReadsNumeric (fuel : Nat) : Prop :=
  ∀ depth,
    (∀ cs j r, readValue fuel depth cs = .ok (j, r) → Numeric j) ∧
    (∀ cs j r, readValue.readObject fuel depth cs = .ok (j, r) → Numeric j) ∧
    (∀ acc cs j r, (∀ m ∈ acc, Numeric m.2) → readValue.readMembers fuel depth acc cs = .ok (j, r) → Numeric j) ∧
    (∀ cs j r, readValue.readArray fuel depth cs = .ok (j, r) → Numeric j) ∧
    (∀ acc cs j r, (∀ x ∈ acc, Numeric x) → readValue.readElements fuel depth acc cs = .ok (j, r) → Numeric j)

theorem readsNumeric (fuel : Nat) : ReadsNumeric fuel := by
  induction fuel with
  | zero =>
    intro depth
    refine ⟨?_, ?_, ?_, ?_, ?_⟩ <;> intros <;>
      simp_all [readValue, readValue.readObject, readValue.readMembers, readValue.readArray, readValue.readElements]
  | succ f ih =>
    intro depth
    refine ⟨?_, ?_, ?_, ?_, ?_⟩
    · intro cs j r h
      rw [readValue.eq_def] at h
      simp only at h
      split at h
      · simp at h
      split_ifs at h
      · exact (ih _).2.1 _ _ _ h
      · exact (ih _).2.2.2.1 _ _ _ h
      · obtain ⟨p, -, rfl⟩ := eq_of_bind_pure h
        exact .str _
      · obtain ⟨p, hp, rfl⟩ := eq_of_bind_pure h
        exact .num (readNumber_leads hp)
      · obtain ⟨p, -, rfl⟩ := eq_of_bind_pure h
        exact .bool _
      · obtain ⟨p, -, rfl⟩ := eq_of_bind_pure h
        exact .bool _
      · obtain ⟨p, -, rfl⟩ := eq_of_bind_pure h
        exact .null
      · exact absurd h (failAt_ne_ok _ _ _)
    · intro cs j r h
      rw [readValue.readObject.eq_def] at h
      simp only at h
      split at h
      · simp only [Except.ok.injEq, Prod.mk.injEq] at h
        rw [← h.1]
        exact .obj (by simp)
      · exact (ih depth).2.2.1 [] _ _ _ (by simp) h
    · intro acc cs j r hacc h
      rw [readValue.readMembers.eq_def] at h
      simp only at h
      split at h
      · obtain ⟨⟨key, rest⟩, -, h⟩ := bind_eq_ok.1 h
        split at h
        · obtain ⟨⟨v, rest'⟩, hv, h⟩ := bind_eq_ok.1 h
          have hmem : ∀ m ∈ (key, v) :: acc, Numeric m.2 := List.forall_mem_cons.2 ⟨(ih depth).1 _ _ _ hv, hacc⟩
          split at h
          · exact (ih depth).2.2.1 _ _ _ _ hmem h
          · simp only [Except.ok.injEq, Prod.mk.injEq] at h
            rw [← h.1]
            exact .obj fun m hm => hmem m (List.mem_reverse.1 hm)
          · exact absurd h (failAt_ne_ok _ _ _)
        · exact absurd h (failAt_ne_ok _ _ _)
      · exact absurd h (failAt_ne_ok _ _ _)
    · intro cs j r h
      rw [readValue.readArray.eq_def] at h
      simp only at h
      split at h
      · simp only [Except.ok.injEq, Prod.mk.injEq] at h
        rw [← h.1]
        exact .arr (by simp)
      · exact (ih depth).2.2.2.2 [] _ _ _ (by simp) h
    · intro acc cs j r hacc h
      rw [readValue.readElements.eq_def] at h
      simp only at h
      obtain ⟨⟨v, rest⟩, hv, h⟩ := bind_eq_ok.1 h
      have hmem := List.forall_mem_cons.2 ⟨(ih depth).1 _ _ _ hv, hacc⟩
      split at h
      · exact (ih depth).2.2.2.2 _ _ _ _ hmem h
      · simp only [Except.ok.injEq, Prod.mk.injEq] at h
        rw [← h.1]
        exact .arr fun x hx => hmem x (List.mem_reverse.1 hx)
      · exact absurd h (failAt_ne_ok _ _ _)

theorem parseBytes_numeric {bs : List UInt8} {j : Json} (h : parseBytes bs = .ok j) : Numeric j := by
  unfold parseBytes at h
  obtain ⟨⟨v, rest⟩, hv, h⟩ := bind_eq_ok.1 h
  have hnum := (readsNumeric _ 0).1 _ _ _ hv
  simp only at h
  split at h
  · simp only [pure, Except.pure, Except.ok.injEq] at h
    exact h ▸ hnum
  · exact absurd h (failAt_ne_ok _ _ _)

theorem readFloat_isNaN_of_leads {lit : String} (h : LeadsNumeric lit) : (NumberText.readFloat lit).1.isNaN = false := by
  obtain ⟨c, cs, hc, hd⟩ := h
  cases hn : (NumberText.readFloat lit).1.isNaN
  · rfl
  · obtain ⟨r, hr | hr⟩ := NumberText.readFloat_isNaN hn <;> rw [hc] at hr <;> injection hr with hr <;>
      subst hr <;> simp_all [Char.isDigit]


end Json
end JuryCaptions
