import JuryCaptions.Json.Read
import JuryCaptions.Json.Write
import Mathlib.Data.Nat.Init
import Mathlib.Tactic.IntervalCases
import Mathlib.Tactic.SplitIfs
/-!
Reading back what the JSON writer wrote.

The reader undoes every escape the writer uses and decodes every other character
from its UTF-8 bytes (`Utf8.decodeFront_encodeChar`), so a string reads back
(`readString_escaped`). A document reads back when its number texts are read
whole (`NumberLiteral`) and it nests within the reader's depth (`Readable`);
`readValue_render` shows it by induction on the fuel, three steps a byte.
-/

namespace JuryCaptions
namespace Utf8

theorem toNat_toUInt8 {n : Nat} (h : n < 256) : n.toUInt8.toNat = n := by
  simp only [Nat.toUInt8, UInt8.toNat_ofNat']
  omega

theorem isContinuation_toUInt8 (n : Nat) : isContinuation (0x80 + n % 0x40).toUInt8 = true := by
  simp only [isContinuation, toNat_toUInt8 (by omega : 0x80 + n % 0x40 < 256), decide_eq_true_eq]
  omega

theorem bits_toUInt8 (n : Nat) : bits (0x80 + n % 0x40).toUInt8 = n % 0x40 := by
  simp only [bits, toNat_toUInt8 (by omega : 0x80 + n % 0x40 < 256)]
  omega

theorem decodeFront_encodeChar (c : Char) (hc : 0x80 ≤ c.toNat) :
    ∃ b0 bs, encodeChar c = b0 :: bs ∧ 0x80 ≤ b0.toNat ∧ bs.length ≤ 3 ∧
      ∀ rest, decodeFront b0 (bs ++ rest) = (c, bs.length) := by
  -- the scalar value is no surrogate, which the three-byte form checks
  have hv : c.toNat < 0xD800 ∨ (0xDFFF < c.toNat ∧ c.toNat < 0x110000) := c.valid
  have hof : ∀ v, v = c.toNat → Char.ofNat v = c := fun v h => h ▸ Char.ofNat_toNat c
  have h1 : ¬ c.toNat < 0x80 := Nat.not_lt.2 hc
  by_cases h2 : c.toNat < 0x800
  · have hb0 : (0xC0 + c.toNat / 0x40).toUInt8.toNat = 0xC0 + c.toNat / 0x40 := toNat_toUInt8 (by omega)
    refine ⟨(0xC0 + c.toNat / 0x40).toUInt8, [(0x80 + c.toNat % 0x40).toUInt8],
      by simp only [encodeChar, if_neg h1, if_pos h2], by omega, by simp, fun rest => ?_⟩
    simp only [decodeFront, hb0, List.cons_append, isContinuation_toUInt8, bits_toUInt8, if_true,
      List.length_cons, List.length_nil]
    rw [if_neg (by omega), if_neg (by omega), if_pos (by omega), hof _ (by omega)]
  by_cases h3 : c.toNat < 0x10000
  · have hb0 : (0xE0 + c.toNat / 0x1000).toUInt8.toNat = 0xE0 + c.toNat / 0x1000 := toNat_toUInt8 (by omega)
    refine ⟨(0xE0 + c.toNat / 0x1000).toUInt8,
      [(0x80 + c.toNat / 0x40 % 0x40).toUInt8, (0x80 + c.toNat % 0x40).toUInt8],
      by simp only [encodeChar, if_neg h1, if_neg h2, if_pos h3], by omega, by simp, fun rest => ?_⟩
    simp only [decodeFront, hb0, List.cons_append, isContinuation_toUInt8, bits_toUInt8,
      List.length_cons, List.length_nil]
    rw [if_neg (by omega), if_neg (by omega), if_neg (by omega), if_pos (by omega), if_pos (by simp; omega),
      hof _ (by omega)]
  · have hb0 : (0xF0 + c.toNat / 0x40000).toUInt8.toNat = 0xF0 + c.toNat / 0x40000 := toNat_toUInt8 (by omega)
    refine ⟨(0xF0 + c.toNat / 0x40000).toUInt8,
      [(0x80 + c.toNat / 0x1000 % 0x40).toUInt8, (0x80 + c.toNat / 0x40 % 0x40).toUInt8,
        (0x80 + c.toNat % 0x40).toUInt8],
      by simp only [encodeChar, if_neg h1, if_neg h2, if_neg h3], by omega, by simp, fun rest => ?_⟩
    simp only [decodeFront, hb0, List.cons_append, isContinuation_toUInt8, bits_toUInt8,
      List.length_cons, List.length_nil]
    rw [if_neg (by omega), if_neg (by omega), if_neg (by omega), if_neg (by omega), if_pos (by omega),
      if_pos (by simp; omega), hof _ (by omega)]

theorem length_encodeChar_pos (c : Char) : 0 < (encodeChar c).length := by
  simp only [encodeChar]
  split_ifs <;> simp

theorem encode_append (a b : String) : encode (a ++ b) = encode a ++ encode b := by
  simp [encode]

theorem length_le_encode (s : String) : s.length ≤ (encode s).length := by
  rw [← String.length_toList, encode]
  induction s.toList with
  | nil => simp
  | cons c cs ih =>
    have := length_encodeChar_pos c
    simp only [List.flatMap_cons, List.length_append, List.length_cons]
    omega

end Utf8

namespace Json

/-! ## The reader's view of bytes -/

/-- The characters the reader sees for some bytes, one for each byte. -/
def byteChars (bs : List UInt8) : List Char := bs.map fun b => Char.ofNat b.toNat

@[simp] theorem byteChars_nil : byteChars [] = [] := rfl

@[simp] theorem byteChars_append (a b : List UInt8) : byteChars (a ++ b) = byteChars a ++ byteChars b :=
  List.map_append ..

@[simp] theorem byteChars_cons (b : UInt8) (bs : List UInt8) :
    byteChars (b :: bs) = Char.ofNat b.toNat :: byteChars bs := rfl

@[simp] theorem length_byteChars (bs : List UInt8) : (byteChars bs).length = bs.length :=
  List.length_map ..

theorem toNat_ofNat_byte (b : UInt8) : (Char.ofNat b.toNat).toNat = b.toNat := by
  have h : b.toNat < 256 := b.toNat_lt
  rw [Char.ofNat, dif_pos (Or.inl (by omega))]
  rfl

@[simp] theorem bytesOf_byteChars (bs : List UInt8) : bytesOf (byteChars bs) = bs := by
  induction bs with
  | nil => rfl
  | cons b bs ih =>
    simp only [byteChars_cons, bytesOf, List.map_cons] at ih ⊢
    rw [ih, toNat_ofNat_byte, Nat.toUInt8, UInt8.ofNat_toNat]

theorem bytesOf_append (a b : List Char) : bytesOf (a ++ b) = bytesOf a ++ bytesOf b :=
  List.map_append ..

theorem byteChars_encodeChar {c : Char} (h : c.toNat < 0x80) : byteChars (Utf8.encodeChar c) = [c] := by
  have hb : c.toNat.toUInt8.toNat = c.toNat := Utf8.toNat_toUInt8 (by omega)
  simp [Utf8.encodeChar, h, hb]

theorem byteChars_flatMap_encodeChar {cs : List Char} (h : ∀ c ∈ cs, c.toNat < 0x80) :
    byteChars (cs.flatMap Utf8.encodeChar) = cs := by
  induction cs with
  | nil => rfl
  | cons c cs ih =>
    rw [List.flatMap_cons, byteChars_append, byteChars_encodeChar (h c List.mem_cons_self),
      ih fun d hd => h d (List.mem_cons_of_mem c hd)]
    rfl

theorem byteChars_encode_ascii {s : String} (h : ∀ c ∈ s.toList, c.toNat < 0x80) :
    byteChars (Utf8.encode s) = s.toList :=
  byteChars_flatMap_encodeChar h

theorem length_encode_append (a b : String) :
    (Utf8.encode (a ++ b)).length = (Utf8.encode a).length + (Utf8.encode b).length := by
  rw [Utf8.encode_append, List.length_append]

theorem skipBlanks_cons {c : Char} (h : isBlank c = false) (cs : List Char) : skipBlanks (c :: cs) = c :: cs := by
  rw [skipBlanks, if_neg (by simp [h])]

theorem ne_of_isDigit {c d : Char} (hc : c.isDigit = true) (hd : d.isDigit = false) : c ≠ d := by
  rintro rfl
  simp_all

theorem isBlank_of_isDigit {c : Char} (hc : c.isDigit = true) : isBlank c = false := by
  simp [isBlank, ne_of_isDigit hc (d := ' ') rfl, ne_of_isDigit hc (d := '\t') rfl,
    ne_of_isDigit hc (d := '\n') rfl, ne_of_isDigit hc (d := '\r') rfl]

/-! ## Escapes -/

/-- The four hex digits of a code unit, as a `\u` escape writes them. -/
def hexChars4 (n : Nat) : List Char :=
  [(n / 4096 % 16).digitChar, (n / 256 % 16).digitChar, (n / 16 % 16).digitChar, (n % 16).digitChar]

theorem hexValue_digitChar : ∀ d < 16, NumberText.hexValue (Nat.digitChar d) = some d := by decide

theorem digitChar_lt : ∀ d < 16, (Nat.digitChar d).toNat < 0x80 := by decide

theorem readHex4_hexChars4 {n : Nat} (h : n < 65536) (rest : List Char) :
    readHex4 (hexChars4 n ++ rest) = some (n, rest) := by
  simp only [readHex4, hexChars4, List.cons_append, List.nil_append, List.take_succ_cons, List.take_zero,
    List.length_cons, List.length_nil, List.foldlM_cons, List.foldlM_nil, List.drop_succ_cons, List.drop_zero,
    hexValue_digitChar _ (Nat.mod_lt _ (by omega : 16 > 0))]
  simp
  omega

theorem hexDigits_two {n : Nat} (h : n < 256) :
    '0' :: '0' :: (Quote.hexDigits n 2).toList = hexChars4 n := by
  have h4096 : n / 4096 % 16 = 0 := by omega
  have h256 : n / 256 % 16 = 0 := by omega
  have h16 : n / 16 % 16 = n / 16 := by omega
  simp only [hexChars4, h4096, h256, h16, Quote.hexDigits, String.toList_ofList]
  by_cases hn : n < 16
  · rw [Nat.toDigits_of_lt_base hn, Nat.div_eq_of_lt hn, Nat.mod_eq_of_lt hn]
    rfl
  · rw [Nat.toDigits_of_base_le (by omega) (by omega), Nat.toDigits_of_lt_base (by omega)]
    rfl

theorem byteChars_lowEscape {n : Nat} (h : n < 256) :
    byteChars (Utf8.encode ("\\u00" ++ Quote.hexDigits n 2)) = '\\' :: 'u' :: hexChars4 n := by
  have ht : ("\\u00" ++ Quote.hexDigits n 2).toList = '\\' :: 'u' :: hexChars4 n := by
    rw [String.toList_append, ← hexDigits_two h]
    rfl
  rw [byteChars_encode_ascii, ht]
  rw [ht]
  simp only [List.mem_cons]
  rintro c (rfl | rfl | hc)
  · decide
  · decide
  · simp only [hexChars4, List.mem_cons, List.not_mem_nil, or_false] at hc
    rcases hc with rfl | rfl | rfl | rfl <;> exact digitChar_lt _ (Nat.mod_lt _ (by omega))

/-! ## Strings -/

section Strings

variable {fuel : Nat} {acc : List Char}

theorem readChars_plain {c : Char} (hq : c ≠ '"') (hb : c ≠ '\\') (hlo : 0x20 ≤ c.toNat)
    (hhi : c.toNat < 0x80) (rest : List Char) :
    readChars (fuel + 1) acc (c :: rest) = readChars fuel (c :: acc) rest := by
  rw [readChars.eq_def]
  dsimp only
  rw [if_neg hq, if_neg hb, if_neg (by omega), if_pos hhi]

theorem readChars_simpleEscape {e d : Char} (hd : simpleEscape e = some d) (rest : List Char) :
    readChars (fuel + 1) acc ('\\' :: e :: rest) = readChars fuel (d :: acc) rest := by
  have he : e = '"' ∨ e = '\\' ∨ e = '/' ∨ e = 'b' ∨ e = 'f' ∨ e = 'n' ∨ e = 'r' ∨ e = 't' := by
    revert hd
    unfold simpleEscape
    split <;> simp
  rcases he with rfl | rfl | rfl | rfl | rfl | rfl | rfl | rfl <;>
    · simp only [simpleEscape, Option.some.injEq] at hd
      subst hd
      rfl

theorem readChars_unicodeEscape {n : Nat} (h : n < 0xD800) (rest : List Char) :
    readChars (fuel + 1) acc ('\\' :: 'u' :: (hexChars4 n ++ rest)) =
      readChars fuel (Char.ofNat n :: acc) rest := by
  rw [readChars.eq_def]
  dsimp only
  rw [if_neg (by decide), if_pos rfl]
  simp only [readHex4_hexChars4 (by omega : n < 65536)]
  -- no surrogate: the code unit stands for itself
  rw [if_neg (by omega), if_neg (by omega)]

theorem readChars_lowEscape {c : Char} (h : c.toNat < 256) (rest : List Char) :
    readChars (fuel + 1) acc (byteChars (Utf8.encode ("\\u00" ++ Quote.hexDigits c.toNat 2)) ++ rest) =
      readChars fuel (c :: acc) rest := by
  rw [byteChars_lowEscape h, List.cons_append, List.cons_append, readChars_unicodeEscape (by omega),
    Char.ofNat_toNat]

theorem readChars_separatorEscape {c : Char} (h : c.toNat = 0x2028 ∨ c.toNat = 0x2029) (rest : List Char) :
    readChars (fuel + 1) acc (byteChars (Utf8.encode ("\\u" ++ Quote.hexDigits c.toNat 4)) ++ rest) =
      readChars fuel (c :: acc) rest := by
  have hb : byteChars (Utf8.encode ("\\u" ++ Quote.hexDigits c.toNat 4)) = '\\' :: 'u' :: hexChars4 c.toNat := by
    rcases h with h | h <;> rw [h] <;> rfl
  rw [hb, List.cons_append, List.cons_append, readChars_unicodeEscape (by omega), Char.ofNat_toNat]

theorem readChars_multibyte {c : Char} (hc : 0x80 ≤ c.toNat) (rest : List Char) :
    readChars (fuel + 1) acc (byteChars (Utf8.encodeChar c) ++ rest) = readChars fuel (c :: acc) rest := by
  obtain ⟨b0, bs, henc, hb0, hlen, hdec⟩ := Utf8.decodeFront_encodeChar c hc
  have h0 : (Char.ofNat b0.toNat).toNat = b0.toNat := toNat_ofNat_byte b0
  have hne : ∀ d : Char, d.toNat < 0x80 → Char.ofNat b0.toNat ≠ d := fun d hd h => by
    rw [h] at h0
    omega
  -- the reader hands the decoder at most three bytes after the lead byte
  have hfront : bytesOf (List.take 3 (byteChars bs ++ rest)) = bs ++ bytesOf (List.take (3 - bs.length) rest) := by
    rw [List.take_append, List.take_of_length_le (by simpa using hlen), bytesOf_append, bytesOf_byteChars]
    simp
  rw [henc, byteChars_cons, List.cons_append, readChars.eq_def]
  dsimp only
  rw [if_neg (hne '"' (by decide)), if_neg (hne '\\' (by decide)), if_neg (by omega), if_neg (by omega), h0,
    Nat.toUInt8, UInt8.ofNat_toNat, hfront, hdec]
  dsimp only
  rw [List.drop_left' (by simp)]

/- `split` on the ten branches of `escapeChar` is slow; each branch is taken
apart by this lemma instead. -/
theorem readChars_ite {p : Prop} [Decidable p] {c : Char} {s t : String} (rest : List Char)
    (hs : p → readChars (fuel + 1) acc (byteChars (Utf8.encode s) ++ rest) = readChars fuel (c :: acc) rest)
    (ht : ¬p → readChars (fuel + 1) acc (byteChars (Utf8.encode t) ++ rest) = readChars fuel (c :: acc) rest) :
    readChars (fuel + 1) acc (byteChars (Utf8.encode (if p then s else t)) ++ rest) =
      readChars fuel (c :: acc) rest := by
  by_cases h : p
  · rw [if_pos h]; exact hs h
  · rw [if_neg h]; exact ht h

theorem readChars_escapeChar (html : Bool) (c : Char) (rest : List Char) :
    readChars (fuel + 1) acc (byteChars (Utf8.encode (escapeChar html c)) ++ rest) =
      readChars fuel (c :: acc) rest := by
  unfold escapeChar
  refine readChars_ite rest (fun h => by subst h; exact readChars_simpleEscape rfl rest) fun hq => ?_
  refine readChars_ite rest (fun h => by subst h; exact readChars_simpleEscape rfl rest) fun hb => ?_
  -- the five controls with one-letter escapes
  iterate 5
    refine readChars_ite rest (fun h => by subst h; exact readChars_simpleEscape rfl rest) fun _ => ?_
  refine readChars_ite rest (fun h => readChars_lowEscape (by omega) rest) fun hlo => ?_
  refine readChars_ite rest (fun h => readChars_lowEscape ?_ rest) fun _ => ?_
  · simp only [Bool.and_eq_true, Bool.or_eq_true, decide_eq_true_eq] at h
    rcases h.2 with (rfl | rfl) | rfl <;> decide
  refine readChars_ite rest (fun h => readChars_separatorEscape (by simpa using h) rest) fun _ => ?_
  by_cases ha : c.toNat < 0x80
  · rw [Utf8.encode, String.toList_singleton, List.flatMap_cons, List.flatMap_nil, List.append_nil,
      byteChars_encodeChar ha, List.singleton_append, readChars_plain hq hb (by omega) ha]
  · rw [Utf8.encode, String.toList_singleton, List.flatMap_cons, List.flatMap_nil, List.append_nil,
      readChars_multibyte (by omega)]

end Strings

/-- The characters the reader sees for the escaped characters of a string. -/
def escapedChars (html : Bool) (cs : List Char) : List Char :=
  byteChars (Utf8.encode (String.join (cs.map (escapeChar html))))

theorem escapedChars_cons (html : Bool) (c : Char) (cs : List Char) :
    escapedChars html (c :: cs) = byteChars (Utf8.encode (escapeChar html c)) ++ escapedChars html cs := by
  rw [escapedChars, List.map_cons, String.join_cons, Utf8.encode_append, byteChars_append, escapedChars]

theorem length_pos_ite {p : Prop} [Decidable p] {a b : String} (ha : 0 < a.length) (hb : 0 < b.length) :
    0 < (if p then a else b).length := by
  split <;> assumption

theorem length_pos_append {a : String} (b : String) (ha : 0 < a.length) : 0 < (a ++ b).length := by
  rw [String.length_append]
  omega

theorem escapeChar_length_pos (html : Bool) (c : Char) : 0 < (escapeChar html c).length := by
  unfold escapeChar
  iterate 10 refine length_pos_ite (by first | decide | exact length_pos_append _ (by decide)) ?_
  simp

theorem length_le_escapedChars (html : Bool) (cs : List Char) : cs.length ≤ (escapedChars html cs).length := by
  induction cs with
  | nil => simp
  | cons c cs ih =>
    have h1 := escapeChar_length_pos html c
    have h2 := Utf8.length_le_encode (escapeChar html c)
    rw [escapedChars_cons, List.length_append, length_byteChars, List.length_cons]
    omega

theorem readChars_escapedChars (html : Bool) (cs : List Char) (acc rest : List Char) (fuel : Nat)
    (hfuel : cs.length < fuel) :
    readChars fuel acc (escapedChars html cs ++ '"' :: rest) = .ok (String.ofList (acc.reverse ++ cs), rest) := by
  induction cs generalizing acc fuel with
  | nil =>
    obtain ⟨fuel, rfl⟩ : ∃ f, fuel = f + 1 := ⟨fuel - 1, by simp at hfuel; omega⟩
    show readChars (fuel + 1) acc ('"' :: rest) = _
    rw [readChars.eq_def]
    simp
  | cons c cs ih =>
    obtain ⟨fuel, rfl⟩ : ∃ f, fuel = f + 1 := ⟨fuel - 1, by simp at hfuel; omega⟩
    rw [escapedChars_cons, List.append_assoc, readChars_escapeChar, ih (c :: acc) fuel (by simp at hfuel; omega)]
    simp

theorem byteChars_quote (html : Bool) (s : String) :
    byteChars (Utf8.encode (quote html s)) = '"' :: (escapedChars html s.toList ++ ['"']) := by
  rw [quote, Utf8.encode_append, Utf8.encode_append, byteChars_append, byteChars_append, escapedChars]
  rfl

theorem length_encode_quote (html : Bool) (k : String) :
    (Utf8.encode (quote html k)).length = (escapedChars html k.toList).length + 2 := by
  rw [← length_byteChars, byteChars_quote]
  simp

theorem readString_escaped (html : Bool) (s : String) (rest : List Char) :
    readString (escapedChars html s.toList ++ '"' :: rest) = .ok (s, rest) := by
  have := length_le_escapedChars html s.toList
  rw [readString, readChars_escapedChars html s.toList [] rest _ (by simp; omega)]
  simp

/-! ## Numbers -/

/-- What may stand right after a number: nothing that could continue it. -/
def EndsNumber : List Char → Prop
  | [] => True
  | c :: _ => c.isDigit = false ∧ c ≠ '.' ∧ c ≠ 'e' ∧ c ≠ 'E'

/-- What may stand right after the digits of a whole part: no further digit. -/
def StopsDigits : List Char → Prop
  | [] => True
  | c :: _ => c.isDigit = false

theorem stopsDigits_of_endsNumber {rest : List Char} (h : EndsNumber rest) : StopsDigits rest := by
  cases rest with
  | nil => trivial
  | cons c cs => exact h.1

/-- The digits of a whole part as a number text writes them: `0` alone, or digits
that do not start with `0`. -/
def CanonicalDigits (w : List Char) : Prop :=
  w = ['0'] ∨ ∃ d ds, w = d :: ds ∧ d ≠ '0' ∧ ∀ c ∈ w, c.isDigit = true

theorem isDigit_toDigits (m : Nat) : ∀ c ∈ Nat.toDigits 10 m, c.isDigit = true :=
  fun _ hc => Nat.isDigit_of_mem_toDigits (by decide) (by decide) hc

theorem toDigits_head (m : Nat) : ∃ c cs, Nat.toDigits 10 m = c :: cs ∧ (c = '0' → m = 0) := by
  induction m using Nat.strong_induction_on with
  | _ m ih =>
    by_cases hm : m < 10
    · refine ⟨m.digitChar, [], Nat.toDigits_of_lt_base hm, fun h => ?_⟩
      interval_cases m <;> simp_all [Nat.digitChar]
    · -- the leading digit is that of `m / 10`
      obtain ⟨c, cs, hcs, h0⟩ := ih (m / 10) (by omega)
      refine ⟨c, cs ++ [(m % 10).digitChar], ?_, fun h => absurd (h0 h) (by omega)⟩
      rw [Nat.toDigits_of_base_le (by omega) (by omega), hcs, List.cons_append]

theorem canonicalDigits_toDigits (m : Nat) : CanonicalDigits (Nat.toDigits 10 m) := by
  obtain ⟨c, cs, hcs, h0⟩ := toDigits_head m
  by_cases hm : m = 0
  · left; subst hm; rfl
  · right; exact ⟨c, cs, hcs, fun h => hm (h0 h), isDigit_toDigits m⟩

theorem readDigits_stops {ds : List Char} (hd : ∀ c ∈ ds, c.isDigit = true) {rest : List Char}
    (hr : StopsDigits rest) : readDigits (ds ++ rest) = (ds, rest) := by
  induction ds with
  | nil =>
    cases rest with
    | nil => rfl
    | cons c cs => simp [readDigits, show c.isDigit = false from hr]
  | cons d ds ih =>
    have hdd : d.isDigit = true := hd d List.mem_cons_self
    rw [List.cons_append, readDigits, if_pos hdd, ih fun c hc => hd c (List.mem_cons_of_mem d hc)]

theorem readFraction_none {rest : List Char} (h : ∀ r, rest ≠ '.' :: r) : readFraction rest = .ok ([], rest) := by
  unfold readFraction
  split
  · exact absurd rfl (h _)
  · rfl

theorem readExponent_none {rest : List Char} (h : ∀ r, rest ≠ 'e' :: r ∧ rest ≠ 'E' :: r) :
    readExponent rest = .ok ([], rest) := by
  cases rest with
  | nil => rfl
  | cons c cs =>
    have he : c ≠ 'e' := fun hc => (h cs).1 (by rw [hc])
    have hE : c ≠ 'E' := fun hc => (h cs).2 (by rw [hc])
    simp [readExponent, he, hE]

theorem readNumberTail_end {rest : List Char} (hr : EndsNumber rest) : readNumberTail rest = .ok ([], rest) := by
  have hf : readFraction rest = .ok ([], rest) := readFraction_none fun r h => by
    subst h; exact hr.2.1 rfl
  have hx : readExponent rest = .ok ([], rest) := readExponent_none fun r => by
    constructor <;> rintro rfl
    · exact hr.2.2.1 rfl
    · exact hr.2.2.2 rfl
  simp [readNumberTail, hf, hx, bind, Except.bind, pure, Except.pure]

theorem splitSign_digits {w : List Char} (hw : CanonicalDigits w) (rest : List Char) :
    splitSign (w ++ rest) = ([], w ++ rest) := by
  rcases hw with rfl | ⟨d, ds, rfl, -, hds⟩
  · rfl
  · have hd : d ≠ '-' := fun h => absurd (hds d List.mem_cons_self) (by rw [h]; decide)
    rw [List.cons_append, splitSign]
    intro r h
    exact hd (List.cons.inj h).1

theorem readIntegerPart_digits {w : List Char} (hw : CanonicalDigits w) {rest : List Char}
    (hr : StopsDigits rest) : readIntegerPart (w ++ rest) = .ok (w, rest) := by
  rcases hw with rfl | ⟨d, ds, rfl, hd0, hds⟩
  · rfl
  · rw [List.cons_append, readIntegerPart, ← List.cons_append, readSomeDigits, readDigits_stops hds hr]
    intro r h
    exact hd0 (List.cons.inj h).1

theorem readNumber_whole (neg : Bool) {w : List Char} (hw : CanonicalDigits w) {rest : List Char}
    (hr : StopsDigits rest) :
    readNumber ((if neg then ['-'] else []) ++ w ++ rest) =
      (readNumberTail rest).map fun (t, r) => (String.ofList ((if neg then ['-'] else []) ++ w ++ t), r) := by
  have hsign : splitSign ((if neg then ['-'] else []) ++ w ++ rest) = (if neg then ['-'] else [], w ++ rest) := by
    cases neg
    · exact splitSign_digits hw rest
    · rfl
  simp only [readNumber, hsign, readIntegerPart_digits hw hr, bind, Except.bind, pure, Except.pure]
  cases readNumberTail rest <;> rfl

/-- A number text the reader takes whole: it is ASCII, it starts the way a number
starts, and the reader takes exactly it from any text where nothing follows that
could continue it. -/
structure NumberLiteral (lit : String) : Prop where
  ascii : ∀ c ∈ lit.toList, c.toNat < 0x80
  starts : ∃ c cs, lit.toList = c :: cs ∧ (c = '-' || c.isDigit) = true
  reads : ∀ rest, EndsNumber rest → readNumber (lit.toList ++ rest) = .ok (lit, rest)

theorem toNat_lt_of_isDigit {c : Char} (h : c.isDigit = true) : c.toNat < 0x80 := by
  have := Char.isDigit_iff_toNat.1 h
  simp at this
  omega

theorem toList_toString_int (n : Int) :
    (toString n).toList = (if n < 0 then ['-'] else []) ++ Nat.toDigits 10 n.natAbs := by
  rw [Int.toString_eq_repr, Int.repr_eq_if]
  by_cases hn : 0 ≤ n
  · rw [if_pos hn, if_neg (by omega), Nat.toList_repr, List.nil_append]
    congr 2
    omega
  · rw [if_neg hn, if_pos (by omega), String.toList_append, Nat.toList_repr]
    congr 2
    omega

theorem numberLiteral_int (n : Int) : NumberLiteral (toString n) where
  ascii := by
    rw [toList_toString_int]
    intro c hc
    rcases List.mem_append.1 hc with h | h
    · split at h <;> simp_all
    · exact toNat_lt_of_isDigit (isDigit_toDigits _ c h)
  starts := by
    obtain ⟨c, cs, hcs, -⟩ := toDigits_head n.natAbs
    rw [toList_toString_int, hcs]
    split
    · exact ⟨'-', c :: cs, rfl, rfl⟩
    · refine ⟨c, cs, rfl, ?_⟩
      simp [isDigit_toDigits n.natAbs c (by rw [hcs]; exact List.mem_cons_self)]
  reads := fun rest hr => by
    have hsign : (if n < 0 then ['-'] else []) = if decide (n < 0) then ['-'] else [] := by simp
    rw [toList_toString_int, hsign, readNumber_whole _ (canonicalDigits_toDigits _)
      (stopsDigits_of_endsNumber hr), readNumberTail_end hr]
    simp only [Except.map, List.append_nil]
    rw [← hsign, ← toList_toString_int, String.ofList_toList]

/-! ## Documents -/

mutual

/-- A document the reader takes back from its text: its number texts are read
whole, and its arrays and objects stand inside fewer than `maxDepth` others,
counting the `depth` already open around it. -/
def Readable (depth : Nat) : Json → Prop
  | .num lit => NumberLiteral lit
  | .arr xs => depth < maxDepth ∧ ItemsReadable (depth + 1) xs
  | .obj ms => depth < maxDepth ∧ MembersReadable (depth + 1) ms
  | _ => True

/-- Every item is readable. -/
def ItemsReadable (depth : Nat) : List Json → Prop
  | [] => True
  | x :: xs => Readable depth x ∧ ItemsReadable depth xs

/-- Every member's value is readable. -/
def MembersReadable (depth : Nat) : List (String × Json) → Prop
  | [] => True
  | (_, v) :: ms => Readable depth v ∧ MembersReadable depth ms

end

theorem chars_comma : byteChars (Utf8.encode ",") = [','] := by decide

theorem chars_obj (html : Bool) (ms : List (String × Json)) :
    byteChars (Utf8.encode (render html (.obj ms))) =
      '{' :: (byteChars (Utf8.encode (renderMembers html ms)) ++ ['}']) := by
  rw [render, Utf8.encode_append, Utf8.encode_append, byteChars_append, byteChars_append]
  rfl

theorem chars_arr (html : Bool) (xs : List Json) :
    byteChars (Utf8.encode (render html (.arr xs))) =
      '[' :: (byteChars (Utf8.encode (renderItems html xs)) ++ [']']) := by
  rw [render, Utf8.encode_append, Utf8.encode_append, byteChars_append, byteChars_append]
  rfl

theorem chars_member (html : Bool) (k : String) (v : Json) :
    byteChars (Utf8.encode (quote html k ++ ":" ++ render html v)) =
      '"' :: (escapedChars html k.toList ++ '"' :: ':' :: byteChars (Utf8.encode (render html v))) := by
  rw [Utf8.encode_append, Utf8.encode_append, byteChars_append, byteChars_append, byteChars_quote]
  simp
  rfl

theorem renderMembers_cons_cons (html : Bool) (k : String) (v : Json) (m : String × Json)
    (ms : List (String × Json)) :
    renderMembers html ((k, v) :: m :: ms) =
      quote html k ++ ":" ++ render html v ++ "," ++ renderMembers html (m :: ms) := by
  rw [renderMembers]
  exact fun h => List.cons_ne_nil _ _ h

theorem renderItems_cons_cons (html : Bool) (x y : Json) (xs : List Json) :
    renderItems html (x :: y :: xs) = render html x ++ "," ++ renderItems html (y :: xs) := by
  rw [renderItems]
  exact fun h => List.cons_ne_nil _ _ h

theorem head_render (html : Bool) {depth : Nat} {j : Json} (h : Readable depth j) :
    ∃ c cs, byteChars (Utf8.encode (render html j)) = c :: cs ∧ isBlank c = false ∧ c ≠ ']' ∧ c ≠ '}' := by
  cases j with
  | null => exact ⟨'n', ['u', 'l', 'l'], by rw [render]; decide, rfl, by decide, by decide⟩
  | bool b =>
    cases b
    · exact ⟨'f', ['a', 'l', 's', 'e'], by rw [render]; decide, rfl, by decide, by decide⟩
    · exact ⟨'t', ['r', 'u', 'e'], by rw [render]; decide, rfl, by decide, by decide⟩
  | num lit =>
    obtain ⟨c, cs, hcs, hc⟩ := (show NumberLiteral lit from h).starts
    refine ⟨c, cs, by rw [render, byteChars_encode_ascii (show NumberLiteral lit from h).ascii, hcs], ?_⟩
    simp only [Bool.or_eq_true, decide_eq_true_eq] at hc
    rcases hc with rfl | hd
    · exact ⟨rfl, by decide, by decide⟩
    · exact ⟨isBlank_of_isDigit hd, ne_of_isDigit hd rfl, ne_of_isDigit hd rfl⟩
  | str s => exact ⟨'"', _, by rw [render, byteChars_quote], rfl, by decide, by decide⟩
  | arr xs => exact ⟨'[', _, chars_arr html xs, rfl, by decide, by decide⟩
  | obj ms => exact ⟨'{', _, chars_obj html ms, rfl, by decide, by decide⟩

theorem head_renderItems (html : Bool) {depth : Nat} {x : Json} (h : Readable depth x) (xs : List Json) :
    ∃ c cs, byteChars (Utf8.encode (renderItems html (x :: xs))) = c :: cs ∧ isBlank c = false ∧ c ≠ ']' := by
  obtain ⟨c, cs, hcs, hb, hc, -⟩ := head_render html h
  cases xs with
  | nil => exact ⟨c, cs, by rw [renderItems, hcs], hb, hc⟩
  | cons y xs =>
    refine ⟨c, cs ++ (byteChars (Utf8.encode ",") ++ byteChars (Utf8.encode (renderItems html (y :: xs)))),
      ?_, hb, hc⟩
    rw [renderItems_cons_cons, Utf8.encode_append, Utf8.encode_append, byteChars_append, byteChars_append, hcs,
      List.cons_append, List.cons_append, List.append_assoc]

theorem head_renderMembers (html : Bool) (k : String) (v : Json) (ms : List (String × Json)) :
    ∃ cs, byteChars (Utf8.encode (renderMembers html ((k, v) :: ms))) = '"' :: cs := by
  cases ms with
  | nil => exact ⟨_, by rw [renderMembers, chars_member]⟩
  | cons m ms =>
    refine ⟨escapedChars html k.toList ++ '"' :: ':' :: byteChars (Utf8.encode (render html v)) ++
      (byteChars (Utf8.encode ",") ++ byteChars (Utf8.encode (renderMembers html (m :: ms)))), ?_⟩
    rw [renderMembers_cons_cons, Utf8.encode_append, Utf8.encode_append, byteChars_append, byteChars_append,
      chars_member]
    simp

/-! ### Scalars -/

section Scalars

variable (fuel depth : Nat) (html : Bool)

theorem readValue_null (rest : List Char) :
    readValue (fuel + 1) depth (byteChars (Utf8.encode (render html .null)) ++ rest) = .ok (.null, rest) := by
  have h : byteChars (Utf8.encode (render html .null)) = ['n', 'u', 'l', 'l'] := by
    rw [render]; decide
  rw [h, readValue.eq_def]
  simp [skipBlanks, isBlank, readWord, bind, Except.bind, pure, Except.pure]

theorem readValue_bool (b : Bool) (rest : List Char) :
    readValue (fuel + 1) depth (byteChars (Utf8.encode (render html (.bool b)))  ++ rest) = .ok (.bool b, rest) := by
  cases b
  · have h : byteChars (Utf8.encode (render html (.bool false))) = ['f', 'a', 'l', 's', 'e'] := by
      rw [render]; decide
    rw [h, readValue.eq_def]
    simp [skipBlanks, isBlank, readWord, bind, Except.bind, pure, Except.pure]
  · have h : byteChars (Utf8.encode (render html (.bool true))) = ['t', 'r', 'u', 'e'] := by
      rw [render]; decide
    rw [h, readValue.eq_def]
    simp [skipBlanks, isBlank, readWord, bind, Except.bind, pure, Except.pure]

theorem readValue_string (s : String) (rest : List Char) :
    readValue (fuel + 1) depth (byteChars (Utf8.encode (render html (.str s))) ++ rest) = .ok (.str s, rest) := by
  rw [render, byteChars_quote, List.cons_append, List.append_assoc, readValue.eq_def]
  simp [skipBlanks_cons (c := '"') rfl, readString_escaped, bind, Except.bind, pure, Except.pure]

theorem readValue_number {lit : String} (h : NumberLiteral lit) {rest : List Char} (hr : EndsNumber rest) :
    readValue (fuel + 1) depth (byteChars (Utf8.encode (render html (.num lit))) ++ rest) = .ok (.num lit, rest) := by
  obtain ⟨c, cs, hcs, hc⟩ := h.starts
  have hread := h.reads rest hr
  rw [render, byteChars_encode_ascii h.ascii, hcs, List.cons_append, readValue.eq_def]
  rw [hcs, List.cons_append] at hread
  simp only [Bool.or_eq_true, decide_eq_true_eq] at hc
  rcases hc with rfl | hd
  · simp [skipBlanks_cons (c := '-') rfl, hread, bind, Except.bind, pure, Except.pure]
  · simp [skipBlanks_cons (isBlank_of_isDigit hd), ne_of_isDigit hd (d := '{') rfl, ne_of_isDigit hd (d := '[') rfl,
      ne_of_isDigit hd (d := '"') rfl, hd, hread, bind, Except.bind, pure, Except.pure]

end Scalars

/-! ### Arrays and objects -/

/-- Reading with `fuel` steps takes back every readable document whose text has
at most a third as many bytes. -/
def ReadsBackWithin (html : Bool) (fuel : Nat) : Prop :=
  ∀ depth j rest, 3 * (Utf8.encode (render html j)).length ≤ fuel → Readable depth j → EndsNumber rest →
    readValue fuel depth (byteChars (Utf8.encode (render html j)) ++ rest) = .ok (j, rest)

theorem readMembers_render (html : Bool) {bound : Nat} (hv : ∀ m < bound, ReadsBackWithin html m) :
    ∀ (ms : List (String × Json)) (fuel depth : Nat) (acc : List (String × Json)) (rest : List Char),
      ms ≠ [] → fuel ≤ bound → 3 * (Utf8.encode (renderMembers html ms)).length + 1 ≤ fuel →
      MembersReadable depth ms →
      readValue.readMembers fuel depth acc (byteChars (Utf8.encode (renderMembers html ms)) ++ '}' :: rest) =
        .ok (.obj (acc.reverse ++ ms), rest)
  | [], _, _, _, _, h, _, _, _ => absurd rfl h
  | (k, v) :: ms, fuel, depth, acc, rest, _, hbound, hlen, hread => by
    obtain ⟨hvr, hmr⟩ : Readable depth v ∧ MembersReadable depth ms := hread
    obtain ⟨h, rfl⟩ : ∃ h, fuel = h + 1 := ⟨fuel - 1, by omega⟩
    cases ms with
    | nil =>
      have hl : (Utf8.encode (renderMembers html [(k, v)])).length =
          (escapedChars html k.toList).length + 3 + (Utf8.encode (render html v)).length := by
        rw [renderMembers, length_encode_append, length_encode_append, length_encode_quote]
        simp only [show (Utf8.encode ":").length = 1 by decide]
      have hval := hv h (by omega) depth v ('}' :: rest) (by omega) hvr ⟨rfl, by decide, by decide, by decide⟩
      rw [renderMembers, chars_member, readValue.readMembers.eq_def]
      simp only [List.cons_append, List.append_assoc, skipBlanks_cons (c := '"') rfl]
      simp [readString_escaped, bind, Except.bind, skipBlanks_cons (c := ':') rfl, hval,
        skipBlanks_cons (c := '}') rfl]
    | cons m ms =>
      have hl : (Utf8.encode (renderMembers html ((k, v) :: m :: ms))).length =
          (escapedChars html k.toList).length + 4 + (Utf8.encode (render html v)).length +
            (Utf8.encode (renderMembers html (m :: ms))).length := by
        rw [renderMembers_cons_cons, length_encode_append, length_encode_append, length_encode_append,
          length_encode_append, length_encode_quote]
        simp only [show (Utf8.encode ":").length = 1 by decide, show (Utf8.encode ",").length = 1 by decide]
        omega
      have hval := hv h (by omega) depth v
        (',' :: (byteChars (Utf8.encode (renderMembers html (m :: ms))) ++ '}' :: rest))
        (by omega) hvr ⟨rfl, by decide, by decide, by decide⟩
      have hmore := readMembers_render html hv (m :: ms) h depth ((k, v) :: acc) rest (List.cons_ne_nil _ _)
        (by omega) (by omega) hmr
      rw [renderMembers_cons_cons, Utf8.encode_append, Utf8.encode_append, byteChars_append, byteChars_append,
        chars_member, chars_comma, readValue.readMembers.eq_def]
      simp only [List.cons_append, List.append_assoc, skipBlanks_cons (c := '"') rfl]
      simp [readString_escaped, bind, Except.bind, skipBlanks_cons (c := ':') rfl, hval,
        skipBlanks_cons (c := ',') rfl, hmore]

theorem readElements_render (html : Bool) {bound : Nat} (hv : ∀ m < bound, ReadsBackWithin html m) :
    ∀ (xs : List Json) (fuel depth : Nat) (acc : List Json) (rest : List Char),
      xs ≠ [] → fuel ≤ bound → 3 * (Utf8.encode (renderItems html xs)).length + 1 ≤ fuel →
      ItemsReadable depth xs →
      readValue.readElements fuel depth acc (byteChars (Utf8.encode (renderItems html xs)) ++ ']' :: rest) =
        .ok (.arr (acc.reverse ++ xs), rest)
  | [], _, _, _, _, h, _, _, _ => absurd rfl h
  | x :: xs, fuel, depth, acc, rest, _, hbound, hlen, hread => by
    obtain ⟨hxr, hxsr⟩ : Readable depth x ∧ ItemsReadable depth xs := hread
    obtain ⟨h, rfl⟩ : ∃ h, fuel = h + 1 := ⟨fuel - 1, by omega⟩
    cases xs with
    | nil =>
      rw [renderItems] at hlen ⊢
      have hval := hv h (by omega) depth x (']' :: rest) (by omega) hxr ⟨rfl, by decide, by decide, by decide⟩
      rw [readValue.readElements.eq_def]
      simp [hval, bind, Except.bind, skipBlanks_cons (c := ']') rfl]
    | cons y xs =>
      have hl : (Utf8.encode (renderItems html (x :: y :: xs))).length =
          (Utf8.encode (render html x)).length + 1 + (Utf8.encode (renderItems html (y :: xs))).length := by
        rw [renderItems_cons_cons, length_encode_append, length_encode_append]
        simp only [show (Utf8.encode ",").length = 1 by decide]
      have hval := hv h (by omega) depth x
        (',' :: (byteChars (Utf8.encode (renderItems html (y :: xs))) ++ ']' :: rest))
        (by omega) hxr ⟨rfl, by decide, by decide, by decide⟩
      have hmore := readElements_render html hv (y :: xs) h depth (x :: acc) rest (List.cons_ne_nil _ _)
        (by omega) (by omega) hxsr
      rw [renderItems_cons_cons, Utf8.encode_append, Utf8.encode_append, byteChars_append, byteChars_append,
        chars_comma, readValue.readElements.eq_def]
      simp only [List.cons_append, List.append_assoc, List.nil_append]
      simp [hval, bind, Except.bind, skipBlanks_cons (c := ',') rfl, hmore]

theorem readArray_cons {fuel depth : Nat} {c : Char} (hb : isBlank c = false) (hc : c ≠ ']') (cs : List Char) :
    readValue.readArray (fuel + 1) depth (c :: cs) = readValue.readElements fuel depth [] (c :: cs) := by
  rw [readValue.readArray.eq_def]
  simp only [skipBlanks_cons hb]
  split
  · rename_i r h; exact absurd (List.cons.inj h).1 hc
  · rfl

theorem readObject_quote {fuel depth : Nat} (cs : List Char) :
    readValue.readObject (fuel + 1) depth ('"' :: cs) = readValue.readMembers fuel depth [] ('"' :: cs) := by
  rw [readValue.readObject.eq_def]
  simp only [skipBlanks_cons (c := '"') rfl]
  rfl

theorem readValue_render (html : Bool) (fuel : Nat) : ReadsBackWithin html fuel := by
  -- by induction on the fuel: members and items are read with less than their container
  induction fuel using Nat.strong_induction_on with
  | _ fuel ih =>
    intro depth j rest hlen hread hrest
    obtain ⟨c, cs, hcs, -⟩ := head_render html hread
    have hpos : 0 < (Utf8.encode (render html j)).length := by
      rw [← length_byteChars, hcs]
      simp
    obtain ⟨f, rfl⟩ : ∃ f, fuel = f + 1 := ⟨fuel - 1, by omega⟩
    cases j with
    | null => exact readValue_null f depth html rest
    | bool b => exact readValue_bool f depth html b rest
    | num lit => exact readValue_number f depth html hread hrest
    | str s => exact readValue_string f depth html s rest
    | arr xs =>
      obtain ⟨hdepth, hitems⟩ := hread
      have hl : (Utf8.encode (render html (.arr xs))).length = (Utf8.encode (renderItems html xs)).length + 2 := by
        rw [← length_byteChars, chars_arr]
        simp
      obtain ⟨g, rfl⟩ : ∃ g, f = g + 1 := ⟨f - 1, by omega⟩
      rw [chars_arr, List.cons_append, List.append_assoc, readValue.eq_def]
      simp only [skipBlanks_cons (c := '[') rfl, List.singleton_append]
      rw [if_neg (by simp only [Bool.and_eq_true, decide_eq_true_eq, not_and, not_le]; exact fun _ => hdepth),
        if_neg (by decide), if_pos trivial]
      cases xs with
      | nil =>
        rw [renderItems, readValue.readArray.eq_def]
        rfl
      | cons x xs =>
        obtain ⟨c, cs, hcs, hb, hc⟩ := head_renderItems html hitems.1 xs
        rw [hcs, List.cons_append, readArray_cons hb hc, ← List.cons_append, ← hcs,
          readElements_render html ih (x :: xs) g (depth + 1) [] rest (List.cons_ne_nil _ _) (by omega)
            (by omega) hitems]
        rfl
    | obj ms =>
      obtain ⟨hdepth, hmembers⟩ := hread
      have hl : (Utf8.encode (render html (.obj ms))).length = (Utf8.encode (renderMembers html ms)).length + 2 := by
        rw [← length_byteChars, chars_obj]
        simp
      obtain ⟨g, rfl⟩ : ∃ g, f = g + 1 := ⟨f - 1, by omega⟩
      rw [chars_obj, List.cons_append, List.append_assoc, readValue.eq_def]
      simp only [skipBlanks_cons (c := '{') rfl, List.singleton_append]
      rw [if_neg (by simp only [Bool.and_eq_true, decide_eq_true_eq, not_and, not_le]; exact fun _ => hdepth),
        if_pos trivial]
      cases ms with
      | nil =>
        rw [renderMembers, readValue.readObject.eq_def]
        rfl
      | cons m ms =>
        obtain ⟨k, v⟩ := m
        obtain ⟨cs, hcs⟩ := head_renderMembers html k v ms
        rw [hcs, List.cons_append, readObject_quote, ← List.cons_append, ← hcs,
          readMembers_render html ih ((k, v) :: ms) g (depth + 1) [] rest (List.cons_ne_nil _ _) (by omega)
            (by omega) hmembers]
        rfl

theorem parseBytes_render (html : Bool) {j : Json} (h : Readable 0 j) :
    parseBytes (Utf8.encode (render html j)) = .ok j := by
  have hread := readValue_render html (3 * (byteChars (Utf8.encode (render html j))).length + 3) 0 j []
    (by rw [length_byteChars]; omega) h trivial
  rw [List.append_nil] at hread
  simp only [parseBytes]
  rw [show (Utf8.encode (render html j)).map (fun b => Char.ofNat b.toNat) = byteChars (Utf8.encode (render html j))
    from rfl, hread]
  rfl

end Json
end JuryCaptions
