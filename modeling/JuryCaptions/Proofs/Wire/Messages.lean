import JuryCaptions.Proofs.Json.ReadBack
import Mathlib
import JuryCaptions.Caption.Basic
import JuryCaptions.Proofs.Number.Document
import JuryCaptions.Proofs.Wire.Framing
import JuryCaptions.Service.Focus
/-!
Typed messages read back from the bodies written for them: a caption message as
the compact document of its fields (`Json.parseBytes_render`), an orientation as
three doubles in shortest texts, bit for bit (`FloatText.readFloat_document`).
-/

namespace JuryCaptions

namespace NumberText

theorem decimalValue_toDigits (m : Nat) : decimalValue (Nat.toDigits 10 m) = m := by
  have h : decimalValue (Nat.toDigits 10 m) = Nat.ofDigitChars 10 (Nat.toDigits 10 m) 0 := by
    simp only [decimalValue, Nat.ofDigitChars, Nat.mul_comm]
  rw [h, Nat.ofDigitChars_ten_toDigits]

theorem readInt_toString (n : Int) : readInt (toString n) = some n := by
  have hall : (Nat.toDigits 10 n.natAbs).all Char.isDigit = true :=
    List.all_eq_true.2 (Json.isDigit_toDigits n.natAbs)
  -- the digits never start with a minus sign, so only a negative number takes the signed branch
  obtain ⟨c, cs, hcs, -⟩ := Json.toDigits_head n.natAbs
  have hc : c ≠ '-' := fun h => by
    have := Json.isDigit_toDigits n.natAbs c (by rw [hcs]; exact List.mem_cons_self)
    rw [h] at this
    exact absurd this (by decide)
  rw [readInt, Json.toList_toString_int]
  by_cases hn : n < 0
  · rw [if_pos hn, List.singleton_append]
    simp only [ne_eq, Nat.toDigits_ne_nil, not_false_eq_true, hall, and_self, if_true,
      decimalValue_toDigits]
    exact congrArg some (by omega)
  · rw [if_neg hn, List.nil_append]
    split
    · rename_i r h
      rw [hcs] at h
      exact absurd (List.cons.inj h).1 hc
    · simp only [ne_eq, Nat.toDigits_ne_nil, not_false_eq_true, hall, and_self, if_true,
        decimalValue_toDigits]
      exact congrArg some (by omega)

end NumberText

/-- A whole number that fits a 64-bit integer, as every id of a message does. -/
def FitsInt64 (n : Int) : Prop := -(9223372036854775808 : Int) ≤ n ∧ n < 9223372036854775808

namespace CaptionMessage

theorem readable_toJson (m : CaptionMessage) : Json.Readable 0 m.toJson := by
  refine ⟨by decide, Json.numberLiteral_int _, Json.numberLiteral_int _, trivial, trivial, ?_, trivial⟩
  cases m.focused <;> trivial

theorem decodeDoc_toJson (m : CaptionMessage) (hm : FitsInt64 m.messageId)
    (hc : FitsInt64 m.chunkId) : (Json.decodeDoc m.toJson shape).map ofValue = .ok m := by
  have h1 := NumberText.readInt_toString m.messageId
  have h2 := NumberText.readInt_toString m.chunkId
  simp only [Int.toString_eq_repr] at h1 h2
  cases m with
  | mk mid cid text speaker focused =>
  -- the focused juror is the one field whose document has two forms
  cases focused <;>
  simp [Json.decodeDoc, toJson, shape, Json.decodeAt, Json.decodeMembers, Json.Shape.strip,
    Json.Shape.base, Json.Shape.zero, Json.Shape.zeroFields, Json.int, h1, h2, hm.1, hm.2, hc.1, hc.2,
    Json.Shape.nulled, ofValue, Json.Value.get, Json.Value.int, Json.Value.str, Json.Value.optStr,
    StateT.run, bind, StateT.bind, pure, StateT.pure, Except.map]

theorem ofBody_body (m : CaptionMessage) (hm : FitsInt64 m.messageId) (hc : FitsInt64 m.chunkId) :
    ofBody m.body = .ok m := by
  rw [ofBody, body, Json.decodeBytes, Json.compact, Json.parseBytes_render true (readable_toJson m)]
  exact decodeDoc_toJson m hm hc

end CaptionMessage

namespace Orientation

/-- Every component is a finite number. -/
def Finite (o : Orientation) : Prop :=
  (o.azimuth.isNaN || o.azimuth.isInf) = false ∧ (o.pitch.isNaN || o.pitch.isInf) = false ∧
    (o.roll.isNaN || o.roll.isInf) = false

theorem readable_doc (a p l : Float) :
    Json.Readable 0 (.obj [("azimuth", .float a), ("pitch", .float p), ("roll", .float l)]) :=
  ⟨by decide, FloatText.numberLiteral_document a, FloatText.numberLiteral_document p,
    FloatText.numberLiteral_document l, trivial⟩

theorem decodeDoc_doc {o : Orientation} (h : o.Finite) :
    (Json.decodeDoc (.obj [("azimuth", .float o.azimuth), ("pitch", .float o.pitch), ("roll", .float o.roll)])
      shape).map ofValue = .ok o := by
  obtain ⟨ha, hp, hl⟩ := h
  cases o with
  | mk a p l =>
  simp [Json.decodeDoc, shape, Json.float, Json.decodeAt, Json.decodeMembers, Json.Shape.strip,
    Json.Shape.base, Json.Shape.zero, Json.Shape.zeroFields, FloatText.readFloat_document ha,
    FloatText.readFloat_document hp, FloatText.readFloat_document hl, ofValue, Json.Value.get, Json.Value.float,
    StateT.run, bind, StateT.bind, pure, StateT.pure, Except.map]

theorem ofBody_doc {o : Orientation} (h : o.Finite) :
    ofBody (Utf8.encode (Json.compact (.obj [("azimuth", .float o.azimuth), ("pitch", .float o.pitch),
      ("roll", .float o.roll)]))) = .ok o := by
  rw [ofBody, Json.decodeBytes, Json.compact, Json.parseBytes_render true (readable_doc _ _ _)]
  exact decodeDoc_doc h

end Orientation

theorem floatDoc_ok {x : Float} (h : (x.isNaN || x.isInf) = false) : Json.floatDoc x = .ok (.float x) := by
  simp only [Json.floatDoc, h, Bool.false_eq_true, if_false]

theorem floatDoc_error {x : Float} (h : (x.isNaN || x.isInf) = true) :
    Json.floatDoc x = .error ("json: unsupported value: " ++ FloatText.general x) := by
  simp only [Json.floatDoc, h, if_true]

theorem Orientation.body_of_finite {o : Orientation} (h : o.Finite) :
    Orientation.body o =
      .ok (Utf8.encode (Json.compact (.obj [("azimuth", .float o.azimuth), ("pitch", .float o.pitch),
        ("roll", .float o.roll)]))) := by
  obtain ⟨ha, hp, hl⟩ := h
  simp only [Orientation.body, floatDoc_ok ha, floatDoc_ok hp, floatDoc_ok hl, bind, Except.bind, pure,
    Except.pure]

/-- An orientation with a component that is not a finite number cannot be
written: the first such component names the failure. -/
theorem Orientation.body_of_not_finite {o : Orientation} (h : ¬ o.Finite) :
    ∃ x, (x.isNaN || x.isInf) = true ∧
      Orientation.body o = .error (.plain ("marshal frame: json: unsupported value: " ++ FloatText.general x)) := by
  have hmsg (x : Float) : "marshal frame: " ++ ("json: unsupported value: " ++ FloatText.general x) =
      "marshal frame: json: unsupported value: " ++ FloatText.general x := by
    rw [← String.append_assoc]
    rfl
  unfold Orientation.Finite at h
  -- the components are written in order, and the first that is not finite stops the writing
  cases ha : (o.azimuth.isNaN || o.azimuth.isInf)
  · cases hp : (o.pitch.isNaN || o.pitch.isInf)
    · cases hl : (o.roll.isNaN || o.roll.isInf)
      · exact absurd ⟨ha, hp, hl⟩ h
      · refine ⟨o.roll, hl, ?_⟩
        simp only [Orientation.body, floatDoc_ok ha, floatDoc_ok hp, floatDoc_error hl, bind, Except.bind, hmsg]
    · refine ⟨o.pitch, hp, ?_⟩
      simp only [Orientation.body, floatDoc_ok ha, floatDoc_error hp, bind, Except.bind, hmsg]
  · refine ⟨o.azimuth, ha, ?_⟩
    simp only [Orientation.body, floatDoc_error ha, bind, Except.bind, hmsg]

theorem decode_encode {limit : Nat} (hlimit : limit < 4294967296) {body bytes : List UInt8}
    (h : Frame.encode limit body = .ok bytes) : Frame.decode limit bytes = .ok (body, []) := by
  have hle : body.length ≤ limit := by
    by_contra hgt
    simp [Frame.encode, Nat.lt_of_not_le hgt] at h
  rw [Frame.encode_of_le hle] at h
  cases h
  simpa using Frame.decode_frame_append [] hle (by omega)

/-- **Typed messages read back.**  Within a frame limit below `2^32`: a caption
message with 64-bit ids reads back from its frame; an orientation of finite
components reads back bit for bit, signed zeros included, and one with another
component is not written, the failure naming it; a message of a caption and a
focused juror reads back with both, no focus as the empty id. -/
theorem typed_messages_readBack (limit : Nat) (hlimit : limit < 4294967296) :
    (∀ m : CaptionMessage, FitsInt64 m.messageId → FitsInt64 m.chunkId → ∀ bytes,
      Frame.encode limit m.body = .ok bytes →
        ∃ body, Frame.decode limit bytes = .ok (body, []) ∧ CaptionMessage.ofBody body = .ok m) ∧
    (∀ o : Orientation, o.Finite → ∀ bytes, (Orientation.body o >>= Frame.encode limit) = .ok bytes →
        ∃ body, Frame.decode limit bytes = .ok (body, []) ∧ Orientation.ofBody body = .ok o) ∧
    (∀ o : Orientation, ¬ o.Finite → ∃ x, (x.isNaN || x.isInf) = true ∧
      (Orientation.body o >>= Frame.encode limit) =
        .error (.plain ("marshal frame: json: unsupported value: " ++ FloatText.general x))) ∧
    (∀ (c : Caption) (f : SpeakerId), FitsInt64 c.messageId → FitsInt64 c.chunkId →
      ∃ m, CaptionMessage.ofBody (CaptionMessage.ofCaption c f).body = .ok m ∧ m.messageId = c.messageId ∧
        m.chunkId = c.chunkId ∧ m.text = c.text ∧ m.speaker = c.speaker ∧ m.focusedId = f ∧
        (m.focused = none ↔ f = "")) := by
  refine ⟨fun m hm hc bytes h => ⟨m.body, decode_encode hlimit h, CaptionMessage.ofBody_body m hm hc⟩,
    fun o ho bytes h => ?_, fun o ho => ?_, fun c f hm hc => ?_⟩
  · rw [Orientation.body_of_finite ho] at h
    simp only [bind, Except.bind] at h
    exact ⟨_, decode_encode hlimit h, Orientation.ofBody_doc ho⟩
  · obtain ⟨x, hx, he⟩ := Orientation.body_of_not_finite ho
    exact ⟨x, hx, by rw [he]; rfl⟩
  · refine ⟨_, CaptionMessage.ofBody_body _ hm hc, rfl, rfl, rfl, rfl, ?_, ?_⟩
    · by_cases hf : f = "" <;> simp [CaptionMessage.focusedId, CaptionMessage.ofCaption, SpeakerId.isSet, hf]
    · simp [CaptionMessage.ofCaption, SpeakerId.isSet]

/-- An orientation whose azimuth is not-a-number is refused by the encoder. -/
theorem typed_messages_readBack_nan : ∃ x : Float, (x.isNaN || x.isInf) = true ∧
    (Orientation.body { azimuth := 0.0 / 0.0 } >>= Frame.encode Frame.defaultLimit) =
      .error (.plain ("marshal frame: json: unsupported value: " ++ FloatText.general x)) :=
  (typed_messages_readBack Frame.defaultLimit (by decide)).2.2.1 _ fun h => absurd h.1 (by decide)

end JuryCaptions
