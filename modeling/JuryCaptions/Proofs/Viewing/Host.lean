import JuryCaptions.Proofs.Viewing.Session
import JuryCaptions.Proofs.Caption.Script
import JuryCaptions.Proofs.Wire.Messages
import JuryCaptions.Bridge.Endpoint
import Mathlib
/-!
Input from the rendering host reaches the session as if the controller were
called directly. Doubles are sent in their general form, which reads back bit
for bit (`FloatText.readFloat_general`); a payload read from any text holds
numbers, three in each fixed array (`Json.items_get_decodeText`), so the
arguments parse into the call the payload stands for (`InputCall.ofPayload`).
-/

namespace JuryCaptions

namespace Json

theorem length_decodeItems_le (root : String) (path : List Step) (elem : Shape) (i room : Nat) (olds : List Value)
    (xs : List Json) (st : Option Mismatch) : ((decodeItems root path elem i room olds xs).run st).1.length ≤ room := by
  induction xs generalizing i room olds st with
  | nil => simp only [decodeItems, run_pure, List.length_nil, Nat.zero_le]
  | cons x xs ih =>
    simp only [decodeItems]
    split
    · simp only [run_pure, List.length_nil, Nat.zero_le]
    · next h =>
      simp only [run_bind, run_pure, List.length_cons]
      exact Nat.add_le_of_le_sub (Nat.one_le_iff_ne_zero.2 h) (ih _ _ _ _)

theorem length_decodeAt_fixed {n : Nat} {t : String} {elem : Shape} {cur : Value} (hc : cur.items.length = n)
    (root : String) (path : List Step) (j : Json) (st : Option Mismatch) :
    ((decodeAt root path (.fixed n t elem) cur j).run st).1.items.length = n := by
  cases j with
  | arr xs =>
    have := length_decodeItems_le root path elem 0 n (Shape.base (.fixed n t elem) cur).items xs st
    simp only [decodeAt, Shape.strip, run_bind, run_pure, Value.items.eq_1, List.length_append,
      List.length_replicate]
    omega
  | _ => simpa only [decodeAt, Shape.strip, Shape.kept, Shape.nulled, run_bind, run_pure, run_note] using hc

theorem mem_zeroFields {fields : List (String × Shape)} {f : String × Value} (h : f ∈ Shape.zeroFields fields) :
    ∃ s, (f.1, s) ∈ fields ∧ f.2 = s.zero := by
  induction fields with
  | nil => simp [Shape.zeroFields] at h
  | cons ks fields ih =>
    obtain ⟨k, s⟩ := ks
    rcases List.mem_cons.1 h with rfl | h
    · exact ⟨s, List.mem_cons_self, rfl⟩
    · obtain ⟨s', hs, he⟩ := ih h
      exact ⟨s', List.mem_cons_of_mem _ hs, he⟩

theorem keys_zeroFields (fields : List (String × Shape)) : (Shape.zeroFields fields).map Prod.fst = fields.map Prod.fst := by
  induction fields with
  | nil => rfl
  | cons ks fields ih => simp [Shape.zeroFields, ih]

section Keeps

/- A property of each field's value that its zero has and that reading any
document into the field keeps. -/
variable {root : String} {fields : List (String × Shape)} (P : String → Value → Prop)
  (hP : ∀ k s, (k, s) ∈ fields → P k s.zero ∧ ∀ cur p j st, P k cur → P k ((decodeAt root p s cur j).run st).1)
include hP

theorem decodeMembers_keeps (path : List Step) :
    ∀ (ms : List (String × Json)) (acc : List (String × Value)) (st : Option Mismatch), (∀ f ∈ acc, P f.1 f.2) →
      ∃ acc', ((decodeMembers root path fields ms acc).run st).1 = .record acc' ∧
        acc'.map Prod.fst = acc.map Prod.fst ∧ ∀ f ∈ acc', P f.1 f.2
  | [], acc, st, ha => ⟨acc, rfl, rfl, ha⟩
  | (key, v) :: rest, acc, st, ha => by
    simp only [decodeMembers]
    split
    · next k s hfind =>
      have hmem : (k, s) ∈ fields := by
        rcases (Option.orElse_eq_some _ _ _).1 hfind with h | ⟨-, h⟩ <;> exact List.mem_of_find?_eq_some h
      -- the field's value so far has the property, and so has what is read over it
      have hold : P k (((acc.find? (·.1 == k)).map (·.2)).getD s.zero) := by
        cases hf : acc.find? (·.1 == k) with
        | none => exact (hP k s hmem).1
        | some f =>
          have hk : f.1 = k := by simpa using List.find?_some hf
          exact hk ▸ ha f (List.mem_of_find?_eq_some hf)
      have hnew := (hP k s hmem).2 _ (path ++ [.field key]) v st hold
      simp only [run_bind]
      refine (decodeMembers_keeps path rest _ _ ?_).imp fun acc' h => ⟨h.1, ?_, h.2.2⟩
      · intro f hf
        obtain ⟨⟨k', prev⟩, hprev, rfl⟩ := List.mem_map.1 hf
        split
        · next hk => exact (beq_iff_eq.1 hk) ▸ hnew
        · exact ha _ hprev
      · rw [h.2.1, List.map_map]
        congr 1
        funext f
        simp only [Function.comp_apply, beq_iff_eq]
        split <;> rfl
    · exact decodeMembers_keeps path rest acc st ha

theorem decodeDoc_keeps {tn n : String} {j : Json} {v : Value} (h : decodeDoc j (.record tn n fields) = .ok v)
    (hn : n = root) : ∃ fs, v = .record fs ∧ fs.map Prod.fst = fields.map Prod.fst ∧ ∀ f ∈ fs, P f.1 f.2 := by
  subst hn
  have hz : ∀ f ∈ Shape.zeroFields fields, P f.1 f.2 := fun f hf => by
    obtain ⟨s, hs, he⟩ := mem_zeroFields hf
    exact he ▸ (hP f.1 s hs).1
  -- whatever the document, the value read is the record's zero or its members read into it
  have hv : ∃ fs, ((decodeAt n [] (.record tn n fields) (Shape.record tn n fields).zero j).run none).1 = .record fs ∧
      fs.map Prod.fst = fields.map Prod.fst ∧ ∀ f ∈ fs, P f.1 f.2 := by
    cases j with
    | obj ms =>
      obtain ⟨fs, h1, h2, h3⟩ := decodeMembers_keeps P hP [] ms (Shape.zeroFields fields) none hz
      exact ⟨fs, by simpa [decodeAt, Shape.strip, Shape.base, Shape.zero] using h1,
        h2.trans (keys_zeroFields fields), h3⟩
    | _ => exact ⟨_, by simp only [decodeAt, Shape.strip, Shape.kept, Shape.nulled, Shape.zero, run_bind, run_pure,
        run_note], keys_zeroFields fields, hz⟩
  unfold decodeDoc at h
  dsimp only at h
  split at h
  next w err heq =>
    cases err with
    | none =>
      simp only [Except.ok.injEq] at h
      subst h
      rw [show w = (w, (none : Option Mismatch)).1 from rfl, ← heq]
      exact hv
    | some m => cases h

end Keeps

/-- In a record read from any text, a field for which only fixed arrays of three
stand holds three items. -/
theorem items_get_decodeText {payload tn n key : String} {fields : List (String × Shape)} {v : Value}
    (h : decodeText payload (.record tn n fields) = .ok v) (hk : key ∈ fields.map Prod.fst)
    (hfix : ∀ s, (key, s) ∈ fields → ∃ t e, s = .fixed 3 t e) : (v.get key).items.length = 3 := by
  let P (k : String) (val : Value) : Prop := (∀ s, (k, s) ∈ fields → ∃ t e, s = .fixed 3 t e) → val.items.length = 3
  have hP : ∀ k s, (k, s) ∈ fields →
      P k s.zero ∧ ∀ cur p j st, P k cur → P k ((decodeAt n p s cur j).run st).1 := by
    intro k s hs
    refine ⟨fun hf => ?_, fun cur p j st hc hf => ?_⟩
    · obtain ⟨t, e, rfl⟩ := hf s hs
      simp [Shape.zero, Value.items]
    · obtain ⟨t, e, rfl⟩ := hf s hs
      exact length_decodeAt_fixed (hc hf) n p j st
  unfold decodeText decodeBytes at h
  split at h
  · cases h
  · obtain ⟨fs, rfl, hkeys, hfs⟩ := decodeDoc_keeps P hP h rfl
    rw [← hkeys] at hk
    obtain ⟨g, hg, rfl⟩ := List.mem_map.1 hk
    obtain ⟨f, hf⟩ : ∃ f, fs.find? (·.1 == g.1) = some f :=
      Option.isSome_iff_exists.1 (List.find?_isSome.2 ⟨g, hg, by simp⟩)
    have hfk : f.1 = g.1 := by simpa using List.find?_some hf
    simp only [Value.get, hf, Option.map_some, Option.getD_some]
    exact hfs f (List.mem_of_find?_eq_some hf) (hfk ▸ hfix)

end Json

namespace Viewing

namespace InputCall

/-- The message type a host sends a call under. -/
def messageType : InputCall → String
  | .key _ => "key"
  | .click _ => "click"
  | .leave => "leave"
  | .position .. => "position"
  | .gone _ => "gone"
  | .camera _ => "camera"

/-- The payload a host writes for a call, if it has one; a report with a double
that is not finite cannot be written. -/
def payload : InputCall → Option (Except String Json)
  | .key k => some (.ok (.obj [("key", .str k)]))
  | .click id => some (.ok (.obj [("speaker", .str id)]))
  | .leave => none
  | .position id o p => some do
    pure (.obj [("speaker", .str id), ("local", ← Host.vecDoc o), ("parent", ← Host.vecDoc p)])
  | .gone id => some (.ok (.obj [("speaker", .str id)]))
  | .camera p => some do pure (.obj [("position", ← Host.vecDoc p)])

/-- The call a payload stands for, read from its fields as the message type names
them: none for an unknown type or a payload that does not decode. -/
def ofPayload (type payload : String) : Option InputCall :=
  let read (shape : Json.Shape) (f : Json.Value → InputCall) := (Json.decodeText payload shape).toOption.map f
  let vec (v : Json.Value) : Vec3 := Vec3.ofList (v.items.map Json.Value.float)
  match type with
  | "key" => read Host.keyShape fun v => .key (v.get "key").str
  | "click" => read Host.clickShape fun v => .click (v.get "speaker").str
  | "leave" => some .leave
  | "position" => read Host.positionShape fun v =>
    .position (v.get "speaker").str (vec (v.get "local")) (vec (v.get "parent"))
  | "gone" => read Host.goneShape fun v => .gone (v.get "speaker").str
  | "camera" => read Host.cameraShape fun v => .camera (vec (v.get "position"))
  | _ => none

/-- The command a call becomes: its arguments as text, doubles in their general form. -/
def event : InputCall → Dispatch.Event
  | .key k => ⟨Host.keyCommand, [k]⟩
  | .click id => ⟨Host.clickCommand, [id]⟩
  | .leave => ⟨Host.leaveCommand, []⟩
  | .position id o p => ⟨Host.positionCommand, id :: (o.toList ++ p.toList).map FloatText.general⟩
  | .gone id => ⟨Host.goneCommand, [id]⟩
  | .camera p => ⟨Host.cameraCommand, p.toList.map FloatText.general⟩

/-- Every double of a call is a number. -/
def Numbers : InputCall → Prop
  | .position _ o p => ∀ x ∈ o.toList ++ p.toList, x.isNaN = false
  | .camera p => ∀ x ∈ p.toList, x.isNaN = false
  | _ => True

/-- Whether the controller takes a call: a click or a removed speaker needs a
juror, a position report an id that reads. -/
def Takes : InputCall → Bool
  | .click id | .gone id => SpeakerId.isValid id
  | .position id _ _ => (SpeakerId.parse id).toBool
  | _ => true

end InputCall

def Reply.failed : Reply → Bool
  | .done (.error _) | .queued (some _) => true
  | _ => false

namespace Controller

/-- A step has the effect of calling the controller directly: the call, with a
reply that does not fail, when the controller takes it, and otherwise no change
and a failure. -/
def Direct (c : Controller) (w : World) (call : InputCall) (r : World × Reply) : Prop :=
  r.1 = (if call.Takes then c.perform w call else w) ∧ r.2.failed = !call.Takes

theorem parseCoordinates_general {xs : List Float} (h : ∀ x ∈ xs, x.isNaN = false) :
    parseCoordinates (xs.map FloatText.general) = .ok xs := by
  induction xs with
  | nil => rfl
  | cons x xs ih =>
    rw [List.forall_mem_cons] at h
    unfold parseCoordinates at ih ⊢
    simp only [List.map_cons, List.mapM_cons, FloatText.readFloat_general h.1, ih h.2]
    rfl

theorem requireSet_of_isValid (what : String) {id : SpeakerId} (h : SpeakerId.isValid id = true) :
    requireSet what id = .ok id := by
  have hne : id ≠ "" := by
    rintro rfl
    exact absurd h (by decide)
  simp [requireSet, SpeakerId.parse, SpeakerId.isSet, h, hne, bind, Except.bind, pure, Except.pure]

theorem requireSet_of_not_isValid (what : String) {id : SpeakerId} (h : SpeakerId.isValid id = false) :
    ∃ f, requireSet what id = .error f := by
  by_cases h0 : id = ""
  · subst h0
    exact ⟨_, rfl⟩
  · exact ⟨SpeakerId.unknown id, by simp [requireSet, SpeakerId.parse, h, h0, bind, Except.bind]⟩

section Commands

-- `handle` tells the commands apart by name, and every case below unfolds it down
-- to the branch of its own command.
attribute [local simp] Direct handle InputCall.event InputCall.Takes Dispatch.Event.arg Reply.failed perform
  Host.keyCommand Host.clickCommand Host.leaveCommand Host.positionCommand Host.goneCommand Host.cameraCommand

theorem handle_event (c : Controller) (w : World) {call : InputCall} (hn : call.Numbers) :
    c.Direct w call (c.handle call.event w) := by
  cases call with
  | key k => simp
  | leave => simp
  | click id =>
    cases hv : SpeakerId.isValid id
    · obtain ⟨f, hf⟩ := requireSet_of_not_isValid "click" hv
      simp [hv, hf, bind, Except.bind]
    · simp [hv, requireSet_of_isValid "click" hv, bind, Except.bind, pure, Except.pure]
  | gone id =>
    cases hv : SpeakerId.isValid id
    · obtain ⟨f, hf⟩ := requireSet_of_not_isValid "gone" hv
      simp [hv, hf, bind, Except.bind]
    · simp [hv, requireSet_of_isValid "gone" hv, bind, Except.bind, pure, Except.pure]
  | position id o p =>
    -- the six coordinates are sent as text and parse back to themselves
    have hc := parseCoordinates_general hn
    rw [show o.toList ++ p.toList = [o.x, o.y, o.z, p.x, p.y, p.z] from rfl, List.map_cons, List.map_cons,
      List.map_cons, List.map_cons, List.map_cons, List.map_cons, List.map_nil] at hc
    cases hp : SpeakerId.parse id with
    | error f => simp [Except.toBool, position, hp, bind, Except.bind]
    | ok id' =>
      have hid : id' = id := by
        unfold SpeakerId.parse at hp
        split at hp <;> cases hp
        rfl
      subst hid
      simp [Except.toBool, position, hp, Vec3.toList, hc, bind, Except.bind, Except.mapError, pure, Except.pure]
  | camera p =>
    have hc := parseCoordinates_general hn
    rw [show p.toList = [p.x, p.y, p.z] from rfl, List.map_cons, List.map_cons, List.map_cons, List.map_nil] at hc
    simp [Vec3.toList, hc]

end Commands

end Controller

namespace InputCall

theorem read_eq_some {payload : String} {shape : Json.Shape} {f : Json.Value → InputCall} {call : InputCall} :
    (Json.decodeText payload shape).toOption.map f = some call ↔ ∃ v, Json.decodeText payload shape = .ok v ∧ f v = call := by
  cases Json.decodeText payload shape <;> simp [Except.toOption]

theorem floatArgs_vec {v : Json.Value} (hl : v.items.length = 3) (hn : v.NoNaN) :
    Host.floatArgs v = (Vec3.ofList (v.items.map Json.Value.float)).toList.map FloatText.general ∧
      ∀ x ∈ (Vec3.ofList (v.items.map Json.Value.float)).toList, x.isNaN = false := by
  obtain ⟨a, b, c, habc⟩ := List.length_eq_three.1 hl
  have hi := Json.items_noNaN hn
  rw [habc] at hi
  refine ⟨by simp [Host.floatArgs, habc, Vec3.ofList, Vec3.toList], ?_⟩
  simp only [habc, List.map_cons, List.map_nil, Vec3.ofList, Vec3.toList, List.getD_cons_zero,
    List.getD_cons_succ, List.mem_cons, List.not_mem_nil, or_false]
  rintro x (rfl | rfl | rfl) <;> exact Json.float_isNaN (hi _ (by simp))

theorem toCommand_of_ofPayload {type payload : String} {call : InputCall} (h : ofPayload type payload = some call) :
    call.Numbers ∧ Host.toCommand type payload = .ok call.event := by
  unfold ofPayload at h
  dsimp only at h
  -- the command is unfolded only once the type is a literal: both read the type
  -- with the same match, and a split of one must not reach into the other
  split at h
  all_goals simp only [Host.toCommand]
  -- a report of doubles holds numbers, three of them in each array
  case h_4 =>
    obtain ⟨v, hv, rfl⟩ := read_eq_some.1 h
    have hn := Json.decodeBytes_noNaN hv
    obtain ⟨hl, hl'⟩ := floatArgs_vec (Json.items_get_decodeText hv (by decide) (by simp))
      (Json.get_noNaN hn "local")
    obtain ⟨hp, hp'⟩ := floatArgs_vec (Json.items_get_decodeText hv (by decide) (by simp))
      (Json.get_noNaN hn "parent")
    refine ⟨fun x hx => (List.mem_append.1 hx).elim (hl' x) (hp' x), ?_⟩
    simp [hv, hl, hp, event, bind, Except.bind, pure, Except.pure]
  case h_6 =>
    obtain ⟨v, hv, rfl⟩ := read_eq_some.1 h
    obtain ⟨hc, hc'⟩ := floatArgs_vec (Json.items_get_decodeText hv (by decide) (by simp))
      (Json.get_noNaN (Json.decodeBytes_noNaN hv) "position")
    exact ⟨hc', by simp [hv, hc, event, bind, Except.bind, pure, Except.pure]⟩
  case h_3 =>
    cases h
    exact ⟨trivial, rfl⟩
  case h_7 => cases h
  all_goals
    obtain ⟨v, hv, rfl⟩ := read_eq_some.1 h
    exact ⟨trivial, by simp [hv, event, bind, Except.bind, pure, Except.pure]⟩

theorem toCommand_of_ofPayload_none {type payload : String} (h : ofPayload type payload = none) :
    ∃ f, Host.toCommand type payload = .error f := by
  unfold ofPayload at h
  dsimp only at h
  -- the command is unfolded only once the type is a literal: both read the type
  -- with the same match, and a split of one must not reach into the other
  split at h
  all_goals simp only [Host.toCommand]
  case h_3 => cases h
  case h_7 => exact ⟨_, rfl⟩
  all_goals
    revert h
    cases Json.decodeText _ _ <;> simp [Except.toOption, bind, Except.bind]

/-! ## What a host writes -/

theorem vecDoc_eq_ok {v : Vec3} {d : Json} (h : Host.vecDoc v = .ok d) :
    (∀ x ∈ v.toList, (x.isNaN || x.isInf) = false) ∧ d = .arr (v.toList.map Json.float) := by
  unfold Host.vecDoc at h
  cases hx : (v.x.isNaN || v.x.isInf) <;> cases hy : (v.y.isNaN || v.y.isInf) <;>
    cases hz : (v.z.isNaN || v.z.isInf) <;>
    simp_all [Json.floatDoc, Vec3.toList, bind, Except.bind, pure, Except.pure]

theorem readable_vec (v : Vec3) (d : Nat) (hd : d < Json.maxDepth) : Json.Readable d (.arr (v.toList.map Json.float)) :=
  ⟨hd, FloatText.numberLiteral_document _, FloatText.numberLiteral_document _, FloatText.numberLiteral_document _,
    trivial⟩

section Reading

-- Reading a payload back runs the decoder over a document of known shape: its
-- steps are unfolded all the way down, in the state monad they run in.
attribute [local simp] Json.decodeDoc Json.decodeAt Json.decodeMembers Json.Shape.strip Json.Shape.base
  Json.Shape.zero Json.Shape.zeroFields Json.Value.get Json.Value.str Except.toOption StateT.run StateT.bind
  StateT.pure

theorem ofPayload_payload {call : InputCall} {doc : Json} (h : call.payload = some (.ok doc)) :
    (∀ d ≤ 1, Json.Readable d doc) ∧ ofPayload call.messageType (Json.compact doc) = some call := by
  have hdoc (shape : Json.Shape) (hr : Json.Readable 0 doc) :
      Json.decodeText (Json.compact doc) shape = Json.decodeDoc doc shape := by
    rw [Json.decodeText, Json.decodeBytes, Json.compact, Json.parseBytes_render true hr]
  have hdepth : ∀ d ≤ 1, d < Json.maxDepth ∧ d + 1 < Json.maxDepth := fun d hd => by
    unfold Json.maxDepth
    omega
  cases call with
  | leave => cases h
  | position id o p =>
    simp only [payload, Option.some.injEq] at h
    cases ho : Host.vecDoc o with
    | error e => simp [ho, bind, Except.bind] at h
    | ok dO =>
      cases hp : Host.vecDoc p with
      | error e => simp [ho, hp, bind, Except.bind] at h
      | ok dP =>
        simp only [ho, hp, bind, Except.bind, pure, Except.pure, Except.ok.injEq] at h
        subst h
        obtain ⟨hfo, rfl⟩ := vecDoc_eq_ok ho
        obtain ⟨hfp, rfl⟩ := vecDoc_eq_ok hp
        have hr : ∀ d ≤ 1, Json.Readable d (.obj [("speaker", .str id), ("local", .arr (o.toList.map Json.float)),
            ("parent", .arr (p.toList.map Json.float))]) := fun d hd =>
          ⟨(hdepth d hd).1, trivial, readable_vec o _ (hdepth d hd).2, readable_vec p _ (hdepth d hd).2, trivial⟩
        refine ⟨hr, ?_⟩
        simp only [Vec3.toList, List.mem_cons, List.not_mem_nil, or_false, forall_eq_or_imp, forall_eq] at hfo hfp
        simp only [ofPayload, messageType]
        rw [hdoc _ (hr 0 (by omega))]
        simp [Host.positionShape, Json.decodeItems, Json.float, Vec3.toList, Json.Value.items, Json.Value.float,
          Vec3.ofList, bind, pure, FloatText.readFloat_document hfo.1, FloatText.readFloat_document hfo.2.1,
          FloatText.readFloat_document hfo.2.2, FloatText.readFloat_document hfp.1,
          FloatText.readFloat_document hfp.2.1, FloatText.readFloat_document hfp.2.2]
  | camera v =>
    simp only [payload, Option.some.injEq] at h
    cases hv : Host.vecDoc v with
    | error e => simp [hv, bind, Except.bind] at h
    | ok dV =>
      simp only [hv, bind, Except.bind, pure, Except.pure, Except.ok.injEq] at h
      subst h
      obtain ⟨hf, rfl⟩ := vecDoc_eq_ok hv
      have hr : ∀ d ≤ 1, Json.Readable d (.obj [("position", .arr (v.toList.map Json.float))]) := fun d hd =>
        ⟨(hdepth d hd).1, readable_vec v _ (hdepth d hd).2, trivial⟩
      refine ⟨hr, ?_⟩
      simp only [Vec3.toList, List.mem_cons, List.not_mem_nil, or_false, forall_eq_or_imp, forall_eq] at hf
      simp only [ofPayload, messageType]
      rw [hdoc _ (hr 0 (by omega))]
      simp [Host.cameraShape, Json.decodeItems, Json.float, Vec3.toList, FloatText.readFloat_document hf.1,
        FloatText.readFloat_document hf.2.1, FloatText.readFloat_document hf.2.2, Json.Value.items, Json.Value.float,
        Vec3.ofList, bind, pure]
  -- a key, a click and a removed speaker: one text field
  | key k | click k | gone k =>
    cases h
    refine ⟨fun d hd => ⟨(hdepth d hd).1, trivial, trivial⟩, ?_⟩
    simp only [ofPayload, messageType]
    rw [hdoc _ ⟨(hdepth 0 (by omega)).1, trivial, trivial⟩]
    simp [Host.keyShape, Host.clickShape, Host.goneShape, bind, pure]

theorem readEnvelope_payload (t : String) {p : Json} (hp : Json.Readable 1 p) :
    Bridge.readEnvelope (Json.compact (.obj [("type", .str t), ("payload", p)])) = .ok (t, Json.compact p) := by
  have hr : Json.Readable 0 (.obj [("type", .str t), ("payload", p)]) := ⟨by decide, trivial, hp, trivial⟩
  have hk : (Json.foldKey "type" == Json.foldKey "payload") = false := by decide
  simp [Bridge.readEnvelope, Json.decodeText, Json.decodeBytes, Json.parse, Json.compact,
    Json.parseBytes_render true hr, Json.recompact, hk, bind, pure]

theorem readEnvelope_bare (t : String) : Bridge.readEnvelope (Json.compact (.obj [("type", .str t)])) = .ok (t, "") := by
  have hr : Json.Readable 0 (.obj [("type", .str t)]) := ⟨by decide, trivial, trivial⟩
  have hk : Json.foldKey "type" ≠ "payload" := by decide
  simp [Bridge.readEnvelope, Json.decodeText, Json.decodeBytes, Json.parse, Json.compact,
    Json.parseBytes_render true hr, hk, bind, pure]

end Reading

theorem readEnvelope_envelope {call : InputCall} {text : String}
    (h : Host.envelope call.messageType call.payload = .ok text) :
    ∃ payload, Bridge.readEnvelope text = .ok (call.messageType, payload) ∧
      ofPayload call.messageType payload = some call := by
  cases hpl : call.payload with
  | none =>
    -- only a pointer leave has no payload
    cases call <;> simp only [InputCall.payload, reduceCtorEq] at hpl
    simp only [messageType, InputCall.payload, Host.envelope, Except.ok.injEq] at h
    subst h
    exact ⟨"", readEnvelope_bare _, rfl⟩
  | some r =>
    rw [hpl] at h
    cases r with
    | error e => cases h
    | ok doc =>
      obtain ⟨hd, hp⟩ := ofPayload_payload hpl
      simp only [Host.envelope, Except.ok.injEq] at h
      subst h
      exact ⟨_, readEnvelope_payload _ (hd 1 le_rfl), hp⟩

end InputCall

/-- **Host input reaches the session unchanged.**  The envelope a host writes for
a call (a key, a click, a leave, a position or camera report, a removed speaker)
is read as a command with exactly the call's effect, its doubles bit for bit,
or a failure and no change. So is a payload read from any text; an unknown
type or a payload that does not decode makes no command. -/
theorem host_input_reaches_session (c : Controller) (w : World) :
    (∀ call text, Host.envelope call.messageType call.payload = .ok text →
      ∃ e, Bridge.Endpoint.read text = .ok e ∧ c.Direct w call (c.handle e w)) ∧
    (∀ type payload, match InputCall.ofPayload type payload with
      | some call => ∃ e, Host.toCommand type payload = .ok e ∧ c.Direct w call (c.handle e w)
      | none => ∃ f, Host.toCommand type payload = .error f) := by
  refine ⟨fun call text h => ?_, fun type payload => ?_⟩
  · obtain ⟨payload, hr, hp⟩ := InputCall.readEnvelope_envelope h
    obtain ⟨hn, he⟩ := InputCall.toCommand_of_ofPayload hp
    exact ⟨_, by simp [Bridge.Endpoint.read, hr, he], Controller.handle_event c w hn⟩
  · split
    · next call h =>
      obtain ⟨hn, he⟩ := InputCall.toCommand_of_ofPayload h
      exact ⟨_, he, Controller.handle_event c w hn⟩
    · next h => exact InputCall.toCommand_of_ofPayload_none h

end Viewing

end JuryCaptions
