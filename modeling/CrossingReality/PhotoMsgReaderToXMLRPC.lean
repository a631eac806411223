import CrossingReality.Divisor
import CrossingReality.Filtering
import CrossingReality.Origins

/-!
# From the motes to the virtual world

`PhotoMsgReaderToXMLRPC`, which passes the packets of the motes on from the base station to the
control panel, and what it passes on: any number of motes, and the air between them and the base
station.

The radio takes the buffer of a mote as it is while the packet is in flight. What has been on the
air may be received at any time, again, or never, and so may packets of other classes. Each message
is a request of its own, handled beside the others and beside what the operator does.

What has been on the air was sampled by the mote it names (`Field.Sound`).
-/

namespace CrossingReality

open Effects PhotoToRadioC

/-! ## The reader -/

/-- The accessors of the generated class give an `nx_uint16_t` as an `int`. -/
def getUInt16 (x : UInt16) : Int32 := .ofNat x.toNat

/-- `messageReceived`: the request to `ControlPanel.sensed`. A message of another class than
`PhotoToRadioMsg` leaves both at 0. -/
def messageReceived (message : Option PhotoToRadioMsg) : Action :=
  let value : Int32 := match message with
    | some m => getUInt16 m.photoreading
    | none => 0
  let id : Int32 := match message with
    | some m => getUInt16 m.nodeid
    | none => 0
  .reading (toString id.toInt) "light" value

theorem toInt_getUInt16 (x : UInt16) : (getUInt16 x).toInt = x.toNat := by
  have hx := x.toNat_lt
  exact Int32.toInt_ofNat_of_lt (by omega)

theorem messageReceived_some (msg : PhotoToRadioMsg) : messageReceived (some msg) =
    .reading (toString msg.nodeid.toNat) "light" (getUInt16 msg.photoreading) := by
  rw [messageReceived, toInt_getUInt16]
  rfl

theorem messageReceived_none : messageReceived none = .reading "0" "light" 0 := by
  decide

/-! ## The field -/

/-- The motes by their `TOS_NODE_ID`, what has happened to each, and what has been on the air. -/
structure Field where
  mote : UInt16 → Node
  past : UInt16 → List Occurrence
  aired : List PhotoToRadioMsg

/-- What happens there. -/
inductive FieldEvent where
  | mote (nodeId : UInt16) (e : MoteEvent)
  /-- The radio of a mote sends what is in its buffer. -/
  | radio (nodeId : UInt16)
deriving DecidableEq

namespace Field

/-- Every mote at boot, nothing sent. -/
def init : Field := ⟨fun _ => .init, fun _ => [], []⟩

def allowed (f : Field) : FieldEvent → Prop
  | .mote nodeId e => (f.mote nodeId).Allowed e
  | .radio nodeId => (f.mote nodeId).inFlight ≠ []

def next (f : Field) : FieldEvent → Field
  | .mote nodeId e =>
    let r := (f.mote nodeId).step nodeId e
    { f with
      mote := Function.update f.mote nodeId r.1
      past := Function.update f.past nodeId (f.past nodeId ++ [⟨f.mote nodeId, e, r.2⟩]) }
  | .radio nodeId => { f with aired := f.aired ++ [(f.mote nodeId).mote.pkt] }

/-- A reading comes from the reader. The operator may do what he likes. -/
def offers (f : Field) : Action → Prop
  | .reading id type value => .reading id type value = messageReceived none ∨
      ∃ msg ∈ f.aired, .reading id type value = messageReceived (some msg)
  | _ => True

instance : (f : Field) → (e : FieldEvent) → Decidable (f.allowed e)
  | f, .mote nodeId e => inferInstanceAs (Decidable ((f.mote nodeId).Allowed e))
  | f, .radio nodeId => inferInstanceAs (Decidable ((f.mote nodeId).inFlight ≠ []))

instance : (f : Field) → (a : Action) → Decidable (f.offers a)
  | _, .reading _ _ _ => inferInstanceAs (Decidable (_ ∨ ∃ msg ∈ _, _))
  | _, .press _ | _, .tick _ _ | _, .typeText _ _ | _, .select _ _ => .isTrue trivial

end Field

/-- What goes on outside the control panel. -/
abbrev field : Outside Field FieldEvent Action := ⟨Field.allowed, Field.next, Field.offers⟩

/-! ## What is on the air -/

namespace Field

/-- The mote that the message names has sampled the reading: it was idle, it found the reading
changed, and AMSend accepted the packet. -/
def Sampled (f : Field) (msg : PhotoToRadioMsg) : Prop :=
  ∃ o ∈ f.past msg.nodeid, ∃ result, o.event = .readDone result msg.photoreading SUCCESS ∧
    o.before.mote.busy = false ∧
      Mote.changed o.before.mote.lastTransmit msg.photoreading = true

/-- Every mote is where what has happened to it led, and what is in flight or has been on the air
was sampled. -/
structure Sound (f : Field) : Prop where
  run : ∀ nodeId, Run nodeId (f.past nodeId) (f.mote nodeId)
  flying : ∀ nodeId, ∀ msg ∈ (f.mote nodeId).inFlight, msg.nodeid = nodeId ∧ f.Sampled msg
  aired : ∀ msg ∈ f.aired, f.Sampled msg

variable {f : Field} {e : FieldEvent}

/-- What was sampled stays so. -/
theorem Sampled.next {msg : PhotoToRadioMsg} (h : f.Sampled msg) (e : FieldEvent) :
    (f.next e).Sampled msg := by
  obtain ⟨o, ho, hsampled⟩ := h
  refine ⟨o, ?_, hsampled⟩
  cases e with
  | radio nodeId => exact ho
  | mote nodeId e =>
    show o ∈ Function.update f.past nodeId _ msg.nodeid
    by_cases hid : msg.nodeid = nodeId
    · subst hid
      rw [Function.update_self]
      exact List.mem_append_left _ ho
    · rw [Function.update_of_ne hid]
      exact ho

/-- The packets in flight after an event were there before, or the event sampled them. -/
theorem mem_inFlight_step {n : Node} {nodeId : UInt16} {e : MoteEvent} {msg : PhotoToRadioMsg}
    (h : msg ∈ (n.step nodeId e).1.inFlight) : msg ∈ n.inFlight ∨
      msg.nodeid = nodeId ∧ n.mote.busy = false ∧
        Mote.changed n.mote.lastTransmit msg.photoreading = true ∧
          ∃ result, e = .readDone result msg.photoreading SUCCESS := by
  cases e with
  | readDone result data sent =>
    cases hbusy : n.mote.busy with
    | true =>
      rw [step_busy hbusy] at h
      exact .inl h
    | false =>
      rw [step_idle hbusy] at h
      by_cases hchanged : Mote.changed n.mote.lastTransmit data = true
      · by_cases hsent : sent = SUCCESS
        · rw [if_pos hchanged, if_pos hsent] at h
          rcases List.mem_append.mp h with h | h
          · exact .inl h
          · obtain rfl := List.mem_singleton.mp h
            exact .inr ⟨rfl, rfl, hchanged, result, by rw [hsent]⟩
        · rw [if_pos hchanged, if_neg hsent] at h
          exact .inl h
      · rw [if_neg hchanged] at h
        exact .inl h
  | sendDone buffer error =>
    refine .inl ?_
    cases buffer with
    | pkt => exact List.mem_of_mem_tail h
    | other k => exact h
  | _ => exact .inl h

theorem sound_init : Sound init :=
  ⟨fun _ => .nil, fun _ _ h => absurd h List.not_mem_nil, fun _ h => absurd h List.not_mem_nil⟩

/-- **Step.** -/
theorem Sound.next (h : f.Sound) (he : f.allowed e) : (f.next e).Sound := by
  cases e with
  | radio nodeId =>
    refine ⟨h.run, h.flying, fun msg hmsg => ?_⟩
    rcases List.mem_append.mp hmsg with hmsg | hmsg
    · exact h.aired msg hmsg
    · -- The buffer still holds the packet that was accepted.
      obtain rfl := List.mem_singleton.mp hmsg
      obtain ⟨packet, hpacket⟩ := List.exists_mem_of_ne_nil _ he
      have hintact := (exclusive_of_run (h.run nodeId)).intact packet hpacket
      rw [hintact]
      exact (h.flying nodeId packet hpacket).2
  | mote nodeId e =>
    have hmote : ∀ i, i ≠ nodeId → (f.next (.mote nodeId e)).mote i = f.mote i ∧
        (f.next (.mote nodeId e)).past i = f.past i := fun i hi =>
      ⟨Function.update_of_ne hi _ _, Function.update_of_ne hi _ _⟩
    have hself : (f.next (.mote nodeId e)).mote nodeId = ((f.mote nodeId).step nodeId e).1 ∧
        (f.next (.mote nodeId e)).past nodeId = f.past nodeId ++
          [⟨f.mote nodeId, e, ((f.mote nodeId).step nodeId e).2⟩] :=
      ⟨Function.update_self .., Function.update_self ..⟩
    refine ⟨fun i => ?_, fun i msg hmsg => ?_, fun msg hmsg => (h.aired msg hmsg).next _⟩
    · by_cases hi : i = nodeId
      · subst hi
        rw [hself.1, hself.2]
        exact (h.run i).snoc he
      · rw [(hmote i hi).1, (hmote i hi).2]
        exact h.run i
    · by_cases hi : i = nodeId
      · subst hi
        rw [hself.1] at hmsg
        rcases mem_inFlight_step hmsg with hmsg | ⟨hid, hidle, hchanged, result, rfl⟩
        · exact ⟨(h.flying i msg hmsg).1, (h.flying i msg hmsg).2.next _⟩
        · have hlast : (⟨f.mote i, .readDone result msg.photoreading SUCCESS,
              ((f.mote i).step i (.readDone result msg.photoreading SUCCESS)).2⟩ : Occurrence) ∈
                (f.next (.mote i (.readDone result msg.photoreading SUCCESS))).past msg.nodeid := by
            rw [hid, hself.2]
            exact List.mem_append_right _ List.mem_cons_self
          exact ⟨hid, _, hlast, result, rfl, hidle, hchanged⟩
      · rw [(hmote i hi).1] at hmsg
        exact ⟨(h.flying i msg hmsg).1, (h.flying i msg hmsg).2.next _⟩

/-- **Run.** -/
theorem sound_of_reaches (h : field.Reaches init f) : f.Sound := by
  induction h with
  | refl => exact sound_init
  | next _ he ih => exact ih.next he

end Field

end CrossingReality
