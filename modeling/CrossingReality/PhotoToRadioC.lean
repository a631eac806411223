import Mathlib.Algebra.GroupWithZero.Nat
import Mathlib.Data.List.Basic

/-!
# The mote

`PhotoToRadioC`, the program of the motes that sample light and send the readings by radio. It is
built for the Tmote Invent, whose `int` has 16 bits: sums of `uint16_t` wrap.

Handlers run to their end one after another. Sending is split-phase: AMSend accepts a buffer, and
when it is done with it signals `sendDone`. What AMSend holds in between is kept beside the
variables of the program.

**Theorem (`run_exclusive`).** The flag is set exactly while a packet is in flight, there is never
more than one, and the buffer stays as it was when it was accepted.
-/

namespace CrossingReality.PhotoToRadioC

/-! ## The program -/

/-- `error_t`. -/
abbrev ErrorT := UInt8

/-- `SUCCESS`. -/
def SUCCESS : ErrorT := 0

/-- `PhotoToRadioMsg`, the payload of a packet. -/
structure PhotoToRadioMsg where
  nodeid : UInt16
  photoreading : UInt16
deriving DecidableEq

/-- A `message_t*`: the program's one packet, or a buffer of another component. -/
inductive Buffer where
  | pkt
  | other (n : Nat)
deriving DecidableEq

/-- The commands that the handlers call. -/
inductive Command where
  | amStart
  | photoStart
  | startPeriodic (milli : Nat)
  | photoRead
  | ledsSet (value : UInt8)
  /-- To everyone, the payload as it is at the call. -/
  | send (msg : PhotoToRadioMsg)
deriving DecidableEq

/-- The variables of the module. -/
structure Mote where
  busy : Bool
  pkt : PhotoToRadioMsg
  lastTransmit : UInt16
  counter : UInt16
deriving DecidableEq

namespace Mote

/-- The variables at boot. -/
def init : Mote where
  busy := false
  pkt := ⟨0, 0⟩
  lastTransmit := 1
  counter := 0

/-- The test before sending. -/
def changed (lastTransmit data : UInt16) : Bool :=
  lastTransmit + lastTransmit / 100 * 50 > data || lastTransmit - lastTransmit / 100 * 50 < data

/-- `AMControl.startDone`. -/
def startDone (err : ErrorT) : List Command :=
  if err = SUCCESS then [.startPeriodic 5120, .photoStart] else [.amStart]

/-- `AMSend.sendDone`. -/
def sendDone (m : Mote) (msg : Buffer) : Mote :=
  if msg = .pkt then { m with busy := false } else m

/-- The part of `Photo.readDone` that sends: the buffer is filled before the reading is tested, and
the reading is kept before AMSend is asked. -/
def transmit (m : Mote) (nodeId data : UInt16) (sent : ErrorT) : Mote × List Command :=
  let m := { m with pkt := ⟨nodeId, data⟩ }
  if changed m.lastTransmit data then
    let m := { m with lastTransmit := data }
    (if sent = SUCCESS then { m with busy := true } else m, [.send m.pkt])
  else (m, [])

/-- `Photo.readDone`, where `AMSend.send` returns `sent` if it is called. -/
def readDone (m : Mote) (nodeId data : UInt16) (sent : ErrorT) : Mote × List Command :=
  let m := { m with counter := m.counter + 1 }
  if !m.busy then
    let r := m.transmit nodeId data sent
    (r.1, .ledsSet m.counter.toUInt8 :: r.2)
  else (m, [.ledsSet m.counter.toUInt8])

end Mote

/-! ## The mote on the air -/

/-- The events of the module. -/
inductive MoteEvent where
  | booted
  | amStartDone (err : ErrorT)
  | amStopDone (err : ErrorT)
  | photoStartDone (error : ErrorT)
  | photoStopDone (error : ErrorT)
  | fired
  /-- With what `AMSend.send` returns, if it is called. -/
  | readDone (result : ErrorT) (data : UInt16) (sent : ErrorT)
  | sendDone (msg : Buffer) (error : ErrorT)
deriving DecidableEq

/-- The variables, and the packets that AMSend has accepted in `pkt` and not yet signalled, as they
were when it accepted them. -/
structure Node where
  mote : Mote
  inFlight : List PhotoToRadioMsg
deriving DecidableEq

namespace Node

/-- A node at boot. -/
def init : Node := ⟨.init, []⟩

/-- The payloads of the sends among some commands. -/
def sends (cs : List Command) : List PhotoToRadioMsg :=
  cs.filterMap fun
    | .send msg => some msg
    | _ => none

/-- An event: what it leaves, and the commands its handler calls. -/
def step (nodeId : UInt16) (n : Node) : MoteEvent → Node × List Command
  | .booted => (n, [.amStart])
  | .amStartDone err => (n, Mote.startDone err)
  | .amStopDone _ | .photoStartDone _ | .photoStopDone _ => (n, [])
  | .fired => (n, [.photoRead])
  | .readDone _ data sent =>
    let r := n.mote.readDone nodeId data sent
    (⟨r.1, if sent = SUCCESS then n.inFlight ++ sends r.2 else n.inFlight⟩, r.2)
  | .sendDone msg _ =>
    (⟨n.mote.sendDone msg, if msg = .pkt then n.inFlight.tail else n.inFlight⟩, [])

/-- AMSend signals `pkt` only for a packet that is in flight. -/
def Allowed (n : Node) : MoteEvent → Prop
  | .sendDone .pkt _ => n.inFlight ≠ []
  | _ => True

instance (n : Node) (e : MoteEvent) : Decidable (n.Allowed e) := by
  cases e with
  | sendDone msg error => cases msg <;> simp only [Allowed] <;> infer_instance
  | _ => exact isTrue trivial

end Node

/-- An event that has happened: where, and the commands its handler called. -/
structure Occurrence where
  before : Node
  event : MoteEvent
  commands : List Command

/-- `Run nodeId os n`: the events `os` have led a node from boot to `n`. -/
inductive Run (nodeId : UInt16) : List Occurrence → Node → Prop
  | nil : Run nodeId [] .init
  | snoc {os : List Occurrence} {n : Node} {e : MoteEvent} : Run nodeId os n → n.Allowed e →
      Run nodeId (os ++ [⟨n, e, (n.step nodeId e).2⟩]) (n.step nodeId e).1

/-! ## One packet at a time -/

/-- The flag is set exactly while a packet is in flight, there is at most one, and the buffer still
holds it. -/
structure Exclusive (n : Node) : Prop where
  busy : n.mote.busy = true ↔ n.inFlight ≠ []
  single : n.inFlight.length ≤ 1
  intact : ∀ msg ∈ n.inFlight, n.mote.pkt = msg

variable {nodeId : UInt16} {n : Node} {e : MoteEvent} {os : List Occurrence}

/-- What a reading does to a mote that is busy. -/
theorem step_busy {result sent : ErrorT} {data : UInt16} (hbusy : n.mote.busy = true) :
    (n.step nodeId (.readDone result data sent)).1 =
      ⟨{ n.mote with counter := n.mote.counter + 1 }, n.inFlight⟩ := by
  simp [Node.step, Mote.readDone, hbusy, Node.sends]

/-- What a reading does to a mote that is idle. -/
theorem step_idle {result sent : ErrorT} {data : UInt16} (hidle : n.mote.busy = false) :
    (n.step nodeId (.readDone result data sent)).1 =
      if Mote.changed n.mote.lastTransmit data = true then
        ⟨⟨decide (sent = SUCCESS), ⟨nodeId, data⟩, data, n.mote.counter + 1⟩,
          if sent = SUCCESS then n.inFlight ++ [⟨nodeId, data⟩] else n.inFlight⟩
      else ⟨⟨false, ⟨nodeId, data⟩, n.mote.lastTransmit, n.mote.counter + 1⟩, n.inFlight⟩ := by
  by_cases hchanged : Mote.changed n.mote.lastTransmit data = true <;>
    by_cases hsent : sent = SUCCESS <;>
      simp [Node.step, Mote.readDone, Mote.transmit, hidle, hchanged, hsent, Node.sends]

/-- **Step.** -/
theorem Exclusive.step (h : Exclusive n) (he : n.Allowed e) : Exclusive (n.step nodeId e).1 := by
  have hidle : n.mote.busy = false → n.inFlight = [] := fun hb => by
    by_contra hne
    rw [h.busy.mpr hne] at hb
    cases hb
  cases e with
  | readDone result data sent =>
    cases hbusy : n.mote.busy with
    | true =>
      rw [step_busy hbusy]
      exact ⟨h.busy, h.single, h.intact⟩
    | false =>
      rw [step_idle hbusy, hidle hbusy]
      split
      · by_cases hsent : sent = SUCCESS
        · simp only [hsent, if_true]
          exact ⟨by simp, by simp, by simp⟩
        · simp only [hsent, if_false]
          exact ⟨by simp, by simp, by simp⟩
      · exact ⟨by simp, by simp, by simp⟩
  | sendDone msg error =>
    cases msg with
    | pkt =>
      have hsingle := h.single
      have hempty : n.inFlight.tail = [] := by
        cases hl : n.inFlight with
        | nil => rfl
        | cons msg l => simpa [hl] using hsingle
      simp only [Node.step, Mote.sendDone, if_true, hempty]
      exact ⟨by simp, by simp, by simp⟩
    | other k =>
      simp only [Node.step, Mote.sendDone, reduceCtorEq, if_false]
      exact ⟨h.busy, h.single, h.intact⟩
  | _ => exact ⟨h.busy, h.single, h.intact⟩

/-- **Run.** -/
theorem exclusive_of_run (h : Run nodeId os n) : Exclusive n := by
  induction h with
  | nil => exact ⟨by decide, by decide, by simp [Node.init]⟩
  | snoc _ he ih => exact ih.step he

/-- While a packet is in flight, only its `sendDone` changes it, the buffer or the flag. -/
theorem Exclusive.kept (h : Exclusive n) (hflight : n.inFlight ≠ [])
    (he : ∀ error, e ≠ .sendDone .pkt error) :
    (n.step nodeId e).1.inFlight = n.inFlight ∧ (n.step nodeId e).1.mote.pkt = n.mote.pkt ∧
      (n.step nodeId e).1.mote.busy = true := by
  have hbusy := h.busy.mpr hflight
  cases e with
  | readDone result data sent =>
    rw [step_busy hbusy]
    exact ⟨rfl, rfl, hbusy⟩
  | sendDone msg error =>
    cases msg with
    | pkt => exact absurd rfl (he error)
    | other k => exact ⟨rfl, rfl, hbusy⟩
  | _ => exact ⟨rfl, rfl, hbusy⟩

/-- **Exclusion.** In every order of events: the flag is set exactly while a packet is in flight,
there is at most one, the buffer holds it as it was accepted until its `sendDone`, and that clears
the flag. -/
theorem run_exclusive (h : Run nodeId os n) :
    (n.mote.busy = true ↔ n.inFlight ≠ []) ∧ n.inFlight.length ≤ 1 ∧
      (∀ msg ∈ n.inFlight, n.mote.pkt = msg) ∧
      (∀ e, n.inFlight ≠ [] → (∀ error, e ≠ .sendDone .pkt error) →
        (n.step nodeId e).1.inFlight = n.inFlight ∧ (n.step nodeId e).1.mote.pkt = n.mote.pkt) ∧
      ∀ error, (n.step nodeId (.sendDone .pkt error)).1.mote.busy = false ∧
        (n.step nodeId (.sendDone .pkt error)).1.inFlight = [] := by
  have hexclusive := exclusive_of_run h
  refine ⟨hexclusive.busy, hexclusive.single, hexclusive.intact, fun e hflight he => ?_,
    fun error => ⟨rfl, ?_⟩⟩
  · have hkept : (n.step nodeId e).1.inFlight = n.inFlight ∧ _ := hexclusive.kept hflight he
    exact ⟨hkept.1, hkept.2.1⟩
  · have hsingle := hexclusive.single
    change n.inFlight.tail = []
    cases hl : n.inFlight with
    | nil => rfl
    | cons msg l => simpa [hl] using hsingle

/-! ## Playing events -/

/-- The occurrences of some events, and where they lead. -/
def played (nodeId : UInt16) : List MoteEvent → List Occurrence × Node → List Occurrence × Node
  | [], r => r
  | e :: es, r =>
    played nodeId es (r.1 ++ [⟨r.2, e, (r.2.step nodeId e).2⟩], (r.2.step nodeId e).1)

/-- Every event of a list is allowed where it happens. -/
def AllAllowed (nodeId : UInt16) : List MoteEvent → Node → Prop
  | [], _ => True
  | e :: es, n => n.Allowed e ∧ AllAllowed nodeId es (n.step nodeId e).1

instance decidableAllAllowed (nodeId : UInt16) :
    (es : List MoteEvent) → (n : Node) → Decidable (AllAllowed nodeId es n)
  | [], _ => isTrue trivial
  | _ :: es, _ =>
    have := decidableAllAllowed nodeId es
    inferInstanceAs (Decidable (_ ∧ _))

theorem run_played {es : List MoteEvent} {r : List Occurrence × Node} (h : Run nodeId r.1 r.2)
    (hes : AllAllowed nodeId es r.2) :
    Run nodeId (played nodeId es r).1 (played nodeId es r).2 := by
  induction es generalizing r with
  | nil => exact h
  | cons e es ih => exact ih (h.snoc hes.1) hes.2

/-- A reading is sent, another one comes in, and so does a foreign completion. -/
def overlapping : List MoteEvent :=
  [.fired, .readDone 0 700 SUCCESS, .readDone 0 20 SUCCESS, .sendDone (.other 3) 0]

theorem overlapping_exclusive :
    (played 7 overlapping ([], .init)).2.inFlight = [⟨7, 700⟩] ∧
      (played 7 overlapping ([], .init)).2.mote.busy = true := by
  have hrun : Run 7 (played 7 overlapping ([], .init)).1 (played 7 overlapping ([], .init)).2 :=
    run_played .nil (by decide)
  exact ⟨by decide, (run_exclusive hrun).1.mpr (by decide)⟩

end CrossingReality.PhotoToRadioC
